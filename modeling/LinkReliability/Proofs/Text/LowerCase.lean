import LinkReliability.Text.LowerCase
import Mathlib.Data.List.Forall2
import Mathlib.Data.List.Infix

/-!
# Searching in lower case

Two texts put together are not in lower case what each of them is alone: a sigma at the seam may
change its form. Nothing else depends on the neighbours, so a pattern without a sigma that stands in
the lower case of a text also stands there when more is put around the text.
-/

namespace LinkReliability.Text

/-! ## Lower case up to the form of sigma -/

/-- Both forms of the small sigma as one. -/
def foldSigma (c : Char) : Char := if c = 'ς' then 'σ' else c

/-- The lower case of each character by itself, with one form of the sigma. -/
def lowerApart (cs : List Char) : List Char := cs.flatMap (fun c => (lowerChar c).map foldSigma)

theorem map_foldSigma_lowerFrom (before cs : List Char) :
    (lowerFrom before cs).map foldSigma = lowerApart cs := by
  induction cs generalizing before with
  | nil => rfl
  | cons c rest ih =>
      rw [lowerFrom, List.map_append, ih, lowerApart, lowerApart, List.flatMap_cons]
      congr 1
      by_cases hsigma : c = 'Σ'
      · subst hsigma
        rw [if_pos rfl]
        split <;> decide
      · rw [if_neg hsigma]

theorem map_foldSigma_lower (cs : List Char) : (lower cs).map foldSigma = lowerApart cs :=
  map_foldSigma_lowerFrom [] cs

theorem lowerApart_append (cs ds : List Char) :
    lowerApart (cs ++ ds) = lowerApart cs ++ lowerApart ds := List.flatMap_append

/-! ## Patterns -/

theorem contains_iff (pattern cs : List Char) : contains pattern cs = true ↔ pattern <:+: cs := by
  induction cs with
  | nil => rw [contains, List.isEmpty_iff, List.infix_nil]
  | cons c rest ih =>
      rw [contains, Bool.or_eq_true, ih, List.isPrefixOf_iff_prefix, List.infix_cons_iff]

/-- No form of the small sigma occurs. -/
def SigmaFree (pattern : List Char) : Prop := ∀ c ∈ pattern, c ≠ 'σ' ∧ c ≠ 'ς'

instance (pattern : List Char) : Decidable (SigmaFree pattern) := List.decidableBAll _ pattern

theorem foldSigma_of_ne {c : Char} (h : c ≠ 'ς') : foldSigma c = c := if_neg h

theorem eq_of_foldSigma {c : Char} (h : foldSigma c ≠ 'σ') : foldSigma c = c := by
  unfold foldSigma at h ⊢
  split
  · next hfinal => rw [if_pos hfinal] at h; exact absurd rfl h
  · rfl

theorem infix_map_foldSigma_iff {pattern : List Char} (h : SigmaFree pattern) (cs : List Char) :
    pattern <:+: cs.map foldSigma ↔ pattern <:+: cs := by
  constructor
  · intro hin
    obtain ⟨found, hfound, rfl⟩ := List.infix_map_iff.1 hin
    have hsame : found.map foldSigma = found := by
      conv_rhs => rw [← List.map_id found]
      exact List.map_congr_left (fun c hc => eq_of_foldSigma (h _ (List.mem_map_of_mem hc)).1)
    rwa [hsame]
  · intro hin
    have hsame : pattern.map foldSigma = pattern := by
      conv_rhs => rw [← List.map_id pattern]
      exact List.map_congr_left (fun c hc => foldSigma_of_ne (h c hc).2)
    rw [← hsame]
    exact hin.map foldSigma

/-- Where a sigma stands does not matter to a pattern without one. -/
theorem contains_lower_iff {pattern : List Char} (h : SigmaFree pattern) (cs : List Char) :
    contains pattern (lower cs) = true ↔ pattern <:+: lowerApart cs := by
  rw [contains_iff, ← infix_map_foldSigma_iff h, map_foldSigma_lower]

theorem contains_lower_mono {pattern : List Char} (h : SigmaFree pattern) {cs ds : List Char}
    (hin : cs <:+: ds) (hfound : contains pattern (lower cs) = true) :
    contains pattern (lower ds) = true := by
  obtain ⟨before, after, rfl⟩ := hin
  rw [contains_lower_iff h] at hfound ⊢
  rw [lowerApart_append, lowerApart_append]
  exact hfound.trans ⟨lowerApart before, lowerApart after, rfl⟩

/-! ## Texts of ASCII characters -/

/-- `d` is `c` with any case. -/
def Recased (c d : Char) : Prop := d = c ∨ d = c.toLower ∨ d = c.toUpper

instance (c d : Char) : Decidable (Recased c d) :=
  inferInstanceAs (Decidable (d = c ∨ d = c.toLower ∨ d = c.toUpper))

theorem ascii_toLower_toUpper : ∀ n < 128,
    (Char.ofNat n).toLower.toLower = (Char.ofNat n).toLower ∧
      (Char.ofNat n).toUpper.toLower = (Char.ofNat n).toLower ∧
      (Char.ofNat n).toLower.toNat < 128 ∧ (Char.ofNat n).toUpper.toNat < 128 := by decide

theorem Recased.ascii {c d : Char} (h : Recased c d) (hc : c.toNat < 128) :
    d.toLower = c.toLower ∧ d.toNat < 128 := by
  obtain ⟨hlower, hupper, hlow, hup⟩ := ascii_toLower_toUpper c.toNat hc
  rw [Char.ofNat_toNat] at hlower hupper hlow hup
  rcases h with rfl | rfl | rfl
  · exact ⟨rfl, hc⟩
  · exact ⟨hlower, hlow⟩
  · exact ⟨hupper, hup⟩

theorem lowerFrom_of_ascii (before : List Char) {cs : List Char} (h : ∀ c ∈ cs, c.toNat < 128) :
    lowerFrom before cs = cs.map Char.toLower := by
  induction cs generalizing before with
  | nil => rfl
  | cons c rest ih =>
      obtain ⟨hc, hrest⟩ := List.forall_mem_cons.1 h
      have hsigma : c ≠ 'Σ' := by
        rintro rfl
        exact absurd hc (by decide)
      rw [lowerFrom, ih (c :: before) hrest, if_neg hsigma, lowerChar, if_pos hc, List.map_cons,
        List.singleton_append]

theorem lower_recased {cs ds : List Char} (hascii : ∀ c ∈ cs, c.toNat < 128)
    (h : List.Forall₂ Recased cs ds) : lower ds = lower cs := by
  have hboth : ds.map Char.toLower = cs.map Char.toLower ∧ ∀ d ∈ ds, d.toNat < 128 := by
    induction h with
    | nil => exact ⟨rfl, hascii⟩
    | cons hcd _ ih =>
        obtain ⟨hc, hcs⟩ := List.forall_mem_cons.1 hascii
        obtain ⟨hlower, hd⟩ := hcd.ascii hc
        obtain ⟨hrest, hds⟩ := ih hcs
        refine ⟨?_, List.forall_mem_cons.2 ⟨hd, hds⟩⟩
        rw [List.map_cons, List.map_cons, hlower, hrest]
  rw [lower, lower, lowerFrom_of_ascii [] hboth.2, lowerFrom_of_ascii [] hascii, hboth.1]

end LinkReliability.Text
