import LinkReliability.Proofs.Failure.Chain
import LinkReliability.Proofs.Text.LowerCase

/-!
# Texts in context

What is put in front of a text or behind it can add phrases and takes none away, although the lower
case of a character may depend on its neighbours. A verdict on the text can thus only become
stronger.
-/

namespace LinkReliability.Category

theorem sigmaFree_of_mem {phrase : String} (h : phrase ∈ permanentPhrases ++ transientPhrases) :
    Text.SigmaFree phrase.toList := by
  have hall : ∀ p ∈ permanentPhrases ++ transientPhrases, Text.SigmaFree p.toList := by
    decide +kernel
  exact hall phrase h

theorem mentions_mono {phrases : List String} (h : phrases ⊆ permanentPhrases ++ transientPhrases)
    {cs ds : List Char} (hin : cs <:+: ds) (hfound : mentions phrases (Text.lower cs) = true) :
    mentions phrases (Text.lower ds) = true := by
  obtain ⟨phrase, hphrase, hcontains⟩ := List.any_eq_true.1 hfound
  refine List.any_eq_true.2 ⟨phrase, hphrase, ?_⟩
  exact Text.contains_lower_mono (sigmaFree_of_mem (h hphrase)) hin hcontains

theorem ofMessage?_eq_permanent_iff (text : String) :
    ofMessage? text = some permanent ↔ mentions permanentPhrases (Text.lower text.toList) = true := by
  rw [ofMessage?]
  split
  · next h => exact iff_of_true rfl h
  · next h =>
      refine iff_of_false ?_ h
      split <;> exact fun heq => by cases heq

theorem ofMessage?_eq_none_iff (text : String) :
    ofMessage? text = none ↔ mentions permanentPhrases (Text.lower text.toList) = false ∧
      mentions transientPhrases (Text.lower text.toList) = false := by
  rw [ofMessage?]
  split
  · next h => simp [h]
  · next h =>
      split
      · next ht => simp [ht]
      · next ht => simp [h, ht]

section Infix

variable {part whole : String} (h : part.toList <:+: whole.toList)
include h

theorem permanent_mono (hpart : ofMessage? part = some permanent) :
    ofMessage? whole = some permanent := by
  rw [ofMessage?_eq_permanent_iff] at hpart ⊢
  exact mentions_mono (List.subset_append_left _ _) h hpart

theorem none_anti (hwhole : ofMessage? whole = none) : ofMessage? part = none := by
  obtain ⟨hpermanent, htransient⟩ := (ofMessage?_eq_none_iff whole).1 hwhole
  refine (ofMessage?_eq_none_iff part).2 ⟨?_, ?_⟩
  · exact Bool.eq_false_iff.2 fun hfound =>
      Bool.eq_false_iff.1 hpermanent (mentions_mono (List.subset_append_left _ _) h hfound)
  · exact Bool.eq_false_iff.2 fun hfound =>
      Bool.eq_false_iff.1 htransient (mentions_mono (List.subset_append_right _ _) h hfound)

/-- A stretch of a text never says more than the text. -/
theorem strength_mono : strength (ofMessage? part) ≤ strength (ofMessage? whole) := by
  rcases ofMessage?_cases part with hpart | hpart | hpart
  · rw [hpart]
    exact Nat.zero_le _
  · rcases ofMessage?_cases whole with hwhole | hwhole | hwhole
    · rw [none_anti h hwhole] at hpart
      cases hpart
    · rw [hpart, hwhole]
    · rw [hpart, hwhole]
      decide
  · rw [hpart, permanent_mono h hpart]

end Infix

theorem toList_infix_append (a m b : String) : m.toList <:+: (a ++ m ++ b).toList := by
  rw [String.toList_append, String.toList_append]
  exact ⟨a.toList, b.toList, rfl⟩

theorem ofMessage?_recased {s t : String} (hascii : ∀ c ∈ s.toList, c.toNat < 128)
    (h : List.Forall₂ Text.Recased s.toList t.toList) : ofMessage? t = ofMessage? s := by
  rw [ofMessage?, ofMessage?, Text.lower_recased hascii h]

/-- More text around a message never weakens the verdict on it, and in a text of ASCII characters
the case of the letters does not count. -/
theorem verdict_in_context :
    (∀ a m b : String,
      strength (ofMessage? m) ≤ strength (ofMessage? (a ++ m ++ b)) ∧
      (ofMessage? m = some permanent → ofMessage? (a ++ m ++ b) = some permanent) ∧
      (ofMessage? m ≠ none → ofMessage? (a ++ m ++ b) ≠ none)) ∧
    ∀ s t : String, (∀ c ∈ s.toList, c.toNat < 128) →
      List.Forall₂ Text.Recased s.toList t.toList → ofMessage? t = ofMessage? s := by
  refine ⟨fun a m b => ?_, fun s t hascii h => ofMessage?_recased hascii h⟩
  have h := toList_infix_append a m b
  exact ⟨strength_mono h, permanent_mono h, fun hm hwhole => hm (none_anti h hwhole)⟩

/-- The sigma at the end of the message is not final any more in the longer text. -/
theorem verdict_in_context_movedSigma :
    ofMessage? "TIMEOUT ΟΔΟΣ" = some transient ∧
    ofMessage? ("İ: " ++ "TIMEOUT ΟΔΟΣ" ++ "Α") ≠ none ∧
    Text.lower "ΟΔΟΣ".toList ≠ (Text.lower "ΟΔΟΣΑ".toList).take 4 ∧
    ofMessage? "No Such DEVICE" = ofMessage? "no such device" ∧
    ofMessage? "no such device" = some permanent := by
  have htimeout : ofMessage? "TIMEOUT ΟΔΟΣ" = some transient := by decide +kernel
  have hknown : ofMessage? "TIMEOUT ΟΔΟΣ" ≠ none := by rw [htimeout]; exact Option.some_ne_none _
  have hcase : List.Forall₂ Text.Recased "no such device".toList "No Such DEVICE".toList := by
    decide
  refine ⟨htimeout, ?_, by decide +kernel, ?_, by decide +kernel⟩
  · exact (verdict_in_context.1 "İ: " "TIMEOUT ΟΔΟΣ" "Α").2.2 hknown
  · exact verdict_in_context.2 "no such device" "No Such DEVICE" (by simp) hcase

end LinkReliability.Category
