import LinkReliability.Failure.Category

/-!
# The category of a chain of causes

Of the verdicts on the texts along a chain the strongest one decides, wherever it stands. The types
of the layers decide only where no text says anything, and then the outermost one does. So layers
that say nothing leave the category of what they wrap alone, and no layer takes a permanent verdict
back.
-/

namespace LinkReliability

namespace Failure

/-- The verdict on each text along the chain, outermost first. -/
def verdicts (f : Failure) : List (Option Category) :=
  f.chain.map (fun l => Category.ofMessage? l.text)

/-- The failure inside of `layers`, outermost first. -/
def wrapAll (layers : List Layer) (f : Failure) : Failure := layers.foldr wrap f

theorem chain_wrapAll (layers : List Layer) (f : Failure) :
    (f.wrapAll layers).chain = layers ++ f.chain := by
  induction layers with
  | nil => rfl
  | cons l layers ih =>
      rw [List.cons_append, ← ih]
      rfl

theorem verdicts_wrapAll (layers : List Layer) (f : Failure) :
    (f.wrapAll layers).verdicts =
      layers.map (fun l => Category.ofMessage? l.text) ++ f.verdicts := by
  rw [verdicts, chain_wrapAll, List.map_append, verdicts]

end Failure

namespace Category

/-- The strength of a verdict on a text: none, transient, permanent. -/
def strength : Option Category → Nat
  | some permanent => 2
  | some transient => 1
  | some unknown => 0
  | none => 0

theorem ofMessage?_cases (text : String) :
    ofMessage? text = none ∨ ofMessage? text = some transient ∨
      ofMessage? text = some permanent := by
  rw [ofMessage?]
  split
  · exact .inr (.inr rfl)
  · split
    · exact .inr (.inl rfl)
    · exact .inl rfl

theorem verdicts_cases {f : Failure} {v : Option Category} (hv : v ∈ f.verdicts) :
    v = none ∨ v = some transient ∨ v = some permanent := by
  obtain ⟨l, -, rfl⟩ := List.mem_map.1 hv
  exact ofMessage?_cases l.text

/-! ## What the types say -/

theorem ofOrigin?_eq_none_iff (origin : Origin) : ofOrigin? origin = none ↔ origin = .unknown := by
  cases origin with
  | io kind => cases kind <;> simp [ofOrigin?]
  | elapsed => simp [ofOrigin?]
  | unknown => simp [ofOrigin?]

theorem ofOrigin?_of_typed {origin : Origin} (h : origin ≠ .unknown) :
    ofOrigin? origin = some (if origin = .io .permissionDenied then permanent else transient) := by
  cases origin with
  | io kind => cases kind <;> rfl
  | elapsed => rfl
  | unknown => exact absurd rfl h

/-- What the types along a chain say: the outermost layer that has one decides. -/
inductive TypeVerdict : List Layer → Category → Prop
  | untyped {chain : List Layer} (h : ∀ l ∈ chain, l.origin = .unknown) : TypeVerdict chain unknown
  | outermost {outer inner : List Layer} {l : Layer} (h : ∀ o ∈ outer, o.origin = .unknown)
      (typed : l.origin ≠ .unknown) :
      TypeVerdict (outer ++ l :: inner)
        (if l.origin = .io .permissionDenied then permanent else transient)

theorem typeVerdict (chain : List Layer) :
    TypeVerdict chain ((chain.findSome? (fun l => ofOrigin? l.origin)).getD unknown) := by
  cases hfound : chain.findSome? (fun l => ofOrigin? l.origin) with
  | none =>
      refine .untyped (fun l hl => ?_)
      exact (ofOrigin?_eq_none_iff _).1 (List.findSome?_eq_none_iff.1 hfound l hl)
  | some c =>
      obtain ⟨outer, l, inner, rfl, hl, houter⟩ := List.findSome?_eq_some_iff.1 hfound
      have htyped : l.origin ≠ .unknown := fun h => by
        rw [(ofOrigin?_eq_none_iff _).2 h] at hl
        cases hl
      rw [ofOrigin?_of_typed htyped] at hl
      obtain rfl := Option.some.inj hl
      exact .outermost (fun o ho => (ofOrigin?_eq_none_iff _).1 (houter o ho)) htyped

/-! ## What decides -/

theorem ofFailure_eq (f : Failure) :
    ofFailure f =
      if some permanent ∈ f.verdicts then permanent
      else if some transient ∈ f.verdicts then transient
      else (f.chain.findSome? (fun l => ofOrigin? l.origin)).getD unknown := by
  simp only [ofFailure, Failure.verdicts, List.contains_iff_mem]
  congr

theorem ofFailure_of_permanent {f : Failure} (h : some permanent ∈ f.verdicts) :
    ofFailure f = permanent := by
  rw [ofFailure_eq, if_pos h]

theorem ofFailure_of_silent {f : Failure} (h : ∀ v ∈ f.verdicts, v = none) :
    ofFailure f = (f.chain.findSome? (fun l => ofOrigin? l.origin)).getD unknown := by
  have hno : ∀ c, some c ∉ f.verdicts := fun c hc => Option.some_ne_none c (h _ hc)
  rw [ofFailure_eq, if_neg (hno permanent), if_neg (hno transient)]

/-- The category is the strongest verdict if there is one at all. -/
theorem ofFailure_strongest {f : Failure} (h : ∃ v ∈ f.verdicts, v ≠ none) :
    some (ofFailure f) ∈ f.verdicts ∧
      ∀ v ∈ f.verdicts, strength v ≤ strength (some (ofFailure f)) := by
  by_cases hpermanent : some permanent ∈ f.verdicts
  · rw [ofFailure_of_permanent hpermanent]
    refine ⟨hpermanent, fun v hv => ?_⟩
    rcases verdicts_cases hv with rfl | rfl | rfl <;> decide
  · have htransient : some transient ∈ f.verdicts := by
      obtain ⟨v, hv, hsome⟩ := h
      rcases verdicts_cases hv with rfl | rfl | rfl
      · exact absurd rfl hsome
      · exact hv
      · exact absurd hv hpermanent
    rw [ofFailure_eq, if_neg hpermanent, if_pos htransient]
    refine ⟨htransient, fun v hv => ?_⟩
    rcases verdicts_cases hv with rfl | rfl | rfl
    · decide
    · exact Nat.le_refl _
    · exact absurd hv hpermanent

/-! ## Layers around a failure -/

theorem ofFailure_wrapAll_of_silent {layers : List Layer} (f : Failure)
    (h : ∀ l ∈ layers, l.origin = .unknown ∧ ofMessage? l.text = none) :
    ofFailure (f.wrapAll layers) = ofFailure f := by
  have hverdict : ∀ c, some c ∈ (f.wrapAll layers).verdicts ↔ some c ∈ f.verdicts := by
    intro c
    have hsilent : some c ∉ layers.map (fun l => ofMessage? l.text) := by
      intro hc
      obtain ⟨l, hl, hmessage⟩ := List.mem_map.1 hc
      rw [(h l hl).2] at hmessage
      cases hmessage
    rw [Failure.verdicts_wrapAll, List.mem_append, or_iff_right hsilent]
  have horigin : layers.findSome? (fun l => ofOrigin? l.origin) = none :=
    List.findSome?_eq_none_iff.2 (fun l hl => (ofOrigin?_eq_none_iff _).2 (h l hl).1)
  rw [ofFailure_eq, ofFailure_eq, Failure.chain_wrapAll, List.findSome?_append, horigin]
  simp only [hverdict, Option.none_or]

theorem ofFailure_wrapAll_of_permanent (layers : List Layer) {f : Failure}
    (h : some permanent ∈ f.verdicts) : ofFailure (f.wrapAll layers) = permanent := by
  apply ofFailure_of_permanent
  rw [Failure.verdicts_wrapAll]
  exact List.mem_append_right _ h

/-- How the category of a failure comes out of its chain. -/
structure Composes (f : Failure) : Prop where
  strongest : (∃ v ∈ f.verdicts, v ≠ none) →
    some (ofFailure f) ∈ f.verdicts ∧
      ∀ v ∈ f.verdicts, strength v ≤ strength (some (ofFailure f))
  silent : (∀ v ∈ f.verdicts, v = none) → TypeVerdict f.chain (ofFailure f)
  wrapped : ∀ layers : List Layer,
    (∀ l ∈ layers, l.origin = .unknown ∧ ofMessage? l.text = none) →
      ofFailure (f.wrapAll layers) = ofFailure f
  lasting : some permanent ∈ f.verdicts →
    ∀ layers : List Layer, ofFailure (f.wrapAll layers) = permanent

theorem category_of_chain (f : Failure) : Composes f where
  strongest := ofFailure_strongest
  silent h := by
    rw [ofFailure_of_silent h]
    exact typeVerdict f.chain
  wrapped _ h := ofFailure_wrapAll_of_silent f h
  lasting h layers := ofFailure_wrapAll_of_permanent layers h

/-- Says that it passes, deep inside that it does not. -/
def lostPort : Failure :=
  ⟨⟨"read timed out", .io .timedOut⟩, [⟨"radio link failed", .unknown⟩,
    ⟨"Permission denied", .unknown⟩]⟩

/-- Says nothing, and has two layers with a type. -/
def muteFailure : Failure :=
  ⟨⟨"radio link failed", .unknown⟩, [⟨"deadline has elapsed", .elapsed⟩,
    ⟨"open failed", .io .permissionDenied⟩]⟩

theorem category_of_chain_lostPort :
    (some (ofFailure lostPort) ∈ lostPort.verdicts ∧
      ∀ v ∈ lostPort.verdicts, strength v ≤ strength (some (ofFailure lostPort))) ∧
    TypeVerdict muteFailure.chain (ofFailure muteFailure) ∧
    ofFailure (muteFailure.wrapAll [⟨"bridge", .unknown⟩, ⟨"mesh", .unknown⟩]) =
      ofFailure muteFailure ∧
    ofFailure (lostPort.wrapAll [⟨"broken pipe", .io .brokenPipe⟩]) = permanent := by
  have hlost : lostPort.verdicts = [some transient, none, some permanent] := by decide +kernel
  have hmute : muteFailure.verdicts = [none, none, none] := by decide +kernel
  have hpermanent : some permanent ∈ lostPort.verdicts := by
    rw [hlost]
    decide
  refine ⟨?_, ?_, ?_, ?_⟩
  · exact (category_of_chain lostPort).strongest ⟨some permanent, hpermanent, by decide⟩
  · exact (category_of_chain muteFailure).silent (by rw [hmute]; decide)
  · exact (category_of_chain muteFailure).wrapped _ (by decide +kernel)
  · exact (category_of_chain lostPort).lasting hpermanent _

end Category

end LinkReliability
