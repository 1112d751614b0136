import LinkReliability.Document

/-!
# Rejected settings

Settings are checked when a component is built, field by field, and the first field outside its
range is reported.
-/

namespace LinkReliability

structure ConfigError where
  field : String
  message : String
deriving DecidableEq, Repr

namespace ConfigError

def text (e : ConfigError) : String :=
  "Invalid configuration for '" ++ e.field ++ "': " ++ e.message

def mustBePositive (field : String) : ConfigError := ⟨field, "must be greater than 0"⟩

/-- The first field whose condition fails. -/
def check : List (Bool × ConfigError) → Except ConfigError Unit
  | [] => .ok ()
  | (holds, e) :: rest => if holds then check rest else .error e

theorem check_eq_ok (conditions : List (Bool × ConfigError)) :
    check conditions = .ok () ↔ ∀ x ∈ conditions, x.1 = true := by
  induction conditions with
  | nil => simp [check]
  | cons x rest ih => by_cases h : x.1 = true <;> simp [check, h, ih]

/-- Settings that were put together, if their check passes. -/
def checked {α : Type} (validate : α → Except ConfigError Unit) (c : α) : Except ConfigError α := do
  validate c
  return c

/-- Only valid settings can be built. -/
theorem checked_eq_ok {α : Type} {validate : α → Except ConfigError Unit} {c built : α} :
    checked validate c = .ok built ↔ c = built ∧ validate c = .ok () := by
  unfold checked
  cases h : validate c with
  | error e => simp [bind, Except.bind]
  | ok => simp [bind, Except.bind, pure, Except.pure]

end ConfigError

end LinkReliability
