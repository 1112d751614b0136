import LinkReliability.Duration

/-!
# Documents

The tree in which settings are saved and reports are handed out. A record is read from its fields
by name, where unknown names are passed over, or from a list of its fields in the order of their
declaration.
-/

namespace LinkReliability

/-! ## Counts of limited size

Limits and thresholds in settings are whole numbers of 32 or 64 bits. -/

abbrev Count32 := Fin (Nat.pow 2 32)

abbrev Count64 := Fin (Nat.pow 2 64)

instance neZero32 : @NeZero Nat Zero.ofOfNat0 (Nat.pow 2 32) := ⟨Nat.succ_ne_zero _⟩

instance neZero64 : @NeZero Nat Zero.ofOfNat0 (Nat.pow 2 64) := ⟨Nat.succ_ne_zero _⟩

/-- The number itself, if there is room for it. -/
def countBelow? (bound n : Nat) : Option (Fin bound) :=
  if h : n < bound then some ⟨n, h⟩ else none

/-! ## The tree -/

inductive Document where
  | null
  | bool (b : Bool)
  | int (n : Int)
  | float (x : Float)
  | text (s : String)
  | list (items : List Document)
  | record (fields : List (String × Document))

namespace Document

instance : Inhabited Document := ⟨.null⟩

/-- The document of the field `name`, if the record has one. -/
def find? (name : String) (fields : List (String × Document)) : Option Document :=
  (fields.find? (fun f => f.1 == name)).map Prod.snd

/-- The fields `names` of a record, each with its document if it is there. -/
def fields? (names : List String) : Document → Option (List (Option Document))
  | record fields => some (names.map (fun n => find? n fields))
  | list items =>
    if items.length ≤ names.length then
      some (items.map some ++ List.replicate (names.length - items.length) none)
    else none
  | _ => none

def required? {α : Type} (read : Document → Option α) (field : Option Document) : Option α :=
  field.bind read

/-- A field that has the value `fallback` when it is missing, though not when it is null. -/
def optional? {α : Type} (fallback : α) (read : Document → Option α) :
    Option Document → Option α
  | none => some fallback
  | some d => read d

/-! ## Reading plain values -/

def bool? : Document → Option Bool
  | bool b => some b
  | _ => none

def nat? : Document → Option Nat
  | int n => if 0 ≤ n then some n.toNat else none
  | _ => none

def count32? (d : Document) : Option Count32 := d.nat?.bind (countBelow? (Nat.pow 2 32))

def count64? (d : Document) : Option Count64 := d.nat?.bind (countBelow? (Nat.pow 2 64))

def ofInt (n : Int) : Float := if n < 0 then -(Nat.toFloat n.natAbs) else Nat.toFloat n.natAbs

/-- Any number is read as a double. -/
def float? : Document → Option Float
  | float x => some x
  | int n => some (ofInt n)
  | _ => none

def text? : Document → Option String
  | text s => some s
  | _ => none

/-- Durations are whole milliseconds. -/
def duration? (d : Document) : Option Duration :=
  d.count64?.map (fun n => Duration.ofMillis n.val)

def texts? : Document → Option (List String)
  | list items => items.mapM text?
  | _ => none

/-- One of several names, as a text or as a record that maps it to null. -/
def choice? {α : Type} (named? : String → Option α) : Document → Option α
  | text s => named? s
  | record [(s, null)] => named? s
  | _ => none

/-! ## Writing plain values -/

def nat (n : Nat) : Document := int (Int.ofNat n)

def ofCount {bound : Nat} (n : Fin bound) : Document := nat n.val

def ofDuration (d : Duration) : Document := nat d.cappedMillis

def ofTexts (texts : List String) : Document := list (texts.map text)

def ofOption {α : Type} (write : α → Document) : Option α → Document
  | none => null
  | some a => write a

end Document

end LinkReliability
