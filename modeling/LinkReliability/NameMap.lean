/-!
# Maps by name

Entries in the order of their names, each name once. Names are ordered by their characters, which
is also the order of their bytes in UTF-8.
-/

namespace LinkReliability

structure NameMap (α : Type) where
  entries : List (String × α)
deriving DecidableEq, Repr

namespace NameMap

variable {α β : Type}

def empty : NameMap α := ⟨[]⟩

def lookup (name : String) : List (String × α) → Option α
  | [] => none
  | (n, a) :: rest => if name = n then some a else lookup name rest

def get? (m : NameMap α) (name : String) : Option α := lookup name m.entries

def contains (m : NameMap α) (name : String) : Bool := (m.get? name).isSome

def insertInto (name : String) (a : α) : List (String × α) → List (String × α)
  | [] => [(name, a)]
  | (n, b) :: rest =>
    if name = n then (name, a) :: rest
    else if name < n then (name, a) :: (n, b) :: rest
    else (n, b) :: insertInto name a rest

/-- The entry of `name` becomes `a`, whether there was one or not. -/
def insert (m : NameMap α) (name : String) (a : α) : NameMap α := ⟨insertInto name a m.entries⟩

theorem lookup_insertInto (name other : String) (a : α) (entries : List (String × α)) :
    lookup other (insertInto name a entries) =
      if other = name then some a else lookup other entries := by
  induction entries with
  | nil => rfl
  | cons e rest ih =>
      obtain ⟨n, b⟩ := e
      unfold insertInto
      by_cases h : name = n
      · subst h
        by_cases ho : other = name <;> simp [lookup, ho]
      · by_cases hlt : name < n
        · simp [lookup, h, hlt]
        · by_cases ho : other = name
          · subst ho
            simp [lookup, h, hlt, ih]
          · simp [lookup, h, hlt, ih, ho]

theorem get?_insert (m : NameMap α) (name other : String) (a : α) :
    (m.insert name a).get? other = if other = name then some a else m.get? other :=
  lookup_insertInto name other a m.entries

/-- Changes the entry of `name`, if there is one. -/
def modify (m : NameMap α) (name : String) (f : α → α) : NameMap α :=
  match m.get? name with
  | some a => m.insert name (f a)
  | none => m

theorem get?_modify (m : NameMap α) (name other : String) (f : α → α) :
    (m.modify name f).get? other =
      if other = name then (m.get? name).map f else m.get? other := by
  unfold modify
  cases hm : m.get? name with
  | none => by_cases h : other = name <;> simp [h, hm]
  | some a => simp [get?_insert]

def erase (m : NameMap α) (name : String) : NameMap α :=
  ⟨m.entries.filter (fun e => e.1 ≠ name)⟩

def ofList (entries : List (String × α)) : NameMap α :=
  entries.foldl (fun m e => m.insert e.1 e.2) empty

def keys (m : NameMap α) : List String := m.entries.map Prod.fst

def values (m : NameMap α) : List α := m.entries.map Prod.snd

def size (m : NameMap α) : Nat := m.entries.length

def map (f : α → β) (m : NameMap α) : NameMap β := ⟨m.entries.map (fun e => (e.1, f e.2))⟩

end NameMap

end LinkReliability
