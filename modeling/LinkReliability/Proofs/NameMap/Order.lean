import LinkReliability.NameMap
import Mathlib.Data.List.Induction
import Mathlib.Data.String.Basic

/-!
# The order of the entries of a map

A map that is built by inserting has its entries in the order of their names, each name once. Then
an entry is found by its name, and the names of the map are the names that are found.
-/

namespace LinkReliability.NameMap

variable {α : Type}

theorem get?_ofList_const (names : List String) (a : α) (name : String) :
    (ofList (names.map (fun n => (n, a)))).get? name = if name ∈ names then some a else none := by
  induction names using List.reverseRecOn with
  | nil => rfl
  | append_singleton names n ih =>
      have hlast : ofList ((names ++ [n]).map (fun n => (n, a))) =
          (ofList (names.map (fun n => (n, a)))).insert n a := by
        simp only [ofList, List.map_append, List.foldl_append, List.map_cons, List.map_nil,
          List.foldl_cons, List.foldl_nil]
      rw [hlast, get?_insert, ih]
      by_cases hn : name = n <;> simp [hn]

/-- The names of the entries increase. -/
def Sorted (m : NameMap α) : Prop := m.keys.Pairwise (· < ·)

theorem mem_names_insertInto (name other : String) (a : α) (entries : List (String × α)) :
    other ∈ (insertInto name a entries).map Prod.fst ↔
      other = name ∨ other ∈ entries.map Prod.fst := by
  induction entries with
  | nil => simp [insertInto]
  | cons e rest ih =>
      obtain ⟨n, b⟩ := e
      unfold insertInto
      by_cases hname : name = n
      · simp [hname]
      · by_cases hlt : name < n
        · simp [hname, hlt]
        · rw [if_neg hname, if_neg hlt, List.map_cons, List.mem_cons, ih, List.map_cons,
            List.mem_cons]
          tauto

theorem pairwise_names_insertInto (name : String) (a : α) (entries : List (String × α))
    (h : (entries.map Prod.fst).Pairwise (· < ·)) :
    ((insertInto name a entries).map Prod.fst).Pairwise (· < ·) := by
  induction entries with
  | nil => exact List.pairwise_singleton _ name
  | cons e rest ih =>
      obtain ⟨n, b⟩ := e
      rw [List.map_cons, List.pairwise_cons] at h
      unfold insertInto
      by_cases hname : name = n
      · rw [if_pos hname, List.map_cons, List.pairwise_cons]
        exact ⟨hname ▸ h.1, h.2⟩
      · rw [if_neg hname]
        by_cases hlt : name < n
        · rw [if_pos hlt, List.map_cons, List.pairwise_cons, List.map_cons, List.pairwise_cons]
          refine ⟨?_, h⟩
          intro other hother
          rcases List.mem_cons.1 hother with rfl | hrest
          · exact hlt
          · exact hlt.trans (h.1 other hrest)
        · have hgt : n < name := lt_of_le_of_ne (not_lt.1 hlt) (fun heq => hname heq.symm)
          rw [if_neg hlt, List.map_cons, List.pairwise_cons]
          refine ⟨?_, ih h.2⟩
          intro other hother
          rcases (mem_names_insertInto name other a rest).1 hother with rfl | hrest
          · exact hgt
          · exact h.1 other hrest

theorem Sorted.insert {m : NameMap α} (h : m.Sorted) (name : String) (a : α) :
    (m.insert name a).Sorted :=
  pairwise_names_insertInto name a m.entries h

theorem Sorted.modify {m : NameMap α} (h : m.Sorted) (name : String) (f : α → α) :
    (m.modify name f).Sorted := by
  unfold NameMap.modify
  split
  · exact h.insert name _
  · exact h

theorem sorted_ofList (entries : List (String × α)) : (ofList entries).Sorted := by
  have hfold : ∀ m : NameMap α, m.Sorted → (entries.foldl (fun m e => m.insert e.1 e.2) m).Sorted := by
    induction entries with
    | nil => exact fun m hm => hm
    | cons e rest ih => exact fun m hm => ih (m.insert e.1 e.2) (hm.insert e.1 e.2)
  exact hfold empty List.Pairwise.nil

theorem lookup_of_mem {name : String} {a : α} (entries : List (String × α))
    (h : (entries.map Prod.fst).Pairwise (· < ·)) (hmem : (name, a) ∈ entries) :
    lookup name entries = some a := by
  induction entries with
  | nil => cases hmem
  | cons e rest ih =>
      obtain ⟨n, b⟩ := e
      rw [List.map_cons, List.pairwise_cons] at h
      unfold lookup
      rcases List.mem_cons.1 hmem with heq | hrest
      · obtain ⟨rfl, rfl⟩ := Prod.mk.inj heq
        rw [if_pos rfl]
      · have hlt : n < name := h.1 name (List.mem_map.2 ⟨(name, a), hrest, rfl⟩)
        rw [if_neg hlt.ne']
        exact ih h.2 hrest

theorem mem_entries_of_get? {m : NameMap α} {name : String} {a : α} (h : m.get? name = some a) :
    (name, a) ∈ m.entries := by
  obtain ⟨entries⟩ := m
  change lookup name entries = some a at h
  change (name, a) ∈ entries
  induction entries with
  | nil => cases h
  | cons e rest ih =>
      obtain ⟨n, b⟩ := e
      unfold lookup at h
      split at h
      · next hname =>
          obtain rfl : b = a := Option.some.inj h
          rw [hname]
          exact List.mem_cons_self
      · exact List.mem_cons_of_mem _ (ih h)

theorem Sorted.get?_eq_some_iff {m : NameMap α} (h : m.Sorted) {name : String} {a : α} :
    m.get? name = some a ↔ (name, a) ∈ m.entries :=
  ⟨mem_entries_of_get?, lookup_of_mem m.entries h⟩

theorem Sorted.mem_keys_iff {m : NameMap α} (h : m.Sorted) {name : String} :
    name ∈ m.keys ↔ (m.get? name).isSome = true := by
  rw [Option.isSome_iff_exists, keys, List.mem_map]
  constructor
  · rintro ⟨⟨n, a⟩, hmem, rfl⟩
    exact ⟨a, h.get?_eq_some_iff.2 hmem⟩
  · rintro ⟨a, ha⟩
    exact ⟨(name, a), h.get?_eq_some_iff.1 ha, rfl⟩

theorem Sorted.nodup_keys {m : NameMap α} (h : m.Sorted) : m.keys.Nodup :=
  h.imp (fun hlt => hlt.ne)

end LinkReliability.NameMap
