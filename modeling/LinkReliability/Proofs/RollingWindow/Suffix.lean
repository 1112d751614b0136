import LinkReliability.RollingWindow
import Mathlib.Data.List.DropRight
import Mathlib.Data.List.Induction

/-!
# A rolling window is the end of a log

What a window keeps of the entries that were ever added is the last ones, as many as it has room
for. When the stamps never decrease, the recent entries are the last ones as well, so a count of
recent entries falls short of the true one only by what the window has no room for.
-/

namespace LinkReliability.RollingWindow

variable {α : Type}

def pushAll (w : RollingWindow α) (entries : List (Entry α)) : RollingWindow α :=
  entries.foldl (fun w e => w.push e.stamp e.value) w

theorem pushAll_concat (w : RollingWindow α) (entries : List (Entry α)) (e : Entry α) :
    w.pushAll (entries ++ [e]) = (w.pushAll entries).push e.stamp e.value :=
  List.foldl_append

theorem pushAll_append (w : RollingWindow α) (entries later : List (Entry α)) :
    w.pushAll (entries ++ later) = (w.pushAll entries).pushAll later := List.foldl_append

theorem capacity_push (w : RollingWindow α) (stamp : Instant) (value : α) :
    (w.push stamp value).capacity = w.capacity := by
  unfold push
  split <;> rfl

theorem capacity_pushAll (w : RollingWindow α) (log : List (Entry α)) :
    (w.pushAll log).capacity = w.capacity := by
  induction log using List.reverseRecOn with
  | nil => rfl
  | append_singleton log e ih => rw [pushAll_concat, capacity_push, ih]

theorem entries_pushAll (capacity : Nat) (log : List (Entry α)) :
    ((empty capacity).pushAll log).entries = log.drop (log.length - capacity) := by
  induction log using List.reverseRecOn with
  | nil => simp [pushAll, empty]
  | append_singleton log e ih =>
      have hcap : ((empty capacity).pushAll log).capacity = capacity := capacity_pushAll _ log
      rw [pushAll_concat, push, hcap, List.length_append, List.length_singleton]
      by_cases hzero : capacity = 0
      · subst hzero
        rw [if_pos rfl, ih, Nat.sub_zero, Nat.sub_zero, List.drop_length,
          List.drop_eq_nil_of_le (by simp)]
      · simp only [if_neg hzero, ih, List.length_drop, List.drop_drop]
        by_cases hfull : capacity ≤ log.length
        · rw [if_pos (by omega), ← List.drop_append_of_le_length (by omega)]
          congr 1
          omega
        · rw [if_neg (by omega), ← List.drop_append_of_le_length (by omega)]
          congr 1
          omega

/-! ## Recent entries -/

/-- The beginning of the last `length`, unless it lies before the range of the clock. -/
def cutoff? (now : Instant) (length : Duration) : Option Instant :=
  if length.nanos ≤ now then some (now - length.nanos) else none

/-- An entry is recent from the cutoff on; without a cutoff every entry is. -/
def isRecent (now : Instant) (length : Duration) (e : Entry α) : Bool :=
  match cutoff? now length with
  | some cutoff => cutoff ≤ e.stamp
  | none => true

theorem isRecent_eq (now : Instant) (length : Duration) (e : Entry α) :
    isRecent now length e = decide (now ≤ e.stamp + length.nanos) := by
  unfold isRecent cutoff?
  by_cases hrange : length.nanos ≤ now
  · rw [if_pos hrange]
    exact decide_eq_decide.2 Nat.sub_le_iff_le_add
  · have hall : now ≤ e.stamp + length.nanos :=
      Nat.le_trans (Nat.le_of_not_le hrange) (Nat.le_add_left _ _)
    rw [if_neg hrange, decide_eq_true hall]

theorem isRecent_of_le {now : Instant} {length : Duration} {a b : Entry α}
    (hle : a.stamp ≤ b.stamp) (ha : isRecent now length a = true) :
    isRecent now length b = true := by
  rw [isRecent_eq, decide_eq_true_eq] at ha ⊢
  exact Nat.le_trans ha (Nat.add_le_add_right hle length.nanos)

theorem within_eq (w : RollingWindow α) (now : Instant) (length : Duration) :
    w.within now length = (w.entries.filter (isRecent now length)).map Entry.value := by
  rw [within, funext (isRecent_eq now length)]

theorem countWithin_eq (w : RollingWindow α) (now : Instant) (length : Duration) :
    w.countWithin now length = w.entries.countP (isRecent now length) := by
  rw [countWithin, within_eq, List.length_map, List.countP_eq_length_filter]

/-- The last entries hold as many of a kind as there are, or nothing else. -/
theorem countP_drop_of_pairwise (p : α → Bool) {log : List α}
    (hp : log.Pairwise (fun a b => p a = true → p b = true)) (n : Nat) :
    (log.drop n).countP p = min (log.length - n) (log.countP p) := by
  induction log generalizing n with
  | nil => simp
  | cons a log ih =>
      obtain ⟨hfirst, hrest⟩ := List.pairwise_cons.1 hp
      cases n with
      | zero => exact (Nat.min_eq_right List.countP_le_length).symm
      | succ n =>
          rw [List.drop_succ_cons, ih hrest, List.length_cons, List.countP_cons]
          by_cases ha : p a = true
          · have hall : log.countP p = log.length :=
              List.countP_eq_length.2 (fun b hb => hfirst b hb ha)
            rw [if_pos ha, hall]
            omega
          · rw [if_neg ha]
            omega

theorem countWithin_pushAll (capacity : Nat) {log : List (Entry α)}
    (hs : log.Pairwise (fun a b => a.stamp ≤ b.stamp)) (now : Instant) (length : Duration) :
    ((empty capacity).pushAll log).countWithin now length =
      min capacity (log.countP (fun e => now ≤ e.stamp + length.nanos)) := by
  have hmost : log.countP (isRecent now length) ≤ log.length := List.countP_le_length
  rw [countWithin_eq, entries_pushAll, countP_drop_of_pairwise _ (hs.imp isRecent_of_le),
    ← funext (isRecent_eq now length)]
  omega

/-! ## The latest entries -/

theorem latest_eq (w : RollingWindow α) (n : Nat) :
    w.latest n = (w.entries.rtake (min n w.size)).map Entry.value := by
  rw [latest, List.rtake, size]
  congr 2
  omega

theorem latest_pushAll {capacity n : Nat} (hn : n ≤ capacity) (log : List (Entry α)) :
    ((empty capacity).pushAll log).latest n = (log.rtake n).map Entry.value := by
  rw [latest, entries_pushAll, List.drop_drop, List.length_drop, List.rtake]
  congr 2
  omega

/-- What holds from some element on to the end holds of the last elements. -/
theorem filter_eq_rtake (p : α → Bool) {log : List α}
    (hp : log.Pairwise (fun a b => p a = true → p b = true)) :
    log.filter p = log.rtake (log.countP p) := by
  induction log with
  | nil => rfl
  | cons a log ih =>
      obtain ⟨hfirst, hrest⟩ := List.pairwise_cons.1 hp
      have hmost : log.countP p ≤ log.length := List.countP_le_length
      by_cases ha : p a = true
      · have hall : (a :: log).countP p = (a :: log).length :=
          List.countP_eq_length.2 (List.forall_mem_cons.2 ⟨ha, fun b hb => hfirst b hb ha⟩)
        rw [hall, List.rtake, Nat.sub_self, List.drop_zero]
        exact List.filter_eq_self.2 (List.countP_eq_length.1 hall)
      · rw [List.filter_cons_of_neg ha, ih hrest, List.countP_cons_of_neg ha, List.rtake,
          List.rtake, List.length_cons, Nat.succ_sub hmost, List.drop_succ_cons]

/-- Recent entries of an ordered window are its latest ones. -/
theorem within_eq_latest {w : RollingWindow α}
    (hs : w.entries.Pairwise (fun a b => a.stamp ≤ b.stamp)) (now : Instant)
    (length : Duration) : w.within now length = w.latest (w.countWithin now length) := by
  rw [countWithin_eq, latest, ← List.rtake, ← filter_eq_rtake _ (hs.imp isRecent_of_le), within_eq]

/-- A window holds the end of the log of all that was added to it, and its views are read off
there. -/
structure EndOfLog (w : RollingWindow α) (capacity : Nat) (log : List (Entry α)) : Prop where
  entries : w.entries = log.rtake (min capacity log.length)
  latest : ∀ n, w.latest n = (w.entries.rtake (min n w.size)).map Entry.value
  within : ∀ now length,
    w.within now length = (w.entries.filter (isRecent now length)).map Entry.value
  recent : log.Pairwise (fun a b => a.stamp ≤ b.stamp) → ∀ now length,
    w.within now length = w.latest (w.countWithin now length) ∧
      w.countWithin now length = min capacity (log.countP (isRecent now length))

theorem endOfLog_pushAll (capacity : Nat) (log : List (Entry α)) :
    EndOfLog ((empty capacity).pushAll log) capacity log := by
  have hentries := entries_pushAll capacity log
  refine ⟨?_, latest_eq _, within_eq _, ?_⟩
  · rw [hentries, List.rtake]
    congr 1
    omega
  · intro hs now length
    have hkept : ((empty capacity).pushAll log).entries.Pairwise (fun a b => a.stamp ≤ b.stamp) := by
      rw [hentries]
      exact hs.sublist (List.drop_sublist _ _)
    refine ⟨within_eq_latest hkept now length, ?_⟩
    rw [countWithin_pushAll capacity hs, funext (isRecent_eq now length)]

end LinkReliability.RollingWindow
