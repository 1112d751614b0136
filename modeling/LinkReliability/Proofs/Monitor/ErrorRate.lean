import LinkReliability.Proofs.Monitor.Storm

/-!
# The rate of errors

The monitor counts the errors of any recent span by category. The count is that of the whole record
of errors as long as the log has room for it, and otherwise that of the newest errors, as many as
the log keeps.
-/

namespace LinkReliability

namespace ErrorCounts

def get (c : ErrorCounts) : Category → Nat
  | .transient => c.transient
  | .permanent => c.permanent
  | .unknown => c.unknown

theorem get_add (c : ErrorCounts) (added k : Category) :
    (c.add added).get k = c.get k + if added = k then 1 else 0 := by
  cases added <;> cases k <;> rfl

theorem total_add (c : ErrorCounts) (added : Category) : (c.add added).total = c.total + 1 := by
  cases added <;> simp only [add, total] <;> omega

theorem ofCategories_concat (cs : List Category) (added : Category) :
    ofCategories (cs ++ [added]) = (ofCategories cs).add added := List.foldl_append

theorem get_ofCategories (cs : List Category) (k : Category) :
    (ofCategories cs).get k = cs.count k := by
  induction cs using List.reverseRecOn with
  | nil => cases k <;> rfl
  | append_singleton cs added ih =>
      rw [ofCategories_concat, get_add, ih, List.count_append, List.count_singleton]
      simp only [beq_iff_eq]

theorem total_ofCategories (cs : List Category) : (ofCategories cs).total = cs.length := by
  induction cs using List.reverseRecOn with
  | nil => rfl
  | append_singleton cs added ih =>
      rw [ofCategories_concat, total_add, ih, List.length_append, List.length_singleton]

end ErrorCounts

namespace Monitor

open RollingWindow (isRecent EndOfLog)

/-- Every error that was ever reported, as the monitor would keep it. -/
def errorLog (records : List Record) : List (Entry ErrorEvent) :=
  (errorReports records).map ErrorReport.entry

/-- The counts of the last `length` before `now`, when the log has room for `size` errors. -/
structure CountsEndOf (counts : ErrorCounts) (size : Nat) (log : List (Entry ErrorEvent))
    (now : Instant) (length : Duration) : Prop where
  total : counts.total = min size (log.countP (isRecent now length))
  categories : ∀ k, counts.get k =
    (log.rtake counts.total).countP (fun e => e.value.category = k)

theorem errorEvents_of_create {config : Config} {started : Instant} {m : Monitor}
    (hm : create config started = .ok m) (records : List Record) :
    (m.run records).errorEvents =
      (RollingWindow.empty config.windowSize.val).pushAll (errorLog records) := by
  obtain ⟨-, -, -, -, hlog⟩ := create_eq_ok hm
  rw [errorEvents_run, hlog, errorLog]

theorem ErrorsInOrder.errorLog {records : List Record} (hr : ErrorsInOrder records) :
    (errorLog records).Pairwise (fun a b => a.stamp ≤ b.stamp) := List.pairwise_map.2 hr

theorem errorCounts_run {config : Config} {started : Instant} {m : Monitor}
    (hm : create config started = .ok m) {records : List Record} (hr : ErrorsInOrder records)
    (now : Instant) (length : Duration) :
    CountsEndOf ((m.run records).errorCounts now length) config.windowSize.val (errorLog records)
      now length := by
  obtain ⟨hlatest, hcount⟩ :=
    (RollingWindow.endOfLog_pushAll config.windowSize.val (errorLog records)).recent hr.errorLog
      now length
  rw [← errorEvents_of_create hm records] at hlatest hcount
  have htotal : ((m.run records).errorCounts now length).total =
      (m.run records).errorEvents.countWithin now length := by
    rw [errorCounts, ErrorCounts.total_ofCategories, List.length_map, RollingWindow.countWithin]
  refine ⟨htotal.trans hcount, fun k => ?_⟩
  have hroom : (m.run records).errorEvents.countWithin now length ≤ config.windowSize.val := by
    rw [hcount]
    exact Nat.min_le_left _ _
  rw [htotal, errorCounts, ErrorCounts.get_ofCategories, hlatest]
  rw [errorEvents_of_create hm records] at hroom ⊢
  rw [RollingWindow.latest_pushAll hroom, List.map_map, List.count, List.countP_map]
  rfl

/-- A window of any capacity is the end of the log of its pushes, and what the monitor counts of the
errors is the end of the log of the errors. -/
theorem error_rate_end_of_log :
    (∀ (α : Type) (capacity : Nat) (log : List (Entry α)),
      EndOfLog ((RollingWindow.empty capacity).pushAll log) capacity log) ∧
    ∀ config started m records, create config started = .ok m → ErrorsInOrder records →
      ∀ now length, CountsEndOf ((m.run records).errorCounts now length) config.windowSize.val
        (errorLog records) now length :=
  ⟨fun _ capacity log => RollingWindow.endOfLog_pushAll capacity log,
    fun _ _ _ _ hm hr now length => errorCounts_run hm hr now length⟩

/-- Settings with a log for two errors. -/
def shortLog : Config := ⟨["mesh"], 2, Duration.ofSecs 60, 1, 1, Duration.ofSecs 60⟩

def errorAt (seconds : Nat) (text : String) : Record :=
  .error ⟨⟨seconds * 1000000000, ⟨0, 0⟩⟩, "mesh", .message text⟩

/-- Of the four errors three are recent, and two of these are on record. -/
def fourErrors : List Record :=
  [errorAt 0 "timeout", errorAt 10 "permission denied", errorAt 20 "checksum", errorAt 30 "timeout"]

theorem error_rate_end_of_log_fourErrors :
    EndOfLog ((RollingWindow.empty 2).pushAll (errorLog fourErrors)) 2 (errorLog fourErrors) ∧
    ErrorsInOrder fourErrors ∧ ∃ m, create shortLog 0 = .ok m ∧
      CountsEndOf ((m.run fourErrors).errorCounts 35000000000 (Duration.ofSecs 30)) 2
        (errorLog fourErrors) 35000000000 (Duration.ofSecs 30) ∧
      (m.run fourErrors).errorCounts 35000000000 (Duration.ofSecs 30) = ⟨1, 0, 1⟩ := by
  have horder : ErrorsInOrder fourErrors := by decide
  refine ⟨error_rate_end_of_log.1 _ 2 _, horder, _, rfl, ?_, ?_⟩
  · exact error_rate_end_of_log.2 shortLog 0 _ fourErrors rfl horder _ _
  · rfl

end Monitor

end LinkReliability
