import LinkReliability.Proofs.Link.Scene
import Mathlib.Data.List.Infix

/-!
# The traffic of a link whose breaker is open

An open breaker refuses every packet. What still goes to the transport was let in before: it waits
in the queue, or the worker holds it, or its caller had passed the breaker already. The failures of
these sends leave the breaker as it is, so it stays open for its timeout and no longer.
-/

namespace LinkReliability.Link

namespace Scene

variable {c : Config} {s : Scene}

/-! ## At any time -/

/-- The settings are the ones of the beginning, the stock is bounded, and the sends are counted. -/
structure Fit (c : Config) (s : Scene) : Prop where
  breaker : s.desk.link.breaker.config = c.breaker
  queue : s.desk.link.queue.config = c.queue
  bounded : s.desk.link.queue.Bounded
  begun : s.begun = s.desk.link.queue.begun

theorem fit_begin {l : Link} (h : Fresh c l) (now : Instant) : Fit c (begin l now) := by
  obtain ⟨hbreaker, -⟩ := Breaker.create_ok h.breaker
  obtain ⟨-, hqueue⟩ := Queue.create_eq_ok h.queue
  refine ⟨?_, ?_, .of_create h.queue, ?_⟩
  · exact congrArg Breaker.config hbreaker
  · exact congrArg Queue.config hqueue
  · exact (congrArg Queue.begun hqueue).symm

theorem Fit.act (h : Fit c s) (e : Move) : Fit c (s.act e) := by
  have hbreaker : (s.act e).desk.link.breaker.config = c.breaker := by
    obtain ⟨o, ho⟩ := s.breaker_act e
    rw [ho, Breaker.config_act, h.breaker]
  have hkept (hq : (s.act e).desk.link.queue = s.desk.link.queue) (hb : (s.act e).begun = s.begun) :
      Fit c (s.act e) := by
    refine ⟨hbreaker, ?_, ?_, ?_⟩
    · rw [hq, h.queue]
    · rw [hq]
      exact h.bounded
    · rw [hb, hq, h.begun]
  cases e with
  | submit p =>
      rcases s.desk.queue_submit s.now p with hq | hq
      · exact hkept hq rfl
      · refine ⟨hbreaker, ?_, ?_, ?_⟩
        · exact (congrArg Queue.config hq).trans ((Queue.config_enqueue p _).trans h.queue)
        · exact hq ▸ h.bounded.enqueue p
        · rw [show (s.act (.submit p)).begun = s.begun from rfl, h.begun]
          exact ((congrArg Queue.begun hq).trans (Queue.begun_enqueue h.bounded.tended p)).symm
  | part a =>
      have hq := s.desk.queue_act (a.at s.now)
      have hb : (s.act (.part a)).begun = s.begun +
          if (s.desk.queueAction? (a.at s.now)).any s.desk.link.queue.handsOver then 1 else 0 := rfl
      cases hqa : s.desk.queueAction? (a.at s.now) with
      | none =>
          rw [hqa] at hq hb
          exact hkept hq hb
      | some qa =>
          rw [hqa] at hq hb
          refine ⟨hbreaker, ?_, ?_, ?_⟩
          · exact (congrArg Queue.config hq).trans ((Queue.config_act _ qa).trans h.queue)
          · exact hq ▸ h.bounded.act qa
          · rw [hb, h.begun]
            exact ((congrArg Queue.begun hq).trans (h.bounded.tended.begun_act qa)).symm
  | endAttempt i wall o offset m =>
      have hsame := s.untouched_endAttempt i wall o offset m
      exact hkept hsame.queue hsame.begun
  | _ => exact hkept rfl rfl

theorem Fit.run (h : Fit c s) (moves : List Move) : Fit c (s.run moves) := by
  induction moves generalizing s with
  | nil => exact h
  | cons e moves ih => exact ih (h.act e)

/-! ## While the breaker is open -/

theorem submit_of_isOpen {l : Link} {now : Instant} (h : l.breaker.IsOpen now) (p : Packet) :
    l.submit now p =
      (.error (.circuitOpen l.name), { l with breaker := (l.breaker.allowRequest now).2 }) := by
  have hrefused := Breaker.allowRequest_of_isOpen h
  unfold submit
  generalize l.breaker.allowRequest now = asked at hrefused ⊢
  obtain ⟨allowed, b⟩ := asked
  obtain rfl : allowed = false := hrefused
  rfl

theorem ask_of_isOpen {d : Desk} {now : Instant} (h : d.link.breaker.IsOpen now) :
    (d.ask now).link.queue = d.link.queue ∧ (d.ask now).admitted = d.admitted ∧
      (d.ask now).announcing = d.announcing ∧
      (d.ask now).answers = d.answers ++ [.error (.circuitOpen d.link.name)] := by
  have hrefused := Breaker.allowRequest_of_isOpen h
  unfold Desk.ask
  generalize d.link.breaker.allowRequest now = asked at hrefused ⊢
  obtain ⟨allowed, b⟩ := asked
  obtain rfl : allowed = false := hrefused
  exact ⟨rfl, rfl, rfl, rfl⟩

/-- The packets that are in the queue or may still come into it, and the sends that were begun. -/
def prospects (d : Desk) : Nat := d.link.queue.load + d.admitted

/-- The packets that were taken or may still be. -/
def hopes (d : Desk) : Nat := d.taken + d.admitted

/-- Neither grows. -/
structure Shrinks (d' d : Desk) : Prop where
  prospects : prospects d' ≤ prospects d
  hopes : hopes d' ≤ hopes d

theorem Shrinks.trans {d'' d' d : Desk} (h' : Shrinks d'' d') (h : Shrinks d' d) : Shrinks d'' d :=
  ⟨Nat.le_trans h'.prospects h.prospects, Nat.le_trans h'.hopes h.hopes⟩

theorem shrinks_of_queue {d' d : Desk} (hq : d'.link.queue.load ≤ d.link.queue.load)
    (ht : d'.taken = d.taken) (ha : d'.admitted = d.admitted) : Shrinks d' d := by
  constructor
  · unfold Scene.prospects
    omega
  · unfold Scene.hopes
    omega

theorem taken_refused (answers : List (Except LinkError Unit)) (name : String) :
    Desk.accepted (answers ++ [.error (.circuitOpen name)]) = Desk.accepted answers :=
  Desk.accepted_concat answers _

theorem shrinks_offer (d : Desk) (p : Packet) : Shrinks (d.offer p) d := by
  obtain ⟨hload, -, -, -⟩ := Queue.push_counts p d.link.queue
  unfold Desk.offer
  split
  · exact shrinks_of_queue (Nat.le_refl _) rfl rfl
  · generalize d.link.queue.push p = pushed at hload ⊢
    obtain ⟨_ | _, q⟩ := pushed
    · constructor
      · change q.load + (d.admitted - 1) ≤ d.link.queue.load + d.admitted
        have hsame : q.load = d.link.queue.load := hload
        omega
      · change Desk.accepted (d.answers ++ [_]) + d.announcing + (d.admitted - 1) ≤
          Desk.accepted d.answers + d.announcing + d.admitted
        rw [Desk.accepted_concat]
        change Desk.accepted d.answers + 0 + d.announcing + (d.admitted - 1) ≤ _
        omega
    · constructor
      · change q.load + (d.admitted - 1) ≤ d.link.queue.load + d.admitted
        have hmore : q.load = d.link.queue.load + 1 := hload
        omega
      · change Desk.accepted d.answers + (d.announcing + 1) + (d.admitted - 1) ≤
          Desk.accepted d.answers + d.announcing + d.admitted
        omega

theorem queueAction?_ne_push {d : Desk} {a : Action} (ha : ∀ p, a ≠ .offer p) {qa : Queue.Action}
    (hqa : d.queueAction? a = some qa) (p : Packet) : qa ≠ .push p := by
  rintro rfl
  cases a with
  | ask now => cases hqa
  | offer p => exact ha p rfl
  | announce =>
      simp only [Desk.queueAction?] at hqa
      split at hqa <;> cases hqa
  | clear => cases hqa
  | step a =>
      simp only [Desk.queueAction?] at hqa
      split at hqa
      · next hinner =>
          obtain rfl := Option.some.inj hqa
          cases hinner
      · cases hqa
  | reply worker => cases hqa
  | note stamp => cases hqa
  | count =>
      simp only [Desk.queueAction?] at hqa
      split at hqa <;> cases hqa

theorem load_act_le {d : Desk} {a : Action} (ht : d.link.queue.Tended) (ha : ∀ p, a ≠ .offer p) :
    (d.act a).link.queue.load ≤ d.link.queue.load := by
  rw [d.queue_act a]
  cases hqa : d.queueAction? a with
  | none => exact Nat.le_refl _
  | some qa => exact ht.load_act_le (queueAction?_ne_push ha hqa)

theorem shrinks_announce {d : Desk} (ht : d.link.queue.Tended) : Shrinks d.announce d := by
  refine shrinks_of_queue (load_act_le (a := .announce) ht nofun) ?_ ?_
  · by_cases h : d.announcing = 0
    · rw [Desk.announce, if_pos h]
    · rw [Desk.announce, if_neg h]
      change Desk.accepted (d.answers ++ [.ok ()]) + (d.announcing - 1) =
        Desk.accepted d.answers + d.announcing
      rw [Desk.accepted_concat]
      change Desk.accepted d.answers + 1 + (d.announcing - 1) = _
      omega
  · unfold Desk.announce
    split <;> rfl

theorem same_of_isWhole {a : Action} (ha : (Move.part a).isWhole = true) (now : Instant) (d : Desk) :
    (d.act (a.at now)).admitted = d.admitted ∧ (d.act (a.at now)).announcing = d.announcing ∧
      (d.act (a.at now)).answers = d.answers := by
  cases a with
  | ask t => cases ha
  | offer p => cases ha
  | announce => cases ha
  | clear => exact ⟨rfl, rfl, rfl⟩
  | step qa =>
      simp only [Action.at, Desk.act]
      split <;> exact ⟨rfl, rfl, rfl⟩
  | reply worker =>
      simp only [Action.at, Desk.act, Desk.reply]
      split <;> exact ⟨rfl, rfl, rfl⟩
  | note stamp =>
      simp only [Action.at, Desk.act, Desk.note]
      split <;> exact ⟨rfl, rfl, rfl⟩
  | count =>
      simp only [Action.at, Desk.act, Desk.count]
      split <;> exact ⟨rfl, rfl, rfl⟩

/-- While the breaker is open nothing is let in that was not on its way already. -/
theorem shrinks_act {d : Desk} {now : Instant} (ht : d.link.queue.Tended)
    (hopen : d.link.breaker.IsOpen now) (a : Action) : Shrinks (d.act (a.at now)) d := by
  have hwhole (ha : (Move.part a).isWhole = true) : Shrinks (d.act (a.at now)) d := by
    obtain ⟨hadmitted, hannouncing, hanswers⟩ := same_of_isWhole ha now d
    refine shrinks_of_queue (load_act_le ht ?_) ?_ hadmitted
    · intro p hp
      cases a with
      | offer p => cases ha
      | _ => cases hp
    · rw [Desk.taken, hanswers, hannouncing]
      rfl
  cases a with
  | ask t =>
      obtain ⟨hq, hadmitted, hannouncing, hanswers⟩ := ask_of_isOpen hopen
      refine shrinks_of_queue (Nat.le_of_eq (congrArg Queue.load hq)) ?_ hadmitted
      change Desk.accepted (d.ask now).answers + (d.ask now).announcing = _
      rw [hanswers, hannouncing, taken_refused]
      rfl
  | offer p => exact shrinks_offer d p
  | announce => exact shrinks_announce ht
  | _ => exact hwhole rfl

theorem Fit.shrinks (h : Fit c s) (hopen : s.IsOpen) (e : Move) :
    Shrinks (s.act e).desk s.desk := by
  cases e with
  | submit p =>
      have hsubmit := submit_of_isOpen hopen p
      refine shrinks_of_queue ?_ ?_ rfl
      · exact Nat.le_of_eq (congrArg (fun r => r.2.queue.load) hsubmit)
      · change Desk.accepted (s.desk.answers ++ [(s.desk.link.submit s.now p).1]) +
          s.desk.announcing = _
        rw [hsubmit, taken_refused]
        rfl
  | part a => exact shrinks_act h.bounded.tended hopen a
  | endAttempt i wall o offset m =>
      have hsame := s.untouched_endAttempt i wall o offset m
      refine shrinks_of_queue (Nat.le_of_eq (congrArg Queue.load hsame.queue)) ?_ hsame.admitted
      rw [Desk.taken, hsame.answers, hsame.announcing]
      rfl
  | _ => exact shrinks_of_queue (Nat.le_refl _) rfl rfl

/-! ## Periods in which the breaker is open -/

/-- The breaker is open before, after and in between these moves. -/
def OpenThrough (moves : List Move) (s : Scene) : Prop :=
  ∀ part, part <+: moves → (s.run part).IsOpen

instance (moves : List Move) (s : Scene) : Decidable (OpenThrough moves s) :=
  decidable_of_iff (∀ part ∈ moves.inits, (s.run part).IsOpen) (by
    simp only [OpenThrough, List.mem_inits])

theorem OpenThrough.isOpen {moves : List Move} (h : OpenThrough moves s) : s.IsOpen :=
  h [] List.nil_prefix

theorem OpenThrough.tail {e : Move} {moves : List Move} (h : OpenThrough (e :: moves) s) :
    OpenThrough moves (s.act e) :=
  fun part hpart => h (e :: part) (List.cons_prefix_cons.2 ⟨rfl, hpart⟩)

theorem phase_act (hopen : s.IsOpen) {e : Move} (hstill : (s.act e).IsOpen) :
    (s.act e).desk.link.breaker.phase = s.desk.link.breaker.phase := by
  obtain ⟨o, ho⟩ := s.breaker_act e
  rw [ho]
  rcases Breaker.phase_act_of_isOpen hopen o with hsame | hclosed
  · exact hsame
  · obtain ⟨since, hp, -⟩ := Breaker.isOpen_iff.1 hstill
    rw [ho, hclosed] at hp
    cases hp

/-- The deadline of an open breaker is not moved. -/
theorem phase_run {moves : List Move} (h : OpenThrough moves s) :
    (s.run moves).desk.link.breaker.phase = s.desk.link.breaker.phase := by
  induction moves generalizing s with
  | nil => rfl
  | cons e moves ih => exact (ih h.tail).trans (phase_act h.isOpen h.tail.isOpen)

theorem Fit.shrinks_run (h : Fit c s) {moves : List Move} (hopen : OpenThrough moves s) :
    Shrinks (s.run moves).desk s.desk := by
  induction moves generalizing s with
  | nil => exact ⟨Nat.le_refl _, Nat.le_refl _⟩
  | cons e moves ih => exact (ih (h.act e) hopen.tail).trans (h.shrinks hopen.isOpen e)

/-- A breaker opens now, by a failure. -/
theorem phase_of_opens {e : Move} (hclosed : ¬ s.IsOpen) (hopen : (s.act e).IsOpen) :
    (s.act e).desk.link.breaker.phase = .opened (s.act e).now := by
  by_cases hnow : (s.act e).now = s.now
  · obtain ⟨o, ho⟩ := s.breaker_act e
    have hopen' : (s.act e).desk.link.breaker.IsOpen (s.act e).now := hopen
    rw [ho, hnow] at hopen' ⊢
    exact Breaker.phase_act_of_opens hclosed hopen'
  · cases e with
    | advance d => exact absurd (Breaker.isOpen_of_later (Nat.le_add_right _ _) hopen) hclosed
    | endAttempt i wall o offset m =>
        exact absurd (s.untouched_endAttempt i wall o offset m).now hnow
    | _ => exact absurd rfl hnow

/-! ## Submissions with nothing in between -/

/-- No caller is between the breaker and its answer. -/
def Idle (s : Scene) : Prop := s.desk.admitted = 0 ∧ s.desk.announcing = 0

theorem Idle.act (h : s.Idle) {e : Move} (he : e.isWhole = true) : (s.act e).Idle := by
  cases e with
  | part a =>
      obtain ⟨hadmitted, hannouncing, -⟩ := same_of_isWhole he s.now s.desk
      exact ⟨hadmitted.trans h.1, hannouncing.trans h.2⟩
  | endAttempt i wall o offset m =>
      have hsame := s.untouched_endAttempt i wall o offset m
      exact ⟨hsame.admitted.trans h.1, hsame.announcing.trans h.2⟩
  | _ => exact h

theorem Idle.run (h : s.Idle) {moves : List Move} (hm : ∀ e ∈ moves, e.isWhole = true) :
    (s.run moves).Idle := by
  induction moves generalizing s with
  | nil => exact h
  | cons e moves ih =>
      rw [List.forall_mem_cons] at hm
      exact ih (h.act hm.1) hm.2

def Refusal (answer : Except LinkError Unit) : Prop := ∃ link, answer = .error (.circuitOpen link)

theorem answers_act (hopen : s.IsOpen) {e : Move} (he : e.isWhole = true) :
    ∃ refusals, (s.act e).desk.answers = s.desk.answers ++ refusals ∧ ∀ a ∈ refusals, Refusal a := by
  have hsame (h : (s.act e).desk.answers = s.desk.answers) :
      ∃ refusals, (s.act e).desk.answers = s.desk.answers ++ refusals ∧
        ∀ a ∈ refusals, Refusal a :=
    ⟨[], h.trans (List.append_nil _).symm, fun a ha => by cases ha⟩
  cases e with
  | submit p =>
      refine ⟨[.error (.circuitOpen s.desk.link.name)], ?_, fun a ha => ?_⟩
      · change s.desk.answers ++ [(s.desk.link.submit s.now p).1] = _
        rw [submit_of_isOpen hopen p]
      · exact ⟨_, List.mem_singleton.1 ha⟩
  | part a => exact hsame (same_of_isWhole he s.now s.desk).2.2
  | endAttempt i wall o offset m =>
      exact hsame (s.untouched_endAttempt i wall o offset m).answers
  | _ => exact hsame rfl

theorem answers_run {moves : List Move} (hopen : OpenThrough moves s)
    (hm : ∀ e ∈ moves, e.isWhole = true) :
    ∃ refusals, (s.run moves).desk.answers = s.desk.answers ++ refusals ∧
      ∀ a ∈ refusals, Refusal a := by
  induction moves generalizing s with
  | nil => exact ⟨[], (List.append_nil _).symm, fun a ha => by cases ha⟩
  | cons e moves ih =>
      rw [List.forall_mem_cons] at hm
      obtain ⟨first, hfirst, hrefused⟩ := answers_act hopen.isOpen hm.1
      obtain ⟨others, hothers, hothersRefused⟩ := ih hopen.tail hm.2
      refine ⟨first ++ others, ?_, fun a ha => ?_⟩
      · refine hothers.trans ?_
        rw [hfirst, List.append_assoc]
      · rcases List.mem_append.1 ha with h | h
        · exact hrefused a h
        · exact hothersRefused a h

/-! ## The bound -/

/-- What happens between the opening of a breaker, at `opening`, and a later time in the same
period. -/
structure Outage (c : Config) (opening later : Scene) : Prop where
  /-- Only callers that had passed the breaker before can still have their packets taken. -/
  taken_le : later.desk.taken ≤ opening.desk.taken + opening.desk.admitted
  begun_le : later.begun ≤ opening.begun + opening.stock + opening.desk.admitted
  stock_le : opening.stock ≤ c.queue.capacity.val + 1
  /-- Whatever became of the sends, the period ends by timeout at the same moment. -/
  deadline : ∀ t, later.desk.link.breaker.IsOpen t ↔ t.since opening.now < c.breaker.recoveryTimeout

theorem Fit.outage (h : Fit c s) {e : Move} {during : List Move} (hclosed : ¬ s.IsOpen)
    (hopen : OpenThrough during (s.act e)) : Outage c (s.act e) ((s.act e).run during) := by
  have hopening := h.act e
  have hlater := hopening.run during
  have hshrinks := hopening.shrinks_run hopen
  constructor
  · exact Nat.le_trans (Nat.le_add_right _ _) hshrinks.hopes
  · have hprospects := hshrinks.prospects
    unfold prospects at hprospects
    rw [Queue.load_eq, Queue.load_eq, ← hlater.begun, ← hopening.begun] at hprospects
    change ((s.act e).run during).begun ≤
      (s.act e).begun + (s.act e).desk.link.queue.stock + (s.act e).desk.admitted
    omega
  · have hstock := hopening.bounded.stock_le
    rwa [hopening.queue] at hstock
  · intro t
    rw [Breaker.isOpen_iff, phase_run hopen, phase_of_opens hclosed hopen.isOpen, hlater.breaker]
    constructor
    · rintro ⟨since, hsince, hearly⟩
      rwa [← Breaker.Phase.opened.inj hsince] at hearly
    · intro hearly
      exact ⟨_, rfl, hearly⟩

/-- The breaker of a new link opens in a step, and stays open for a while. If no caller was left
between the breaker and the queue, nothing is accepted in that time, and no more sends are begun
than there were packets in stock. -/
theorem outage_bounds_traffic {l : Link} (hl : Fresh c l) (now : Instant) (before : List Move)
    (opens : Move) (during : List Move) (hclosed : ¬ ((begin l now).run before).IsOpen)
    (hopen : OpenThrough during (((begin l now).run before).act opens)) :
    let opening := ((begin l now).run before).act opens
    let later := opening.run during
    Outage c opening later ∧
      ((∀ e ∈ before ++ opens :: during, e.isWhole = true) →
        later.begun ≤ opening.begun + opening.stock ∧
          ∃ refusals, later.desk.answers = opening.desk.answers ++ refusals ∧
            ∀ a ∈ refusals, Refusal a) := by
  dsimp only
  have houtage := ((fit_begin hl now).run before).outage hclosed hopen
  refine ⟨houtage, fun hwhole => ?_⟩
  rw [List.forall_mem_append, List.forall_mem_cons] at hwhole
  obtain ⟨hbefore, hopens, hduring⟩ := hwhole
  have hidle : (begin l now).Idle := ⟨rfl, rfl⟩
  have hopening := (hidle.run hbefore).act hopens
  refine ⟨?_, answers_run hopen hduring⟩
  have hbegun := houtage.begun_le
  rwa [hopening.1, Nat.add_zero] at hbegun

/-- Settings under which one failure opens the breaker. -/
def brittle : Config :=
  ⟨⟨1, Duration.ofSecs 30⟩, Reconnect.Config.meshRadio, ⟨2⟩, .overlayToMesh⟩

def brittleLink : Link where
  name := "mesh"
  outbound := .overlayToMesh
  breaker := ⟨"mesh", brittle.breaker, .closed, 0⟩
  strategy := ⟨"mesh", brittle.reconnect, 0, none⟩
  queue := ⟨"mesh", brittle.queue, [], 0, 0, 0, false, [], none, none⟩

/-- The worker sends a packet, which fails. -/
def failingSend : List Move := [
  .part (.step (.look 0)),
  .part (.step (.pace 0 none)),
  .part (.step (.handOver 0 ⟨0, Duration.zero, .failed (.ofText "no route")⟩)),
  .part (.reply 0)]

def report : Move := .part (.note ⟨0, Timestamp.ofEpochNanos 0⟩)

/-- Two packets are submitted, and the send of the first one has failed. -/
def failedOnce : List Move :=
  [.part (.step .start), .submit ByteArray.empty, .submit ByteArray.empty] ++ failingSend

/-- The failure is told to the end. A third packet is refused, and the send of the second one fails
as well. -/
def failedAgain : List Move :=
  [report, report, .part .count, .submit ByteArray.empty] ++ failingSend ++
    [report, .advance (Duration.ofSecs 29)]

theorem outage_bounds_traffic_brittle :
    Fresh brittle brittleLink ∧
      ¬ ((begin brittleLink 0).run failedOnce).IsOpen ∧
      OpenThrough failedAgain (((begin brittleLink 0).run failedOnce).act report) ∧
      let opening := ((begin brittleLink 0).run failedOnce).act report
      let later := opening.run failedAgain
      Outage brittle opening later ∧
        opening.stock = 1 ∧ opening.begun = 1 ∧ later.begun = 2 ∧
        later.begun ≤ opening.begun + opening.stock := by
  have hl : Fresh brittle brittleLink := ⟨rfl, rfl⟩
  have hclosed : ¬ ((begin brittleLink 0).run failedOnce).IsOpen := by decide
  have hopen : OpenThrough failedAgain (((begin brittleLink 0).run failedOnce).act report) := by
    decide
  obtain ⟨houtage, hwhole⟩ := outage_bounds_traffic hl 0 failedOnce report failedAgain hclosed hopen
  exact ⟨hl, hclosed, hopen, houtage, by decide, by decide, by decide, (hwhole (by decide)).1⟩

end Scene

end LinkReliability.Link
