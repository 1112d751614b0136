import LinkReliability.Probe

/-!
# The course of a probe

Checks are registered, callers run checks by hand, loops are started and stopped and go through
their cycles, and every check that is under way ends some time later. All of this comes in any
order. The course of a probe is the probe together with the callers. It keeps note of how often each
service was registered, from which registration each check was taken, and which results came in.
-/

namespace LinkReliability.Probe

/-! ## Checks -/

/-- What a check that ends comes to. There is no result when the text of a failure cannot be
formatted. -/
def CheckRun.result? (stamp : Reading) (run : CheckRun) : Option CheckResult :=
  run.verdict?.map (fun v => ⟨v.healthy, v.reason, stamp.now.since run.started, stamp.wall⟩)

theorem conclude_eq (stamp : Reading) (run : CheckRun) (p : Probe) :
    p.conclude stamp run = (run.result? stamp).map (fun r => (r, p.fold run.service r)) := by
  unfold conclude CheckRun.result?
  rw [Option.map_map]
  rfl

/-- The call of a check: when it is made, how it goes, and what the check does from then on, if that
is something else. -/
structure Attempt where
  started : Instant
  now : Tick
  call : Call Verdict
  next : Option Check

def Attempt.run (t : Attempt) (p : Probe) (name : String) : CheckRun :=
  ⟨name, t.started, t.call, t.now.after p.config.checkTimeout⟩

def adopt (name : String) (next : Option Check) (p : Probe) : Probe :=
  next.elim p (fun check => p.setCheck name check)

def phase? (p : Probe) (k : Nat) : Option LoopPhase := (p.loop? k).map Loop.phase

def LoopPhase.run? : LoopPhase → Option CheckRun
  | .checking run _ => some run
  | _ => none

def LoopPhase.turn? : LoopPhase → Option String
  | .cycle (name :: _) => some name
  | _ => none

/-- The service whose turn it is in the cycle of loop `k`. -/
def turn? (p : Probe) (k : Nat) : Option String := (p.phase? k).bind LoopPhase.turn?

def isRegistered (p : Probe) (name : String) : Bool := (p.health? name).isSome

/-! ## Courses -/

/-- Who runs a check. -/
inductive Runner where
  | loop (k : Nat)
  | caller (i : Nat)
deriving DecidableEq

inductive Caller where
  | waiting (run : CheckRun)
  | unregistered
  | answered (result : CheckResult)
  /-- The text of the failure could not be formatted, and the caller unwinds. -/
  | unwound
  /-- The caller did not wait for the answer. -/
  | gone
deriving DecidableEq

def Caller.run? : Caller → Option CheckRun
  | .waiting run => some run
  | _ => none

/-- A result that was folded into the health of a service, with the number of the registration from
which its check was taken. -/
structure Folded where
  registration : Nat
  result : CheckResult
deriving DecidableEq

structure Course where
  probe : Probe
  /-- Those who asked for a check by hand, the latest last. -/
  callers : List Caller
  /-- How often a service was registered. -/
  registrations : String → Nat
  /-- The registration from which the check of a runner was taken. -/
  source : Runner → Nat
  /-- The results of a service since it was last registered, oldest first. -/
  results : String → List Folded

inductive Action where
  | register (name : String) (check : Check)
  | subscribe (s : Subscription)
  | start
  | requestStop
  | endStop (k : Nat)
  /-- One more caller asks for a check by hand. -/
  | ask (name : String) (t : Attempt)
  /-- The check of caller `i` ends. -/
  | answer (i : Nat) (stamp : Reading)
  | leave (i : Nat)
  | enterCycle (k : Nat)
  | beginCheck (k : Nat) (t : Attempt)
  | skipCheck (k : Nat)
  | endCheck (k : Nat) (now : Tick) (stamp : Reading)
  | endCycle (k : Nat) (now : Tick)
  | endPause (k : Nat)
  | exitLoop (k : Nat)

namespace Action

/-- The service that is registered. -/
def registered? : Action → Option String
  | register name _ => some name
  | _ => none

def subscribed? : Action → Option Subscription
  | subscribe s => some s
  | _ => none

/-- Whose check, or whose loop, goes on. -/
def runner? : Action → Option Runner
  | answer i _ => some (.caller i)
  | leave i => some (.caller i)
  | enterCycle k => some (.loop k)
  | beginCheck k _ => some (.loop k)
  | skipCheck k => some (.loop k)
  | endCheck k _ _ => some (.loop k)
  | endCycle k _ => some (.loop k)
  | endPause k => some (.loop k)
  | exitLoop k => some (.loop k)
  | _ => none

end Action

namespace Course

def begin (p : Probe) : Course := ⟨p, [], fun _ => 0, fun _ => 0, fun _ => []⟩

/-- The check that a runner has under way. -/
def underWay? (d : Course) : Runner → Option CheckRun
  | .loop k => (d.probe.phase? k).bind LoopPhase.run?
  | .caller i => d.callers[i]?.bind Caller.run?

/-- The check that a step begins. -/
def begun? (d : Course) : Action → Option (Runner × CheckRun)
  | .ask name t =>
    if d.probe.isRegistered name then some (.caller d.callers.length, t.run d.probe name) else none
  | .beginCheck k t =>
    match d.probe.turn? k with
    | some name =>
      if d.probe.isRegistered name then some (.loop k, t.run d.probe name) else none
    | none => none
  | _ => none

/-- The check that a step brings to its end. -/
def ended? (d : Course) : Action → Option (Runner × CheckRun × Reading)
  | .answer i stamp => (d.underWay? (.caller i)).map (fun run => (.caller i, run, stamp))
  | .endCheck k _ stamp => (d.underWay? (.loop k)).map (fun run => (.loop k, run, stamp))
  | _ => none

/-- The result that a step folds, and its service. -/
def folded? (d : Course) (a : Action) : Option (String × Folded) :=
  (d.ended? a).bind (fun e =>
    (e.2.1.result? e.2.2).map (fun r => (e.2.1.service, ⟨d.source e.1, r⟩)))

/-! ### Steps -/

def probeAfter (d : Course) : Action → Probe
  | .register name check => d.probe.register name check
  | .subscribe s => d.probe.subscribe s
  | .start => d.probe.start
  | .requestStop => d.probe.requestStop
  | .endStop k => d.probe.endStop k
  | .ask name t => if d.probe.isRegistered name then d.probe.adopt name t.next else d.probe
  | .answer i stamp =>
    match d.underWay? (.caller i) with
    | some run => (d.probe.conclude stamp run).elim d.probe Prod.snd
    | none => d.probe
  | .leave _ => d.probe
  | .enterCycle k => d.probe.enterCycle k
  | .beginCheck k t =>
    match d.probe.turn? k with
    | some name =>
      if d.probe.isRegistered name then
        (d.probe.adopt name t.next).beginCheck k (t.run d.probe name)
      else d.probe
    | none => d.probe
  | .skipCheck k =>
    match d.probe.turn? k with
    | some name => if d.probe.isRegistered name then d.probe else d.probe.skipCheck k
    | none => d.probe
  | .endCheck k now stamp => d.probe.endCheck k now stamp
  | .endCycle k now => d.probe.endCycle k now
  | .endPause k => d.probe.endPause k
  | .exitLoop k => d.probe.exitLoop k

def callersAfter (d : Course) : Action → List Caller
  | .ask name t =>
    d.callers ++ [if d.probe.isRegistered name then .waiting (t.run d.probe name)
      else .unregistered]
  | .answer i stamp =>
    match d.underWay? (.caller i) with
    | some run => d.callers.set i ((run.result? stamp).elim .unwound .answered)
    | none => d.callers
  | .leave i => if (d.underWay? (.caller i)).isSome then d.callers.set i .gone else d.callers
  | _ => d.callers

def registrationsAfter (d : Course) (a : Action) (name : String) : Nat :=
  if a.registered? = some name then d.registrations name + 1 else d.registrations name

def sourceAfter (d : Course) (a : Action) (w : Runner) : Nat :=
  match d.begun? a with
  | some (w', run) => if w = w' then d.registrations run.service else d.source w
  | none => d.source w

def resultsAfter (d : Course) (a : Action) (name : String) : List Folded :=
  if a.registered? = some name then []
  else
    match d.folded? a with
    | some (service, f) => if name = service then d.results name ++ [f] else d.results name
    | none => d.results name

/-- A step that someone else has to take first changes nothing. -/
def act (d : Course) (a : Action) : Course :=
  ⟨d.probeAfter a, d.callersAfter a, d.registrationsAfter a, d.sourceAfter a, d.resultsAfter a⟩

def run (actions : List Action) (d : Course) : Course := actions.foldl act d

theorem run_cons (a : Action) (actions : List Action) (d : Course) :
    d.run (a :: actions) = (d.act a).run actions := rfl

theorem run_append (first second : List Action) (d : Course) :
    d.run (first ++ second) = (d.run first).run second := List.foldl_append

theorem run_concat (actions : List Action) (a : Action) (d : Course) :
    d.run (actions ++ [a]) = (d.run actions).act a := run_append actions [a] d

/-- Settings under which one result decides. -/
def hasty : Config := ⟨Duration.ofSecs 30, 1, 1, Duration.ofSecs 10⟩

end Course

end LinkReliability.Probe
