import LinkReliability.Document
import LinkReliability.Failure
import LinkReliability.Text.LowerCase

/-!
# The category of a failure

The texts along the whole chain are searched for known phrases, in any case of letters. A phrase
of a permanent fault outweighs those of transient ones, and both outweigh the type of a failure.
Only transient failures are worth another try.
-/

namespace LinkReliability

inductive Category where
  | transient
  | permanent
  | unknown
deriving DecidableEq, Repr

namespace Category

def name : Category → String
  | transient => "transient"
  | permanent => "permanent"
  | unknown => "unknown"

def named? : String → Option Category
  | "transient" => some transient
  | "permanent" => some permanent
  | "unknown" => some unknown
  | _ => none

def isRetriable (c : Category) : Bool := c = transient

def ofDocument? : Document → Option Category := Document.choice? named?

def toDocument (c : Category) : Document := .text c.name

/-- Phrases of faults in the settings or in the environment. -/
def permanentPhrases : List String := [
  "signal only works in main thread",
  "reinitialise",
  "already running",
  "permission denied",
  "no such device",
  "module not found",
  "import error"]

/-- Phrases of conditions that pass by themselves. -/
def transientPhrases : List String := [
  "connection reset",
  "connection refused",
  "broken pipe",
  "timeout",
  "timed out",
  "temporarily unavailable",
  "network unreachable",
  "no route to host",
  "address already in use",
  "serial port busy",
  "device disconnected",
  "usb disconnect",
  "resource temporarily unavailable"]

/-- Whether one of the phrases stands in a text that is already in lower case. -/
def mentions (phrases : List String) (lowered : List Char) : Bool :=
  phrases.any (fun p => Text.contains p.toList lowered)

def ofMessage? (message : String) : Option Category :=
  let lowered := Text.lower message.toList
  if mentions permanentPhrases lowered then some permanent
  else if mentions transientPhrases lowered then some transient
  else none

def ofOrigin? : Origin → Option Category
  | .io .permissionDenied => some permanent
  | .io _ => some transient
  | .elapsed => some transient
  | .unknown => none

def ofFailure (f : Failure) : Category :=
  let verdicts := f.chain.map (fun l => ofMessage? l.text)
  if verdicts.contains (some permanent) then permanent
  else if verdicts.contains (some transient) then transient
  else (f.chain.findSome? (fun l => ofOrigin? l.origin)).getD unknown

end Category

end LinkReliability
