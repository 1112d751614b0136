/-!
# Failures of collaborators

A send, a connect or a check that fails hands back a failure: a text of its own and the chain of
failures that caused it, outermost first.
-/

namespace LinkReliability

/-- The kinds that an input or output failure can have. -/
inductive IoKind where
  | notFound
  | permissionDenied
  | connectionRefused
  | connectionReset
  | connectionAborted
  | notConnected
  | addrInUse
  | addrNotAvailable
  | brokenPipe
  | alreadyExists
  | wouldBlock
  | invalidInput
  | invalidData
  | timedOut
  | writeZero
  | interrupted
  | unsupported
  | unexpectedEof
  | outOfMemory
  | other
  | hostUnreachable
  | networkUnreachable
  | networkDown
  | resourceBusy
deriving DecidableEq, Repr

def IoKind.text : IoKind → String
  | notFound => "entity not found"
  | permissionDenied => "permission denied"
  | connectionRefused => "connection refused"
  | connectionReset => "connection reset"
  | connectionAborted => "connection aborted"
  | notConnected => "not connected"
  | addrInUse => "address in use"
  | addrNotAvailable => "address not available"
  | brokenPipe => "broken pipe"
  | alreadyExists => "entity already exists"
  | wouldBlock => "operation would block"
  | invalidInput => "invalid input parameter"
  | invalidData => "invalid data"
  | timedOut => "timed out"
  | writeZero => "write zero"
  | interrupted => "operation interrupted"
  | unsupported => "unsupported"
  | unexpectedEof => "unexpected end of file"
  | outOfMemory => "out of memory"
  | other => "other error"
  | hostUnreachable => "host unreachable"
  | networkUnreachable => "network unreachable"
  | networkDown => "network down"
  | resourceBusy => "resource busy"

def IoKind.named? : String → Option IoKind
  | "NotFound" => some .notFound
  | "PermissionDenied" => some .permissionDenied
  | "ConnectionRefused" => some .connectionRefused
  | "ConnectionReset" => some .connectionReset
  | "ConnectionAborted" => some .connectionAborted
  | "NotConnected" => some .notConnected
  | "AddrInUse" => some .addrInUse
  | "AddrNotAvailable" => some .addrNotAvailable
  | "BrokenPipe" => some .brokenPipe
  | "AlreadyExists" => some .alreadyExists
  | "WouldBlock" => some .wouldBlock
  | "InvalidInput" => some .invalidInput
  | "InvalidData" => some .invalidData
  | "TimedOut" => some .timedOut
  | "WriteZero" => some .writeZero
  | "Interrupted" => some .interrupted
  | "Unsupported" => some .unsupported
  | "UnexpectedEof" => some .unexpectedEof
  | "OutOfMemory" => some .outOfMemory
  | "Other" => some .other
  | "HostUnreachable" => some .hostUnreachable
  | "NetworkUnreachable" => some .networkUnreachable
  | "NetworkDown" => some .networkDown
  | "ResourceBusy" => some .resourceBusy
  | _ => none

/-- Where a failure comes from, as far as its type tells. -/
inductive Origin where
  | io (kind : IoKind)
  | elapsed
  | unknown
deriving DecidableEq, Repr

structure Layer where
  text : String
  origin : Origin
deriving DecidableEq, Repr

structure Failure where
  outer : Layer
  causes : List Layer
deriving DecidableEq, Repr

namespace Failure

instance : Inhabited Failure := ⟨⟨⟨"", .unknown⟩, []⟩⟩

def text (f : Failure) : String := f.outer.text

/-- The failure itself and everything that caused it. -/
def chain (f : Failure) : List Layer := f.outer :: f.causes

def ofText (s : String) : Failure := ⟨⟨s, .unknown⟩, []⟩

/-- A failure with a text of its own around another one. -/
def wrap (layer : Layer) (cause : Failure) : Failure := ⟨layer, cause.chain⟩

def ofIo (kind : IoKind) (text : String) : Failure := ⟨⟨text, .io kind⟩, []⟩

def ofIoKind (kind : IoKind) : Failure := ofIo kind kind.text

/-- An input or output failure that takes the place of another one: it has the text of the other
and is caused by what caused the other. -/
def ofIoAround (kind : IoKind) (inner : Failure) : Failure :=
  ⟨⟨inner.text, .io kind⟩, inner.causes⟩

def elapsed : Failure := ⟨⟨"deadline has elapsed", .elapsed⟩, []⟩

end Failure

end LinkReliability
