import LinkReliability.Failure.Category
import LinkReliability.Timestamp

/-!
# What the links report

Transitions of connections, relayed messages by direction, and errors by category.
-/

namespace LinkReliability

/-- The way a relayed message takes. -/
inductive Direction where
  | meshToOverlay
  | overlayToMesh
deriving DecidableEq, Repr

namespace Direction

def name : Direction → String
  | meshToOverlay => "mesh_to_overlay"
  | overlayToMesh => "overlay_to_mesh"

def named? : String → Option Direction
  | "mesh_to_overlay" => some meshToOverlay
  | "overlay_to_mesh" => some overlayToMesh
  | _ => none

def ofDocument? : Document → Option Direction := Document.choice? named?

def toDocument (d : Direction) : Document := .text d.name

end Direction

inductive EventKind where
  | connected
  | disconnected
  | error
  | retry
deriving DecidableEq, Repr

namespace EventKind

def name : EventKind → String
  | connected => "connected"
  | disconnected => "disconnected"
  | error => "error"
  | retry => "retry"

def named? : String → Option EventKind
  | "connected" => some connected
  | "disconnected" => some disconnected
  | "error" => some error
  | "retry" => some retry
  | _ => none

def ofDocument? : Document → Option EventKind := Document.choice? named?

def toDocument (k : EventKind) : Document := .text k.name

end EventKind

/-- The health of the bridge as a whole. -/
inductive BridgeStatus where
  | healthy
  | degraded
  | offline
deriving DecidableEq, Repr

namespace BridgeStatus

def name : BridgeStatus → String
  | healthy => "healthy"
  | degraded => "degraded"
  | offline => "offline"

def named? : String → Option BridgeStatus
  | "healthy" => some healthy
  | "degraded" => some degraded
  | "offline" => some offline
  | _ => none

def inspect : BridgeStatus → String
  | healthy => "Healthy"
  | degraded => "Degraded"
  | offline => "Offline"

def ofDocument? : Document → Option BridgeStatus := Document.choice? named?

def toDocument (s : BridgeStatus) : Document := .text s.name

end BridgeStatus

structure DirectionCounts where
  meshToOverlay : Nat
  overlayToMesh : Nat
deriving DecidableEq, Repr

namespace DirectionCounts

def zero : DirectionCounts := ⟨0, 0⟩

def get (c : DirectionCounts) : Direction → Nat
  | .meshToOverlay => c.meshToOverlay
  | .overlayToMesh => c.overlayToMesh

def add (c : DirectionCounts) : Direction → DirectionCounts
  | .meshToOverlay => { c with meshToOverlay := c.meshToOverlay + 1 }
  | .overlayToMesh => { c with overlayToMesh := c.overlayToMesh + 1 }

def total (c : DirectionCounts) : Nat := c.meshToOverlay + c.overlayToMesh

def ofDocument? (d : Document) : Option DirectionCounts :=
  match d.fields? ["mesh_to_overlay", "overlay_to_mesh"] with
  | some [mesh, overlay] => do
    let mesh ← Document.required? Document.count64? mesh
    let overlay ← Document.required? Document.count64? overlay
    some ⟨mesh.val, overlay.val⟩
  | _ => none

def toDocument (c : DirectionCounts) : Document :=
  .record [("mesh_to_overlay", .nat c.meshToOverlay), ("overlay_to_mesh", .nat c.overlayToMesh)]

end DirectionCounts

structure ErrorCounts where
  transient : Nat
  permanent : Nat
  unknown : Nat
deriving DecidableEq, Repr

namespace ErrorCounts

def zero : ErrorCounts := ⟨0, 0, 0⟩

def add (c : ErrorCounts) : Category → ErrorCounts
  | .transient => { c with transient := c.transient + 1 }
  | .permanent => { c with permanent := c.permanent + 1 }
  | .unknown => { c with unknown := c.unknown + 1 }

def ofCategories (cs : List Category) : ErrorCounts := cs.foldl add zero

def total (c : ErrorCounts) : Nat := c.transient + c.permanent + c.unknown

def ofDocument? (d : Document) : Option ErrorCounts :=
  match d.fields? ["transient", "permanent", "unknown"] with
  | some [transient, permanent, unknown] => do
    let transient ← Document.required? Document.count64? transient
    let permanent ← Document.required? Document.count64? permanent
    let unknown ← Document.required? Document.count64? unknown
    some ⟨transient.val, permanent.val, unknown.val⟩
  | _ => none

def toDocument (c : ErrorCounts) : Document :=
  .record [("transient", .nat c.transient), ("permanent", .nat c.permanent),
    ("unknown", .nat c.unknown)]

end ErrorCounts

structure ConnectionEvent where
  timestamp : Timestamp
  service : String
  kind : EventKind
  detail : String
deriving DecidableEq, Repr

def ConnectionEvent.toDocument (e : ConnectionEvent) : Document :=
  .record [("timestamp", .text e.timestamp.text), ("service", .text e.service),
    ("event", e.kind.toDocument), ("detail", .text e.detail)]

structure ErrorEvent where
  timestamp : Timestamp
  service : String
  category : Category
  message : String
deriving DecidableEq, Repr

namespace ErrorEvent

/-- The number of characters of a message that are kept. -/
def messageLimit : Nat := 200

def toDocument (e : ErrorEvent) : Document :=
  .record [("timestamp", .text e.timestamp.text), ("service", .text e.service),
    ("category", e.category.toDocument), ("message", .text e.message),
    ("is_retriable", .bool e.category.isRetriable)]

end ErrorEvent

end LinkReliability
