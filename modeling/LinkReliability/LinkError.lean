import LinkReliability.ConfigError

/-!
# Errors of the life of a link

What starting, stopping, submitting and connecting can end with, apart from the failures that the
collaborators report themselves.
-/

namespace LinkReliability

inductive LinkError where
  | invalidConfig (cause : ConfigError)
  /-- The worker was told to stop and is still running. -/
  | shutdownTimeout (worker : String) (timeout : Duration)
  | workerPanicked (worker message : String)
  | circuitOpen (link : String)
  | queueFull (link : String)
  | attemptsExhausted (link : String) (attempts : Nat)
  | cancelled (link : String)
deriving DecidableEq, Repr

namespace LinkError

def text : LinkError → String
  | invalidConfig e => e.text
  | shutdownTimeout worker timeout => worker ++ " did not stop within " ++ timeout.text
  | workerPanicked worker message => worker ++ " task panicked: " ++ message
  | circuitOpen link => "Circuit breaker open for link '" ++ link ++ "'"
  | queueFull link => "Transmit queue full for link '" ++ link ++ "'"
  | attemptsExhausted link attempts =>
    "Reconnect attempts exhausted for link '" ++ link ++ "' after " ++ Nat.repr attempts ++
      " tries"
  | cancelled link => "Operation on link '" ++ link ++ "' cancelled"

/-- Whether the error comes from shutting down and not from a fault. -/
def isCancellation : LinkError → Bool
  | cancelled _ => true
  | _ => false

end LinkError

end LinkReliability
