import LinkReliability.Check
import LinkReliability.Document.Json
import LinkReliability.Failure.System
import LinkReliability.Timeline.BridgeRun
import LinkReliability.Proofs.Queue.Capacity
import LinkReliability.Proofs.Queue.Delivery
import LinkReliability.Proofs.Queue.Panic
import LinkReliability.Proofs.Queue.SoleWorker
import LinkReliability.Proofs.Queue.Wakeup
import LinkReliability.Proofs.Breaker.Eager
import LinkReliability.Proofs.Health.Hysteresis
import LinkReliability.Proofs.Bridge.Accounts
import LinkReliability.Proofs.Bridge.Undisturbed
import LinkReliability.Proofs.Link.Cancel
import LinkReliability.Proofs.Link.Connect
import LinkReliability.Proofs.Monitor.Sessions
import LinkReliability.Proofs.Monitor.Storm
import LinkReliability.Proofs.Monitor.Views
import LinkReliability.Proofs.Probe.Registration
import LinkReliability.Proofs.Probe.Containment
import LinkReliability.Proofs.Probe.Timeline
import LinkReliability.Proofs.Link.Outage
import LinkReliability.Proofs.Probe.Subscribers
import LinkReliability.Proofs.Probe.Lifecycle
import LinkReliability.Proofs.Probe.Cycle
import LinkReliability.Proofs.Reconnect.History
import LinkReliability.Proofs.Monitor.ErrorRate
import LinkReliability.Proofs.Failure.Context
import LinkReliability.Proofs.Settings.ReadBack
import LinkReliability.Proofs.Breaker.Countdown
import LinkReliability.Proofs.Count.Width
