import JobWatch.Diagnostics.Filter
import JobWatch.Main
import JobWatch.Simulation.Console
import JobWatch.Simulation.World
import JobWatch.Proofs.Machine
import JobWatch.Proofs.Preview.Resources
import JobWatch.Proofs.Logs.Following
import JobWatch.Proofs.Logs.Integrity
import JobWatch.Proofs.Logs.Shift
import JobWatch.Proofs.Preview.Following
import JobWatch.Proofs.Preview.Shift
import JobWatch.Proofs.Session.Erasure
import JobWatch.Proofs.Preview.Resume
import JobWatch.Proofs.Logs.Order
import JobWatch.Proofs.Logs.Stored
import JobWatch.Proofs.Logs.Progress
import JobWatch.Proofs.Logs.Stream
import JobWatch.Proofs.Logs.Connection
import JobWatch.Proofs.Session.Coherence
import JobWatch.Proofs.Session.Restart
import JobWatch.Proofs.Logs.Signals
import JobWatch.Proofs.Status.History
import JobWatch.Proofs.Publish.Task
import JobWatch.Proofs.Publish.Writers
import JobWatch.Proofs.Status.Visibility
import JobWatch.Proofs.Preview.Schedule
import JobWatch.Proofs.Command.Following
import JobWatch.Proofs.Wire.RoundTrip
import JobWatch.Proofs.Settings.Layers
import JobWatch.Proofs.Preview.Transitions
import JobWatch.Proofs.Preview.Reasons
import JobWatch.Proofs.Preview.Warning
import JobWatch.Proofs.Preview.Wake
import JobWatch.Proofs.Preview.Limit
import JobWatch.Proofs.Command.Scene
import JobWatch.Proofs.Command.Showing
import JobWatch.Proofs.Display.LogLine
import JobWatch.Proofs.Logs.AutoFix
import JobWatch.Proofs.Url.Path
import JobWatch.Proofs.Http.Address
