import ServiceManager.Graphd.Vertex
import ServiceManager.Graphd.Reachable
import ServiceManager.Graphd.Builder
import ServiceManager.Graphd.Satisfy
import ServiceManager.Graphd.Notify
import ServiceManager.Graphd.Note
import ServiceManager.Graphd.Setup
import ServiceManager.Graphd.Drain
import ServiceManager.Graphd.Fuel
import ServiceManager.Graphd.Shape
import ServiceManager.Graphd.Built
import ServiceManager.Graphd.Termination
import ServiceManager.Graphd.Handlers
import ServiceManager.Graphd.DrainEnds
import ServiceManager.Graphd.Marks
import ServiceManager.Graphd.RoundTrip
import ServiceManager.Graphd.Rules
import ServiceManager.Graphd.OnlineNote
import ServiceManager.Graphd.CycleCheck
import ServiceManager.Graphd.GoDown
import ServiceManager.Graphd.Propagation
import ServiceManager.Graphd.Effect
import ServiceManager.Graphd.Runs
import ServiceManager.Graphd.Requires
import ServiceManager.Graphd.OnRequest
import ServiceManager.Restartd.Unit
import ServiceManager.Restartd.Event
import ServiceManager.Restartd.Tracking
import ServiceManager.Restartd.FailCount
import ServiceManager.Restartd.Stop
