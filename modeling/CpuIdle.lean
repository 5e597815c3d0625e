import CpuIdle.Theory.Program
import CpuIdle.Theory.Service
import CpuIdle.Theory.Lexical
import CpuIdle.Theory.Delimited
import CpuIdle.Theory.Pool
import CpuIdle.Theory.Tally
import CpuIdle.Theory.Run
import CpuIdle.Theory.Monitor
import CpuIdle.Theory.Cells
import CpuIdle.Go.Text
import CpuIdle.Go.Bytes
import CpuIdle.Go.Json
import CpuIdle.Go.Path
import CpuIdle.Cgroup.Path
import CpuIdle.Cgroup.PathForm
import CpuIdle.Cgroup.WriteTarget
import CpuIdle.Cgroup.SlicePath
import CpuIdle.Cgroup.Knob
import CpuIdle.Kube.Pod
import CpuIdle.Kube.Store
import CpuIdle.Node.Signature
import CpuIdle.Node.Sample
import CpuIdle.Qos.Class
import CpuIdle.Qos.Weight
import CpuIdle.Qos.Rule
import CpuIdle.Observe.Recorder
import CpuIdle.Tier.Desired
import CpuIdle.Tier.Bytes
import CpuIdle.Apply.Plan
import CpuIdle.Apply.Applier
import CpuIdle.Kernel.Cgroup
import CpuIdle.Kernel.Files
import CpuIdle.Kernel.Execution
import CpuIdle.Apply.Journal
import CpuIdle.Apply.Agreement
import CpuIdle.Guard.Marker
import CpuIdle.Guard.Canonical
import CpuIdle.Guard.Ownership
import CpuIdle.Guard.Rules
import CpuIdle.Guard.World
import CpuIdle.Guard.Discipline
import CpuIdle.Guard.OnePod
import CpuIdle.Guard.Cell
import CpuIdle.Guard.Independence
import CpuIdle.Guard.MarkerCas
import CpuIdle.Guard.Durable
import CpuIdle.Guard.Thaw
import CpuIdle.Guard.CrashRecovery
import CpuIdle.Guard.Tick
import CpuIdle.Guard.Hysteresis
import CpuIdle.Guard.Sample
import CpuIdle.Guard.Settle
import CpuIdle.Guard.QuotaLift
import CpuIdle.Agent.Membership
import CpuIdle.Agent.Reconciler
import CpuIdle.Agent.Informer
import CpuIdle.Agent.Degraded
import CpuIdle.Agent.Notice
import CpuIdle.Agent.Unsupported
import CpuIdle.Agent.Series
import CpuIdle.Agent.Route
import CpuIdle.Agent.Shutdown
import CpuIdle.Agent.Trace
import CpuIdle.Agent.RevertAll
import CpuIdle.Agent.Uninstall
import CpuIdle.Agent.Rules
import CpuIdle.Agent.Books
import CpuIdle.Agent.Sightings
import CpuIdle.Agent.Bookkeeping
import CpuIdle.Agent.Passes
import CpuIdle.Agent.Reported
import CpuIdle.Agent.Convergence
import CpuIdle.Agent.Idempotence
import CpuIdle.Agent.Restoration
import CpuIdle.Theory.Threads
import CpuIdle.Go.Chan
import CpuIdle.Go.Errors
import CpuIdle.Guard.RoundTrip
import CpuIdle.Agent.Lifecycle
import CpuIdle.Agent.Goroutines
import CpuIdle.Agent.Joining
