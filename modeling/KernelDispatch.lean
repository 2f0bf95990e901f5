import KernelDispatch.ArtifactStore.Waiting
import KernelDispatch.Idling
import KernelDispatch.LaunchLane
import KernelDispatch.Launcher
import KernelDispatch.Opening
import KernelDispatch.Proofs.Flush.BetweenFlushes
import KernelDispatch.Proofs.Flush.FirstFailure
import KernelDispatch.Proofs.Flush.Policies
import KernelDispatch.Proofs.Flush.Transparency
import KernelDispatch.Proofs.ArtifactStore.Waiters
import KernelDispatch.Proofs.ArtifactStore.WriteOnce
import KernelDispatch.Proofs.Flush.Counts
import KernelDispatch.Proofs.Timeline.Recording
import KernelDispatch.Proofs.Timeline.Runs
import KernelDispatch.Proofs.Timeline.EarlyStarts
import KernelDispatch.Proofs.WorkerPool.Conservation
import KernelDispatch.Proofs.LaunchLane.Dispatching
import KernelDispatch.Proofs.Tallies.Reconciliation
import KernelDispatch.Proofs.Tallies.Interleavings
import KernelDispatch.Proofs.Flush.RecentUse
import KernelDispatch.Proofs.Dispatcher.Diagnostics
import KernelDispatch.Proofs.Launcher.Refusals
import KernelDispatch.Proofs.Timeline.Fidelity
import KernelDispatch.Proofs.ArtifactStore.Youngest
import KernelDispatch.Proofs.Content.Sightings
import KernelDispatch.Proofs.Flush.Collisions
import KernelDispatch.Proofs.Flush.CallOrder
import KernelDispatch.Proofs.Opening.AllOrNothing
import KernelDispatch.Proofs.Timeline.LastClosed
import KernelDispatch.Proofs.Content.Polynomial
import KernelDispatch.Proofs.Content.ThueMorse
import KernelDispatch.Proofs.Flush.Twins
import KernelDispatch.Proofs.Flush.Bookkeeping
