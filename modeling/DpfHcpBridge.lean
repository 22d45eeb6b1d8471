import DpfHcpBridge.Api
import DpfHcpBridge.Client
import DpfHcpBridge.Conditions
import DpfHcpBridge.MetalLB.Manager
import DpfHcpBridge.MetalLB.Upsert
import DpfHcpBridge.MetalLB.Reconcile
import DpfHcpBridge.MetalLB.Reporting
import DpfHcpBridge.HostedCluster.Finalizer
import DpfHcpBridge.HostedCluster.Teardown
import DpfHcpBridge.HostedCluster.Convergence
import DpfHcpBridge.HostedCluster.Phases
import DpfHcpBridge.HostedCluster.DurationFormat
import DpfHcpBridge.StatusWrites
import DpfHcpBridge.StatusHistory
import DpfHcpBridge.HistoryRuns
import DpfHcpBridge.MetalLB.Interleaving
import DpfHcpBridge.MetalLB.Recovery
import DpfHcpBridge.Footprints
import DpfHcpBridge.HostedCluster.ServicePublishing
import DpfHcpBridge.HostedCluster.Timeout
