import NetworkAgent.Cloud.FindActive
import NetworkAgent.Cloud.ImportReplay
import NetworkAgent.Lab.ExactlyOnce
import NetworkAgent.Local.Detector
import NetworkAgent.Local.Refinement
import NetworkAgent.Assurance.Ingestion
import NetworkAgent.Middleware.AdmissionRuns
import NetworkAgent.Middleware.Consumption
import NetworkAgent.Middleware.Unanswered
import NetworkAgent.FaultIngress.Acknowledged
import NetworkAgent.Supervisor.Settled
import NetworkAgent.Supervisor.Recovery
import NetworkAgent.Memory.Retries
import NetworkAgent.Rca.IssueRecords
import NetworkAgent.Supervisor.ToolResultLocks
import NetworkAgent.Cloud.OwnedEvents
import NetworkAgent.Migration.Transfer
import NetworkAgent.Governance.Safety
import NetworkAgent.Rca.Soundness
import NetworkAgent.Local.Episodes
import NetworkAgent.Lab.Matching
import NetworkAgent.Lab.Loopback
import NetworkAgent.Supervisor.Detectors
import NetworkAgent.Supervisor.Escapes
import NetworkAgent.Supervisor.StreamGrammar
import NetworkAgent.Supervisor.ResourceIds
import NetworkAgent.Lab.SafeJson
import NetworkAgent.Middleware.TextDelivery
import NetworkAgent.FaultIngress.Redelivery
import NetworkAgent.Middleware.SessionTracking
import NetworkAgent.Lab.RankingEvaluation
import NetworkAgent.Engineer.Confirmation
import NetworkAgent.Operator.Connections
import NetworkAgent.Operator.VpnStatus
import NetworkAgent.Operator.Throttler
import NetworkAgent.Assurance.BusinessBoundary
import NetworkAgent.Assurance.PendingConfirmations
import NetworkAgent.FaultService.Deduplication
import NetworkAgent.Local.Spellings
import NetworkAgent.Middleware.StateDelta
import NetworkAgent.Lab.MetricScaling
import NetworkAgent.Supervisor.Traces
import NetworkAgent.Lab.TelemetryEvidence
import NetworkAgent.Lab.GroundTruth
