import GlassBox.Adapters.Cdc
import GlassBox.Adapters.Kms.CircuitBreaker
import GlassBox.Adapters.Http.Influence
import GlassBox.Adapters.Identity.Delegation
import GlassBox.Adapters.Memory.Catalogue
import GlassBox.Adapters.Memory.ChargedOnce
import GlassBox.Adapters.Memory.DispatchPool
import GlassBox.Adapters.Memory.MandateStore
import GlassBox.Adapters.Memory.PolicySignature
import GlassBox.Adapters.Memory.RetentionProgress
import GlassBox.Adapters.Memory.Tampering
import GlassBox.Adapters.Postgres.ConcurrentAppends
import GlassBox.Adapters.Postgres.DispatchIsolation
import GlassBox.Adapters.Postgres.DispatchRaces
import GlassBox.Adapters.Postgres.Transplant
import GlassBox.Adapters.Redis.Agreement
import GlassBox.Adapters.Redis.TenantQuota
import GlassBox.App.EvidenceFailure
import GlassBox.App.PendingApprovals
import GlassBox.App.Redaction
import GlassBox.App.Refunds
import GlassBox.App.RetentionPasses
import GlassBox.App.RiskThreshold
import GlassBox.App.TruthfulOutcomes
import GlassBox.App.WithheldAmount
import GlassBox.Domain.Freezing
import GlassBox.Domain.MerkleBinding
import GlassBox.Workflow.ConcurrentReviewers
import GlassBox.Workflow.DualControl
import GlassBox.Workflow.Finality
import GlassBox.Workflow.ReviewHistory
