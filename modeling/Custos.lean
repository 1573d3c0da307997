import Custos.Library.Base64
import Custos.Library.Bytes
import Custos.Library.Checksum
import Custos.Library.Der
import Custos.Library.Json
import Custos.Library.JsonText
import Custos.Library.JsonRead
import Custos.Library.Linked
import Custos.Library.Path
import Custos.Library.Run
import Custos.Platform
import Custos.Reference
import Custos.Audit.Record
import Custos.Audit.Store
import Custos.Audit.Chain
import Custos.Audit.Writers
import Custos.Audit.Runs
import Custos.Audit.Snapshot
import Custos.Audit.Migration
import Custos.Custody.Anchor
import Custos.Custody.Verify
import Custos.Custody.Rewalk
import Custos.Custody.TimeStamp
import Custos.Custody.Rewrite
import Custos.Custody.Manager
import Custos.Custody.Log
import Custos.Custody.Restart
import Custos.Custody.Sinks
import Custos.Custody.Gaps
import Custos.Custody.Evident
import Custos.Custody.GitSink
import Custos.Custody.MultiTenant
import Custos.Custody.Cadence
import Custos.Custody.Commits
import Custos.Policy.Engine
import Custos.Policy.Backends
import Custos.Policy.Diff
import Custos.Policy.CardNumber
import Custos.Policy.Citation
import Custos.Policy.Opa
import Custos.Policy.PostValidation
import Custos.Policy.Overrides
import Custos.Policy.Identity
import Custos.Policy.Hybrid
import Custos.Policy.Governance
import Custos.Service.Admission
import Custos.Service.Quotas
import Custos.Service.Tenant
import Custos.Service.Isolation
import Custos.Service.PolicyRules
import Custos.Service.Restore
import Custos.Service.Retention
import Custos.Service.StorePaths
import Custos.Service.SurplusRecovery
import Custos.Service.Purges
import Custos.Service.Reconciliation
import Custos.Service.Findings
import Custos.Service.Agreement
import Custos.Service.Workers
import Custos.Service.ActionGate
import Custos.Service.FailClosed
import Custos.Service.Firewall
import Custos.Service.Requests
import Custos.Service.Replay
import Custos.Service.Administration
import Custos.Service.ServedQuotas
import Custos.Service.BoundEvidence
import Custos.Service.Citations
import Custos.Service.Freshness
import Custos.Service.CommitOnce
import Custos.Service.Commitments
import Custos.Service.Execution
import Custos.Service.Pinning
import Custos.Service.Metrics
import Custos.Service.Descriptors
import Custos.Service.Redaction
import Custos.Service.Allowlist
import Custos.Service.Jwks
import Custos.Service.Authentication
import Custos.Service.Startup
import Custos.Mediation.Proxy
import Custos.Mediation.Circuit
import Custos.Mediation.Gateway
import Custos.Mediation.Authorized
import Custos.Mediation.Reconcile
import Custos.Mediation.Stdio
import Custos.Mediation.Qualified
import Custos.Service.Restarts
import Custos.Custody.Health
import Custos.Library.Civil
import Custos.Service.Preview
import Custos.Service.Erasure
import Custos.Service.Enforcement
