import YuFeng.Edge.Shells
import YuFeng.Edge.Fleet
import YuFeng.Brain.Histories
import YuFeng.Telemetry.Retention
import YuFeng.Review.Batches
import YuFeng.Brain.Idempotency
import YuFeng.Edge.Resume
import YuFeng.Brain.CaseQuota
import YuFeng.Saga.Endings
import YuFeng.Saga.Conformance
import YuFeng.Host.Receipts
import YuFeng.Brain.GenerationFence
import YuFeng.Edge.Rollout
import YuFeng.Edge.Stamp
import YuFeng.Brain.BudgetLedger
import YuFeng.Brain.FeedGaps
import YuFeng.Brain.Delegation
import YuFeng.Review.Survival
import YuFeng.Review.Intact
import YuFeng.Edge.Replay
import YuFeng.Edge.DuplicateKeys
import YuFeng.Edge.Acceptance
import YuFeng.Edge.Counters
import YuFeng.Edge.Entity
import YuFeng.Edge.Failure
import YuFeng.Edge.Manifests
import YuFeng.Review.Tallies
import YuFeng.Edge.Source
import YuFeng.Edge.TapHealth
import YuFeng.Brain.ActiveTime
import YuFeng.Brain.Advertisement
import YuFeng.Brain.AuditHash
import YuFeng.Brain.GuardWindows
import YuFeng.ModelSide.ResultQueue
import YuFeng.Brain.RequestSource
import YuFeng.Brain.TrustedKeys
