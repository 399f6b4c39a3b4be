import AgentGateway.Access.Evaluator
import AgentGateway.Access.Policies
import AgentGateway.Admission.Authority
import AgentGateway.Admission.Columns
import AgentGateway.Admission.Effects
import AgentGateway.Admission.Facts
import AgentGateway.Admission.Orchestrator
import AgentGateway.Admission.Outcome
import AgentGateway.Admission.PrivateTargets
import AgentGateway.Admission.Process
import AgentGateway.Admission.Replay
import AgentGateway.Admission.Soundness
import AgentGateway.Admission.Store
import AgentGateway.Admission.Targets
import AgentGateway.Artifact.Models
import AgentGateway.Artifact.Repository
import AgentGateway.Context.Acceptance
import AgentGateway.Context.History
import AgentGateway.Context.Isolation
import AgentGateway.Context.Storage
import AgentGateway.Context.Tool
import AgentGateway.Delivery.Attempts
import AgentGateway.Delivery.Classification
import AgentGateway.Delivery.Ledger
import AgentGateway.Delivery.Media
import AgentGateway.Delivery.Outbox
import AgentGateway.Delivery.Ownership
import AgentGateway.Delivery.Resend
import AgentGateway.Delivery.Sender
import AgentGateway.Delivery.System
import AgentGateway.Delivery.Tables
import AgentGateway.Delivery.Worker
import AgentGateway.Dispatch.Budget
import AgentGateway.Dispatch.Execution
import AgentGateway.Dispatch.Fencing
import AgentGateway.Dispatch.Fifo
import AgentGateway.Dispatch.QueueOrder
import AgentGateway.Dispatch.Records
import AgentGateway.Dispatch.Recovery
import AgentGateway.Dispatch.Results
import AgentGateway.Dispatch.Service
import AgentGateway.Dispatch.System
import AgentGateway.Dispatch.Tables
import AgentGateway.Dispatch.Worker
import AgentGateway.Hermes.Models
import AgentGateway.Hermes.Payload
import AgentGateway.Lib.Encoding
import AgentGateway.Lib.Interleaving
import AgentGateway.Lib.Program
import AgentGateway.Lib.Pydantic
import AgentGateway.Lib.Python
import AgentGateway.Lib.Query
import AgentGateway.Lib.Recency
import AgentGateway.Lib.RelyGuarantee
import AgentGateway.Lib.RoundRobin
import AgentGateway.Lib.Run
import AgentGateway.Lib.Table
import AgentGateway.Messages.Create
import AgentGateway.Messages.Event
import AgentGateway.Messages.Idempotence
import AgentGateway.Messages.Normalized
import AgentGateway.Messages.Store
import AgentGateway.Polling.AtLeastOnce
import AgentGateway.Polling.Checkpoint
import AgentGateway.Polling.Coherence
import AgentGateway.Polling.Concurrency
import AgentGateway.Polling.Continuity
import AgentGateway.Polling.Cycle
import AgentGateway.Polling.Database
import AgentGateway.Polling.Handover
import AgentGateway.Polling.Identity
import AgentGateway.Polling.Lifecycle
import AgentGateway.Polling.LiveSuffix
import AgentGateway.Polling.Loop
import AgentGateway.Polling.Messages
import AgentGateway.Polling.Normalizer
import AgentGateway.Polling.Prologue
import AgentGateway.Polling.Service
import AgentGateway.Polling.StoreCalls
import AgentGateway.Response.Handler
import AgentGateway.Response.Quarantine
import AgentGateway.Response.Reconciliation
import AgentGateway.Response.Runtime
import AgentGateway.Response.Store
import AgentGateway.Routing.Resolver
import AgentGateway.Workspace.Bound
import AgentGateway.Workspace.Database
import AgentGateway.Workspace.Routed
import AgentGateway.Workspace.Store
import AgentGateway.Workspace.ThreadKeys
