import AgentSystemsBenchmark.Core.ReplayTransport
import AgentSystemsBenchmark.Orchestrator.Refinement
import AgentSystemsBenchmark.Orchestrator.Outcomes
import AgentSystemsBenchmark.Orchestrator.Rebinding
import AgentSystemsBenchmark.Orchestrator.Barriers
import AgentSystemsBenchmark.Control.EventReading
import AgentSystemsBenchmark.Control.Handoff
import AgentSystemsBenchmark.Control.Removal
import AgentSystemsBenchmark.Control.Cassettes
import AgentSystemsBenchmark.Control.Captures
import AgentSystemsBenchmark.Control.Completion
import AgentSystemsBenchmark.Control.RuntimeFences
import AgentSystemsBenchmark.Runtime.Attempts
import AgentSystemsBenchmark.Runtime.Receipts
import AgentSystemsBenchmark.Runtime.Leases
import AgentSystemsBenchmark.Runtime.OwnerMaterial
import AgentSystemsBenchmark.Runtime.RelayConnection
import AgentSystemsBenchmark.Runtime.ReplayRelay
import AgentSystemsBenchmark.Replay.RedactedContents
import AgentSystemsBenchmark.Replay.Workflow
import AgentSystemsBenchmark.Replay.Pacing
import AgentSystemsBenchmark.Replay.HttpReading
import AgentSystemsBenchmark.Analysis.Coordinator
import AgentSystemsBenchmark.Analysis.Reliability
import AgentSystemsBenchmark.Analysis.Experiments
import AgentSystemsBenchmark.Analysis.Frontier
import AgentSystemsBenchmark.Runtime.Capacity
import AgentSystemsBenchmark.Bundle.Pinning
import AgentSystemsBenchmark.Cli.Collections
import AgentSystemsBenchmark.Agents.Accounting
