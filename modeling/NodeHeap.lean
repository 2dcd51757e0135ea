import NodeHeap.Allocator.Session
import NodeHeap.Buffer.Session
import NodeHeap.Crew.Load
import NodeHeap.Main
import NodeHeap.Memory.Holder
import NodeHeap.Memory.Scripted
import NodeHeap.Memory.System
import NodeHeap.Probe.Run
import NodeHeap.Text.Utf8
import NodeHeap.Topology.Matrix
import NodeHeap.Topology.Walk
import NodeHeap.Proofs.Layout
import NodeHeap.Proofs.Likeness
import NodeHeap.Proofs.Placement
import NodeHeap.Proofs.Replacement
import NodeHeap.Proofs.Candidates
import NodeHeap.Proofs.Heap
import NodeHeap.Proofs.Steps
import NodeHeap.Proofs.Refinement
import NodeHeap.Proofs.Leases
import NodeHeap.Proofs.Settlement
import NodeHeap.Proofs.PlacementLaw
import NodeHeap.Proofs.Refusal
import NodeHeap.Proofs.Epochs
import NodeHeap.Proofs.EpochLaw
import NodeHeap.Proofs.Targets
import NodeHeap.Proofs.Tally
import NodeHeap.Proofs.CallCounts
import NodeHeap.Proofs.Holdings
import NodeHeap.Proofs.Strings
import NodeHeap.Proofs.Buffers
import NodeHeap.Proofs.BufferSteps
import NodeHeap.Proofs.Sharing
import NodeHeap.Proofs.Ledger
import NodeHeap.Proofs.Decimals
import NodeHeap.Proofs.Probers
import NodeHeap.Proofs.NodeNames
import NodeHeap.Proofs.Columns
import NodeHeap.Proofs.CrewSteps
import NodeHeap.Proofs.CrewAccounts
import NodeHeap.Proofs.CrewPlans
import NodeHeap.Proofs.CrewSchedules
import NodeHeap.Proofs.CrewWork
import NodeHeap.Proofs.Denials
import NodeHeap.Proofs.Views
import NodeHeap.Proofs.Resets
import NodeHeap.Proofs.ReservedPolicies
import NodeHeap.Proofs.Untargeted
import NodeHeap.Proofs.Adoption
import NodeHeap.Proofs.Rejections
import NodeHeap.Proofs.Rankings
import NodeHeap.Proofs.Tokens
import NodeHeap.Proofs.Resizing
import NodeHeap.Proofs.ProbePhases
import NodeHeap.Proofs.ProbeRuns
import NodeHeap.Proofs.Reserving
import NodeHeap.Proofs.Growth
import NodeHeap.Proofs.Margins
import NodeHeap.Proofs.Cuts
import NodeHeap.Proofs.Ranges
import NodeHeap.Proofs.CpuLists
import NodeHeap.Proofs.NodeCpus
import NodeHeap.Proofs.NodeChecks
import NodeHeap.Proofs.ReallocationCounts
import NodeHeap.Proofs.DirectedMoves
import NodeHeap.Proofs.AbsentNodes
import NodeHeap.Proofs.PolicyNames
import NodeHeap.Proofs.HeaderSums
import NodeHeap.Proofs.SharedUsage
