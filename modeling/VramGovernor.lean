import VramGovernor.Api.BrowserSessions
import VramGovernor.Api.Uncertainty
import VramGovernor.ComfyHarness.Finality
import VramGovernor.ComfyHarness.Panics
import VramGovernor.ComfyHarness.Reclaim
import VramGovernor.ComfyHarness.Waiters
import VramGovernor.Jobs.Submission
import VramGovernor.NodeAgent.CheckpointOwners
import VramGovernor.NodeAgent.CheckpointReferences
import VramGovernor.NodeAgent.DisplacementOrder
import VramGovernor.NodeAgent.FenceOrder
import VramGovernor.NodeAgent.RollbackDetection
import VramGovernor.NodeAgent.WarmEviction
import VramGovernor.Store.BudgetAccounting
import VramGovernor.Store.CheckpointRows
import VramGovernor.Store.Custody
import VramGovernor.Store.PostgresRefinement
import VramGovernor.Store.ResidencyOrigins
import VramGovernor.Store.WorkloadIndex
import VramGovernor.Workloads.AdmissionOrder
import VramGovernor.Workloads.Cancellation
import VramGovernor.Workloads.CleanupSaga
import VramGovernor.Workloads.CheckpointMarks
import VramGovernor.Workloads.EventStream
import VramGovernor.Workloads.ResidencyCommands
import VramGovernor.Workloads.RetryReservations
import VramGovernor.Workloads.SettlementPrice
import VramGovernor.Workloads.SharingOrder
import VramGovernor.Workloads.SlotCounts
import VramGovernor.Workloads.TargetGenerations
import VramGovernor.Workloads.TerminalPublication
import VramGovernor.Wsproto.RouterModels
