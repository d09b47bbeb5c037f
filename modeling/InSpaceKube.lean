import InSpaceKube.Prog.Basic
import InSpaceKube.Prog.Threads
import InSpaceKube.Prog.Uses
import InSpaceKube.Prog.Habit
import InSpaceKube.Prog.Versioned
import InSpaceKube.Prog.Record
import InSpaceKube.Go
import InSpaceKube.Json
import InSpaceKube.Netip
import InSpaceKube.Url
import InSpaceKube.PrivatePool
import InSpaceKube.CloudProvider.InstanceExists
import InSpaceKube.CloudProvider.MassAbsence
import InSpaceKube.CloudProvider.SpacedAbsence
import InSpaceKube.Client.Response
import InSpaceKube.Client.Transient
import InSpaceKube.Csi.Fence
import InSpaceKube.Csi.Cloud
import InSpaceKube.Csi.Adapter
import InSpaceKube.Csi.DeleteVolume
import InSpaceKube.Csi.System
import InSpaceKube.Csi.Outline
import InSpaceKube.Csi.EnsureOnce
import InSpaceKube.Csi.AttachVolume
import InSpaceKube.Csi.FenceContract
import InSpaceKube.Csi.DeleteContract
import InSpaceKube.Csi.FenceRemoval
import InSpaceKube.Csi.AttachFence
import InSpaceKube.Csi.AttachDispatch
import InSpaceKube.Csi.Absence
import InSpaceKube.Csi.LeaseStore
import InSpaceKube.Csi.LeaseRefines
import InSpaceKube.Csi.LeaseResults
import InSpaceKube.Karpenter.Record
import InSpaceKube.Karpenter.Receipts
import InSpaceKube.Karpenter.CreateFence
import InSpaceKube.Karpenter.System
import InSpaceKube.Karpenter.IssueOnce
import InSpaceKube.Karpenter.Journal
import InSpaceKube.Karpenter.Protection
import InSpaceKube.Karpenter.Slot
import InSpaceKube.Karpenter.Controller
import InSpaceKube.Karpenter.ValidFence
import InSpaceKube.Karpenter.FenceHabit
import InSpaceKube.Karpenter.SlotHabit
import InSpaceKube.Karpenter.FenceAccepted
import InSpaceKube.Karpenter.SlotOnce
import InSpaceKube.Karpenter.JournalWrites
import InSpaceKube.Karpenter.JournalOnce
import InSpaceKube.Karpenter.JournalAccepted
import InSpaceKube.NodeLB.Firewall
import InSpaceKube.NodeLB.Objects
import InSpaceKube.NodeLB.VMLedger
import InSpaceKube.NodeLB.ReceiptOps
import InSpaceKube.NodeLB.RelationFence
import InSpaceKube.NodeLB.VMFirewall
import InSpaceKube.NodeLB.ReceiptHabit
import InSpaceKube.NodeLB.AnchorHabit
import InSpaceKube.NodeLB.ReceiptSystem
import InSpaceKube.NodeLB.RelationOnce
import InSpaceKube.NodeLB.AnchorDiff
import InSpaceKube.NodeLB.AnchorOnce
import InSpaceKube.NodeLB.RetireDelay
import InSpaceKube.NodeLB.AbsenceCount
import InSpaceKube.NodeLB.ReceiptRuns
import InSpaceKube.NodeLB.ShardPlan
import InSpaceKube.NodeLB.ShardPacking
import InSpaceKube.Bootstrap.Resize
import InSpaceKube.ProviderIDs
