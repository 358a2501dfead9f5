import SyscallTrace.CheckReport
import SyscallTrace.Main
import SyscallTrace.Proofs.Capture.DescriptorLists
import SyscallTrace.Proofs.Capture.RoundTrip
import SyscallTrace.Proofs.Capture.ScratchRuns
import SyscallTrace.Proofs.Capture.SnaplenOrder
import SyscallTrace.Proofs.Capture.StringReads
import SyscallTrace.Proofs.Capture.Texts
import SyscallTrace.Proofs.Capture.Unreadable
import SyscallTrace.Proofs.Config.Lists
import SyscallTrace.Proofs.Net.RawPaths
import SyscallTrace.Proofs.Net.RemotePort
import SyscallTrace.Proofs.Pipeline.Accounting
import SyscallTrace.Proofs.Record.Lines
import SyscallTrace.Proofs.Record.Walk
import SyscallTrace.Proofs.Suppression.Cascade
import SyscallTrace.Proofs.Suppression.OwnThread
import SyscallTrace.Proofs.Suppression.Producer
import SyscallTrace.Proofs.Suppression.Sharing
import SyscallTrace.Proofs.Suppression.Worklist
