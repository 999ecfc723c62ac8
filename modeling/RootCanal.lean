import RootCanal.Iso.Exclusion
import RootCanal.Iso.Refusal
import RootCanal.Iso.Completion
import RootCanal.Iso.Establishment
import RootCanal.Iso.Agreement
import RootCanal.Iso.Handles
import RootCanal.Le.IsoData
import RootCanal.Hci.H4Streams
import RootCanal.Devices.LinkLayerSocket
import RootCanal.BrEdr.PageScan
import RootCanal.BrEdr.ScoAgreement
import RootCanal.BrEdr.Attempt
import RootCanal.LeAcl.ConnectionTable
import RootCanal.LeAcl.PhyAgreement
import RootCanal.LeAcl.PhyRequests
import RootCanal.LeAcl.Encryption
import RootCanal.LeAcl.LinkLaw
import RootCanal.LeAcl.Initiation
import RootCanal.LeAcl.Subrate
import RootCanal.Lmp.Slots
import RootCanal.Setup.AsyncFdWatcher
import RootCanal.Setup.TestModel
import RootCanal.Lmp.PairingRuns
import RootCanal.Lmp.LinkKeys
import RootCanal.Gap.DataFragments
import RootCanal.Gap.FailedCommands
import RootCanal.Gap.CreateConnection
import RootCanal.Gap.InUse
import RootCanal.Gap.SyncSupervision
import RootCanal.Gap.DeviceLists
