import FfaFeature.Allocation.HeapRuns
import FfaFeature.Allocation.LibraryRuns
import FfaFeature.Ffa.Binding
import FfaFeature.Ffa.PartitionInfo
import FfaFeature.Image.EntryPoint
import FfaFeature.Notification.Clients
import FfaFeature.Notification.Delivery
import FfaFeature.Notification.Signal
import FfaFeature.Notification.Slots
import FfaFeature.Timer
import FfaFeature.Tpm.Confinement
import FfaFeature.Tpm.Obtain
import FfaFeature.Tpm.Proxy
import FfaFeature.Tpm.Readiness
import FfaFeature.Tpm.Registers
import FfaFeature.Tpm.ResponseData
import FfaFeature.Tpm.Waits
