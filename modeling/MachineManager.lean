import MachineManager.Nv.TrialBoots
import MachineManager.Selector.Canonical
import MachineManager.SystemBank.Reseed
import MachineManager.SystemBank.BootStage
import MachineManager.Component.Staging
import MachineManager.Component.BootLimit
import MachineManager.Component.AppInstall
import MachineManager.Component.Envelope
import MachineManager.Sovd.Executions
import MachineManager.Component.ImageRecords
import MachineManager.Sovd.Authz
import MachineManager.Vhsm.Enrolment
import MachineManager.Vhsm.Restore
import MachineManager.Hsm.Signing
import MachineManager.Component.AdminCache
import MachineManager.Component.Coordinator
import MachineManager.Component.PullSource
import MachineManager.Devices.Vtime
import MachineManager.Vhsm.Release
import MachineManager.Logs.Download
import MachineManager.Logs.Drained
