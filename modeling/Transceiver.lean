import Transceiver.Capabilities
import Transceiver.Main
import Transceiver.Rig.Call
import Transceiver.Settings.Call
import Transceiver.Simulation.Script
import Transceiver.Simulation.Setup
import Transceiver.Dialogue.Call
import Transceiver.Rig.Step
import Transceiver.Proofs.Transmission
import Transceiver.Proofs.Asking
import Transceiver.Proofs.Grids
import Transceiver.Proofs.Change
import Transceiver.Proofs.ReadModifyWrite
import Transceiver.Proofs.Permission
import Transceiver.Proofs.Spelling
import Transceiver.Proofs.Wording
import Transceiver.Proofs.Calls
import Transceiver.Proofs.Hearing
import Transceiver.Proofs.Answering
import Transceiver.Proofs.Reservation
import Transceiver.Proofs.Keying
import Transceiver.Proofs.RoundTrip
import Transceiver.Proofs.QuietLine
import Transceiver.Proofs.Talking
import Transceiver.Proofs.VfoMemory
import Transceiver.Proofs.Agreement
import Transceiver.Proofs.ReadBack
import Transceiver.Proofs.Sessions
import Transceiver.Proofs.Selecting
import Transceiver.Proofs.Quoting
import Transceiver.Proofs.Drift
import Transceiver.Proofs.Parting
import Transceiver.Proofs.OnTheWay
import Transceiver.Proofs.InStep
import Transceiver.Proofs.Provisioning
import Transceiver.Proofs.Naming
import Transceiver.Proofs.Recording
import Transceiver.Proofs.Storing
import Transceiver.Proofs.Copying
import Transceiver.Proofs.LossyLine
import Transceiver.Proofs.ToneExclusion
import Transceiver.Proofs.Grammar
import Transceiver.Proofs.Misreading
import Transceiver.Proofs.Failing
import Transceiver.Proofs.Refusing
import Transceiver.Proofs.DeclaredFaults
import Transceiver.Proofs.SideBySide
import Transceiver.Proofs.Silences
import Transceiver.Proofs.Aliasing
import Transceiver.Proofs.Commuting
import Transceiver.Proofs.Repeating
import Transceiver.Proofs.LostAnswers
import Transceiver.Proofs.Repairing
import Transceiver.Proofs.Snapping
import Transceiver.Proofs.ToolRuns
import Transceiver.Proofs.Unwritable
import Transceiver.Proofs.Tuning
import Transceiver.Proofs.Deadlines
import Transceiver.Proofs.Retrying
import Transceiver.Proofs.Noise
import Transceiver.Proofs.Offsets
import Transceiver.Proofs.Columns
import Transceiver.Proofs.ToldNames
import Transceiver.Proofs.Attribution
import Transceiver.Proofs.Reconciling
import Transceiver.Proofs.FrequencyText
import Transceiver.Proofs.Numerals
import Transceiver.Proofs.Probing
import Transceiver.Proofs.Registry
