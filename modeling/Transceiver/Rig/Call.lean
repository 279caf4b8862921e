import Transceiver.Rig.Argument
import Transceiver.Rig.Request

/-! Requests by the name of the operation, for a host that chooses it as it runs. -/
namespace Transceiver

namespace Setting

def all : List Setting := [.step, .tone, .squelchTone, .dcsCode, .shift, .offset]

def label : Setting → String
  | .step => "ts"
  | .tone => "ctcss_tone"
  | .squelchTone => "ctcss_sql"
  | .dcsCode => "dcs_sql"
  | .shift => "rptr_shift"
  | .offset => "rptr_offs"

/-- The setting that an operation is about, given what the operation does with it. -/
def named? (action operation : String) : Option Setting := all.find? (action ++ ·.label == operation)

/-- The value to set, as the messages about it need it: an offset is quoted, a shift is not named
at all, and the rest are shown. -/
def ofArgument (setting : Setting) (argument : Argument) : Except Fault Value :=
  match setting with
  | .shift => .ok argument.unnamed
  | .offset => argument.quoted
  | _ => argument.shown

end Setting

namespace Request

/-- What a rig can be asked for by name, besides to get and to set its settings. Its plain fields
are among them, but they are not to be called. -/
def names : List String :=
  ["open", "close", "state", "get_caps", "get_name", "vfo_to_channel", "update_memory_channel",
   "set_vfo", "get_vfo", "set_split_vfo", "get_split_vfo", "set_freq", "get_freq",
   "set_split_freq", "get_split_freq", "set_mode", "get_mode", "set_mem", "get_mem",
   "get_channel", "set_channel", "set_ptt", "get_dcd", "pipe", "reconcile", "_state", "VENDOR",
   "MODEL", "VARIANT", "BAUD_RATE", "HARDWARE_FLOW"]

/-- A call with arguments that the operation does not take, or of what is no operation. -/
def misfit (operation : String) : Fault :=
  let settings := Setting.all.flatMap fun s => ["set_" ++ s.label, "get_" ++ s.label]
  if (names ++ settings ++ commonNames).contains operation then .mistyped else .missingAttribute

def ofCall (operation : String) (arguments : List Argument) : Except Fault Request :=
  match operation, arguments with
  | "open", [] => .ok .start
  | "close", [] => .ok .finish
  | "state", _ => .ok .session
  | "get_caps", [] => .ok .capabilities
  | "get_name", [] => .ok .name
  | "vfo_to_channel", [vfo] => .ok (.channelOf vfo.unnamed)
  | "update_memory_channel", [number, update] => return .fillMemory (← number.quoted) update.row?
  | "set_vfo", [vfo] => return .selectVfo (← vfo.shown)
  | "get_vfo", [] => .ok .selectedVfo
  | "set_split_vfo", [_, on, transmit] => .ok (.setSplit on.unnamed transmit.unnamed)
  | "get_split_vfo", [] => .ok .split
  | "get_split_vfo", [_] => .ok .split
  | "set_freq", [vfo, hertz] => .ok (.setFrequency vfo.unnamed hertz.unnamed)
  | "get_freq", [vfo] => .ok (.frequency vfo.unnamed)
  | "set_split_freq", [vfo, hertz] => .ok (.setSplitFrequency vfo.unnamed hertz.unnamed)
  | "get_split_freq", [vfo] => .ok (.splitFrequency vfo.unnamed)
  | "set_mode", [vfo, wanted] => .ok (.setMode vfo.unnamed wanted.unnamed)
  | "set_mode", [vfo, wanted, _] => .ok (.setMode vfo.unnamed wanted.unnamed)
  | "get_mode", [vfo] => .ok (.mode vfo.unnamed)
  | "set_mem", [vfo, number] => .ok (.setMemory vfo.unnamed number.unnamed)
  | "get_mem", [vfo] => .ok (.memory vfo.unnamed)
  | "get_channel", [number] => .ok (.channel number.unnamed)
  | "set_channel", [.channel contents] => .ok (.setChannel contents)
  | "set_channel", [_] => .error .missingAttribute
  | "set_ptt", [_, on] => .ok (.setTransmit on.unnamed)
  | "get_dcd", [vfo] => .ok (.hearsSignal vfo.unnamed)
  | _, [vfo, argument] =>
    match Setting.named? "set_" operation with
    | some setting => return .set setting vfo.unnamed (← setting.ofArgument argument)
    | none => .error (misfit operation)
  | _, [vfo] =>
    match Setting.named? "get_" operation with
    | some setting => .ok (.get setting vfo.unnamed)
    | none => .error (misfit operation)
  | _, _ => .error (misfit operation)

end Request

end Transceiver
