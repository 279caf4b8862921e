import Transceiver.Channel.Text
import Transceiver.Record.Row

/-! What a host hands in for an argument: a value, a row, or a channel. Where a value is wanted,
the other two are things that no value equals; whether a message can name them depends on how. -/
namespace Transceiver

inductive Argument where
  | value (v : Value)
  | row (r : Row)
  | channel (c : Channel)

namespace Argument

/-- The argument where no message names it. -/
def unnamed : Argument → Value
  | .value v => v
  | _ => .thing ""

/-- The argument where a message shows it: a channel is shown by its listing, and a row not at all. -/
def shown : Argument → Except Fault Value
  | .value v => .ok v
  | .row _ => .error .mistyped
  | .channel c => c.listing.map .thing

/-- The argument where a message quotes it: a channel is quoted by its account, and a row not at
all. -/
def quoted : Argument → Except Fault Value
  | .value v => .ok v
  | .row _ => .error .mistyped
  | .channel c => c.account.map .thing

def row? : Argument → Option Row
  | .row r => some r
  | _ => none

end Argument

end Transceiver
