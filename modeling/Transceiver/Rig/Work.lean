import Transceiver.Dialogue
import Transceiver.Rig.Session

/-! Work of a rig: a dialogue with the radio that also looks at the rig and changes it. A change
takes effect at once, and work that fails later on does not take it back. -/
namespace Transceiver

inductive Work (α : Type) where
  | done (value : α)
  | fail (why : Fault)
  | note (record : LogRecord) (rest : Work α)
  | send (command : Command) (rest : Except Fault String → Work α)
  | look (rest : Rig → Work α)
  | change (r : Rig) (rest : Work α)

namespace Work

variable {σ α β : Type}

def bind : Work α → (α → Work β) → Work β
  | .done value, next => next value
  | .fail why, _ => .fail why
  | .note record rest, next => .note record (rest.bind next)
  | .send command rest, next => .send command fun answer => (rest answer).bind next
  | .look rest, next => .look fun r => (rest r).bind next
  | .change r rest, next => .change r (rest.bind next)

instance : Monad Work where
  pure := .done
  bind := bind

/-- A dialogue is work that leaves the rig alone. -/
def ofDialogue : Dialogue α → Work α
  | .done value => .done value
  | .fail why => .fail why
  | .note record rest => .note record (ofDialogue rest)
  | .send command rest => .send command fun answer => ofDialogue (rest answer)

instance : MonadLift Dialogue Work := ⟨ofDialogue⟩

def rig : Work Rig := .look .done

def session : Work Session := do (← rig).openSession

def become (r : Rig) : Work Unit := .change r (.done ())

def keep (s : Session) : Work Unit := do become { ← rig with session := some s }

def run (link : Link) (port : Port σ) : Work α → Rig → σ → Outcome σ α × Rig
  | .done value, r, s => (⟨.ok value, [], s⟩, r)
  | .fail why, r, s => (⟨.error why, [], s⟩, r)
  | .note record rest, r, s =>
    let (o, r') := rest.run link port r s
    (o.after [.noted record], r')
  | .send command rest, r, s =>
    let answered := link.exchange port command.line s
    let (o, r') := (rest answered.result).run link port r answered.port
    (o.after answered.history, r')
  | .look rest, r, s => (rest r).run link port r s
  | .change r rest, _, s => rest.run link port r s

end Work

end Transceiver
