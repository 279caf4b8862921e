import Transceiver.Command
import Transceiver.Link

/-! Dialogues with the radio. A dialogue says which command comes next, given the answers
so far, what is noted on the way, and how it ends. It fixes the commands for every
behaviour of the line; running it on a link and a port decides the answers. -/
namespace Transceiver

inductive Dialogue (α : Type) where
  | done (value : α)
  | fail (why : Fault)
  | note (record : LogRecord) (rest : Dialogue α)
  | send (command : Command) (rest : Except Fault String → Dialogue α)

namespace Dialogue

variable {σ α β : Type}

def bind : Dialogue α → (α → Dialogue β) → Dialogue β
  | .done value, next => next value
  | .fail why, _ => .fail why
  | .note record rest, next => .note record (rest.bind next)
  | .send command rest, next => .send command fun answer => (rest answer).bind next

def rescue : Dialogue α → (Fault → Dialogue α) → Dialogue α
  | .done value, _ => .done value
  | .fail why, handler => handler why
  | .note record rest, handler => .note record (rest.rescue handler)
  | .send command rest, handler => .send command fun answer => (rest answer).rescue handler

instance : Monad Dialogue where
  pure := .done
  bind := bind

instance : MonadExceptOf Fault Dialogue where
  throw := .fail
  tryCatch := rescue

def ofExcept : Except Fault α → Dialogue α
  | .ok value => .done value
  | .error why => .fail why

instance : MonadLift (Except Fault) Dialogue := ⟨ofExcept⟩

instance : MonadLift (Except ArgumentFault) Dialogue := ⟨fun e => ofExcept (e.mapError .ofArgument)⟩

instance : MonadLift (Except RadioFault) Dialogue := ⟨fun e => ofExcept (e.mapError .radio)⟩

def say (level : Int) (message : String) : Dialogue Unit :=
  .note ⟨Source.rig, level, message⟩ (.done ())

def ask (command : Command) : Dialogue String := .send command ofExcept

def run (link : Link) (port : Port σ) : Dialogue α → σ → Outcome σ α
  | .done value, s => ⟨.ok value, [], s⟩
  | .fail why, s => ⟨.error why, [], s⟩
  | .note record rest, s => (rest.run link port s).after [.noted record]
  | .send command rest, s =>
    let answered := link.exchange port command.line s
    ((rest answered.result).run link port answered.port).after answered.history

@[simp] theorem bind_done (d : Dialogue α) : d.bind .done = d := by
  induction d with
  | done => rfl
  | fail => rfl
  | note record rest ih => simp [bind, ih]
  | send command rest ih => simp [bind, ih]

theorem bind_assoc {γ : Type} (d : Dialogue α) (f : α → Dialogue β) (g : β → Dialogue γ) :
    (d.bind f).bind g = d.bind fun a => (f a).bind g := by
  induction d with
  | done => rfl
  | fail => rfl
  | note record rest ih => simp [bind, ih]
  | send command rest ih => simp [bind, ih]

instance : LawfulMonad Dialogue :=
  LawfulMonad.mk' Dialogue bind_done (fun _ _ => rfl) bind_assoc

end Dialogue

end Transceiver
