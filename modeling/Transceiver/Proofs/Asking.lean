import Transceiver.Proofs.Conversation

/-! Bounds on a dialogue that hold whatever it is answered: the commands that it may send, and the
values that it may come to. Bounds of the parts of a dialogue make up the bound of the whole. -/
namespace Transceiver.Dialogue

variable {α β : Type} {May : Command → Prop} {Yields : α → Prop}

/-- A dialogue sends only such commands, and comes only to such values if it comes to any. -/
def Asks (May : Command → Prop) (Yields : α → Prop) : Dialogue α → Prop
  | .done value => Yields value
  | .fail _ => True
  | .note _ rest => rest.Asks May Yields
  | .send command rest => May command ∧ ∀ answer, (rest answer).Asks May Yields

namespace Asks

theorem conversation {d : Dialogue α} (h : d.Asks May Yields) {turns : List Turn}
    {result : Except Fault α} (said : d.Conversation turns result) :
    (∀ turn ∈ turns, May turn.command) ∧ ∀ value, result = .ok value → Yields value := by
  induction said with
  | done value =>
      refine ⟨fun turn member => absurd member List.not_mem_nil, ?_⟩
      rintro _ ⟨⟩
      exact h
  | fail why =>
      refine ⟨fun turn member => absurd member List.not_mem_nil, ?_⟩
      intro value same
      cases same
  | note later ih => exact ih h
  | send answer later ih =>
      obtain ⟨sent, came⟩ := ih (h.2 answer)
      refine ⟨?_, came⟩
      intro turn member
      rcases List.mem_cons.mp member with rfl | there
      · exact h.1
      · exact sent turn there

theorem weaken {d : Dialogue α} {May' : Command → Prop} {Yields' : α → Prop}
    (h : d.Asks May Yields) (commands : ∀ c, May c → May' c) (values : ∀ v, Yields v → Yields' v) :
    d.Asks May' Yields' := by
  induction d with
  | done value => exact values value h
  | fail why => trivial
  | note record rest ih => exact ih h
  | send command rest ih => exact ⟨commands command h.1, fun answer => ih answer (h.2 answer)⟩

theorem bind {Yields' : β → Prop} {d : Dialogue α} {next : α → Dialogue β} (h : d.Asks May Yields)
    (then_ : ∀ value, Yields value → (next value).Asks May Yields') :
    (d >>= next).Asks May Yields' := by
  induction d with
  | done value => exact then_ value h
  | fail why => trivial
  | note record rest ih => exact ih h
  | send command rest ih => exact ⟨h.1, fun answer => ih answer (h.2 answer)⟩

theorem seq {Yields' : β → Prop} {d : Dialogue α} {next : α → Dialogue β}
    (h : d.Asks May fun _ => True) (then_ : ∀ value, (next value).Asks May Yields') :
    (d >>= next).Asks May Yields' :=
  bind h fun value _ => then_ value

theorem rescue {d : Dialogue α} {handler : Fault → Dialogue α} (h : d.Asks May Yields)
    (otherwise : ∀ why, (handler why).Asks May Yields) :
    (tryCatch d handler).Asks May Yields := by
  induction d with
  | done value => exact h
  | fail why => exact otherwise why
  | note record rest ih => exact ih h
  | send command rest ih => exact ⟨h.1, fun answer => ih answer (h.2 answer)⟩

theorem ofExcept {e : Except Fault α} (h : ∀ value, e = .ok value → Yields value) :
    (Dialogue.ofExcept e).Asks May Yields := by
  cases e with
  | ok value => exact h value rfl
  | error why => trivial

theorem ask_then {command : Command} {next : String → Dialogue α} (may : May command)
    (rest : ∀ reply, (next reply).Asks May Yields) : (ask command >>= next).Asks May Yields := by
  refine ⟨may, fun answer => ?_⟩
  cases answer with
  | ok reply => exact rest reply
  | error why => trivial

theorem say (level : Int) (message : String) : (Dialogue.say level message).Asks May fun _ => True :=
  trivial

theorem discard {d : Dialogue α} (h : d.Asks May Yields) :
    (Functor.discard d).Asks May fun _ => True :=
  bind h fun _ _ => trivial

end Asks

/-- The record of a line is asked for with one command, and its fields are all that comes back. -/
theorem asks_parsed {command : Command} {parse : String → Except Fault α} (may : May command) :
    (ask command >>= fun reply => ofExcept (parse reply)).Asks May fun _ => True :=
  Asks.ask_then may fun _ => Asks.ofExcept fun _ _ => trivial

end Transceiver.Dialogue
