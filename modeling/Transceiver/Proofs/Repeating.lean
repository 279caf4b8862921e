import Transceiver.Proofs.Provisioning

/-! Repeated lines. A radio that is sent a line once more gives the same answer and stays as the first
time left it, so a host that was left without an answer may send its command again. -/
namespace Transceiver

open Dialogue Record Simulation

namespace Simulation

/-- A radio that can answer is the same afterwards. -/
def Inert (answering : Radio → Option (String × Radio)) : Prop :=
  ∀ r reply r', answering r = some (reply, r') → r' = r

/-- A radio that can answer gives the same answer again, and is the same after both. -/
def Again (answering : Radio → Option (String × Radio)) : Prop :=
  ∀ r reply r', answering r = some (reply, r') → answering r' = some (reply, r')

namespace Inert

theorem pure (reply : Radio → String) : Inert fun r => some (reply r, r) := by
  rintro r _ _ ⟨⟩
  rfl

theorem bind {α : Type} {o : Radio → Option α} {next : α → Radio → Option (String × Radio)}
    (h : ∀ a, Inert (next a)) : Inert fun r => o r >>= fun a => next a r := by
  intro r reply r' answered
  obtain ⟨a, -, answered⟩ := Option.bind_eq_some_iff.mp answered
  exact h a r reply r' answered

theorem again {answering : Radio → Option (String × Radio)} (h : Inert answering) : Again answering := by
  intro r reply r' answered
  obtain rfl := h r reply r' answered
  exact answered

/-- An inert answer that follows on a change which makes no difference the second time. -/
theorem after {answering : Radio → Option (String × Radio)} (h : Inert answering)
    (change : Radio → Radio) (twice : ∀ r, change (change r) = change r) :
    Again fun r => answering (change r) := by
  intro r reply r' answered
  dsimp only at answered ⊢
  rw [h _ reply r' answered, twice, answered, h _ reply r' answered]

end Inert

theorem Again.bind {α : Type} {o : Option α} {next : α → Radio → Option (String × Radio)}
    (h : ∀ a, Again (next a)) : Again fun r => o >>= fun a => next a r := by
  cases o with
  | none => exact fun _ _ _ none => by cases none
  | some a => exact h a

namespace Radio

theorem answerMemory_again (args : List String) : Again fun r => r.answerMemory args := by
  unfold answerMemory
  refine Again.bind fun _ => Again.bind fun channel => ?_
  split
  · refine Inert.again fun r reply r' answered => ?_
    cases stored : r.memories.get? channel <;> rw [stored] at answered <;> cases answered <;> rfl
  · split
    · exact (Inert.pure fun _ => _).after
        (fun r => { r with memories := r.memories.put channel (Text.join "," args) })
        fun r => by simp only [Table.put_put]
    · exact (Inert.pure fun _ => "N").again

theorem answerName_again (args : List String) : Again fun r => r.answerName args := by
  unfold answerName
  refine Again.bind fun _ => Again.bind fun channel => ?_
  cases args[1]? with
  | none => exact (Inert.pure fun r => r.nameReply channel).again
  | some name =>
      exact (Inert.pure fun r => r.nameReply channel).after
        (fun r => { r with names := r.names.put channel name }) fun r => by simp only [Table.put_put]

theorem answerControl_again (args : List String) : Again fun r => r.answerControl args := by
  have told : Inert fun r => r.controlReply >>= fun reply => some (reply, r) :=
    Inert.bind fun reply => Inert.pure fun _ => reply
  unfold answerControl
  split
  · exact told.again
  · refine Again.bind fun _ => Again.bind fun control => Again.bind fun _ => Again.bind fun transmit => ?_
    exact told.after (fun r => { r with control, transmit }) fun r => rfl

theorem answerTuning_again (args : List String) : Again fun r => r.answerTuning args := by
  have told : ∀ n : Int, Inert fun r => do
      let tuning ← Number.written? Number.showInt (r.tuning.get (← bandOf? n))
      return ("VM " ++ Number.showInt n ++ "," ++ tuning, r) :=
    fun n => Inert.bind fun _ => Inert.bind fun _ => Inert.pure fun _ => _
  unfold answerTuning
  refine Again.bind fun _ => Again.bind fun n => ?_
  cases args[1]? with
  | none => exact (told n).again
  | some arg =>
      refine Again.bind fun mode => Again.bind fun band => ?_
      exact (told n).after (fun r => { r with tuning := r.tuning.set band mode })
        fun r => by simp only [PerBand.set_set]

theorem answerSelection_again (args : List String) : Again fun r => r.answerSelection args := by
  have told : ∀ n : Int, Inert fun r => do return (← r.selectionReply n, r) :=
    fun n => Inert.bind fun _ => Inert.pure fun _ => _
  unfold answerSelection
  refine Again.bind fun _ => Again.bind fun n => ?_
  cases args[1]? with
  | none => exact (told n).again
  | some arg =>
      refine Again.bind fun channel => ?_
      have placed := Again.bind (o := bandOf? n) fun band => (told n).after
        (fun r => { r with selection := r.selection.set band channel })
        fun r => by simp only [PerBand.set_set]
      -- What is selected has no say in whether the channel holds anything.
      intro r reply r' answered
      dsimp only at answered ⊢
      by_cases empty : (r.memories.get? channel).isNone = true
      · rw [if_pos empty] at answered
        cases answered
        rw [if_pos empty]
        rfl
      · rw [if_neg empty] at answered
        have same : r'.memories = r.memories := by
          obtain ⟨band, -, answered⟩ := Option.bind_eq_some_iff.mp answered
          obtain ⟨text, -, answered⟩ := Option.bind_eq_some_iff.mp answered
          cases answered
          rfl
        rw [if_neg (by rwa [same])]
        exact placed r reply r' answered

theorem answerBusy_again (args : List String) : Again fun r => r.answerBusy args := by
  unfold answerBusy
  refine Again.bind fun _ => Again.bind fun n => Inert.again ?_
  exact Inert.bind fun _ => Inert.bind fun _ => Inert.pure fun _ => _

theorem answerVfo_again (args : List String) : Again fun r => r.answerVfo args := by
  unfold answerVfo
  refine Again.bind fun _ => Again.bind fun n => Again.bind fun band => ?_
  have told : Inert fun r => some ("FO " ++ Number.showInt n ++ "," ++ r.vfo.get band, r) :=
    Inert.pure fun r => _
  by_cases query : args.length = 1
  · simp only [if_pos query]
    exact told.again
  · simp only [if_neg query]
    exact told.after (fun r => { r with vfo := r.vfo.set band (Text.join "," args.tail) })
      fun r => by simp only [PerBand.set_set]

theorem answerNamed_again (name : String) (args : List String) :
    Again fun r => r.answerNamed name args := by
  unfold answerNamed
  split
  · exact (Inert.pure fun _ => _).again
  · exact answerMemory_again args
  · exact answerName_again args
  · exact answerControl_again args
  · exact answerTuning_again args
  · exact answerSelection_again args
  · exact answerBusy_again args
  · exact answerVfo_again args
  · rintro r _ _ ⟨⟩
    rfl
  · rintro r _ _ ⟨⟩
    rfl
  · intro r reply r' none
    cases none

theorem answer_again (r : Radio) (line : String) : (r.answer line).2.answer line = r.answer line := by
  unfold answer
  dsimp only
  cases answered : r.answerNamed (Text.cut ' ' line).1 (argumentsOf (Text.cut ' ' line).2) with
  | none =>
      rw [Option.getD_none, answered]
      rfl
  | some pair =>
      have again := answerNamed_again _ _ r pair.1 pair.2 answered
      dsimp only at again
      rw [Option.getD_some, again]
      rfl

/-- A radio that is sent a line once more gives the same answer and stays as it is. -/
theorem serve_again (r : Radio) (line : String) : (r.serve line).2.serve line = r.serve line := by
  rcases r.serve_radio line with same | answered
  · rw [same]
  · unfold serve
    dsimp only
    cases Text.CodePage.encode (line ++ terminator.toString) with
    | error u => rfl
    | ok bytes =>
        dsimp only
        cases replied : Text.CodePage.encode (r.answer line).1 with
        | ok text =>
            dsimp only
            rw [r.answer_again, replied]
        | error u =>
            dsimp only
            rw [r.answer_again, replied]

end Radio

end Simulation

end Transceiver
