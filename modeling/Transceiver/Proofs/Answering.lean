import Transceiver.Proofs.Hearing

/-! What the answers of a simulated radio change. Whatever the arguments of a command are, only the
two commands for it touch the transmitter, and memories and names are touched by one command each. -/
namespace Transceiver.Simulation

open Record

/-- Where the radio makes sense of a command, the radio after it is such a one. -/
def Leads (P : Radio → Prop) (answered : Option (String × Radio)) : Prop :=
  ∀ reply r, answered = some (reply, r) → P r

namespace Leads

variable {P : Radio → Prop}

theorem bind {α : Type} {o : Option α} {next : α → Option (String × Radio)}
    (h : ∀ a, o = some a → Leads P (next a)) : Leads P (o >>= next) := by
  cases o with
  | none =>
      intro reply r none
      cases none
  | some a => exact h a rfl

theorem pure {reply : String} {r : Radio} (h : P r) : Leads P (some (reply, r)) := by
  rintro _ _ ⟨⟩
  exact h

theorem getD {answered : Option (String × Radio)} {r : Radio} (h : Leads P answered) (same : P r) :
    P (answered.getD ("?", r)).2 := by
  cases answered with
  | none => exact same
  | some pair => exact h pair.1 pair.2 rfl

end Leads

namespace Radio

/-- The radio has the same memories, names and transmitter. -/
def Keeps (r r' : Radio) : Prop :=
  r'.memories = r.memories ∧ r'.names = r.names ∧ r'.transmitting = r.transmitting

theorem answerControl_keeps (r : Radio) (args : List String) :
    Leads r.Keeps (r.answerControl args) := by
  unfold answerControl
  split
  · exact Leads.bind fun _ _ => Leads.pure (P := r.Keeps) ⟨rfl, rfl, rfl⟩
  · refine Leads.bind fun _ _ => Leads.bind fun _ _ => Leads.bind fun _ _ => Leads.bind fun _ _ => ?_
    exact Leads.bind fun _ _ => Leads.pure (P := r.Keeps) ⟨rfl, rfl, rfl⟩

theorem answerTuning_keeps (r : Radio) (args : List String) :
    Leads r.Keeps (r.answerTuning args) := by
  unfold answerTuning
  refine Leads.bind fun _ _ => Leads.bind fun n _ => ?_
  have replied : ∀ r' : Radio, r.Keeps r' → Leads r.Keeps (do
      let tuning ← Number.written? Number.showInt (r'.tuning.get (← bandOf? n))
      return ("VM " ++ Number.showInt n ++ "," ++ tuning, r')) := fun r' kept =>
    Leads.bind fun _ _ => Leads.bind fun _ _ => Leads.pure kept
  cases args[1]? with
  | none => exact replied r ⟨rfl, rfl, rfl⟩
  | some arg => exact Leads.bind fun _ _ => Leads.bind fun _ _ => replied _ ⟨rfl, rfl, rfl⟩

theorem answerSelection_keeps (r : Radio) (args : List String) :
    Leads r.Keeps (r.answerSelection args) := by
  unfold answerSelection
  refine Leads.bind fun _ _ => Leads.bind fun n _ => ?_
  cases args[1]? with
  | none => exact Leads.bind fun _ _ => Leads.pure (P := r.Keeps) ⟨rfl, rfl, rfl⟩
  | some arg =>
      refine Leads.bind fun channel _ => ?_
      dsimp only
      split
      · exact Leads.pure (P := r.Keeps) ⟨rfl, rfl, rfl⟩
      · refine Leads.bind fun _ _ => Leads.bind fun _ _ => ?_
        exact Leads.pure (P := r.Keeps) ⟨rfl, rfl, rfl⟩

theorem answerBusy_keeps (r : Radio) (args : List String) : Leads r.Keeps (r.answerBusy args) := by
  unfold answerBusy
  refine Leads.bind fun _ _ => Leads.bind fun _ _ => Leads.bind fun _ _ => Leads.bind fun _ _ => ?_
  exact Leads.pure (P := r.Keeps) ⟨rfl, rfl, rfl⟩

theorem answerVfo_keeps (r : Radio) (args : List String) : Leads r.Keeps (r.answerVfo args) := by
  unfold answerVfo
  refine Leads.bind fun _ _ => Leads.bind fun _ _ => Leads.bind fun band _ => ?_
  dsimp only
  split <;> exact Leads.pure (P := r.Keeps) ⟨rfl, rfl, rfl⟩

/-- Storing a name is all that the command for names changes. -/
theorem answerName_leads (r : Radio) (args : List String) :
    Leads (fun r' => r'.memories = r.memories ∧ r'.transmitting = r.transmitting ∧
      (args[1]? = none → r'.names = r.names)) (r.answerName args) := by
  unfold answerName
  refine Leads.bind fun _ _ => Leads.bind fun channel _ => ?_
  cases args[1]? with
  | none => exact Leads.pure ⟨rfl, rfl, fun _ => rfl⟩
  | some name => exact Leads.pure ⟨rfl, rfl, fun none => by cases none⟩

/-- Storing a record under the channel of its first field is all that the command for memories
changes. -/
theorem answerMemory_leads (r : Radio) (args : List String) :
    Leads (fun r' => r'.names = r.names ∧ r'.transmitting = r.transmitting ∧
      ∀ key, (args.length = 16 → args.head?.bind Number.readInt? ≠ some key) →
        r'.memories.get? key = r.memories.get? key) (r.answerMemory args) := by
  unfold answerMemory
  refine Leads.bind fun field first => Leads.bind fun channel read => ?_
  split
  · cases r.memories.get? channel with
    | none => exact Leads.pure ⟨rfl, rfl, fun _ _ => rfl⟩
    | some payload => exact Leads.pure ⟨rfl, rfl, fun _ _ => rfl⟩
  · split
    · rename_i sixteen
      refine Leads.pure ⟨rfl, rfl, fun key other => ?_⟩
      have unlike : channel ≠ key := by
        rintro rfl
        exact other sixteen (by rw [first]; exact read)
      rw [Table.get?_put, if_neg unlike]
    · exact Leads.pure ⟨rfl, rfl, fun _ _ => rfl⟩

theorem answerNamed_transmitting (r : Radio) {name : String} (args : List String) (key : name ≠ "TX")
    (release : name ≠ "RX") :
    Leads (fun r' => r'.transmitting = r.transmitting) (r.answerNamed name args) := by
  unfold answerNamed
  split
  · exact Leads.pure rfl
  · exact fun reply r' h => (r.answerMemory_leads args reply r' h).2.1
  · exact fun reply r' h => (r.answerName_leads args reply r' h).2.1
  · exact fun reply r' h => (r.answerControl_keeps args reply r' h).2.2
  · exact fun reply r' h => (r.answerTuning_keeps args reply r' h).2.2
  · exact fun reply r' h => (r.answerSelection_keeps args reply r' h).2.2
  · exact fun reply r' h => (r.answerBusy_keeps args reply r' h).2.2
  · exact fun reply r' h => (r.answerVfo_keeps args reply r' h).2.2
  · exact absurd rfl key
  · exact absurd rfl release
  · intro reply r' none
    cases none

theorem answerNamed_memories (r : Radio) {name : String} (args : List String) (memory : name ≠ "ME")
    (named : name ≠ "MN") :
    Leads (fun r' => r'.memories = r.memories ∧ r'.names = r.names) (r.answerNamed name args) := by
  unfold answerNamed
  split
  · exact Leads.pure ⟨rfl, rfl⟩
  · exact absurd rfl memory
  · exact absurd rfl named
  · exact fun reply r' h => (r.answerControl_keeps args reply r' h).imp_right And.left
  · exact fun reply r' h => (r.answerTuning_keeps args reply r' h).imp_right And.left
  · exact fun reply r' h => (r.answerSelection_keeps args reply r' h).imp_right And.left
  · exact fun reply r' h => (r.answerBusy_keeps args reply r' h).imp_right And.left
  · exact fun reply r' h => (r.answerVfo_keeps args reply r' h).imp_right And.left
  · exact Leads.pure ⟨rfl, rfl⟩
  · exact Leads.pure ⟨rfl, rfl⟩
  · intro reply r' none
    cases none

theorem answer_bare (r : Radio) {name : String} (bare : ' ' ∉ name.toList) :
    r.answer name = (r.answerNamed name []).getD ("?", r) := by
  unfold answer
  rw [Text.cut_of_not_mem bare]
  rfl

theorem answer_named (r : Radio) {name : String} (fields : List String) (bare : ' ' ∉ name.toList) :
    r.answer (lineText name fields) =
      (r.answerNamed name (argumentsOf (some (Text.join "," fields)))).getD ("?", r) := by
  have blank : " " = ' '.toString := by rfl
  unfold answer lineText
  rw [blank, Text.cut_append _ bare]

theorem answer_lineText (r : Radio) {name : String} {fields : List String}
    (bare : ' ' ∉ name.toList) (some : fields ≠ []) (whole : ∀ field ∈ fields, ',' ∉ field.toList)
    (full : Text.join "," fields ≠ "") :
    r.answer (lineText name fields) = (r.answerNamed name fields).getD ("?", r) := by
  rw [r.answer_named fields bare, argumentsOf, if_neg full, Text.fields_join rfl some whole]

end Radio

end Transceiver.Simulation
