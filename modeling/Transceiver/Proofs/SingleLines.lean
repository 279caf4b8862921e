import Transceiver.Proofs.VfoMemory

/-! Answers of one line. A radio none of whose texts holds a carriage return answers every line with
one line, and what it stores of a line holds none either. -/
namespace Transceiver

/-- The text holds nothing that ends a line. -/
def Unended (s : String) : Prop := terminator ∉ s.toList

instance (s : String) : Decidable (Unended s) :=
  inferInstanceAs (Decidable (¬ terminator ∈ s.toList))

theorem unended_unknown : Unended "?" := by decide

theorem unended_append {s t : String} : Unended (s ++ t) ↔ Unended s ∧ Unended t := by
  simp [Unended]

theorem unended_of_subset {s t : String} (h : Unended t) (inside : ∀ c ∈ s.toList, c ∈ t.toList) :
    Unended s :=
  fun ending => h (inside terminator ending)

theorem unended_join {pieces : List String} (h : ∀ piece ∈ pieces, Unended piece) :
    Unended (Text.join "," pieces) := by
  intro ending
  rcases Text.mem_join ending with comma | ⟨piece, member, inside⟩
  · exact absurd comma (by decide)
  · exact h piece member inside

theorem unended_padded (width n : Nat) : Unended (Number.padded width n) :=
  fun ending => absurd (Number.isDigit_of_mem_padded ending) (by decide)

theorem unended_showInt (n : Int) : Unended (Number.showInt n) := by
  intro ending
  rcases Number.mem_showInt ending with sign | digit
  · cases sign
  · cases digit

theorem unended_paddedInt (width : Nat) (n : Int) : Unended (Number.paddedInt width n) := by
  cases n with
  | ofNat n => exact unended_padded width n
  | negSucc n => exact unended_append.mpr ⟨by decide, unended_padded (width - 1) (n + 1)⟩

theorem infix_of_splitOn {separator : Char} {cs first : List Char} {others : List (List Char)}
    (parts : cs.splitOn separator = first :: others) :
    first <+: cs ∧ ∀ piece ∈ others, piece <:+: cs := by
  induction cs generalizing first others with
  | nil =>
      cases parts
      exact ⟨List.prefix_rfl, fun piece member => absurd member List.not_mem_nil⟩
  | cons d rest ih =>
      obtain ⟨head, tail, later⟩ := List.exists_cons_of_ne_nil (List.splitOn_ne_nil separator rest)
      obtain ⟨front, back⟩ := ih later
      rw [List.splitOn_cons_eq_if_modifyHead, later] at parts
      split at parts
      · cases parts
        refine ⟨List.nil_prefix, fun piece member => ?_⟩
        rcases List.mem_cons.mp member with rfl | there
        · exact List.infix_cons front.isInfix
        · exact List.infix_cons (back piece there)
      · cases parts
        exact ⟨List.cons_prefix_cons.mpr ⟨rfl, front⟩,
          fun piece member => List.infix_cons (back piece member)⟩

theorem infix_of_mem_fields {separator : Char} {s field : String}
    (member : field ∈ Text.fields separator s) : field.toList <:+: s.toList := by
  obtain ⟨piece, there, rfl⟩ := List.mem_map.mp member
  obtain ⟨first, others, parts⟩ :=
    List.exists_cons_of_ne_nil (List.splitOn_ne_nil separator s.toList)
  obtain ⟨front, back⟩ := infix_of_splitOn parts
  rw [parts] at there
  rw [String.toList_ofList]
  rcases List.mem_cons.mp there with rfl | later
  · exact front.isInfix
  · exact back piece later

theorem unended_fields {s : String} (h : Unended s) : ∀ field ∈ Text.fields ',' s, Unended field :=
  fun _ member => unended_of_subset h fun _ inside => (infix_of_mem_fields member).subset inside

namespace Simulation

/-- No stored text holds a carriage return. -/
structure Radio.Clear (r : Radio) : Prop where
  memories : ∀ key text, r.memories.get? key = some text → Unended text
  names : ∀ key text, r.names.get? key = some text → Unended text
  vfo : ∀ band, Unended (r.vfo.get band)

/-- Where the radio makes sense of a command, the answer is one line and the radio stays clear. -/
def Single (answered : Option (String × Radio)) : Prop :=
  ∀ reply r, answered = some (reply, r) → Unended reply ∧ r.Clear

namespace Single

theorem bind {α : Type} {o : Option α} {next : α → Option (String × Radio)}
    (h : ∀ a, o = some a → Single (next a)) : Single (o >>= next) := by
  cases o with
  | none => exact fun _ _ none => by cases none
  | some a => exact h a rfl

theorem pure {reply : String} {r : Radio} (single : Unended reply) (clear : r.Clear) :
    Single (some (reply, r)) := by
  rintro _ _ ⟨⟩
  exact ⟨single, clear⟩

end Single

theorem unended_of_written {write : Int → String} (h : ∀ n, Unended (write n)) {n : Int}
    {text : String} (written : Number.written? write n = some text) : Unended text := by
  obtain ⟨-, rfl⟩ := Number.written?_eq_some.mp written
  exact h n

namespace Radio

variable {r : Radio} {args : List String}

theorem Clear.put_memory (clear : r.Clear) (key : Int) {text : String} (single : Unended text) :
    Clear { r with memories := r.memories.put key text } := by
  refine ⟨fun other found there => ?_, clear.names, clear.vfo⟩
  rw [Table.get?_put] at there
  split at there
  · cases there
    exact single
  · exact clear.memories other found there

theorem Clear.put_name (clear : r.Clear) (key : Int) {text : String} (single : Unended text) :
    Clear { r with names := r.names.put key text } := by
  refine ⟨clear.memories, fun other found there => ?_, clear.vfo⟩
  rw [Table.get?_put] at there
  split at there
  · cases there
    exact single
  · exact clear.names other found there

theorem answerMemory_single (clear : r.Clear) (single : ∀ arg ∈ args, Unended arg) :
    Single (r.answerMemory args) := by
  unfold answerMemory
  refine Single.bind fun field _ => Single.bind fun channel _ => ?_
  split
  · cases stored : r.memories.get? channel with
    | none => exact Single.pure (by decide) clear
    | some payload =>
        exact Single.pure (unended_append.mpr ⟨by decide, clear.memories _ _ stored⟩) clear
  · split
    · have joined := unended_join single
      exact Single.pure (unended_append.mpr ⟨by decide, joined⟩) (clear.put_memory _ joined)
    · exact Single.pure (by decide) clear

theorem unended_nameReply (clear : r.Clear) (channel : Int) : Unended (r.nameReply channel) := by
  have stored : Unended ((r.names.get? channel).getD "") := by
    cases found : r.names.get? channel with
    | none => decide
    | some name => exact clear.names _ _ found
  unfold nameReply
  refine unended_append.mpr ⟨unended_append.mpr ⟨by decide, unended_paddedInt 3 channel⟩, ?_⟩
  split
  · decide
  · exact unended_append.mpr ⟨by decide, stored⟩

theorem answerName_single (clear : r.Clear) (single : ∀ arg ∈ args, Unended arg) :
    Single (r.answerName args) := by
  unfold answerName
  refine Single.bind fun field _ => Single.bind fun channel _ => ?_
  cases second : args[1]? with
  | none => exact Single.pure (unended_nameReply clear channel) clear
  | some name =>
      have put := clear.put_name channel (single name (List.mem_of_getElem? second))
      exact Single.pure (unended_nameReply put channel) put

theorem unended_controlReply {reply : String} (h : r.controlReply = some reply) : Unended reply := by
  unfold controlReply at h
  obtain ⟨control, first, h⟩ := Option.bind_eq_some_iff.mp h
  obtain ⟨transmit, second, h⟩ := Option.bind_eq_some_iff.mp h
  cases h
  simp only [unended_append]
  exact ⟨⟨⟨by decide, unended_of_written unended_showInt first⟩, by decide⟩,
    unended_of_written unended_showInt second⟩

theorem answerControl_single (clear : r.Clear) : Single (r.answerControl args) := by
  unfold answerControl
  split
  · exact Single.bind fun reply told => Single.pure (unended_controlReply told) clear
  · refine Single.bind fun _ _ => Single.bind fun _ _ => Single.bind fun _ _ =>
      Single.bind fun _ _ => Single.bind fun reply told => ?_
    exact Single.pure (unended_controlReply told) ⟨clear.memories, clear.names, clear.vfo⟩

theorem answerTuning_single (clear : r.Clear) : Single (r.answerTuning args) := by
  unfold answerTuning
  refine Single.bind fun _ _ => Single.bind fun n _ => ?_
  have replied : ∀ r' : Radio, r'.Clear → Single (do
      let tuning ← Number.written? Number.showInt (r'.tuning.get (← bandOf? n))
      return ("VM " ++ Number.showInt n ++ "," ++ tuning, r')) := by
    refine fun r' clear' => Single.bind fun _ _ => Single.bind fun text written => ?_
    refine Single.pure ?_ clear'
    simp only [unended_append]
    exact ⟨⟨⟨by decide, unended_showInt n⟩, by decide⟩, unended_of_written unended_showInt written⟩
  cases args[1]? with
  | none => exact replied r clear
  | some arg =>
      refine Single.bind fun _ _ => Single.bind fun _ _ => ?_
      exact replied _ ⟨clear.memories, clear.names, clear.vfo⟩

theorem unended_selectionReply {n : Int} {reply : String} (h : r.selectionReply n = some reply) :
    Unended reply := by
  unfold selectionReply at h
  obtain ⟨_, -, h⟩ := Option.bind_eq_some_iff.mp h
  obtain ⟨text, written, h⟩ := Option.bind_eq_some_iff.mp h
  cases h
  simp only [unended_append]
  exact ⟨⟨⟨by decide, unended_showInt n⟩, by decide⟩,
    unended_of_written (unended_paddedInt 3) written⟩

theorem answerSelection_single (clear : r.Clear) : Single (r.answerSelection args) := by
  unfold answerSelection
  refine Single.bind fun _ _ => Single.bind fun n _ => ?_
  cases args[1]? with
  | none => exact Single.bind fun reply told => Single.pure (unended_selectionReply told) clear
  | some arg =>
      refine Single.bind fun channel _ => ?_
      dsimp only
      split
      · exact Single.pure (by decide) clear
      · refine Single.bind fun _ _ => Single.bind fun reply told => ?_
        exact Single.pure (unended_selectionReply told) ⟨clear.memories, clear.names, clear.vfo⟩

theorem answerBusy_single (clear : r.Clear) : Single (r.answerBusy args) := by
  unfold answerBusy
  refine Single.bind fun _ _ => Single.bind fun n _ => Single.bind fun _ _ =>
    Single.bind fun text written => ?_
  refine Single.pure ?_ clear
  simp only [unended_append]
  exact ⟨⟨⟨by decide, unended_showInt n⟩, by decide⟩, unended_of_written unended_showInt written⟩

theorem answerVfo_single (clear : r.Clear) (single : ∀ arg ∈ args, Unended arg) :
    Single (r.answerVfo args) := by
  unfold answerVfo
  refine Single.bind fun _ _ => Single.bind fun n _ => Single.bind fun band _ => ?_
  have replied : ∀ r' : Radio, r'.Clear →
      Single (some ("FO " ++ Number.showInt n ++ "," ++ r'.vfo.get band, r')) := by
    refine fun r' clear' => Single.pure ?_ clear'
    simp only [unended_append]
    exact ⟨⟨⟨by decide, unended_showInt n⟩, by decide⟩, clear'.vfo band⟩
  dsimp only
  split
  · exact replied r clear
  · refine replied _ ⟨clear.memories, clear.names, fun other => ?_⟩
    dsimp only
    rw [PerBand.get_set]
    split
    · exact unended_join fun arg member => single arg (List.mem_of_mem_tail member)
    · exact clear.vfo other

theorem unended_keyReply {line : String} (single : Unended line) : Unended (r.keyReply line) := by
  unfold keyReply
  cases written : Number.written? Number.showInt r.transmit with
  | none => exact unended_unknown
  | some text =>
      refine unended_append.mpr ⟨unended_append.mpr ⟨single, by decide⟩, ?_⟩
      exact unended_of_written unended_showInt written

theorem answerNamed_single (clear : r.Clear) (name : String) (single : ∀ arg ∈ args, Unended arg) :
    Single (r.answerNamed name args) := by
  unfold answerNamed
  split
  · exact Single.pure (by decide) clear
  · exact answerMemory_single clear single
  · exact answerName_single clear single
  · exact answerControl_single clear
  · exact answerTuning_single clear
  · exact answerSelection_single clear
  · exact answerBusy_single clear
  · exact answerVfo_single clear single
  · exact Single.pure (unended_keyReply (by decide)) ⟨clear.memories, clear.names, clear.vfo⟩
  · exact Single.pure (unended_keyReply (by decide)) ⟨clear.memories, clear.names, clear.vfo⟩
  · exact fun _ _ none => by cases none

/-- A line is answered with one line. -/
theorem answer_single (clear : r.Clear) {line : String} (single : Unended line) :
    Unended (r.answer line).1 ∧ (r.answer line).2.Clear := by
  have fields : ∀ name rest, Text.cut ' ' line = (name, rest) →
      ∀ arg ∈ argumentsOf rest, Unended arg := by
    intro name rest parted
    unfold Text.cut at parted
    dsimp only at parted
    cases tail : line.toList.dropWhile (· != ' ') with
    | nil =>
        rw [tail] at parted
        cases parted
        exact fun arg member => absurd member List.not_mem_nil
    | cons blank text =>
        rw [tail] at parted
        cases parted
        have within : Unended (.ofList text) := by
          refine unended_of_subset single fun c inside => ?_
          rw [String.toList_ofList] at inside
          have there : c ∈ line.toList.dropWhile (· != ' ') := by
            rw [tail]
            exact List.mem_cons_of_mem blank inside
          exact (List.dropWhile_sublist _).mem there
        unfold argumentsOf
        dsimp only
        split
        · exact fun arg member => absurd member List.not_mem_nil
        · exact unended_fields within
  unfold answer
  dsimp only
  cases answered : r.answerNamed (Text.cut ' ' line).1 (argumentsOf (Text.cut ' ' line).2) with
  | none => exact ⟨unended_unknown, clear⟩
  | some pair => exact answerNamed_single clear _ (fields _ _ rfl) pair.1 pair.2 answered

end Radio

end Simulation

end Transceiver
