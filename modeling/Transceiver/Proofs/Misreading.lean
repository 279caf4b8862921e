import Transceiver.Proofs.Grammar
import Transceiver.Proofs.Quoting

/-! Replies that make no sense. Whatever a reply is, reading a record off it comes to a record or to a
fault of the radio, as long as no row of digits in it is too long for an integer. -/
namespace Transceiver

open Record Dialogue

/-- A row of digits in the text is too long to be read as an integer. -/
def Overlong (s : String) : Prop :=
  ∃ row : List Char, row <:+: s.toList ∧ (∀ c ∈ row, c.isDigit = true) ∧
    Number.maxDigits < row.length

/-- What can be wrong with a reply. -/
inductive Misread (reply : String) : Fault → Prop
  | radio (fault : RadioFault) : Misread reply (.radio fault)
  | overlong : Overlong reply → Misread reply .notInteger

/-- Nothing but a misread reply stands in the way of a value. -/
def Reads {α : Type} (reply : String) (e : Except Fault α) : Prop :=
  ∀ why, e = .error why → Misread reply why

theorem overlong_of_unreadable {field s : String} (inside : field.toList <:+: s.toList)
    (unreadable : ¬ Number.IsReadable field) : Overlong s := by
  obtain ⟨digits, long⟩ := Classical.not_imp.mp unreadable
  exact ⟨field.toList, inside, digits, Nat.lt_of_not_le long⟩

namespace Reads

variable {α β : Type} {reply : String}

theorem ok (value : α) : Reads reply (.ok value) := nofun

theorem radio (fault : RadioFault) : Reads reply (.error (.radio fault) : Except Fault α) := by
  rintro _ ⟨⟩
  exact .radio fault

theorem bind {e : Except Fault α} {next : α → Except Fault β} (h : Reads reply e)
    (rest : ∀ value, Reads reply (next value)) : Reads reply (e >>= next) := by
  cases e with
  | ok value => exact rest value
  | error why =>
      rintro _ ⟨⟩
      exact h why rfl

theorem number {size : Nat} {field : String} (inside : field.toList <:+: reply.toList) :
    Reads reply (Record.number size reply field) := by
  intro why failed
  rcases number_refuses failed with ⟨fault, rfl, -⟩ | ⟨rfl, unreadable⟩
  · exact .radio fault
  · exact .overlong (overlong_of_unreadable inside unreadable)

/-- The fields of a line are pieces of it, so a line that is read by its grammar is read. -/
theorem line {values : α → List Nat} {e : Except Fault α} {line : String} {formats : List Format}
    (h : values <$> e = readLine line formats reply) : Reads reply e := by
  rintro why rfl
  rcases readLine_refuses h.symm with ⟨fault, rfl, -⟩ | ⟨rfl, unreadable⟩
  · exact .radio fault
  · obtain ⟨field, member, unreadable⟩ : ∃ field ∈ Text.fields ',' (Text.drop (line.length + 1) reply),
        ¬ Number.IsReadable field := by
      simpa [IsReadable] using unreadable
    refine .overlong (overlong_of_unreadable ((infix_of_mem_fields member).trans ?_) unreadable)
    rw [Text.drop, String.toList_ofList]
    exact (List.drop_suffix _ _).isInfix

end Reads

section
variable (reply : String)

theorem MemoryRecord.reads_parse : Reads reply (MemoryRecord.parse reply) := .line (parse_values reply)

theorem BandControl.reads_parse : Reads reply (BandControl.parse reply) := .line (parse_values reply)

theorem BandTuning.reads_parse : Reads reply (BandTuning.parse reply) := .line (parse_values reply)

theorem MemorySelection.reads_parse : Reads reply (MemorySelection.parse reply) := .line (parse_values reply)

theorem BusyState.reads_parse : Reads reply (BusyState.parse reply) := .line (parse_values reply)

theorem infix_of_cut (separator : Char) (s : String) : (Text.cut separator s).1.toList <:+: s.toList := by
  unfold Text.cut
  dsimp only
  split <;> exact String.toList_ofList ▸ (List.takeWhile_prefix _).isInfix

theorem MemoryName.reads_parse : Reads reply (MemoryName.parse reply) := by
  have front : (Text.cut ',' (Text.drop 3 reply)).1.toList <:+: reply.toList := by
    refine (infix_of_cut ',' _).trans ?_
    rw [Text.drop, String.toList_ofList]
    exact (List.drop_suffix _ _).isInfix
  unfold MemoryName.parse
  dsimp only
  split
  · exact Reads.radio _
  · refine (Reads.number front).bind fun _ => ?_
    split
    · exact Reads.radio _
    · exact Reads.ok _

theorem reads_ownRecord (channel : Fin 1000) : Reads reply (ownRecord channel reply) := by
  unfold ownRecord
  split
  · rename_i why unread
    rintro _ ⟨⟩
    exact MemoryRecord.reads_parse reply why unread
  · split
    · exact Reads.ok _
    · exact Reads.radio _

theorem reads_expectLine (line : String) : Reads reply ((expectLine line reply).mapError .radio) := by
  unfold expectLine
  split
  · exact Reads.ok _
  · exact Reads.radio _

end

end Transceiver
