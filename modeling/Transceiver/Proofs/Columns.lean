import Transceiver.Proofs.ReadBack

/-! Columns. The fields of a memory or VFO line are as wide as their formats say, so each of them has a
column of its own. The one exception is the last tuning step: its number has two digits where the
format has one, and moves all that comes after it by a column. -/
namespace Transceiver

open Record

namespace Text

/-- Where a piece starts, among pieces of these widths with a mark after each. -/
def column : List Nat → Nat → Nat
  | [], _ => 0
  | _ :: _, 0 => 0
  | width :: widths, i + 1 => width + 1 + column widths i

variable {c : Char} {separator : String} (single : separator.toList = [c])

include single

theorem drop_join_cons {s : String} {rest : List String} (more : rest ≠ []) (n : Nat) :
    (join separator (s :: rest)).toList.drop (s.length + 1 + n) = (join separator rest).toList.drop n := by
  have front : (s.toList ++ separator.toList).length = s.length + 1 := by
    rw [List.length_append, single, String.length_toList]
    rfl
  rw [toList_join_cons separator s more, ← List.drop_drop, List.drop_left' front]

theorem take_drop_join {pieces : List String} {i : Nat} {piece : String} (there : pieces[i]? = some piece) :
    ((join separator pieces).toList.drop (column (pieces.map String.length) i)).take piece.length =
      piece.toList := by
  induction pieces generalizing i with
  | nil => cases there
  | cons s rest ih =>
      cases i with
      | zero =>
          obtain rfl : s = piece := Option.some.inj there
          have front : ∃ later, (join separator (s :: rest)).toList = s.toList ++ later := by
            cases rest with
            | nil => exact ⟨[], (List.append_nil _).symm⟩
            | cons t rest =>
                rw [toList_join_cons separator s (List.cons_ne_nil t rest), List.append_assoc]
                exact ⟨_, rfl⟩
          obtain ⟨later, joined⟩ := front
          rw [joined, List.map_cons, column, List.drop_zero, List.take_left' String.length_toList]
      | succ i =>
          have later : rest[i]? = some piece := there
          have more : rest ≠ [] := by
            rintro rfl
            cases later
          rw [List.map_cons, column, drop_join_cons single more, ih later]

theorem length_join {pieces : List String} (some : pieces ≠ []) :
    (join separator pieces).length + 1 = column (pieces.map String.length) pieces.length := by
  induction pieces with
  | nil => exact absurd rfl some
  | cons s rest ih =>
      cases rest with
      | nil => rfl
      | cons t rest =>
          have more : t :: rest ≠ [] := List.cons_ne_nil t rest
          rw [List.map_cons, List.length_cons, column, ← ih more, ← String.length_toList,
            toList_join_cons separator s more, single]
          simp only [List.length_append, List.length_singleton, String.length_toList]
          omega

end Text

namespace Record

/-- The number of the last tuning step, which has two digits. -/
def isLastStep (label : String) (v : Value) : Bool := label == "step" && v.int? == some 10

/-- The width that a label is listed with. -/
def listedWidth (formats : List Format) (label : String) : Nat :=
  (formats.find? (·.label == label)).elim 0 Format.width

/-- The digits that a field takes. -/
def fieldWidth (formats : List Format) (label : String) (v : Value) : Nat :=
  listedWidth formats label + (isLastStep label v).toNat

/-- All numbers of the field are as wide as its format says, but for the last tuning step. -/
def Format.Ruled (format : Format) : Prop :=
  ∀ n < format.size, (Number.padded format.width n).length =
    format.width + (isLastStep format.label (.ofNat n)).toNat

theorem Format.ruled_of_narrow {format : Format} (other : format.label ≠ "step")
    (room : 0 < format.width) (narrow : (Number.digits (format.size - 1)).length ≤ format.width) :
    format.Ruled := by
  intro n small
  have short : (Number.digits n).length ≤ format.width := by
    refine (Nat.length_toDigits_le_iff (by decide) room).mpr (Nat.lt_of_le_of_lt (Nat.le_pred_of_lt small) ?_)
    exact (Nat.length_toDigits_le_iff (by decide) room).mp narrow
  have early : isLastStep format.label (.ofNat n) = false := by
    rw [isLastStep, beq_eq_false_iff_ne.mpr other, Bool.false_and]
  rw [early, ← String.length_toList, Number.length_padded short]
  rfl

theorem ruled {format : Format} (listed : format ∈ VfoRecord.formats ++ MemoryRecord.formats) :
    format.Ruled := by
  have each : ∀ format ∈ VfoRecord.formats ++ MemoryRecord.formats,
      (format.label = "step" ∧ format.width = 1 ∧ format.size = 11) ∨ (format.label ≠ "step" ∧
        0 < format.width ∧ (Number.digits (format.size - 1)).length ≤ format.width) := by decide
  rcases each format listed with ⟨label, width, size⟩ | ⟨other, room, narrow⟩
  · unfold Format.Ruled
    rw [label, width, size]
    decide
  · exact Format.ruled_of_narrow other room narrow

theorem suppliedText_eq_ok {line label text : String} {formats : List Format} {v : Value} :
    suppliedText line formats label v = .ok text ↔
      ∃ format n, formats.find? (·.label == label) = some format ∧ n < format.size ∧
        v.int? = some (n : Int) ∧ Number.padded format.width n = text := by
  unfold suppliedText
  cases listed : formats.find? (·.label == label) with
  | none => simp
  | some format =>
      dsimp only
      constructor
      · intro h
        split at h
        · rename_i n taken
          cases h
          exact ⟨format, n.val, rfl, n.isLt, Value.intBelow?_eq_some.mp taken, rfl⟩
        · cases h
      · rintro ⟨_, n, ⟨⟩, small, whole, rfl⟩
        have taken : v.intBelow? format.size = some ⟨n, small⟩ := Value.intBelow?_eq_some.mpr whole
        rw [taken]

theorem length_suppliedText {line label text : String} {formats : List Format} {v : Value}
    (all : ∀ format ∈ formats, format.Ruled) (h : suppliedText line formats label v = .ok text) :
    text.length = fieldWidth formats label v := by
  obtain ⟨format, n, listed, small, whole, rfl⟩ := suppliedText_eq_ok.mp h
  have labelled : (format.label == label) = true := by simpa using List.find?_some listed
  have named : format.label = label := beq_iff_eq.mp labelled
  have same : isLastStep label v = isLastStep label (.ofNat n) := by rw [isLastStep, whole]; rfl
  rw [all format (List.mem_of_find?_eq_some listed) n small, fieldWidth, listedWidth, listed, named, same]
  rfl

theorem length_mapM_suppliedText {line : String} {formats : List Format} {entries : List (String × Value)}
    {fields : List String} (all : ∀ format ∈ formats, format.Ruled)
    (h : entries.mapM (fun (label, v) => suppliedText line formats label v) = .ok fields) :
    fields.map String.length = entries.map fun entry => fieldWidth formats entry.1 entry.2 := by
  induction entries generalizing fields with
  | nil =>
      cases h
      rfl
  | cons entry entries ih =>
      rw [List.mapM_cons] at h
      obtain ⟨field, supplied, h⟩ := bind_eq_ok.mp h
      obtain ⟨later, rest, ⟨⟩⟩ := bind_eq_ok.mp h
      rw [List.map_cons, List.map_cons, ih rest, length_suppliedText all supplied]

/-- Writes values one after the other, each by its format. -/
def writeFields (line : String) : List Format → List Value → Except Fault (List String)
  | format :: formats, v :: values => do
    let n ← (checked line format.label format.size v).mapError .ofArgument
    return Number.padded format.width n.val :: (← writeFields line formats values)
  | _, _ => return []

theorem suppliedText_listed {line : String} {formats : List Format} {format : Format} (v : Value)
    (listed : formats.find? (·.label == format.label) = some format) :
    suppliedText line formats format.label v = do
      let n ← (checked line format.label format.size v).mapError .ofArgument
      return Number.padded format.width n.val := by
  simp only [suppliedText, listed, checked]
  cases v.intBelow? format.size <;> rfl

/-- Values under the labels of listed formats are written by these. -/
theorem mapM_suppliedText {line : String} {listing formats : List Format}
    (listed : ∀ format ∈ formats, listing.find? (·.label == format.label) = some format)
    (values : List Value) :
    ((formats.map Format.label).zip values).mapM (fun (label, v) => suppliedText line listing label v) =
      writeFields line formats values := by
  induction formats generalizing values with
  | nil => rfl
  | cons format formats ih =>
      cases values with
      | nil => rfl
      | cons v values =>
          have own := listed format List.mem_cons_self
          have others := ih (fun other member => listed other (List.mem_cons_of_mem format member)) values
          rw [List.map_cons, List.zip_cons_cons, List.mapM_cons, others]
          simp only [suppliedText_listed v own, writeFields, bind_assoc, pure_bind]

end Record

namespace Row

/-- The widths of the fields that a row is written as. -/
def widths (row : Row) (formats : List Format) : List Nat :=
  row.entries.map fun entry => fieldWidth formats entry.1 entry.2

def hasLastStep (row : Row) : Bool := row.entries.any fun entry => isLastStep entry.1 entry.2

/-- A line that has a field of its width for each entry of the row, each in its column. -/
def InColumns (row : Row) (line : String) (formats : List Format) (text : String) : Prop :=
  ∃ fields, text = lineText line fields ∧ fields.map String.length = row.widths formats ∧
    ∀ i field, fields[i]? = some field →
      (text.toList.drop (line.length + 1 + Text.column (row.widths formats) i)).take field.length =
        field.toList

/-- Without the last step the widths are those listed for the labels. -/
theorem widths_eq_listed {row : Row} (early : row.hasLastStep = false) (formats : List Format) :
    row.widths formats = row.labels.map (listedWidth formats) := by
  rw [widths, labels, List.map_map]
  refine List.map_congr_left fun entry member => ?_
  have before : isLastStep entry.1 entry.2 = false := by simpa using List.any_eq_false.mp early entry member
  rw [fieldWidth, before]
  rfl

theorem inColumns_of_spelled {row : Row} {line text : String} {formats : List Format}
    (all : ∀ format ∈ formats, format.Ruled) (h : row.spelled line formats = .ok text) :
    row.InColumns line formats text := by
  obtain ⟨fields, supplied, ⟨⟩⟩ := bind_eq_ok.mp h
  have widths : fields.map String.length = row.widths formats := length_mapM_suppliedText all supplied
  refine ⟨fields, rfl, widths, fun i field there => ?_⟩
  have front : (line ++ " ").toList.length = line.length + 1 := by
    rw [String.toList_append, List.length_append, String.length_toList]
    rfl
  rw [lineText, String.toList_append, ← List.drop_drop, List.drop_left' front, ← widths]
  exact Text.take_drop_join rfl there

theorem length_values {row : Row} {labels : List String} (own : row.labels = labels) :
    labels.length = row.values.length := by
  rw [← own, Row.labels, Row.values, List.length_map, List.length_map]

theorem entries_eq_zip {row : Row} {labels : List String} (own : row.labels = labels) :
    row.entries = labels.zip row.values :=
  List.zip_of_prod own rfl

theorem InColumns.length_eq {row : Row} {line text : String} {formats : List Format} (some : row.entries ≠ [])
    (h : row.InColumns line formats text) :
    text.length = line.length + Text.column (row.widths formats) row.entries.length := by
  obtain ⟨fields, rfl, widths, -⟩ := h
  have many : fields.length = row.entries.length := by
    simpa [Row.widths] using congrArg List.length widths
  have several : fields ≠ [] := by
    rintro rfl
    exact some (List.length_eq_zero_iff.mp many.symm)
  have joined := Text.length_join (show ",".toList = [','] from rfl) several
  have blank : " ".length = 1 := rfl
  rw [lineText, String.length_append, String.length_append, ← widths, ← many]
  omega

theorem spelled_listed {row : Row} {line : String} {listing formats : List Format}
    (own : row.labels = formats.map Format.label)
    (listed : ∀ format ∈ formats, listing.find? (·.label == format.label) = some format) :
    row.spelled line listing = lineText line <$> writeFields line formats row.values := by
  rw [← mapM_suppliedText listed, ← entries_eq_zip own, map_eq_pure_bind]
  rfl

end Row

theorem mapError_bind {ε ε' α β : Type} {e : Except ε α} {next : α → Except ε β} (f : ε → ε') :
    (e >>= next).mapError f = e.mapError f >>= fun a => (next a).mapError f := by
  cases e <;> rfl

theorem mapError_pure {ε ε' α : Type} (a : α) (f : ε → ε') :
    (pure a : Except ε α).mapError f = pure a := rfl

/-- A draft is checked as its values are spelled: both stop at the same field. -/
theorem MemoryDraft.line_check (d : MemoryDraft) :
    Command.line <$> (d.check.map Command.writeMemory).mapError Fault.ofArgument =
      lineText "ME" <$> writeFields "ME" MemoryRecord.formats d.values := by
  change Command.line <$> Except.mapError Fault.ofArgument (Command.writeMemory <$> d.check) = _
  simp only [MemoryDraft.check, MemoryDraft.values, MemoryRecord.formats, writeFields, map_eq_pure_bind,
    mapError_bind, mapError_pure, bind_assoc, pure_bind]
  rfl

theorem VfoDraft.line_check (d : VfoDraft) :
    Command.line <$> (d.check.map Command.writeVfo).mapError Fault.ofArgument =
      lineText "FO" <$> writeFields "FO" VfoRecord.formats d.values := by
  change Command.line <$> Except.mapError Fault.ofArgument (Command.writeVfo <$> d.check) = _
  simp only [VfoDraft.check, VfoDraft.values, VfoRecord.formats, writeFields, map_eq_pure_bind,
    mapError_bind, mapError_pure, bind_assoc, pure_bind, Command.line, VfoRecord.line, VfoRecord.values,
    fieldTexts, List.zipWith, Band.index_ofIndex]

namespace RecordKind

theorem line_writingMemory (row : Row) :
    Command.line <$> writingMemory row = row.spelled "ME" MemoryRecord.formats := by
  unfold writingMemory
  by_cases own : row.labels = MemoryRecord.labels
  · have listed : ∀ format ∈ MemoryRecord.formats,
        MemoryRecord.formats.find? (·.label == format.label) = some format := by
      simp [MemoryRecord.formats]
    obtain ⟨d, drafted, same⟩ := MemoryDraft.exists_ofValues? (Row.length_values own)
    rw [Row.spelled_listed own listed, if_pos own, drafted, ← same]
    exact d.line_check
  · rw [if_neg own, Functor.map_map]
    exact id_map _

theorem line_writingVfo (row : Row) :
    Command.line <$> writingVfo row = row.spelled "FO" (VfoRecord.formats ++ MemoryRecord.formats) := by
  unfold writingVfo
  by_cases own : row.labels = VfoRecord.labels
  · have listed : ∀ format ∈ VfoRecord.formats,
        (VfoRecord.formats ++ MemoryRecord.formats).find? (·.label == format.label) = some format := by
      simp [VfoRecord.formats]
    obtain ⟨d, drafted, same⟩ := VfoDraft.exists_ofValues? (Row.length_values own)
    rw [Row.spelled_listed own listed, if_pos own, drafted, ← same]
    exact d.line_check
  · rw [if_neg own, Functor.map_map]
    exact id_map _

/-- The formats that the fields of a row are looked up in. A VFO line lists those of a memory too. -/
def listing : RecordKind → List Format
  | .vfo => VfoRecord.formats ++ MemoryRecord.formats
  | kind => kind.formats

theorem column_memory {row : Row} (own : row.labels = MemoryRecord.labels) :
    Text.column (row.widths MemoryRecord.formats) row.entries.length = 63 + row.hasLastStep.toNat := by
  rw [Row.widths, Row.hasLastStep, Row.entries_eq_zip own]
  match row.values, Row.length_values own with
  | [_, _, _, _, _, _, _, _, _, _, _, _, _, _, _, _], _ =>
    simp [MemoryRecord.labels, MemoryRecord.formats, fieldWidth, listedWidth, isLastStep, Text.column]
    omega

theorem column_vfo {row : Row} (own : row.labels = VfoRecord.labels) :
    Text.column (row.widths (VfoRecord.formats ++ MemoryRecord.formats)) row.entries.length =
      46 + row.hasLastStep.toNat := by
  rw [Row.widths, Row.hasLastStep, Row.entries_eq_zip own]
  match row.values, Row.length_values own with
  | [_, _, _, _, _, _, _, _, _, _, _, _, _], _ =>
    simp [VfoRecord.labels, VfoRecord.formats, fieldWidth, listedWidth, isLastStep, Text.column]
    omega

theorem inColumns_of_writing {kind : RecordKind} (numbered : kind = .memory ∨ kind = .vfo) {row : Row}
    {command : Command} (written : kind.writing row = .ok command) :
    row.InColumns kind.line kind.listing command.line := by
  have listed : ∀ format ∈ kind.listing, format ∈ VfoRecord.formats ++ MemoryRecord.formats := by
    rcases numbered with rfl | rfl
    · exact fun format member => List.mem_append_right _ member
    · exact fun format member => member
  have spelled : row.spelled kind.line kind.listing = .ok command.line := by
    rcases numbered with rfl | rfl
    · exact (line_writingMemory row).symm.trans (functor_map_eq_ok.mpr ⟨command, written, rfl⟩)
    · exact (line_writingVfo row).symm.trans (functor_map_eq_ok.mpr ⟨command, written, rfl⟩)
  exact Row.inColumns_of_spelled (fun format member => ruled (listed format member)) spelled

/-- What is written as a memory or VFO line has its fields in columns, each as wide as it is listed
unless it is the last tuning step. A record of the kind itself takes a line of one length, and of one
more with that step. -/
theorem writing_keeps_columns {kind : RecordKind} (numbered : kind = .memory ∨ kind = .vfo) {row : Row}
    {command : Command} (written : kind.writing row = .ok command) :
    row.InColumns kind.line kind.listing command.line ∧
      (row.hasLastStep = false → row.widths kind.listing = row.labels.map (listedWidth kind.listing)) ∧
      (row.labels = kind.labels →
        command.line.length = (if kind = .memory then 65 else 48) + row.hasLastStep.toNat) := by
  have columns := inColumns_of_writing numbered written
  refine ⟨columns, fun early => Row.widths_eq_listed early _, fun own => ?_⟩
  have some : row.entries ≠ [] := by
    intro none
    rw [Row.labels, none] at own
    rcases numbered with rfl | rfl <;> cases own
  rw [columns.length_eq some]
  rcases numbered with rfl | rfl
  · have length := column_memory own
    change 2 + Text.column (row.widths MemoryRecord.formats) row.entries.length = 65 + _
    omega
  · have length := column_vfo own
    change 2 + Text.column (row.widths (VfoRecord.formats ++ MemoryRecord.formats)) _ = 48 + _
    omega

/-- The numbers of a memory on a common frequency and a step. -/
def stepped (step : Nat) : List Nat := [5, 146520000, step, 0, 0, 0, 0, 0, 8, 8, 0, 600000, 0, 0, 0, 0]

theorem writing_keeps_columns_middle_step : ∃ row command,
    RecordKind.memory.row? ((stepped 4).map .ofNat) = some row ∧ memory.writing row = .ok command ∧
      row.InColumns "ME" MemoryRecord.formats command.line ∧ command.line.length = 65 := by
  obtain ⟨command, written⟩ : ∃ command,
    memory.writing ⟨MemoryRecord.labels.zip ((stepped 4).map .ofNat)⟩ = .ok command := ⟨_, rfl⟩
  obtain ⟨columns, -, long⟩ := writing_keeps_columns (.inl rfl) written
  exact ⟨_, command, rfl, written, columns, long rfl⟩

/-- On the last step everything after it stands a column further on. -/
theorem last_step_leaves_columns : ∃ row command,
    RecordKind.memory.row? ((stepped 10).map .ofNat) = some row ∧ memory.writing row = .ok command ∧
      command.line = "ME 005,0146520000,10,0,0,0,0,0,08,08,000,00600000,0,0000000000,0,0" ∧
      command.line.length = 66 :=
  ⟨_, _, rfl, rfl, rfl, rfl⟩

end RecordKind

end Transceiver
