import Transceiver.Proofs.Grammar

/-! Records as lines. A record is read back from its own line, and a line that is read as a record
consists of nothing but digits and the marks between them. -/
namespace Transceiver

open Record

/-- A record that its values determine is read back from the line that spells them. -/
theorem Record.parse_fieldTexts {α : Type} {parse : String → Except Fault α} {values : α → List Nat}
    {line : String} {formats : List Format}
    (reads : ∀ reply, values <$> parse reply = readLine line formats reply)
    (determined : ∀ {a b : α}, values a = values b → a = b) (some : formats ≠ [])
    (narrow : ∀ format ∈ formats, format.width ≤ 11 ∧ format.size ≤ 100000000000) {a : α}
    (filled : Filled formats (fieldTexts formats (values a)) (values a)) :
    parse (lineText line (fieldTexts formats (values a))) = .ok a := by
  have back := reads (lineText line (fieldTexts formats (values a)))
  rw [readLine_fieldTexts some filled narrow] at back
  obtain ⟨b, read, same⟩ := map_eq_ok.mp back
  rw [read, determined same]

theorem Band.index_inj {band other : Band} : band.index = other.index ↔ band = other := by
  refine ⟨fun same => ?_, congrArg Band.index⟩
  rw [← Band.ofIndex_index band, same, Band.ofIndex_index]

theorem Tuning.code_inj {tuning other : Tuning} : tuning.code = other.code ↔ tuning = other := by
  refine ⟨fun same => ?_, congrArg Tuning.code⟩
  rw [← Tuning.ofCode_code tuning, same, Tuning.ofCode_code]

namespace MemoryRecord

theorem eq_of_values {r s : MemoryRecord} (same : r.values = s.values) : r = s := by
  cases r
  cases s
  simpa [values, Fin.val_inj] using same

theorem parse_line (r : MemoryRecord) : parse r.line = .ok r := by
  refine parse_fieldTexts parse_values eq_of_values nofun (by decide) ?_
  iterate 16 refine .cons (Number.isNumeral_padded _ _) (Fin.isLt _) ?_
  exact .nil

end MemoryRecord

namespace VfoRecord

theorem eq_of_values {r s : VfoRecord} (same : r.values = s.values) : r = s := by
  cases r
  cases s
  simpa [values, Fin.val_inj, Band.index_inj] using same

theorem parse_line (r : VfoRecord) : parse r.line = .ok r := by
  refine parse_fieldTexts parse_values eq_of_values nofun (by decide) ?_
  iterate 13 refine .cons (Number.isNumeral_padded _ _) (Fin.isLt _) ?_
  exact .nil

end VfoRecord

namespace BandControl

theorem eq_of_values {r s : BandControl} (same : r.values = s.values) : r = s := by
  cases r
  cases s
  simpa [values, Fin.val_inj, Band.index_inj] using same

theorem parse_line (r : BandControl) : parse r.line = .ok r := by
  refine parse_fieldTexts parse_values eq_of_values nofun (by decide) ?_
  iterate 2 refine .cons (Number.isNumeral_padded _ _) (Fin.isLt _) ?_
  exact .nil

end BandControl

namespace BandTuning

theorem eq_of_values {r s : BandTuning} (same : r.values = s.values) : r = s := by
  cases r
  cases s
  simpa [values, Fin.val_inj, Band.index_inj, Tuning.code_inj] using same

theorem parse_line (r : BandTuning) : parse r.line = .ok r := by
  refine parse_fieldTexts parse_values eq_of_values nofun (by decide) ?_
  iterate 2 refine .cons (Number.isNumeral_padded _ _) (Fin.isLt _) ?_
  exact .nil

end BandTuning

namespace MemorySelection

theorem eq_of_values {r s : MemorySelection} (same : r.values = s.values) : r = s := by
  cases r
  cases s
  simpa [values, Fin.val_inj, Band.index_inj] using same

theorem parse_line (r : MemorySelection) : parse r.line = .ok r := by
  refine parse_fieldTexts parse_values eq_of_values nofun (by decide) ?_
  iterate 2 refine .cons (Number.isNumeral_padded _ _) (Fin.isLt _) ?_
  exact .nil

end MemorySelection

theorem line_front : "ME " = "ME" ++ " " := by rfl

/-- A stored text that is read as a record is made of digits and commas. -/
theorem MemoryRecord.characters_of_parse {payload : String} {r : MemoryRecord}
    (h : MemoryRecord.parse ("ME " ++ payload) = .ok r) :
    payload ≠ "" ∧ ∀ c ∈ payload.toList, c.isDigit = true ∨ c = ',' := by
  have some : formats ≠ [] := nofun
  have read := parse_values ("ME " ++ payload)
  rw [h] at read
  obtain ⟨fields, spelled, filled⟩ := ((readLine_eq_ok some).mp read.symm).1
  obtain rfl : payload = Text.join "," fields := by
    rw [line_front, lineText] at spelled
    exact (String.append_right_inj _).mp spelled
  have several : fields ≠ [] := by
    rintro rfl
    cases filled
  constructor
  · intro none
    have parted := Text.fields_join (show ",".toList = [','] from rfl) several filled.comma_not_mem
    rw [none] at parted
    have sixteen := filled.length_eq
    rw [← parted] at sixteen
    cases sixteen
  · intro c member
    rcases Text.mem_join member with comma | ⟨field, inside, found⟩
    · exact .inr (List.mem_singleton.mp comma)
    · exact .inl (filled.isDigit field inside c found)

end Transceiver
