import Transceiver.Proofs.Change
import Transceiver.Proofs.CodePages
import Transceiver.Proofs.Spelling
import Transceiver.Record.Any

/-! Lines by their grammar. A record is read from exactly the lines that have its name and a numeral for
each of its fields, with a value that the field has; it holds these values in their order. Every other
reply is refused as a whole. -/
namespace Transceiver

open Record

/-- The text is a row of digits, at least one, with this value. -/
structure Number.IsNumeral (text : String) (n : Nat) : Prop where
  some : text ≠ ""
  digits : ∀ c ∈ text.toList, c.isDigit = true
  value : Nat.ofDigitChars 10 text.toList 0 = n

/-- An integer is read from the text if it is a row of digits at all. -/
def Number.IsReadable (text : String) : Prop :=
  (∀ c ∈ text.toList, c.isDigit = true) → text.toList.length ≤ maxDigits

namespace Record

/-- Fields that spell these values, one of its format each. -/
inductive Filled : List Format → List String → List Nat → Prop
  | nil : Filled [] [] []
  | cons {format formats field fields n values} : Number.IsNumeral field n → n < format.size →
      Filled formats fields values → Filled (format :: formats) (field :: fields) (n :: values)

/-- A line of that name that spells these values. -/
def IsLine (line : String) (formats : List Format) (reply : String) (values : List Nat) : Prop :=
  ∃ fields, reply = lineText line fields ∧ Filled formats fields values

/-- No field of the reply has too many digits to be read as an integer. -/
def IsReadable (line reply : String) : Prop :=
  ∀ field ∈ Text.fields ',' (Text.drop (line.length + 1) reply), Number.IsReadable field

/-- The reply as a whole is what was refused. -/
def Refuses (reply : String) (why : Fault) : Prop :=
  ∃ fault, why = .radio fault ∧ fault.kind = .rejected ∧ fault.reply? = some reply

/-- Reads fields one after the other, each by its format. -/
def readFields (reply : String) : List Format → List String → Except Fault (List Nat)
  | format :: formats, field :: fields => do
    let n ← number format.size reply field
    return n.val :: (← readFields reply formats fields)
  | _, _ => return []

/-- Reads a line that has one field for each format. -/
def readLine (line : String) (formats : List Format) (reply : String) : Except Fault (List Nat) := do
  let fields ← fieldsOf line reply
  if fields.length = formats.length then readFields reply formats fields
  else throw (.radio (.fieldCount line fields.length formats.length reply))

end Record

@[simp] theorem Band.index_ofIndex (n : Fin 2) : (Band.ofIndex n).index = n := by
  revert n
  decide

@[simp] theorem Tuning.code_ofCode (n : Fin 4) : (Tuning.ofCode n).code = n := by
  revert n
  decide

namespace Number

theorem isDigit_of_asciiDigit? {c : Char} {d : Nat} (h : asciiDigit? c = some d) :
    c.isDigit = true := by
  unfold asciiDigit? at h
  split at h
  · rename_i range
    exact isDigit_iff.mpr range
  · cases h

theorem isDigit_of_mapM {cs : List Char} {row : List Nat} (h : cs.mapM asciiDigit? = some row) :
    ∀ c ∈ cs, c.isDigit = true := by
  intro c member
  obtain ⟨d, -, digit⟩ := Text.CodePage.mem_of_mapM h member
  exact isDigit_of_asciiDigit? digit

theorem isDigit_of_digitRow? {s : String} {row : List Nat} (h : digitRow? s = some row) :
    (∀ c ∈ s.toList, c.isDigit = true) ∧ s.toList.length = row.length := by
  unfold digitRow? at h
  split at h
  · cases h
  · exact ⟨isDigit_of_mapM h, Text.CodePage.length_mapM h⟩

theorem digitRow?_of_isNumeral {text : String} {n : Nat} (h : IsNumeral text n) :
    ∃ row, digitRow? text = some row ∧ row.length = text.toList.length ∧ ofDigits row = n := by
  refine ⟨text.toList.map fun c => c.toNat - 48, ?_, List.length_map _, ?_⟩
  · unfold digitRow?
    split
    · rename_i empty
      exact absurd (String.toList_eq_nil_iff.mp empty) h.some
    · exact mapM_asciiDigit? h.digits
  · rw [ofDigits_eq_ofDigitChars, h.value]

theorem isNumeral_of_digitRow? {text : String} {row : List Nat} (h : digitRow? text = some row) :
    IsNumeral text (ofDigits row) ∧ row.length = text.toList.length := by
  have digits := isDigit_of_digitRow? h
  have numeral : IsNumeral text (Nat.ofDigitChars 10 text.toList 0) := by
    refine ⟨?_, digits.1, rfl⟩
    rintro rfl
    cases h
  -- The text is read as one row only, so the row that is given has the numeral's value.
  obtain ⟨own, read, length, value⟩ := digitRow?_of_isNumeral numeral
  obtain rfl : own = row := Option.some.inj (read.symm.trans h)
  exact ⟨value ▸ numeral, length⟩

theorem isNumeral_padded (width n : Nat) : IsNumeral (padded width n) n := by
  refine ⟨?_, fun c => isDigit_of_mem_padded, ?_⟩
  · intro none
    exact padded_ne_nil width n (congrArg String.toList none)
  · rw [← ofDigits_eq_ofDigitChars, ofDigits_padded]

theorem isReadable_padded {width n : Nat} (narrow : width ≤ 11) (small : n < 100000000000) :
    IsReadable (padded width n) := by
  intro _
  have short : (digits n).length ≤ 11 := (Nat.length_toDigits_le_iff (by decide) (by decide)).mpr small
  rw [toList_padded, List.length_append, List.length_replicate, maxDigits]
  omega

end Number

namespace Record

theorem number_of_isNumeral {size n : Nat} {field : String} (reply : String)
    (numeral : Number.IsNumeral field n) (readable : Number.IsReadable field) :
    number size reply field =
      if h : n < size then .ok ⟨n, h⟩ else .error (.radio (.valueRange n reply)) := by
  obtain ⟨row, read, length, value⟩ := Number.digitRow?_of_isNumeral numeral
  have short : row.length ≤ Number.maxDigits := length ▸ readable numeral.digits
  simp only [number, read, Number.ofRow?, if_pos short, value]

/-- A field is a numeral that can be read, or no numeral, or too long. -/
theorem number_cases (size : Nat) (reply field : String) :
    (∃ n, Number.IsNumeral field n ∧ Number.IsReadable field ∧ number size reply field =
        if h : n < size then .ok ⟨n, h⟩ else .error (.radio (.valueRange n reply))) ∨
      number size reply field = .error (.radio (.notNumber field reply)) ∨
      ¬ Number.IsReadable field ∧ number size reply field = .error .notInteger := by
  cases read : Number.digitRow? field with
  | none =>
      refine .inr (.inl ?_)
      simp only [number, read]
  | some row =>
      obtain ⟨numeral, length⟩ := Number.isNumeral_of_digitRow? read
      by_cases readable : Number.IsReadable field
      · exact .inl ⟨_, numeral, readable, number_of_isNumeral reply numeral readable⟩
      · have long : ¬ row.length ≤ Number.maxDigits := fun short => readable fun _ => length ▸ short
        refine .inr (.inr ⟨readable, ?_⟩)
        simp only [number, read, Number.ofRow?, if_neg long]

theorem number_eq_ok {size : Nat} {reply field : String} {n : Fin size} :
    number size reply field = .ok n ↔ Number.IsNumeral field n.val ∧ Number.IsReadable field := by
  constructor
  · intro h
    rcases number_cases size reply field with ⟨m, numeral, readable, same⟩ | same | ⟨-, same⟩
    · rw [same] at h
      split at h
      · cases h
        exact ⟨numeral, readable⟩
      · cases h
    · cases same.symm.trans h
    · cases same.symm.trans h
  · rintro ⟨numeral, readable⟩
    rw [number_of_isNumeral reply numeral readable, dif_pos n.isLt]

theorem number_refuses {size : Nat} {reply field : String} {why : Fault}
    (h : number size reply field = .error why) :
    Refuses reply why ∨ why = .notInteger ∧ ¬ Number.IsReadable field := by
  rcases number_cases size reply field with ⟨n, -, -, same⟩ | same | ⟨unreadable, same⟩
  · rw [same] at h
    split at h
    · cases h
    · cases h
      exact .inl ⟨_, rfl, rfl, rfl⟩
  · cases same.symm.trans h
    exact .inl ⟨_, rfl, rfl, rfl⟩
  · cases same.symm.trans h
    exact .inr ⟨rfl, unreadable⟩

/-- A number of a field is read back, whatever width it was padded to. -/
theorem number_padded {size width : Nat} (reply : String) (n : Fin size) (narrow : width ≤ 11)
    (small : size ≤ 100000000000) : number size reply (Number.padded width n.val) = .ok n :=
  number_eq_ok.mpr ⟨Number.isNumeral_padded width n.val,
    Number.isReadable_padded narrow (Nat.lt_of_lt_of_le n.isLt small)⟩

theorem filled_cons {format : Format} {formats : List Format} {field : String} {fields : List String}
    {values : List Nat} :
    Filled (format :: formats) (field :: fields) values ↔
      ∃ n later, values = n :: later ∧ Number.IsNumeral field n ∧ n < format.size ∧
        Filled formats fields later := by
  constructor
  · intro h
    cases h with
    | cons numeral small rest => exact ⟨_, _, rfl, numeral, small, rest⟩
  · rintro ⟨n, later, rfl, numeral, small, rest⟩
    exact .cons numeral small rest

theorem Filled.length_eq {formats : List Format} {fields : List String} {values : List Nat}
    (h : Filled formats fields values) : fields.length = formats.length := by
  induction h with
  | nil => rfl
  | cons numeral small rest ih => exact congrArg Nat.succ ih

theorem Filled.isDigit {formats : List Format} {fields : List String} {values : List Nat}
    (h : Filled formats fields values) : ∀ field ∈ fields, ∀ c ∈ field.toList, c.isDigit = true := by
  induction h with
  | nil => exact fun field member => absurd member List.not_mem_nil
  | cons numeral small rest ih =>
      intro field member
      rcases List.mem_cons.mp member with rfl | later
      · exact numeral.digits
      · exact ih field later

theorem Filled.comma_not_mem {formats : List Format} {fields : List String} {values : List Nat}
    (h : Filled formats fields values) : ∀ field ∈ fields, ',' ∉ field.toList := by
  intro field member comma
  cases h.isDigit field member ',' comma

theorem readFields_eq_ok {reply : String} {formats : List Format} {fields : List String}
    {values : List Nat} (same : fields.length = formats.length) :
    readFields reply formats fields = .ok values ↔
      Filled formats fields values ∧ ∀ field ∈ fields, Number.IsReadable field := by
  induction formats generalizing fields values with
  | nil =>
      obtain rfl := List.length_eq_zero_iff.mp same
      constructor
      · rintro ⟨⟩
        exact ⟨.nil, fun field member => absurd member List.not_mem_nil⟩
      · rintro ⟨⟨⟩, -⟩
        rfl
  | cons format formats ih =>
      obtain ⟨field, fields, rfl⟩ := List.exists_cons_of_length_eq_add_one same
      simp only [readFields, bind_eq_ok, number_eq_ok, ih (Nat.succ.inj same), filled_cons,
        List.forall_mem_cons]
      constructor
      · rintro ⟨n, ⟨numeral, readable⟩, later, ⟨filled, others⟩, ⟨⟩⟩
        exact ⟨⟨n.val, later, rfl, numeral, n.isLt, filled⟩, readable, others⟩
      · rintro ⟨⟨n, later, rfl, numeral, small, filled⟩, readable, others⟩
        exact ⟨⟨n, small⟩, ⟨numeral, readable⟩, later, ⟨filled, others⟩, rfl⟩

theorem readFields_refuses {reply : String} {formats : List Format} {fields : List String} {why : Fault}
    (h : readFields reply formats fields = .error why) :
    Refuses reply why ∨ why = .notInteger ∧ ∃ field ∈ fields, ¬ Number.IsReadable field := by
  fun_induction readFields reply formats fields with
  | case1 format formats field fields ih =>
      rcases bind_eq_error.mp h with unread | ⟨n, -, h⟩
      · refine (number_refuses unread).imp_right (And.imp_right fun unreadable => ?_)
        exact ⟨field, List.mem_cons_self, unreadable⟩
      · rcases bind_eq_error.mp h with later | ⟨values, -, ⟨⟩⟩
        refine (ih later).imp_right (And.imp_right ?_)
        rintro ⟨other, member, long⟩
        exact ⟨other, List.mem_cons_of_mem field member, long⟩
  | case2 => cases h

end Record

namespace Text

theorem toList_join (separator : String) (pieces : List String) :
    (join separator pieces).toList = separator.toList.intercalate (pieces.map String.toList) := by
  induction pieces with
  | nil => rfl
  | cons s rest ih =>
      cases rest with
      | nil => simp [join]
      | cons t rest =>
          rw [toList_join_cons separator s (by simp), ih]
          exact List.intercalate_cons_cons.symm

theorem join_fields {c : Char} {separator : String} (single : separator.toList = [c]) (s : String) :
    join separator (fields c s) = s := by
  have chars : String.toList ∘ String.ofList = id := funext fun _ => String.toList_ofList
  apply String.toList_injective
  rw [toList_join, fields, single, List.map_map, chars, List.map_id, List.intercalate_splitOn]

end Text

namespace Record

theorem fieldsOf_refuses {line reply : String} {fault : RadioFault}
    (h : fieldsOf line reply = .error fault) : Refuses reply (.radio fault) := by
  unfold fieldsOf at h
  split at h
  · cases h
  · cases h
    exact ⟨_, rfl, rfl, rfl⟩

theorem eq_fields_of_fieldsOf {line reply : String} {fields : List String}
    (h : fieldsOf line reply = .ok fields) :
    fields = Text.fields ',' (Text.drop (line.length + 1) reply) := by
  unfold fieldsOf at h
  split at h
  · exact (Except.ok.inj h).symm
  · cases h

theorem eq_lineText_of_fieldsOf {line reply : String} {fields : List String}
    (h : fieldsOf line reply = .ok fields) : reply = lineText line fields := by
  have front : ∃ rest, reply = line ++ " " ++ rest := by
    unfold fieldsOf at h
    split at h
    · rename_i starts
      obtain ⟨rest, same⟩ := List.isPrefixOf_iff_prefix.mp starts
      refine ⟨.ofList rest, String.toList_injective ?_⟩
      rw [String.toList_append, String.toList_ofList, same]
    · cases h
  obtain ⟨rest, rfl⟩ := front
  rw [fieldsOf_append] at h
  cases h
  rw [lineText, Text.join_fields rfl]

theorem readLine_eq_ok {line reply : String} {formats : List Format} {values : List Nat}
    (some : formats ≠ []) :
    readLine line formats reply = .ok values ↔
      IsLine line formats reply values ∧ IsReadable line reply := by
  constructor
  · intro h
    obtain ⟨fields, given, h⟩ := bind_eq_ok.mp h
    have given : fieldsOf line reply = .ok fields := mapError_eq_ok.mp given
    split at h
    · rename_i same
      obtain ⟨filled, readable⟩ := (readFields_eq_ok same).mp h
      refine ⟨⟨fields, eq_lineText_of_fieldsOf given, filled⟩, ?_⟩
      rwa [IsReadable, ← eq_fields_of_fieldsOf given]
    · cases h
  · rintro ⟨⟨fields, rfl, filled⟩, readable⟩
    have several : fields ≠ [] := by
      rintro rfl
      cases filled
      exact some rfl
    have given : fieldsOf line (lineText line fields) = .ok fields :=
      fieldsOf_lineText several filled.comma_not_mem
    rw [IsReadable, ← eq_fields_of_fieldsOf given] at readable
    refine bind_eq_ok.mpr ⟨fields, mapError_eq_ok.mpr given, ?_⟩
    rw [if_pos filled.length_eq]
    exact (readFields_eq_ok filled.length_eq).mpr ⟨filled, readable⟩

/-- The numbers of narrow fields are few enough to be read. -/
theorem readable_fieldTexts {formats : List Format} {fields : List String} {values : List Nat}
    (filled : Filled formats fields values)
    (narrow : ∀ format ∈ formats, format.width ≤ 11 ∧ format.size ≤ 100000000000) :
    ∀ field ∈ fieldTexts formats values, Number.IsReadable field := by
  induction filled with
  | nil => exact fun field member => absurd member List.not_mem_nil
  | cons numeral small rest ih =>
      intro field member
      rcases List.mem_cons.mp member with rfl | later
      · obtain ⟨width, size⟩ := narrow _ List.mem_cons_self
        exact Number.isReadable_padded width (Nat.lt_of_lt_of_le small size)
      · exact ih (fun format listed => narrow format (List.mem_cons_of_mem _ listed)) field later

theorem readLine_fieldTexts {line : String} {formats : List Format} {values : List Nat}
    (some : formats ≠ []) (filled : Filled formats (fieldTexts formats values) values)
    (narrow : ∀ format ∈ formats, format.width ≤ 11 ∧ format.size ≤ 100000000000) :
    readLine line formats (lineText line (fieldTexts formats values)) = .ok values := by
  have several : fieldTexts formats values ≠ [] := by
    intro none
    rw [none] at filled
    exact some (List.length_eq_zero_iff.mp filled.length_eq.symm)
  have given : fieldsOf line (lineText line (fieldTexts formats values)) = .ok _ :=
    fieldsOf_lineText several filled.comma_not_mem
  refine bind_eq_ok.mpr ⟨_, mapError_eq_ok.mpr given, ?_⟩
  rw [if_pos filled.length_eq]
  exact (readFields_eq_ok filled.length_eq).mpr ⟨filled, readable_fieldTexts filled narrow⟩

theorem readLine_refuses {line reply : String} {formats : List Format} {why : Fault}
    (h : readLine line formats reply = .error why) :
    Refuses reply why ∨ why = .notInteger ∧ ¬ IsReadable line reply := by
  rcases bind_eq_error.mp h with unread | ⟨fields, given, h⟩
  · have unread : (fieldsOf line reply).mapError Fault.radio = .error why := unread
    obtain ⟨fault, foreign, rfl⟩ := mapError_eq_error.mp unread
    exact .inl (fieldsOf_refuses foreign)
  · have given : fieldsOf line reply = .ok fields := mapError_eq_ok.mp given
    split at h
    · refine (readFields_refuses h).imp_right (And.imp_right ?_)
      rintro ⟨field, member, long⟩ readable
      exact long (readable field (eq_fields_of_fieldsOf given ▸ member))
    · cases h
      exact .inl ⟨_, rfl, rfl, rfl⟩

/-- Where what follows on the fields goes by the formats, all of it does. -/
theorem map_fieldsOf {α : Type} {values : α → List Nat} {line reply : String} {formats : List Format}
    {next : List String → Except Fault α}
    (counted : ∀ fields, fields.length = formats.length →
      values <$> next fields = readFields reply formats fields)
    (uncounted : ∀ fields, fields.length ≠ formats.length →
      next fields = .error (.radio (.fieldCount line fields.length formats.length reply))) :
    values <$> ((fieldsOf line reply).mapError .radio >>= next) = readLine line formats reply := by
  have read : readLine line formats reply = (fieldsOf line reply).mapError .radio >>= fun fields =>
      if fields.length = formats.length then readFields reply formats fields
      else .error (.radio (.fieldCount line fields.length formats.length reply)) := rfl
  rw [read, map_bind]
  congr 1
  funext fields
  split
  · rename_i same
    exact counted fields same
  · rename_i other
    rw [uncounted fields other]
    rfl

end Record

section
variable (reply : String)

theorem MemoryRecord.parse_values : values <$> parse reply = readLine "ME" formats reply := by
  refine map_fieldsOf (fun fields same => ?_) fun fields other => ?_
  · -- With as many fields as formats both sides are the same chain of numbers.
    match fields, same with
    | [_, _, _, _, _, _, _, _, _, _, _, _, _, _, _, _], _ =>
      simp only [formats, readFields, map_eq_pure_bind, bind_assoc, pure_bind, values]
  · split
    · cases other rfl
    · rfl

theorem VfoRecord.parse_values : values <$> parse reply = readLine "FO" formats reply := by
  refine map_fieldsOf (fun fields same => ?_) fun fields other => ?_
  · match fields, same with
    | [_, _, _, _, _, _, _, _, _, _, _, _, _], _ =>
      simp only [formats, readFields, bandNumber, map_eq_pure_bind, bind_assoc, pure_bind, values,
        Band.index_ofIndex]
  · split
    · cases other rfl
    · rfl

theorem BandControl.parse_values : values <$> parse reply = readLine "BC" formats reply := by
  refine map_fieldsOf (fun fields same => ?_) fun fields other => ?_
  · match fields, same with
    | [_, _], _ =>
      simp only [formats, readFields, bandNumber, map_eq_pure_bind, bind_assoc, pure_bind, values,
        Band.index_ofIndex]
  · split
    · cases other rfl
    · rfl

theorem BandTuning.parse_values : values <$> parse reply = readLine "VM" formats reply := by
  refine map_fieldsOf (fun fields same => ?_) fun fields other => ?_
  · match fields, same with
    | [_, _], _ =>
      simp only [formats, readFields, bandNumber, map_eq_pure_bind, bind_assoc, pure_bind, values,
        Band.index_ofIndex, Tuning.code_ofCode]
  · split
    · cases other rfl
    · rfl

theorem MemorySelection.parse_values : values <$> parse reply = readLine "MR" formats reply := by
  refine map_fieldsOf (fun fields same => ?_) fun fields other => ?_
  · match fields, same with
    | [_, _], _ =>
      simp only [formats, readFields, bandNumber, map_eq_pure_bind, bind_assoc, pure_bind, values,
        Band.index_ofIndex]
  · split
    · cases other rfl
    · rfl

theorem BusyState.parse_values : values <$> parse reply = readLine "BY" formats reply := by
  refine map_fieldsOf (fun fields same => ?_) fun fields other => ?_
  · match fields, same with
    | [_, _], _ =>
      simp only [formats, readFields, bandNumber, map_eq_pure_bind, bind_assoc, pure_bind, values,
        Band.index_ofIndex]
  · split
    · cases other rfl
    · rfl

end

namespace RecordKind

/-- The numeric fields of a line. -/
def formats : RecordKind → List Format
  | .memory => MemoryRecord.formats
  | .vfo => VfoRecord.formats
  | .control => BandControl.formats
  | .tuning => BandTuning.formats
  | .selection => MemorySelection.formats
  | .name => [⟨"channel", 3, 1000⟩]
  | .busy => BusyState.formats

theorem formats_ne_nil (kind : RecordKind) : kind.formats ≠ [] := by cases kind <;> decide

/-- Reading a record and listing its values is reading the line field by field. -/
theorem parse_values {kind : RecordKind} (numeric : kind ≠ .name) (reply : String) :
    AnyRecord.values <$> kind.parse reply =
      List.map Value.ofNat <$> readLine kind.line kind.formats reply := by
  have both : ∀ {α : Type} {wrap : α → AnyRecord} {values : α → List Nat} {e : Except Fault α}
      {line : String} {formats : List Format}, (∀ a, (wrap a).values = (values a).map Value.ofNat) →
      values <$> e = readLine line formats reply →
      AnyRecord.values <$> wrap <$> e = List.map Value.ofNat <$> readLine line formats reply := by
    intro α wrap values e line formats same read
    rw [← read, Functor.map_map, Functor.map_map]
    exact congrArg (· <$> e) (funext same)
  cases kind with
  | memory => exact both (fun _ => rfl) (MemoryRecord.parse_values reply)
  | vfo => exact both (fun _ => rfl) (VfoRecord.parse_values reply)
  | control => exact both (fun _ => rfl) (BandControl.parse_values reply)
  | tuning => exact both (fun _ => rfl) (BandTuning.parse_values reply)
  | selection => exact both (fun _ => rfl) (MemorySelection.parse_values reply)
  | name => exact absurd rfl numeric
  | busy => exact both (fun _ => rfl) (BusyState.parse_values reply)

/-- A record is read from a line of its grammar and from nothing else, and holds what the line spells.
Any other reply is refused as such, unless a number in it is too long to be read at all. -/
theorem parse_reads_grammar {kind : RecordKind} (numeric : kind ≠ .name) (reply : String) :
    (∀ record, kind.parse reply = .ok record →
      ∃ values, IsLine kind.line kind.formats reply values ∧ record.values = values.map .ofNat) ∧
    (∀ values, IsLine kind.line kind.formats reply values → IsReadable kind.line reply →
      ∃ record, kind.parse reply = .ok record ∧ record.values = values.map .ofNat) ∧
    ∀ why, kind.parse reply = .error why →
      Refuses reply why ∨ why = .notInteger ∧ ¬ IsReadable kind.line reply := by
  have same := parse_values numeric reply
  refine ⟨fun record read => ?_, fun values line readable => ?_, fun why unread => ?_⟩
  · rw [read] at same
    obtain ⟨values, taken, spelled⟩ := map_eq_ok.mp same.symm
    exact ⟨values, ((readLine_eq_ok kind.formats_ne_nil).mp taken).1, spelled.symm⟩
  · rw [(readLine_eq_ok kind.formats_ne_nil).mpr ⟨line, readable⟩] at same
    exact map_eq_ok.mp same
  · rw [unread] at same
    cases taken : readLine kind.line kind.formats reply with
    | ok values =>
        rw [taken] at same
        cases same
    | error own =>
        rw [taken] at same
        cases same
        exact readLine_refuses taken

theorem parse_reads_grammar_selection : RecordKind.selection ≠ .name ∧
    IsLine "MR" MemorySelection.formats "MR 01,00007" [1, 7] ∧ IsReadable "MR" "MR 01,00007" ∧
    ∃ record, RecordKind.selection.parse "MR 01,00007" = .ok record ∧
      record.values = [.ofNat 1, .ofNat 7] := by
  have zeros : IsLine "MR" MemorySelection.formats "MR 01,00007" [1, 7] := by
    have band : Number.digitRow? "01" = some [0, 1] := by rfl
    have channel : Number.digitRow? "00007" = some [0, 0, 0, 0, 7] := by rfl
    refine ⟨["01", "00007"], rfl, .cons (Number.isNumeral_of_digitRow? band).1 (by decide) ?_⟩
    exact .cons (Number.isNumeral_of_digitRow? channel).1 (by decide) .nil
  have short : IsReadable "MR" "MR 01,00007" := by
    have fields : Text.fields ',' (Text.drop 3 "MR 01,00007") = ["01", "00007"] := by decide
    have lengths : ∀ field ∈ ["01", "00007"], field.toList.length ≤ Number.maxDigits := by decide
    exact fun field member digits => lengths field (fields ▸ member)
  have numeric : RecordKind.selection ≠ .name := nofun
  exact ⟨numeric, zeros, short, (parse_reads_grammar numeric "MR 01,00007").2.1 [1, 7] zeros short⟩

end RecordKind

end Transceiver
