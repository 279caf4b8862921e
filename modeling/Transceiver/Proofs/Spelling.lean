import Transceiver.Text.CodePage
import Transceiver.Record.Field

/-! How numbers, fields and lines are spelled, and how they are read back. A padded number is a row
of ASCII digits with its own value; fields without commas come apart as they were joined. -/
namespace Transceiver

theorem isBlank_of_solid {c : Char} (h : 0x21 ≤ c.toNat ∧ c.toNat ≤ 0x7E) :
    Text.isBlank c = false := by
  simp [Text.isBlank, Text.isWhiteSpace, Text.isSeparator]
  omega

namespace Number

theorem toList_padded (width n : Nat) :
    (padded width n).toList = List.replicate (width - (digits n).length) '0' ++ digits n := by
  simp [padded]

theorem isDigit_of_mem_padded {width n : Nat} {c : Char} (h : c ∈ (padded width n).toList) :
    c.isDigit = true := by
  rw [toList_padded] at h
  rcases List.mem_append.mp h with zero | digit
  · rw [List.eq_of_mem_replicate zero]
    rfl
  · exact Nat.isDigit_of_mem_toDigits (by decide) (by decide) digit

theorem padded_ne_nil (width n : Nat) : (padded width n).toList ≠ [] := by
  rw [toList_padded]
  intro h
  exact Nat.toDigits_ne_nil (List.append_eq_nil_iff.mp h).2

theorem length_padded {width n : Nat} (short : (digits n).length ≤ width) :
    (padded width n).toList.length = width := by
  rw [toList_padded, List.length_append, List.length_replicate]
  omega

theorem isDigit_iff {c : Char} : c.isDigit = true ↔ 48 ≤ c.toNat ∧ c.toNat ≤ 57 := by
  simp [Char.isDigit, UInt32.le_iff_toNat_le]

theorem solid_of_isDigit {c : Char} (h : c.isDigit = true) : 0x21 ≤ c.toNat ∧ c.toNat ≤ 0x7E := by
  have range := isDigit_iff.mp h
  omega

theorem asciiDigit?_of_isDigit {c : Char} (h : c.isDigit = true) :
    asciiDigit? c = some (c.toNat - 48) := by
  have range := isDigit_iff.mp h
  simp [asciiDigit?, range]

theorem mapM_digits {read : Char → Option Nat} {cs : List Char}
    (h : ∀ c ∈ cs, read c = some (c.toNat - 48)) :
    cs.mapM read = some (cs.map fun c => c.toNat - 48) := by
  induction cs with
  | nil => rfl
  | cons c rest ih =>
      rw [List.mapM_cons, h c List.mem_cons_self, ih fun d member => h d (List.mem_cons_of_mem c member)]
      rfl

theorem mapM_asciiDigit? {cs : List Char} (h : ∀ c ∈ cs, c.isDigit = true) :
    cs.mapM asciiDigit? = some (cs.map fun c => c.toNat - 48) :=
  mapM_digits fun c member => asciiDigit?_of_isDigit (h c member)

theorem ofDigits_eq_ofDigitChars (cs : List Char) :
    ofDigits (cs.map fun c => c.toNat - 48) = Nat.ofDigitChars 10 cs 0 := by
  rw [ofDigits, List.foldl_map]
  rfl

theorem ofDigits_padded (width n : Nat) :
    ofDigits ((padded width n).toList.map fun c => c.toNat - 48) = n := by
  rw [ofDigits_eq_ofDigitChars, toList_padded, Nat.ofDigitChars_append,
    Nat.ofDigitChars_replicate_zero, Nat.mul_zero]
  exact Nat.ofDigitChars_ten_toDigits

theorem digit?_of_isDigit {c : Char} (h : c.isDigit = true) : digit? c = some (c.toNat - 48) := by
  obtain ⟨others, zero⟩ : ∃ others, zeros = 48 :: others := ⟨_, rfl⟩
  have range := isDigit_iff.mp h
  have first : (decide (48 ≤ c.toNat) && decide (c.toNat < 48 + 10)) = true := by
    simp only [Bool.and_eq_true, decide_eq_true_eq]
    omega
  have found : zeros.find? (fun z => z ≤ c.toNat && c.toNat < z + 10) = some 48 := by
    rw [zero]
    exact List.find?_cons_of_pos first
  rw [digit?, found]
  rfl

/-- Without underscores a row of digits is one digit after the other. -/
theorem groupedDigits?_eq_mapM {cs : List Char} (some : cs ≠ []) (plain : '_' ∉ cs) :
    groupedDigits? cs = cs.mapM digit? := by
  induction cs with
  | nil => exact absurd rfl some
  | cons c rest ih =>
      rw [List.mapM_cons]
      cases rest with
      | nil =>
          rw [groupedDigits?]
          cases digit? c <;> rfl
      | cons d rest =>
          have later := ih nofun fun member => plain (List.mem_cons_of_mem c member)
          have step : groupedDigits? (c :: d :: rest) = (do
              return (← digit? c) :: (← groupedDigits? (d :: rest))) := by
            refine groupedDigits?.eq_4 c (d :: rest) nofun ?_
            rintro more same
            cases same
            exact plain (List.mem_cons_of_mem c List.mem_cons_self)
          rw [step, later]

theorem groupedDigits?_of_isDigit {cs : List Char} (some : cs ≠ [])
    (h : ∀ c ∈ cs, c.isDigit = true) :
    groupedDigits? cs = Option.some (cs.map fun c => c.toNat - 48) := by
  have plain : '_' ∉ cs := fun member => absurd (h '_' member) (by decide)
  rw [groupedDigits?_eq_mapM some plain]
  exact mapM_digits fun c member => digit?_of_isDigit (h c member)

theorem showNat_eq_padded (n : Nat) : showNat n = padded 0 n := by
  simp [showNat, padded]

theorem mem_showInt {n : Int} {c : Char} (h : c ∈ (showInt n).toList) :
    c = '-' ∨ c.isDigit = true := by
  cases n with
  | ofNat n =>
      rw [showInt, showNat_eq_padded] at h
      exact .inr (isDigit_of_mem_padded h)
  | negSucc n =>
      rw [showInt, String.toList_append, showNat_eq_padded] at h
      rcases List.mem_append.mp h with sign | digit
      · exact .inl (List.mem_singleton.mp sign)
      · exact .inr (isDigit_of_mem_padded digit)

theorem showInt_ne_empty (n : Int) : showInt n ≠ "" := by
  rw [Ne, ← String.toList_eq_nil_iff]
  cases n with
  | ofNat n =>
      rw [showInt, showNat_eq_padded]
      exact padded_ne_nil 0 n
  | negSucc n =>
      rw [showInt, String.toList_append]
      exact List.cons_ne_nil _ _

theorem isWhiteSpace_of_isDigit {c : Char} (h : c.isDigit = true) : Text.isWhiteSpace c = false :=
  (Bool.or_eq_false_iff.mp (isBlank_of_solid (solid_of_isDigit h))).1

/-- A text without white space is not trimmed before it is read as a number. -/
theorem trimmedChars_of_solid {s : String} (h : ∀ c ∈ s.toList, Text.isWhiteSpace c = false) :
    trimmedChars s = s.toList := by
  have kept : ∀ cs : List Char, (∀ c ∈ cs, Text.isWhiteSpace c = false) →
      cs.dropWhile Text.isWhiteSpace = cs := by
    intro cs solid
    cases cs with
    | nil => rfl
    | cons c rest =>
        rw [List.dropWhile_cons, solid c List.mem_cons_self]
        rfl
  have reversed : ∀ c ∈ s.toList.reverse, Text.isWhiteSpace c = false :=
    fun c member => h c (List.mem_reverse.mp member)
  rw [trimmedChars, kept s.toList h, kept s.toList.reverse reversed, List.reverse_reverse]

/-- The sign in front of a row of digits and the row are read for themselves. -/
theorem readInt?_of_isDigit {sign cs : List Char} {negative : Bool}
    (signed : (sign = ['-'] ∧ negative = true) ∨ (sign = [] ∧ negative = false)) (some : cs ≠ [])
    (digits : ∀ c ∈ cs, c.isDigit = true) :
    readInt? (.ofList (sign ++ cs)) =
      (ofRow? (cs.map fun c => c.toNat - 48)).map
        fun n : Nat => if negative then -(n : Int) else (n : Int) := by
  have solid : ∀ c ∈ (String.ofList (sign ++ cs)).toList, Text.isWhiteSpace c = false := by
    intro c member
    rw [String.toList_ofList] at member
    rcases List.mem_append.mp member with front | digit
    · rcases signed with ⟨rfl, -⟩ | ⟨rfl, -⟩
      · rw [List.mem_singleton.mp front]
        decide
      · cases front
    · exact isWhiteSpace_of_isDigit (digits c digit)
  have split : splitSign (sign ++ cs) = (negative, cs) := by
    rcases signed with ⟨rfl, rfl⟩ | ⟨rfl, rfl⟩
    · rfl
    · cases cs with
      | nil => rfl
      | cons c rest =>
          have digit := digits c List.mem_cons_self
          rw [List.nil_append]
          unfold splitSign
          split
          · rename_i same
            cases same
            exact absurd digit (by decide)
          · rename_i same
            cases same
            exact absurd digit (by decide)
          · rfl
  rw [readInt?, trimmedChars_of_solid solid, String.toList_ofList, split]
  dsimp only
  rw [groupedDigits?_of_isDigit some digits, Option.bind_some]
  cases ofRow? (cs.map fun c => c.toNat - 48) <;> rfl

theorem readInt?_padded {width n : Nat} (short : (padded width n).toList.length ≤ maxDigits) :
    readInt? (padded width n) = some (n : Int) := by
  have digits : ∀ c ∈ (padded width n).toList, c.isDigit = true := fun c => isDigit_of_mem_padded
  have came := readInt?_of_isDigit (.inr ⟨rfl, rfl⟩) (padded_ne_nil width n) digits
  rw [List.nil_append, String.ofList_toList, ofRow?, List.length_map, if_pos short,
    ofDigits_padded] at came
  exact came

/-- An integer is read back from its own text unless that has too many digits. -/
theorem readInt?_showInt (n : Int) :
    readInt? (showInt n) = if (digits n.natAbs).length ≤ maxDigits then some n else none := by
  have row : ∀ m : Nat, ofRow? ((digits m).map fun c => c.toNat - 48) =
      if (digits m).length ≤ maxDigits then some m else none := by
    intro m
    rw [ofRow?, List.length_map, ofDigits_eq_ofDigitChars]
    exact congrArg (ite _ · none) (congrArg some Nat.ofDigitChars_ten_toDigits)
  have digital : ∀ m : Nat, ∀ c ∈ digits m, c.isDigit = true :=
    fun m c member => Nat.isDigit_of_mem_toDigits (by decide) (by decide) member
  have full : ∀ m : Nat, digits m ≠ [] := fun m => Nat.toDigits_ne_nil
  cases n with
  | ofNat m =>
      have spelled : showInt (.ofNat m) = .ofList ([] ++ digits m) := rfl
      rw [spelled, readInt?_of_isDigit (.inr ⟨rfl, rfl⟩) (full m) (digital m), row, Int.natAbs]
      by_cases short : (digits m).length ≤ maxDigits
      · rw [if_pos short, if_pos short]
        rfl
      · rw [if_neg short, if_neg short]
        rfl
  | negSucc m =>
      have spelled : showInt (.negSucc m) = .ofList (['-'] ++ digits (m + 1)) := by
        rw [String.ofList_append]
        rfl
      rw [spelled, readInt?_of_isDigit (.inl ⟨rfl, rfl⟩) (full _) (digital _), row, Int.natAbs]
      by_cases short : (digits (m + 1)).length ≤ maxDigits
      · rw [if_pos short, if_pos short]
        rfl
      · rw [if_neg short, if_neg short]
        rfl

end Number

namespace Text

theorem toList_join_cons (separator s : String) {rest : List String} (more : rest ≠ []) :
    (join separator (s :: rest)).toList =
      s.toList ++ separator.toList ++ (join separator rest).toList := by
  cases rest with
  | nil => exact absurd rfl more
  | cons t rest => simp [join]

theorem fields_ne_nil (c : Char) (s : String) : fields c s ≠ [] := by
  rw [fields, Ne, List.map_eq_nil_iff]
  exact List.splitOn_ne_nil c s.toList

/-- The first field ends at the first separator. -/
theorem fields_cons {c : Char} {s front rest : String} (first : c ∉ front.toList)
    (spelled : s.toList = front.toList ++ c :: rest.toList) :
    fields c s = front :: fields c rest := by
  unfold fields
  rw [spelled, List.splitOn_append_cons_of_beq _ _ (beq_self_eq_true c),
    List.splitOn_eq_singleton first]
  simp

/-- Fields that do not hold the separator come apart as they were joined. -/
theorem fields_join {c : Char} {separator : String} (single : separator.toList = [c])
    {pieces : List String} (some : pieces ≠ []) (whole : ∀ s ∈ pieces, c ∉ s.toList) :
    fields c (join separator pieces) = pieces := by
  induction pieces with
  | nil => exact absurd rfl some
  | cons s rest ih =>
      have here : c ∉ s.toList := whole s List.mem_cons_self
      cases rest with
      | nil => simp [fields, join, List.splitOn_eq_singleton here]
      | cons t rest =>
          have later := ih (by simp) fun u member => whole u (List.mem_cons_of_mem s member)
          rw [fields_cons here, later]
          rw [toList_join_cons separator s (by simp), single, List.append_assoc, List.singleton_append]

theorem mem_join {separator : String} {c : Char} {pieces : List String}
    (h : c ∈ (join separator pieces).toList) : c ∈ separator.toList ∨ ∃ s ∈ pieces, c ∈ s.toList := by
  induction pieces with
  | nil => cases h
  | cons s rest ih =>
      cases rest with
      | nil => exact .inr ⟨s, List.mem_cons_self, h⟩
      | cons t rest =>
          rw [toList_join_cons separator s (by simp)] at h
          rcases List.mem_append.mp h with first | later
          · rcases List.mem_append.mp first with here | between
            · exact .inr ⟨s, List.mem_cons_self, here⟩
            · exact .inl between
          · rcases ih later with between | ⟨u, member, there⟩
            · exact .inl between
            · exact .inr ⟨u, List.mem_cons_of_mem s member, there⟩

theorem cut_append {separator : Char} {front : String} (rest : String)
    (first : separator ∉ front.toList) :
    cut separator (front ++ separator.toString ++ rest) = (front, some rest) := by
  have passed : ∀ c ∈ front.toList, (c != separator) = true := by
    intro c member
    simp only [bne_iff_ne]
    rintro rfl
    exact first member
  simp [cut, List.takeWhile_append_of_pos passed, List.dropWhile_append_of_pos passed]

theorem cut_of_not_mem {separator : Char} {s : String} (h : separator ∉ s.toList) :
    cut separator s = (s, none) := by
  have passed : ∀ c ∈ s.toList, (c != separator) = true := by
    intro c member
    simp only [bne_iff_ne]
    rintro rfl
    exact h member
  have taken : s.toList.takeWhile (· != separator) = s.toList := by
    have whole : (s.toList ++ []).takeWhile (· != separator) = s.toList ++ [] :=
      List.takeWhile_append_of_pos passed
    rwa [List.append_nil] at whole
  have dropped : s.toList.dropWhile (· != separator) = [] := by
    have whole : (s.toList ++ []).dropWhile (· != separator) = [] :=
      List.dropWhile_append_of_pos passed
    rwa [List.append_nil] at whole
  simp [cut, taken, dropped]

end Text

namespace Record

theorem mem_fieldTexts {formats : List Format} {values : List Nat} {field : String}
    (h : field ∈ fieldTexts formats values) : ∃ width n, field = Number.padded width n := by
  obtain ⟨i, inside, rfl⟩ := List.mem_iff_getElem.mp h
  exact ⟨_, _, List.getElem_zipWith⟩

theorem fieldsOf_append (line text : String) :
    fieldsOf line (line ++ " " ++ text) = .ok (Text.fields ',' text) := by
  have front : Text.startsWith (line ++ " ") (line ++ " " ++ text) = true := by
    simp [Text.startsWith]
  have length : (line.toList ++ " ".toList).length = line.length + 1 := by
    rw [List.length_append, String.length_toList]
    rfl
  have rest : Text.drop (line.length + 1) (line ++ " " ++ text) = text := by
    rw [Text.drop, String.toList_append, String.toList_append, ← length, List.drop_left,
      String.ofList_toList]
  simp only [fieldsOf, front, if_true, rest]

theorem fieldsOf_lineText {line : String} {fields : List String} (some : fields ≠ [])
    (whole : ∀ field ∈ fields, ',' ∉ field.toList) :
    fieldsOf line (lineText line fields) = .ok fields := by
  rw [lineText, fieldsOf_append, Text.fields_join rfl some whole]

end Record

end Transceiver
