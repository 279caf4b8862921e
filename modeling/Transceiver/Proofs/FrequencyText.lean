import Transceiver.Frequency.Text
import Transceiver.Proofs.Spelling

/-! How the text of a frequency is taken apart, and that a frequency is read back from its own text:
with or without the unit, with blanks around, and without zeros that its places end in. -/
namespace Transceiver

namespace Text

theorem dropBlanks_append {front : List Char} (blank : ∀ c ∈ front, isBlank c = true)
    (cs : List Char) : dropBlanks (front ++ cs) = dropBlanks cs :=
  List.dropWhile_append_of_pos blank

theorem dropTrailingBlanks_append_blanks {back : List Char} (blank : ∀ c ∈ back, isBlank c = true)
    (cs : List Char) : dropTrailingBlanks (cs ++ back) = dropTrailingBlanks cs := by
  have reversed : ∀ c ∈ back.reverse, isBlank c = true :=
    fun c member => blank c (List.mem_reverse.mp member)
  rw [dropTrailingBlanks, List.reverse_append, List.dropWhile_append_of_pos reversed,
    dropTrailingBlanks]

/-- Blanks around a text that has none at its ends are what trimming takes away. -/
theorem trim_blanks {front s back : String} (before : ∀ c ∈ front.toList, isBlank c = true)
    (after : ∀ c ∈ back.toList, isBlank c = true) (first : s.toList.head?.all (!isBlank ·) = true)
    (last : s.toList.getLast?.all (!isBlank ·) = true) : trim (front ++ s ++ back) = s := by
  rw [trim, String.toList_append, String.toList_append, List.append_assoc, dropBlanks_append before]
  cases spelled : s.toList with
  | nil =>
      have empty : s = "" := String.toList_eq_nil_iff.mp spelled
      have none : dropBlanks back.toList = [] := by
        rw [← List.append_nil back.toList]
        exact dropBlanks_append after []
      rw [List.nil_append, none, empty]
      rfl
  | cons c rest =>
      have kept : dropBlanks (c :: rest ++ back.toList) = c :: rest ++ back.toList := by
        rw [spelled] at first
        exact dropBlanks_eq_self first
      rw [kept, dropTrailingBlanks_append_blanks after, ← spelled, dropTrailingBlanks_eq_self last,
        String.ofList_toList]

theorem solid_ends {s : String} (solid : ∀ c ∈ s.toList, isBlank c = false) :
    s.toList.head?.all (!isBlank ·) = true ∧ s.toList.getLast?.all (!isBlank ·) = true := by
  constructor
  · refine (Option.all_eq_true _ _).mpr fun c first => ?_
    rw [solid c (List.mem_of_head? first)]
    rfl
  · refine (Option.all_eq_true _ _).mpr fun c last => ?_
    rw [solid c (List.mem_of_getLast? last)]
    rfl

theorem trim_solid {s back : String} (solid : ∀ c ∈ s.toList, isBlank c = false)
    (after : ∀ c ∈ back.toList, isBlank c = true) : trim (s ++ back) = s := by
  have trimmed : trim ("" ++ s ++ back) = s :=
    trim_blanks nofun after (solid_ends solid).1 (solid_ends solid).2
  rwa [String.empty_append] at trimmed

theorem toList_cut_front (c : Char) (s : String) :
    (cut c s).1.toList = s.toList.takeWhile (· != c) := by
  unfold cut
  cases s.toList.dropWhile (· != c) <;> exact String.toList_ofList

/-- What is cut off at a character that the front of the text does not hold. -/
theorem cut_front_of_not_mem {c : Char} {front : String} (first : c ∉ front.toList) (s : String) :
    (cut c (front ++ s)).1 = front ++ (cut c s).1 := by
  have passed : ∀ d ∈ front.toList, (d != c) = true := by
    intro d member
    simp only [bne_iff_ne]
    rintro rfl
    exact first member
  rw [← String.toList_inj, toList_cut_front, String.toList_append, String.toList_append,
    toList_cut_front, List.takeWhile_append_of_pos passed]

/-- Nothing that follows the first such character counts. -/
theorem cut_front_append {c : Char} {t : String} (starts : t.toList.head? = some c) (s : String) :
    (cut c (s ++ t)).1 = (cut c s).1 := by
  obtain ⟨rest, spelled⟩ := List.head?_eq_some_iff.mp starts
  rw [← String.toList_inj, toList_cut_front, toList_cut_front, String.toList_append, spelled]
  induction s.toList with
  | nil => simp
  | cons d ds ih => rw [List.cons_append, List.takeWhile_cons, List.takeWhile_cons, ih]

theorem endsWith_append (s ending : String) : endsWith ending (s ++ ending) = true := by
  rw [endsWith, String.toList_append]
  exact List.isSuffixOf_iff_suffix.mpr (List.suffix_append _ _)

/-- A text ends in no other ending of the same length. -/
theorem endsWith_append_eq_false {ending other : String} (s : String)
    (same : ending.length = other.length) (differ : ending ≠ other) :
    endsWith ending (s ++ other) = false := by
  refine Bool.eq_false_iff.mpr fun ends => differ ?_
  obtain ⟨front, spelled⟩ := List.isSuffixOf_iff_suffix.mp ends
  rw [String.toList_append] at spelled
  rw [← String.length_toList, ← String.length_toList] at same
  exact String.toList_inj.mp (List.append_inj_right' spelled same)

theorem endsWith_eq_false_of_not_mem {ending s : String} {c : Char} (marked : c ∈ ending.toList)
    (unmarked : c ∉ s.toList) : endsWith ending s = false := by
  refine Bool.eq_false_iff.mpr fun ends => unmarked ?_
  exact (List.isSuffixOf_iff_suffix.mp ends).subset marked

end Text

namespace Frequency

variable {s text : String}

theorem read_of_trim (trimmed : Text.trim s = text) :
    Frequency.read s =
      if text = "" then .ok 0
      else if Text.endsWith " MHz" text then readMegahertz (Text.trim (Text.cut ' ' text).1)
      else if Text.endsWith " kHz" text then return (← readWhole (Text.cut ' ' text).1) * 1000
      else readMegahertz text := by
  rw [← trimmed]
  rfl

/-- Without a unit the whole text is read as megahertz. -/
theorem read_bare (trimmed : Text.trim s = text) (some : text ≠ "") (unbroken : ' ' ∉ text.toList) :
    Frequency.read s = readMegahertz text := by
  have blank : ∀ ending : String, ' ' ∈ ending.toList → Text.endsWith ending text = false :=
    fun ending marked => Text.endsWith_eq_false_of_not_mem marked unbroken
  rw [read_of_trim trimmed, if_neg some, blank " MHz" (by decide), blank " kHz" (by decide)]
  rfl

theorem read_megahertz (trimmed : Text.trim s = text ++ " MHz") :
    Frequency.read s = readMegahertz (Text.trim (Text.cut ' ' text).1) := by
  have some : text ++ " MHz" ≠ "" :=
    fun empty => absurd (String.append_eq_empty_iff.mp empty).2 (by decide)
  have front : (Text.cut ' ' (text ++ " MHz")).1 = (Text.cut ' ' text).1 :=
    Text.cut_front_append rfl text
  rw [read_of_trim trimmed, if_neg some, Text.endsWith_append, if_pos rfl, front]

theorem read_kilohertz (trimmed : Text.trim s = text ++ " kHz") :
    Frequency.read s = do return (← readWhole (Text.cut ' ' text).1) * 1000 := by
  have some : text ++ " kHz" ≠ "" :=
    fun empty => absurd (String.append_eq_empty_iff.mp empty).2 (by decide)
  have front : (Text.cut ' ' (text ++ " kHz")).1 = (Text.cut ' ' text).1 :=
    Text.cut_front_append rfl text
  have other : Text.endsWith " MHz" (text ++ " kHz") = false :=
    Text.endsWith_append_eq_false text (by decide) (by decide)
  rw [read_of_trim trimmed, if_neg some, other, Text.endsWith_append, if_neg (by decide), if_pos rfl,
    front]

theorem readMegahertz_whole (undotted : '.' ∉ text.toList) :
    readMegahertz text = do return (← readWhole text) * 1000000 := by
  have alone : ∀ piece ∈ [text], '.' ∉ piece.toList :=
    fun piece member => List.mem_singleton.mp member ▸ undotted
  have parts : Text.fields '.' (Text.join "." [text]) = [text] := Text.fields_join rfl nofun alone
  rw [Text.join] at parts
  unfold readMegahertz
  rw [parts]

/-- Megahertz with a point: the whole part, if there is one, and then the places, filled up with zeros. -/
theorem readMegahertz_point {whole places : String} (first : '.' ∉ whole.toList)
    (second : '.' ∉ places.toList) :
    readMegahertz (whole ++ "." ++ places) =
      if 6 < (Text.padEnd 6 '0' places).length then .error (.places (Text.padEnd 6 '0' places))
      else do
        let mega ← (if whole = "" then .ok 0 else readWhole whole)
        return mega * 1000000 + (← readWhole (Text.padEnd 6 '0' places)) := by
  have undotted : ∀ piece ∈ [whole, places], '.' ∉ piece.toList := by
    intro piece member
    rcases List.mem_cons.mp member with rfl | last
    · exact first
    · exact List.mem_singleton.mp last ▸ second
  have parts : Text.fields '.' (Text.join "." [whole, places]) = [whole, places] :=
    Text.fields_join rfl nofun undotted
  change Text.fields '.' (whole ++ "." ++ places) = [whole, places] at parts
  unfold readMegahertz
  rw [parts]
  dsimp only
  by_cases many : 6 < (Text.padEnd 6 '0' places).length
  · rw [if_pos many, if_pos many]
    rfl
  · rw [if_neg many, if_neg many]
    by_cases missing : whole = ""
    · rw [if_pos missing, if_pos missing]
      rfl
    · rw [if_neg missing, if_neg missing]

/-- A second point is not read. -/
theorem readMegahertz_points {whole places : String} (first : '.' ∉ whole.toList)
    (second : '.' ∈ places.toList) : readMegahertz (whole ++ "." ++ places) = .error .numeral := by
  obtain ⟨front, rest, spelled, clear⟩ := List.eq_append_cons_of_mem second
  have later : Text.fields '.' places = .ofList front :: Text.fields '.' (.ofList rest) := by
    refine Text.fields_cons ?_ ?_
    · rwa [String.toList_ofList]
    · rw [spelled, String.toList_ofList, String.toList_ofList]
  have parts : Text.fields '.' (whole ++ "." ++ places) =
      whole :: .ofList front :: Text.fields '.' (.ofList rest) := by
    rw [← later]
    refine Text.fields_cons first ?_
    simp
  unfold readMegahertz
  rw [parts]
  cases last : Text.fields '.' (.ofList rest) with
  | nil => exact absurd last (Text.fields_ne_nil _ _)
  | cons piece more => rfl

theorem readWhole_showInt (n : Int) :
    readWhole (Number.showInt n) =
      if (Number.digits n.natAbs).length ≤ Number.maxDigits then .ok n else .error .numeral := by
  rw [readWhole, Number.readInt?_showInt]
  by_cases short : (Number.digits n.natAbs).length ≤ Number.maxDigits
  · rw [if_pos short, if_pos short]
  · rw [if_neg short, if_neg short]

theorem readWhole_padded {width n : Nat} (short : (Number.padded width n).toList.length ≤ Number.maxDigits) :
    readWhole (Number.padded width n) = .ok n := by
  rw [readWhole, Number.readInt?_padded short]

theorem length_places (hertz : Int) :
    (Number.padded 6 (hertz.fmod 1000000).toNat).toList.length = 6 := by
  refine Number.length_padded ((Nat.length_toDigits_le_iff (by decide) (by decide)).mpr ?_)
  have rest := Int.fmod_lt_of_pos hertz (show (0 : Int) < 1000000 by decide)
  omega

/-- Zeros taken away from the end of a frequency's text are zeros of its places, which are filled up
with them again. -/
theorem kept_of_format {hertz : Int} {kept : String} {dropped : Nat}
    (shortened : kept ++ .ofList (List.replicate dropped '0') = format hertz) :
    ∃ places, kept = Number.showInt (hertz.fdiv 1000000) ++ "." ++ places ∧
      Text.padEnd 6 '0' places = Number.padded 6 (hertz.fmod 1000000).toNat := by
  have wide := length_places hertz
  have spelled : kept.toList ++ List.replicate dropped '0' =
      ((Number.showInt (hertz.fdiv 1000000)).toList ++ ['.']) ++
        (Number.padded 6 (hertz.fmod 1000000).toNat).toList := by
    have same := congrArg String.toList shortened
    simpa [format] using same
  obtain ⟨places, front, back⟩ : ∃ places : List Char,
      kept.toList = (Number.showInt (hertz.fdiv 1000000)).toList ++ ['.'] ++ places ∧
      (Number.padded 6 (hertz.fmod 1000000).toNat).toList =
        places ++ List.replicate dropped '0' := by
    rcases List.append_eq_append_iff.mp spelled with ⟨taken, front, zeros⟩ | ⟨places, front, back⟩
    · -- nothing in front of the places is taken away: the point is no zero
      rcases List.eq_nil_or_concat taken with rfl | ⟨others, last, rfl⟩
      · rw [List.nil_append] at zeros
        rw [List.append_nil] at front
        refine ⟨[], ?_, ?_⟩
        · rw [List.append_nil, front]
        · rw [List.nil_append, zeros]
      · rw [List.concat_eq_append, ← List.append_assoc] at front
        have point : '.' = last := List.singleton_inj.mp (List.append_inj_right' front rfl)
        have member : last ∈ List.replicate dropped '0' := by
          rw [zeros]
          simp
        rw [← point] at member
        exact absurd (List.eq_of_mem_replicate member) (by decide)
    · exact ⟨places, front, back⟩
  have filled : places.length + dropped = 6 := by
    rw [back, List.length_append, List.length_replicate] at wide
    exact wide
  refine ⟨.ofList places, ?_, ?_⟩
  · rw [← String.toList_inj, front]
    simp
  · have missing : 6 - places.length = dropped := by omega
    rw [← String.toList_inj, back, Text.padEnd, String.length_ofList, String.toList_ofList, missing]
    simp

theorem isWritable_iff {hertz : Int} :
    isWritable hertz = true ↔
      (Number.digits (hertz.fdiv 1000000).natAbs).length ≤ Number.maxDigits :=
  Number.isWritable_iff

theorem mem_format {hertz : Int} {c : Char} (h : c ∈ (format hertz).toList) :
    c = '-' ∨ c = '.' ∨ c.isDigit = true := by
  rw [format, String.toList_append, String.toList_append] at h
  rcases List.mem_append.mp h with front | digit
  · rcases List.mem_append.mp front with whole | point
    · exact (Number.mem_showInt whole).imp_right .inr
    · exact .inr (.inl (List.mem_singleton.mp point))
  · exact .inr (.inr (Number.isDigit_of_mem_padded digit))

theorem isBlank_of_mem_format {hertz : Int} {c : Char} (h : c ∈ (format hertz).toList) :
    Text.isBlank c = false := by
  rcases mem_format h with rfl | rfl | digit
  · decide
  · decide
  · exact isBlank_of_solid (Number.solid_of_isDigit digit)

section

variable {hertz : Int} {kept : String} {dropped : Nat}
  (shortened : kept ++ .ofList (List.replicate dropped '0') = format hertz)

include shortened

theorem isBlank_of_mem_kept {c : Char} (h : c ∈ kept.toList) : Text.isBlank c = false := by
  have member : c ∈ (format hertz).toList := by
    rw [← shortened, String.toList_append]
    exact List.mem_append_left _ h
  exact isBlank_of_mem_format member

theorem kept_ne_empty : kept ≠ "" := by
  obtain ⟨places, rfl, -⟩ := kept_of_format shortened
  simp

/-- The text of a frequency is read as that frequency, however many of its last zeros are missing. -/
theorem readMegahertz_of_format :
    readMegahertz kept = if isWritable hertz then .ok hertz else .error .numeral := by
  obtain ⟨places, spelled, filled⟩ := kept_of_format shortened
  have first : '.' ∉ (Number.showInt (hertz.fdiv 1000000)).toList := by
    intro point
    rcases Number.mem_showInt point with sign | digit
    · cases sign
    · cases digit
  have second : '.' ∉ places.toList := by
    intro point
    have member : '.' ∈ (Text.padEnd 6 '0' places).toList := by
      rw [Text.padEnd, String.toList_ofList]
      exact List.mem_append_left _ point
    rw [filled] at member
    cases Number.isDigit_of_mem_padded member
  have few : ¬6 < (Number.padded 6 (hertz.fmod 1000000).toNat).length := by
    rw [← String.length_toList, length_places]
    exact Nat.lt_irrefl 6
  have rest : readWhole (Number.padded 6 (hertz.fmod 1000000).toNat) = .ok (hertz.fmod 1000000) := by
    have short : (Number.padded 6 (hertz.fmod 1000000).toNat).toList.length ≤ Number.maxDigits := by
      rw [length_places]
      decide
    rw [readWhole_padded short, Int.toNat_of_nonneg (Int.fmod_nonneg_of_pos hertz (by decide))]
  have sum : hertz.fdiv 1000000 * 1000000 + hertz.fmod 1000000 = hertz := Int.fdiv_mul_add_fmod _ _
  rw [spelled, readMegahertz_point first second, filled, if_neg few,
    if_neg (Number.showInt_ne_empty _), readWhole_showInt, rest]
  by_cases short : isWritable hertz = true
  · rw [if_pos (isWritable_iff.mp short), if_pos short]
    exact congrArg Except.ok sum
  · rw [if_neg fun few => short (isWritable_iff.mpr few), if_neg short]
    rfl

end

/-- A frequency is read back from its own text: with its unit or without, with blanks around the number
and around the whole, and without any of the zeros that its places end in. Where its megahertz are
too long to be written, what would be its text is refused. -/
theorem written_is_read_back (hertz : Int) {kept front between back unit : String} {dropped : Nat}
    (shortened : kept ++ .ofList (List.replicate dropped '0') = format hertz)
    (measured : unit = "" ∨ unit = " MHz")
    (blank : ∀ c ∈ (front ++ between ++ back).toList, Text.isBlank c = true) :
    Frequency.read (front ++ kept ++ between ++ unit ++ back) =
      if isWritable hertz then .ok hertz else .error .numeral := by
  have solid : ∀ c ∈ kept.toList, Text.isBlank c = false := fun c => isBlank_of_mem_kept shortened
  have unbroken : ' ' ∉ kept.toList := fun member => absurd (solid ' ' member) (by decide)
  have before : ∀ c ∈ front.toList, Text.isBlank c = true :=
    fun c member => blank c (by simp [member])
  have within : ∀ c ∈ between.toList, Text.isBlank c = true :=
    fun c member => blank c (by simp [member])
  have after : ∀ c ∈ back.toList, Text.isBlank c = true :=
    fun c member => blank c (by simp [member])
  rw [← readMegahertz_of_format shortened]
  rcases measured with rfl | rfl
  · have blanks : ∀ c ∈ (between ++ back).toList, Text.isBlank c = true := by
      intro c member
      rw [String.toList_append] at member
      exact (List.mem_append.mp member).elim (within c) (after c)
    have trimmed : Text.trim (front ++ kept ++ (between ++ back)) = kept :=
      Text.trim_blanks before blanks (Text.solid_ends solid).1 (Text.solid_ends solid).2
    rw [String.append_empty, String.append_assoc]
    exact read_bare trimmed (kept_ne_empty shortened) unbroken
  · have trimmed : Text.trim (front ++ (kept ++ between ++ " MHz") ++ back) = kept ++ between ++ " MHz" := by
      have some : kept.toList ≠ [] := mt String.toList_eq_nil_iff.mp (kept_ne_empty shortened)
      refine Text.trim_blanks before after ?_ ?_
      · rw [String.toList_append, String.toList_append, List.append_assoc, List.head?_append,
          List.head?_eq_some_head some, Option.some_or, ← List.head?_eq_some_head some]
        exact (Text.solid_ends solid).1
      · rw [String.toList_append, List.getLast?_append]
        rfl
    have number : Text.trim (Text.cut ' ' (kept ++ between)).1 = kept := by
      rw [Text.cut_front_of_not_mem unbroken]
      refine Text.trim_solid solid fun c member => within c ?_
      rw [Text.toList_cut_front] at member
      exact (List.takeWhile_prefix _).subset member
    have grouped : front ++ kept ++ between ++ " MHz" ++ back =
        front ++ (kept ++ between ++ " MHz") ++ back := by
      simp only [String.append_assoc]
    rw [grouped, read_megahertz trimmed, number]

theorem written_is_read_back_negative :
    "-1.5" ++ .ofList (List.replicate 5 '0') = format (-500000) ∧
      (" MHz" = "" ∨ " MHz" = " MHz") ∧
      (∀ c ∈ ("\t " ++ " " ++ "\n").toList, Text.isBlank c = true) ∧
      Frequency.read ("\t " ++ "-1.5" ++ " " ++ " MHz" ++ "\n") = .ok (-500000) := by
  have shortened : "-1.5" ++ .ofList (List.replicate 5 '0') = format (-500000) := by decide
  have blank : ∀ c ∈ ("\t " ++ " " ++ "\n").toList, Text.isBlank c = true :=
    List.all_eq_true.mp (by decide)
  have came := written_is_read_back (-500000) shortened (.inr rfl) blank
  exact ⟨shortened, .inr rfl, blank, came.trans (if_pos (by decide))⟩

/-- A frequency of as many whole megahertz as ten to that power. -/
theorem isWritable_power {count : Nat} (some : 0 < count) (long : Number.maxDigits ≤ count) :
    isWritable (Nat.pow 10 (count + 6) : Nat) = false := by
  have mega : ((Nat.pow 10 (count + 6) : Nat) : Int).fdiv 1000000 = (Nat.pow 10 count : Nat) := by
    have product : Nat.pow 10 (count + 6) = Nat.pow 10 count * 1000000 := Nat.pow_add 10 count 6
    rw [product, Int.natCast_mul]
    exact Int.mul_fdiv_cancel _ (by decide)
  unfold isWritable
  rw [mega]
  exact Number.isWritable_power some long

/-- With one digit more than may be written, the text is not read back. -/
theorem overlong_not_read_back :
    isWritable (Nat.pow 10 (Number.maxDigits + 6) : Nat) = false ∧
      Frequency.read (format (Nat.pow 10 (Number.maxDigits + 6) : Nat)) ≠
        .ok (Nat.pow 10 (Number.maxDigits + 6) : Nat) := by
  have overlong : isWritable (Nat.pow 10 (Number.maxDigits + 6) : Nat) = false :=
    isWritable_power (by decide) (Nat.le_refl _)
  refine ⟨overlong, ?_⟩
  generalize Nat.pow 10 (Number.maxDigits + 6) = hertz at *
  have whole : format hertz ++ .ofList (List.replicate 0 '0') = format hertz := String.append_empty
  have solid : ∀ c ∈ (format hertz).toList, Text.isBlank c = false := fun c => isBlank_of_mem_format
  have trimmed : Text.trim (format hertz) = format hertz :=
    Text.trim_eq_self (Text.solid_ends solid).1 (Text.solid_ends solid).2
  have unbroken : ' ' ∉ (format hertz).toList := fun member => absurd (solid ' ' member) (by decide)
  rw [read_bare trimmed (kept_ne_empty whole) unbroken, readMegahertz_of_format whole, overlong]
  nofun

end Frequency

end Transceiver
