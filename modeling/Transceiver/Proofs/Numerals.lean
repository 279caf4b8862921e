import Mathlib.Data.List.Basic
import Transceiver.Proofs.Change
import Transceiver.Proofs.CodePages
import Transceiver.Proofs.FrequencyText

/-! Frequencies by their numerals. A text without blanks inside, whose places have no sign and no
underscore, is read as a frequency exactly if it is a numeral, and then for what it says. Signs, blanks
and underscores among the places are read as well, and shift the point. -/
namespace Transceiver

namespace Number

/-- Decimal digits of any script, with single underscores between them, and their values. -/
inductive Grouped : List Char → List Nat → Prop
  | last {c d} : digit? c = some d → Grouped [c] [d]
  | next {c d cs ds} : digit? c = some d → Grouped cs ds → Grouped (c :: cs) (d :: ds)
  | apart {c d cs ds} : digit? c = some d → Grouped cs ds → Grouped (c :: '_' :: cs) (d :: ds)

/-- A whole numeral without a minus. -/
inductive Whole : List Char → List Nat → Prop
  | bare {cs ds} : Grouped cs ds → Whole cs ds
  | signed {cs ds} : Grouped cs ds → Whole ('+' :: cs) ds

theorem digit?_underscore : digit? '_' = none := by decide

theorem Grouped.head_ne {cs : List Char} {ds : List Nat} (h : Grouped ('_' :: cs) ds) : False := by
  cases h with
  | last known => rw [digit?_underscore] at known; cases known
  | next known => rw [digit?_underscore] at known; cases known
  | apart known => rw [digit?_underscore] at known; cases known

theorem groupedDigits?_eq_some {cs : List Char} {ds : List Nat} :
    groupedDigits? cs = some ds ↔ Grouped cs ds := by
  constructor
  · intro h
    fun_induction groupedDigits? cs generalizing ds with
    | case1 => cases h
    | case2 c =>
        obtain ⟨d, known, rfl⟩ := Option.map_eq_some_iff.mp h
        exact .last known
    | case3 c rest ih =>
        obtain ⟨d, known, h⟩ := Option.bind_eq_some_iff.mp h
        obtain ⟨later, more, h⟩ := Option.bind_eq_some_iff.mp h
        cases h
        exact .apart known (ih more)
    | case4 c rest single apart ih =>
        obtain ⟨d, known, h⟩ := Option.bind_eq_some_iff.mp h
        obtain ⟨later, more, h⟩ := Option.bind_eq_some_iff.mp h
        cases h
        exact .next known (ih more)
  · intro h
    induction h with
    | last known => rw [groupedDigits?, known]; rfl
    | @next c d cs ds known more ih =>
        have step : groupedDigits? (c :: cs) = (do
            return (← digit? c) :: (← groupedDigits? cs)) := by
          refine groupedDigits?.eq_4 c cs ?_ ?_
          · rintro rfl
            cases more
          · rintro rest rfl
            exact more.head_ne
        rw [step, known, ih]
        rfl
    | apart known more ih =>
        rw [groupedDigits?, known, ih]
        rfl

/-- No digit of any script is a blank. -/
theorem isBlank_of_digit? {c : Char} (h : (digit? c).isSome = true) : Text.isBlank c = false := by
  have apart : ∀ first ∈ zeros, ∀ i < 10, Text.isBlank (Char.ofNat (first + i)) = false := by
    decide +kernel
  obtain ⟨d, known⟩ := Option.isSome_iff_exists.mp h
  obtain ⟨first, found, -⟩ := Option.map_eq_some_iff.mp known
  have member := List.mem_of_find?_eq_some found
  have range := List.find?_some found
  simp only [Bool.and_eq_true, decide_eq_true_eq] at range
  have code : first + (c.toNat - first) = c.toNat := by omega
  have same := apart first member (c.toNat - first) (by omega)
  rwa [code, Char.ofNat_toNat] at same

theorem Grouped.mem {cs : List Char} {ds : List Nat} {c : Char} (h : Grouped cs ds) (member : c ∈ cs) :
    c = '_' ∨ (digit? c).isSome = true := by
  induction h with
  | last known =>
      rw [List.mem_singleton.mp member, known]
      exact .inr rfl
  | next known more ih =>
      rcases List.mem_cons.mp member with rfl | later
      · rw [known]
        exact .inr rfl
      · exact ih later
  | apart known more ih =>
      rcases List.mem_cons.mp member with rfl | later
      · rw [known]
        exact .inr rfl
      · rcases List.mem_cons.mp later with mark | later
        · exact .inl mark
        · exact ih later

theorem Whole.mem {cs : List Char} {ds : List Nat} {c : Char} (h : Whole cs ds) (member : c ∈ cs) :
    c = '+' ∨ c = '_' ∨ (digit? c).isSome = true := by
  cases h with
  | bare grouped => exact .inr (grouped.mem member)
  | signed grouped =>
      rcases List.mem_cons.mp member with sign | later
      · exact .inl sign
      · exact .inr (grouped.mem later)

theorem Whole.isBlank {cs : List Char} {ds : List Nat} {c : Char} (h : Whole cs ds) (member : c ∈ cs) :
    Text.isBlank c = false := by
  rcases h.mem member with rfl | rfl | known
  · decide
  · decide
  · exact isBlank_of_digit? known

theorem Whole.point_not_mem {cs : List Char} {ds : List Nat} (h : Whole cs ds) : '.' ∉ cs := by
  intro member
  rcases h.mem member with sign | mark | known
  · cases sign
  · cases mark
  · exact absurd known (by decide)

/-- Without a minus in front, what is left after the sign is a row of digits exactly if the whole is a
numeral. -/
theorem splitSign_whole {cs : List Char} (unsigned : cs.head? ≠ some '-') :
    (splitSign cs).1 = false ∧ ∀ ds, Grouped (splitSign cs).2 ds ↔ Whole cs ds := by
  unfold splitSign
  split
  · exact absurd rfl unsigned
  · refine ⟨rfl, fun ds => ⟨.signed, fun whole => ?_⟩⟩
    cases whole with
    | signed grouped => exact grouped
    | bare grouped =>
        rcases grouped.mem List.mem_cons_self with mark | known
        · cases mark
        · exact absurd known (by decide)
  · rename_i other
    refine ⟨rfl, fun ds => ⟨.bare, fun whole => ?_⟩⟩
    cases whole with
    | bare grouped => exact grouped
    | signed grouped => exact absurd rfl (other _)

/-- What is read as an integer from a text without blanks and without a minus. -/
theorem readInt?_eq_some {s : String} (solid : ∀ c ∈ s.toList, Text.isBlank c = false)
    (unsigned : s.toList.head? ≠ some '-') {n : Int} :
    readInt? s = some n ↔ ∃ ds, Whole s.toList ds ∧ ds.length ≤ maxDigits ∧ n = ofDigits ds := by
  have dark : ∀ c ∈ s.toList, Text.isWhiteSpace c = false :=
    fun c member => (Bool.or_eq_false_iff.mp (solid c member)).1
  obtain ⟨positive, whole⟩ := splitSign_whole unsigned
  have row : readInt? s = ((groupedDigits? (splitSign s.toList).2).bind ofRow?).map Int.ofNat := by
    have split : splitSign s.toList = (false, (splitSign s.toList).2) := Prod.ext positive rfl
    rw [readInt?, trimmedChars_of_solid dark, split]
    dsimp only
    cases (groupedDigits? (splitSign s.toList).2).bind ofRow? <;> rfl
  rw [row, Option.map_eq_some_iff]
  constructor
  · rintro ⟨m, read, rfl⟩
    obtain ⟨ds, grouped, short⟩ := Option.bind_eq_some_iff.mp read
    unfold ofRow? at short
    split at short
    · rename_i few
      cases short
      exact ⟨ds, (whole ds).mp (groupedDigits?_eq_some.mp grouped), few, rfl⟩
    · cases short
  · rintro ⟨ds, numeral, few, rfl⟩
    refine ⟨ofDigits ds, ?_, rfl⟩
    rw [groupedDigits?_eq_some.mpr ((whole ds).mpr numeral), Option.bind_some, ofRow?, if_pos few]

/-- Without marks a numeral is one digit after the other. -/
theorem whole_iff_mapM {cs : List Char} {ds : List Nat} (filled : cs ≠ []) (unsigned : '+' ∉ cs)
    (plain : '_' ∉ cs) : Whole cs ds ↔ cs.mapM digit? = some ds := by
  rw [← groupedDigits?_eq_mapM filled plain, groupedDigits?_eq_some]
  constructor
  · intro whole
    cases whole with
    | bare grouped => exact grouped
    | signed grouped => exact absurd List.mem_cons_self unsigned
  · exact .bare

theorem ofDigits_append (ds es : List Nat) :
    ofDigits (ds ++ es) = ofDigits ds * Nat.pow 10 es.length + ofDigits es := by
  have shifted : ∀ n : Nat,
      es.foldl (fun n d => 10 * n + d) n = n * Nat.pow 10 es.length + ofDigits es := by
    induction es with
    | nil =>
        intro n
        simp [ofDigits]
    | cons d rest ih =>
        intro n
        have power : Nat.pow 10 (d :: rest).length = Nat.pow 10 rest.length * 10 := rfl
        rw [ofDigits, List.foldl_cons, List.foldl_cons, ih, ih (10 * 0 + d), power]
        grind
  rw [ofDigits, List.foldl_append, shifted]
  rfl

theorem ofDigits_zeros (count : Nat) : ofDigits (List.replicate count 0) = 0 := by
  induction count with
  | zero => rfl
  | succ count ih =>
      rw [List.replicate_succ, ofDigits, List.foldl_cons]
      exact ih

/-- Digits with zeros behind them. -/
theorem mapM_zeros {cs : List Char} {ds : List Nat} {count : Nat} :
    (cs ++ List.replicate count '0').mapM digit? = some ds ↔
      ∃ es, cs.mapM digit? = some es ∧ ds = es ++ List.replicate count 0 := by
  have zeros : (List.replicate count '0').mapM digit? = some (List.replicate count 0) := by
    have each := mapM_digits fun c (member : c ∈ List.replicate count '0') =>
      digit?_of_isDigit (List.eq_of_mem_replicate member ▸ rfl)
    rwa [List.map_replicate] at each
  rw [List.mapM_append, zeros]
  cases cs.mapM digit? with
  | none => simp
  | some es =>
      constructor
      · rintro ⟨⟩
        exact ⟨es, rfl, rfl⟩
      · rintro ⟨_, ⟨⟩, rfl⟩
        rfl

end Number

namespace Frequency

/-- What a frequency is told in: megahertz without or with the unit, or kilohertz. -/
inductive Measure where
  | bare
  | megahertz
  | kilohertz
  deriving DecidableEq

def Measure.suffix : Measure → String
  | .bare => ""
  | .megahertz => " MHz"
  | .kilohertz => " kHz"

def Measure.hertz : Measure → Nat
  | .bare => 1000000
  | .megahertz => 1000000
  | .kilohertz => 1000

/-- A numeral for so many of a unit: the digits of its whole part and of its places. Kilohertz are whole;
a point may be the first character. -/
inductive Numeral (unit : Measure) : List Char → List Nat → List Nat → Prop
  | whole {cs ds} : Number.Whole cs ds → Numeral unit cs ds []
  | pointed {cs fs ds es} : unit ≠ .kilohertz → (cs = [] ∧ ds = [] ∨ Number.Whole cs ds) →
      fs.mapM Number.digit? = some es → es.length ≤ 6 → Numeral unit (cs ++ '.' :: fs) ds es

/-- The digits stand for that many hertz. -/
def Measure.IsValue (unit : Measure) (whole places : List Nat) (hertz : Int) : Prop :=
  hertz * Nat.pow 10 places.length = Number.ofDigits (whole ++ places) * unit.hertz

/-- There is no blank in the text, and no sign or underscore after a point. -/
structure Plain (body : String) : Prop where
  unbroken : ∀ c ∈ body.toList, Text.isBlank c = false
  unmarked : ∀ whole places, body.toList = whole ++ '.' :: places →
    ∀ c ∈ places, c ≠ '+' ∧ c ≠ '-' ∧ c ≠ '_'

theorem digit_of_mem {fs : List Char} {es : List Nat} {c : Char} (h : fs.mapM Number.digit? = some es)
    (member : c ∈ fs) : (Number.digit? c).isSome = true := by
  obtain ⟨d, -, known⟩ := Text.CodePage.mem_of_mapM h member
  rw [known]
  rfl

section

variable {unit : Measure} {cs fs : List Char} {whole places : List Nat}

theorem point_not_mem_front (h : cs = [] ∧ whole = [] ∨ Number.Whole cs whole) : '.' ∉ cs := by
  rcases h with ⟨rfl, -⟩ | whole
  · exact List.not_mem_nil
  · exact whole.point_not_mem

theorem point_not_mem_places (h : fs.mapM Number.digit? = some places) : '.' ∉ fs := by
  intro member
  exact absurd (digit_of_mem h member) (by decide)

/-- Numerals are plain texts. -/
theorem Numeral.plain {body : String} (h : Numeral unit body.toList whole places) : Plain body := by
  generalize spelled : body.toList = text at h
  cases h with
  | whole numeral =>
      refine ⟨fun c member => numeral.isBlank (spelled ▸ member), ?_⟩
      intro front rest same
      rw [spelled] at same
      exact absurd (same ▸ by simp) numeral.point_not_mem
  | @pointed cs fs _ _ _ front digits few =>
      constructor
      · intro c member
        rw [spelled] at member
        rcases List.mem_append.mp member with first | later
        · rcases front with ⟨rfl, -⟩ | numeral
          · cases first
          · exact numeral.isBlank first
        · rcases List.mem_cons.mp later with rfl | last
          · decide
          · exact Number.isBlank_of_digit? (digit_of_mem digits last)
      · intro other rest same c member
        rw [spelled] at same
        obtain ⟨-, -, rfl⟩ := (List.append_cons_inj_of_notMem (point_not_mem_front front)
          (point_not_mem_places digits)).mp same
        have known := digit_of_mem digits member
        refine ⟨?_, ?_, ?_⟩ <;> rintro rfl <;> exact absurd known (by decide)

end

theorem Measure.hertz_of_ne_kilohertz (unit : Measure) (measured : unit ≠ .kilohertz) :
    unit.hertz = 1000000 := by
  cases unit with
  | kilohertz => exact absurd rfl measured
  | bare => rfl
  | megahertz => rfl

/-- The value of a numeral without places. -/
theorem Measure.isValue_whole {unit : Measure} {whole : List Nat} {hertz : Int} :
    unit.IsValue whole [] hertz ↔ hertz = (Number.ofDigits whole : Int) * unit.hertz := by
  have once : hertz * Nat.pow 10 ([] : List Nat).length = hertz := Int.mul_one hertz
  rw [Measure.IsValue, once, List.append_nil]

/-- The value of a numeral with at most six places, by its parts. -/
theorem Measure.isValue_iff {unit : Measure} (measured : unit ≠ .kilohertz) {whole places : List Nat}
    (few : places.length ≤ 6) {hertz : Int} :
    unit.IsValue whole places hertz ↔
      hertz = (Number.ofDigits whole * 1000000 +
        Number.ofDigits places * Nat.pow 10 (6 - places.length) : Nat) := by
  have million : Nat.pow 10 (6 - places.length) * Nat.pow 10 places.length = 1000000 := by
    have sum : Nat.pow 10 (6 - places.length + places.length) = _ := Nat.pow_add 10 _ _
    rw [Nat.sub_add_cancel few] at sum
    exact sum.symm
  have product : (Number.ofDigits whole * 1000000 +
      Number.ofDigits places * Nat.pow 10 (6 - places.length)) * Nat.pow 10 places.length =
        Number.ofDigits (whole ++ places) * unit.hertz := by
    rw [Number.ofDigits_append, unit.hertz_of_ne_kilohertz measured, Nat.add_mul, Nat.add_mul, Nat.mul_assoc,
      Nat.mul_assoc _ (Nat.pow 10 (6 - places.length)), million, Nat.mul_assoc, Nat.mul_comm 1000000]
  have positive : (Nat.pow 10 places.length : Int) ≠ 0 := by
    have some : 0 < Nat.pow 10 places.length := Nat.pow_pos (by decide)
    omega
  have value := congrArg (Nat.cast : Nat → Int) product
  rw [Int.natCast_mul, Int.natCast_mul (Number.ofDigits _)] at value
  rw [Measure.IsValue, ← value]
  exact ⟨Int.eq_of_mul_eq_mul_right positive, fun same => by rw [same]⟩

theorem readWhole_eq_ok {s : String} (solid : ∀ c ∈ s.toList, Text.isBlank c = false)
    (unsigned : s.toList.head? ≠ some '-') {n : Int} :
    readWhole s = .ok n ↔ ∃ ds, Number.Whole s.toList ds ∧ ds.length ≤ Number.maxDigits ∧
      n = Number.ofDigits ds := by
  rw [← Number.readInt?_eq_some solid unsigned, readWhole]
  cases Number.readInt? s with
  | none => simp
  | some m => simp

/-- Places without marks are read as a row of digits, filled up with zeros. -/
theorem readWhole_places {places : String} (solid : ∀ c ∈ places.toList, Text.isBlank c = false)
    (unmarked : ∀ c ∈ places.toList, c ≠ '+' ∧ c ≠ '-' ∧ c ≠ '_') (few : places.toList.length ≤ 6)
    {n : Int} :
    readWhole (Text.padEnd 6 '0' places) = .ok n ↔
      ∃ es, places.toList.mapM Number.digit? = some es ∧
        n = (Number.ofDigits es * Nat.pow 10 (6 - es.length) : Nat) := by
  have spelled : (Text.padEnd 6 '0' places).toList =
      places.toList ++ List.replicate (6 - places.toList.length) '0' := by
    rw [Text.padEnd, String.toList_ofList, String.length_toList]
  have each : ∀ c ∈ (Text.padEnd 6 '0' places).toList,
      Text.isBlank c = false ∧ c ≠ '+' ∧ c ≠ '-' ∧ c ≠ '_' := by
    intro c member
    rw [spelled] at member
    rcases List.mem_append.mp member with given | filler
    · exact ⟨solid c given, unmarked c given⟩
    · rw [List.eq_of_mem_replicate filler]
      decide
  have wide : (Text.padEnd 6 '0' places).toList.length = 6 := by
    rw [spelled, List.length_append, List.length_replicate]
    omega
  have filled : (Text.padEnd 6 '0' places).toList ≠ [] := by
    intro empty
    rw [empty] at wide
    cases wide
  have unsigned : (Text.padEnd 6 '0' places).toList.head? ≠ some '-' :=
    fun first => (each '-' (List.mem_of_head? first)).2.2.1 rfl
  have unplussed : '+' ∉ (Text.padEnd 6 '0' places).toList := fun member => (each '+' member).2.1 rfl
  have ungrouped : '_' ∉ (Text.padEnd 6 '0' places).toList := fun member => (each '_' member).2.2.2 rfl
  have value : ∀ es : List Nat, places.toList.mapM Number.digit? = some es →
      Number.ofDigits (es ++ List.replicate (6 - places.toList.length) 0) =
        Number.ofDigits es * Nat.pow 10 (6 - es.length) := by
    intro es digits
    rw [Number.ofDigits_append, Number.ofDigits_zeros, List.length_replicate,
      Text.CodePage.length_mapM digits, Nat.add_zero]
  rw [readWhole_eq_ok (fun c member => (each c member).1) unsigned]
  constructor
  · rintro ⟨ds, numeral, -, rfl⟩
    have row := (Number.whole_iff_mapM filled unplussed ungrouped).mp numeral
    rw [spelled] at row
    obtain ⟨es, digits, rfl⟩ := Number.mapM_zeros.mp row
    exact ⟨es, digits, congrArg Nat.cast (value es digits)⟩
  · rintro ⟨es, digits, rfl⟩
    have row : (Text.padEnd 6 '0' places).toList.mapM Number.digit? =
        some (es ++ List.replicate (6 - places.toList.length) 0) := by
      rw [spelled]
      exact Number.mapM_zeros.mpr ⟨es, digits, rfl⟩
    refine ⟨_, (Number.whole_iff_mapM filled unplussed ungrouped).mpr row, ?_, ?_⟩
    · rw [← Text.CodePage.length_mapM row, wide]
      decide
    · rw [value es digits]

theorem numeral_of_undotted {unit : Measure} {cs : List Char} {whole places : List Nat}
    (undotted : '.' ∉ cs) :
    Numeral unit cs whole places ↔ Number.Whole cs whole ∧ places = [] := by
  constructor
  · intro h
    cases h with
    | whole numeral => exact ⟨numeral, rfl⟩
    | pointed => exact absurd (by simp) undotted
  · rintro ⟨numeral, rfl⟩
    exact .whole numeral

theorem numeral_of_dotted {unit : Measure} {front rest : List Char} {whole places : List Nat} :
    Numeral unit (front ++ '.' :: rest) whole places ↔
      unit ≠ .kilohertz ∧ (front = [] ∧ whole = [] ∨ Number.Whole front whole) ∧
        rest.mapM Number.digit? = some places ∧ places.length ≤ 6 := by
  constructor
  · intro h
    generalize spelled : front ++ '.' :: rest = cs at h
    cases h with
    | whole numeral => exact absurd (spelled ▸ by simp) numeral.point_not_mem
    | pointed measured numeral digits few =>
        obtain ⟨rfl, -, rfl⟩ := (List.append_cons_inj_of_notMem (point_not_mem_front numeral)
          (point_not_mem_places digits)).mp spelled.symm
        exact ⟨measured, numeral, digits, few⟩
  · rintro ⟨measured, numeral, digits, few⟩
    exact .pointed measured numeral digits few

/-- In front of a point a whole part is read, or none is there. -/
theorem readFront_eq_ok {front : String} (solid : ∀ c ∈ front.toList, Text.isBlank c = false)
    (unsigned : front.toList.head? ≠ some '-') {n : Int} :
    (if front = "" then .ok 0 else readWhole front) = .ok n ↔
      ∃ ds, (front.toList = [] ∧ ds = [] ∨ Number.Whole front.toList ds) ∧
        ds.length ≤ Number.maxDigits ∧ n = Number.ofDigits ds := by
  by_cases missing : front = ""
  · rw [if_pos missing]
    constructor
    · rintro ⟨⟩
      exact ⟨[], .inl ⟨missing ▸ rfl, rfl⟩, Nat.zero_le _, rfl⟩
    · rintro ⟨ds, ⟨-, rfl⟩ | numeral, -, rfl⟩
      · rfl
      · rw [missing] at numeral
        cases numeral with
        | bare grouped => cases grouped
  · rw [if_neg missing, readWhole_eq_ok solid unsigned]
    constructor
    · rintro ⟨ds, numeral, few, rfl⟩
      exact ⟨ds, .inr numeral, few, rfl⟩
    · rintro ⟨ds, ⟨empty, -⟩ | numeral, few, rfl⟩
      · exact absurd (String.toList_eq_nil_iff.mp empty) missing
      · exact ⟨ds, numeral, few, rfl⟩

theorem readPointed_eq_ok {unit : Measure} {front rest : String} (measured : unit ≠ .kilohertz)
    (first : '.' ∉ front.toList) (plain : Plain (front ++ "." ++ rest))
    (unsigned : (front ++ "." ++ rest).toList.head? ≠ some '-') {hertz : Int} :
    readMegahertz (front ++ "." ++ rest) = .ok hertz ↔
      ∃ whole places, Numeral unit (front ++ "." ++ rest).toList whole places ∧
        whole.length ≤ Number.maxDigits ∧ unit.IsValue whole places hertz := by
  have spelled : (front ++ "." ++ rest).toList = front.toList ++ '.' :: rest.toList := by simp
  have solid : ∀ c ∈ front.toList, Text.isBlank c = false :=
    fun c member => plain.unbroken c (by simp [member])
  have solid' : ∀ c ∈ rest.toList, Text.isBlank c = false :=
    fun c member => plain.unbroken c (by simp [member])
  have unmarked := plain.unmarked front.toList rest.toList spelled
  have unsigned' : front.toList.head? ≠ some '-' := by
    intro sign
    rw [spelled, List.head?_append, sign] at unsigned
    exact unsigned rfl
  rw [spelled]
  by_cases second : '.' ∈ rest.toList
  · rw [readMegahertz_points first second]
    refine ⟨fun read => absurd read (by simp), ?_⟩
    rintro ⟨whole, places, numeral, -⟩
    exact absurd second (point_not_mem_places (numeral_of_dotted.mp numeral).2.2.1)
  have wide : (Text.padEnd 6 '0' rest).length = max rest.toList.length 6 := by
    rw [Text.padEnd, String.length_ofList, List.length_append, List.length_replicate,
      ← String.length_toList]
    omega
  rw [readMegahertz_point first second, wide]
  by_cases few : rest.toList.length ≤ 6
  · rw [if_neg (by omega), bind_eq_ok]
    constructor
    · rintro ⟨mega, read, tail⟩
      obtain ⟨n, later, value⟩ := bind_eq_ok.mp tail
      obtain ⟨ds, numeral, short, rfl⟩ := (readFront_eq_ok solid unsigned').mp read
      obtain ⟨es, digits, rfl⟩ := (readWhole_places solid' unmarked few).mp later
      cases value
      have count : es.length ≤ 6 := Text.CodePage.length_mapM digits ▸ few
      exact ⟨ds, es, numeral_of_dotted.mpr ⟨measured, numeral, digits, count⟩, short,
        (Measure.isValue_iff measured count).mpr rfl⟩
    · rintro ⟨whole, places, numeral, short, value⟩
      obtain ⟨-, known, digits, count⟩ := numeral_of_dotted.mp numeral
      refine ⟨_, (readFront_eq_ok solid unsigned').mpr ⟨whole, known, short, rfl⟩, ?_⟩
      refine bind_eq_ok.mpr ⟨_, (readWhole_places solid' unmarked few).mpr ⟨places, digits, rfl⟩, ?_⟩
      rw [(Measure.isValue_iff measured count).mp value]
      rfl
  · rw [if_pos (by omega)]
    refine ⟨fun read => absurd read (by simp), ?_⟩
    rintro ⟨whole, places, numeral, -⟩
    obtain ⟨-, -, digits, short⟩ := numeral_of_dotted.mp numeral
    rw [← Text.CodePage.length_mapM digits] at short
    exact absurd short few

/-- A plain text is read as so many of something exactly if it is a whole numeral. -/
theorem Plain.readWhole_times {body : String} (plain : Plain body)
    (unsigned : body.toList.head? ≠ some '-') {factor hertz : Int} :
    (do return (← readWhole body) * factor : Except Unreadable Int) = .ok hertz ↔
      ∃ whole, Number.Whole body.toList whole ∧ whole.length ≤ Number.maxDigits ∧
        hertz = Number.ofDigits whole * factor := by
  rw [bind_eq_ok]
  constructor
  · rintro ⟨n, read, value⟩
    obtain ⟨whole, numeral, few, rfl⟩ := (readWhole_eq_ok plain.unbroken unsigned).mp read
    cases value
    exact ⟨whole, numeral, few, rfl⟩
  · rintro ⟨whole, numeral, few, rfl⟩
    exact ⟨_, (readWhole_eq_ok plain.unbroken unsigned).mpr ⟨whole, numeral, few, rfl⟩, rfl⟩

/-- Megahertz are read from a plain text exactly if it is a numeral, and for its value. -/
theorem Plain.readMegahertz {unit : Measure} {body : String} (measured : unit ≠ .kilohertz)
    (plain : Plain body) (unsigned : body.toList.head? ≠ some '-') {hertz : Int} :
    readMegahertz body = .ok hertz ↔
      ∃ whole places, Numeral unit body.toList whole places ∧ whole.length ≤ Number.maxDigits ∧
        unit.IsValue whole places hertz := by
  by_cases pointed : '.' ∈ body.toList
  · obtain ⟨front, rest, spelled, first⟩ := List.eq_append_cons_of_mem pointed
    have same : body = .ofList front ++ "." ++ .ofList rest := by
      rw [← String.toList_inj, spelled]
      simp
    rw [← String.toList_ofList (l := front)] at first
    rw [same]
    exact readPointed_eq_ok measured first (same ▸ plain) (same ▸ unsigned)
  · rw [readMegahertz_whole pointed, plain.readWhole_times unsigned]
    constructor
    · rintro ⟨whole, numeral, few, rfl⟩
      refine ⟨whole, [], .whole numeral, few, Measure.isValue_whole.mpr ?_⟩
      rw [unit.hertz_of_ne_kilohertz measured]
      rfl
    · rintro ⟨whole, places, numeral, few, value⟩
      obtain ⟨known, rfl⟩ := (numeral_of_undotted pointed).mp numeral
      have product := Measure.isValue_whole.mp value
      rw [unit.hertz_of_ne_kilohertz measured] at product
      exact ⟨whole, known, few, product⟩

theorem Plain.readKilohertz {body : String} (plain : Plain body)
    (unsigned : body.toList.head? ≠ some '-') {hertz : Int} :
    (do return (← readWhole body) * 1000 : Except Unreadable Int) = .ok hertz ↔
      ∃ whole places, Numeral .kilohertz body.toList whole places ∧ whole.length ≤ Number.maxDigits ∧
        Measure.kilohertz.IsValue whole places hertz := by
  rw [plain.readWhole_times unsigned]
  constructor
  · rintro ⟨whole, numeral, few, rfl⟩
    exact ⟨whole, [], .whole numeral, few, Measure.isValue_whole.mpr rfl⟩
  · rintro ⟨whole, places, numeral, few, value⟩
    generalize spelled : body.toList = text at numeral
    cases numeral with
    | pointed measured => exact absurd rfl measured
    | whole numeral => exact ⟨whole, spelled ▸ numeral, few, Measure.isValue_whole.mp value⟩

/-- A text with blanks around it is taken apart into what is left of its unit and the unit. If what is
left is plain, it is read exactly if it is a numeral that is not too long, and then for the number of
hertz that it stands for; if it is not plain, it is no numeral. -/
theorem plain_numerals_are_read_exactly {s body : String} {unit : Measure}
    (trimmed : Text.trim s = body ++ unit.suffix) (filled : Text.trim s ≠ "")
    (unsigned : body.toList.head? ≠ some '-') :
    (Plain body → ∀ hertz : Int, Frequency.read s = .ok hertz ↔
      ∃ whole places, Numeral unit body.toList whole places ∧ whole.length ≤ Number.maxDigits ∧
        unit.IsValue whole places hertz) ∧
    (¬Plain body → ∀ whole places, ¬Numeral unit body.toList whole places) := by
  refine ⟨fun plain hertz => ?_, fun marked whole places numeral => marked numeral.plain⟩
  have unbroken : ' ' ∉ body.toList := fun member => absurd (plain.unbroken ' ' member) (by decide)
  have uncut : (Text.cut ' ' body).1 = body := by
    rw [Text.cut_of_not_mem unbroken]
  cases unit with
  | bare =>
      have whole : body ++ Measure.bare.suffix = body := String.append_empty
      rw [whole] at trimmed
      have measured : Measure.bare ≠ .kilohertz := by decide
      rw [read_bare trimmed (trimmed ▸ filled) unbroken]
      exact plain.readMegahertz measured unsigned
  | megahertz =>
      have kept : Text.trim body = body :=
        Text.trim_eq_self (Text.solid_ends plain.unbroken).1 (Text.solid_ends plain.unbroken).2
      have measured : Measure.megahertz ≠ .kilohertz := by decide
      rw [read_megahertz trimmed, uncut, kept]
      exact plain.readMegahertz measured unsigned
  | kilohertz =>
      rw [read_kilohertz trimmed, uncut]
      exact plain.readKilohertz unsigned

theorem plain_numerals_are_read_exactly_grouped :
    Text.trim "\t+14_6.52 MHz " = "+14_6.52" ++ Measure.megahertz.suffix ∧
      Text.trim "\t+14_6.52 MHz " ≠ "" ∧ "+14_6.52".toList.head? ≠ some '-' ∧ Plain "+14_6.52" ∧
      Frequency.read "\t+14_6.52 MHz " = .ok 146520000 := by
  have trimmed : Text.trim "\t+14_6.52 MHz " = "+14_6.52" ++ Measure.megahertz.suffix := by decide
  have filled : Text.trim "\t+14_6.52 MHz " ≠ "" := by decide
  have unsigned : "+14_6.52".toList.head? ≠ some '-' := by decide
  have whole : Number.Whole "+14_6".toList [1, 4, 6] := .signed (.next rfl (.apart rfl (.last rfl)))
  have numeral : Numeral .megahertz "+14_6.52".toList [1, 4, 6] [5, 2] := by
    have measured : Measure.megahertz ≠ .kilohertz := by decide
    have spelled : "+14_6.52".toList = "+14_6".toList ++ '.' :: ['5', '2'] := by decide
    have digits : ['5', '2'].mapM Number.digit? = some [5, 2] := by decide
    rw [spelled]
    exact .pointed measured (.inr whole) digits (by decide)
  refine ⟨trimmed, filled, unsigned, numeral.plain, ?_⟩
  exact ((plain_numerals_are_read_exactly trimmed filled unsigned).1 numeral.plain 146520000).mpr
    ⟨[1, 4, 6], [5, 2], numeral, by decide, rfl⟩

theorem endsWith_suffix {s body : String} {unit : Measure} (trimmed : Text.trim s = body ++ unit.suffix) :
    Text.endsWith unit.suffix (Text.trim s) = true := by
  rw [trimmed]
  exact Text.endsWith_append body unit.suffix

/-- A minus among the places is taken for the sign of all six, and what stands between a blank and the
unit is left out: texts that are no numerals, by any unit, are read as frequencies. -/
theorem no_numerals_misread :
    (Frequency.read "1.-5" = .ok 950000 ∧
      ∀ (unit : Measure) (body : String), Text.trim "1.-5" = body ++ unit.suffix →
        ∀ whole places, ¬Numeral unit body.toList whole places) ∧
    (Frequency.read "1 2 MHz" = .ok 1000000 ∧
      ∀ (unit : Measure) (body : String), Text.trim "1 2 MHz" = body ++ unit.suffix →
        ∀ whole places, ¬Numeral unit body.toList whole places) := by
  refine ⟨⟨by decide +kernel, ?_⟩, ⟨by decide +kernel, ?_⟩⟩
  · intro unit body trimmed whole places numeral
    cases unit with
    | bare =>
        have same : "1.-5" = body := trimmed.trans String.append_empty
        subst same
        exact (numeral.plain.unmarked ['1'] ['-', '5'] rfl '-' List.mem_cons_self).2.1 rfl
    | megahertz => exact absurd (endsWith_suffix trimmed) (by decide)
    | kilohertz => exact absurd (endsWith_suffix trimmed) (by decide)
  · intro unit body trimmed whole places numeral
    have broken : ∀ text : String, ' ' ∈ text.toList → ¬Plain text :=
      fun text member plain => absurd (plain.unbroken ' ' member) (by decide)
    cases unit with
    | bare =>
        have same : "1 2 MHz" = body := trimmed.trans String.append_empty
        subst same
        exact broken _ (by decide) numeral.plain
    | megahertz =>
        have spelled : Text.trim "1 2 MHz" = "1 2" ++ Measure.megahertz.suffix := by decide
        have same : "1 2" = body := by
          have joined := congrArg String.toList (spelled.symm.trans trimmed)
          rw [String.toList_append, String.toList_append] at joined
          exact String.toList_inj.mp (List.append_cancel_right joined)
        subst same
        exact broken _ (by decide) numeral.plain
    | kilohertz => exact absurd (endsWith_suffix trimmed) (by decide)

end Frequency

end Transceiver
