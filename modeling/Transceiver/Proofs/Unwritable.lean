import Transceiver.Proofs.FrequencyText

/-! Frequencies that are too long to be written. No text has a numeral with that many digits, but a
whole part and a fraction that are both negative come to one. -/
namespace Transceiver

namespace Number

/-- A minus and ASCII digits are read as the negative number. -/
theorem readInt?_minus {cs : List Char} (some : cs ≠ []) (digits : ∀ c ∈ cs, c.isDigit = true)
    (short : cs.length ≤ maxDigits) :
    readInt? (.ofList ('-' :: cs)) = Option.some (-(Nat.ofDigitChars 10 cs 0 : Int)) := by
  have came := readInt?_of_isDigit (.inl ⟨rfl, rfl⟩) some digits
  rw [ofRow?, List.length_map, if_pos short, ofDigits_eq_ofDigitChars] at came
  exact came

end Number

namespace Frequency

theorem readMegahertz_minus {cs : List Char} (some : cs ≠ []) (digits : ∀ c ∈ cs, c.isDigit = true)
    (short : cs.length ≤ Number.maxDigits) :
    readMegahertz (.ofList ('-' :: cs) ++ "." ++ "-1") =
      .ok (-(Nat.ofDigitChars 10 cs 0 : Int) * 1000000 + -10000) := by
  have undotted : '.' ∉ (String.ofList ('-' :: cs)).toList := by
    intro dotted
    rw [String.toList_ofList] at dotted
    rcases List.mem_cons.mp dotted with sign | digit
    · cases sign
    · cases digits '.' digit
  have more : String.ofList ('-' :: cs) ≠ "" := by
    intro empty
    have none := congrArg String.toList empty
    rw [String.toList_ofList] at none
    exact List.cons_ne_nil _ _ none
  have whole : readWhole (.ofList ('-' :: cs)) = .ok (-(Nat.ofDigitChars 10 cs 0 : Int)) := by
    rw [readWhole, Number.readInt?_minus some digits short]
  have places : Text.padEnd 6 '0' "-1" = "-10000" := by decide
  have fraction : readWhole "-10000" = .ok (-10000) := by rfl
  rw [readMegahertz_point undotted (by decide), places, if_neg (by decide), if_neg more, whole,
    fraction]
  rfl

/-- The fraction of a frequency may have a minus of its own, so a negative whole part with as many
digits as there may be can come out with one more. -/
theorem read_minus {cs : List Char} (some : cs ≠ []) (digits : ∀ c ∈ cs, c.isDigit = true)
    (short : cs.length ≤ Number.maxDigits) :
    Frequency.read (" -" ++ String.ofList cs ++ ".-1") =
      .ok (-(Nat.ofDigitChars 10 cs 0 : Int) * 1000000 + -10000) := by
  have spelled : (String.ofList ('-' :: cs) ++ "." ++ "-1").toList = '-' :: cs ++ ['.', '-', '1'] := by
    simp
  have ending : ∀ c ∈ ['.', '-', '1'], Text.isBlank c = false := by
    intro c member
    simp only [List.mem_cons, List.not_mem_nil, or_false] at member
    rcases member with rfl | rfl | rfl <;> decide
  have solid : ∀ c ∈ (String.ofList ('-' :: cs) ++ "." ++ "-1").toList, Text.isBlank c = false := by
    intro c member
    rw [spelled] at member
    rcases List.mem_append.mp member with front | back
    · rcases List.mem_cons.mp front with rfl | digit
      · decide
      · exact isBlank_of_solid (Number.solid_of_isDigit (digits c digit))
    · exact ending c back
  have trimmed : Text.trim (" -" ++ String.ofList cs ++ ".-1") =
      String.ofList ('-' :: cs) ++ "." ++ "-1" := by
    have grouped : " -" ++ String.ofList cs ++ ".-1" =
        " " ++ (String.ofList ('-' :: cs) ++ "." ++ "-1") ++ "" := by
      rw [← String.toList_inj]
      simp
    rw [grouped]
    have blank : ∀ c ∈ " ".toList, Text.isBlank c = true := List.all_eq_true.mp (by decide)
    exact Text.trim_blanks blank nofun (Text.solid_ends solid).1 (Text.solid_ends solid).2
  have some' : String.ofList ('-' :: cs) ++ "." ++ "-1" ≠ "" := by
    intro empty
    rw [empty] at spelled
    cases spelled
  have unbroken : ' ' ∉ (String.ofList ('-' :: cs) ++ "." ++ "-1").toList :=
    fun member => absurd (solid ' ' member) (by decide)
  rw [read_bare trimmed some' unbroken]
  exact readMegahertz_minus some digits short

theorem isWritable_minus (n : Nat) :
    isWritable (-(n : Int) * 1000000 + -10000) =
      decide ((Number.digits (n + 1)).length ≤ Number.maxDigits) := by
  have whole : (-(n : Int) * 1000000 + -10000).fdiv 1000000 = -((n + 1 : Nat) : Int) := by
    rw [Int.fdiv_eq_ediv_of_nonneg _ (by decide)]
    omega
  rw [Bool.eq_iff_iff, isWritable_iff, whole, Int.natAbs_neg, Int.natAbs_natCast, decide_eq_true_iff]

end Frequency

theorem Number.ofDigitChars_nines (count : Nat) :
    Nat.ofDigitChars 10 (List.replicate count '9') 0 + 1 = Nat.pow 10 count := by
  induction count with
  | zero => rfl
  | succ count ih =>
      have nine : Nat.ofDigitChars 10 ['9'] (Nat.ofDigitChars 10 (List.replicate count '9') 0) =
          10 * Nat.ofDigitChars 10 (List.replicate count '9') 0 + 9 := rfl
      have power : Nat.pow 10 (count + 1) = Nat.pow 10 count * 10 := rfl
      rw [List.replicate_succ', Nat.ofDigitChars_append, nine, power, ← ih]
      omega

theorem Frequency.isWritable_nines {count : Nat} (some : 0 < count) (long : Number.maxDigits ≤ count) :
    isWritable (-(Nat.ofDigitChars 10 (List.replicate count '9') 0 : Int) * 1000000 + -10000) = false := by
  rw [isWritable_minus, Number.ofDigitChars_nines]
  refine decide_eq_false fun short => ?_
  have less := (Nat.length_toDigits_le_iff (by decide) some).mp (Nat.le_trans short long)
  exact Nat.lt_irrefl _ less

end Transceiver
