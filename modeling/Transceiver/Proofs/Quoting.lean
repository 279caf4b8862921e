import Transceiver.Proofs.SingleLines

/-! Quoted values. Quoting leaves no carriage return in a text, so whatever a host gives as a name, what
is sent for it is one line. -/
namespace Transceiver

namespace Text

theorem digitChar_ne (n : Nat) : Nat.digitChar n ≠ terminator := by
  have digit : ∀ i : Fin 16, Nat.digitChar i.val ≠ terminator := by decide
  by_cases small : n < 16
  · exact digit ⟨n, small⟩
  · have large : Nat.digitChar n = '*' := by
      unfold Nat.digitChar
      repeat rw [if_neg (by omega)]
    rw [large]
    decide

theorem not_mem_toDigits (base n : Nat) : terminator ∉ Nat.toDigits base n := by
  have core : ∀ fuel n (ds : List Char), terminator ∉ ds →
      terminator ∉ Nat.toDigitsCore base fuel n ds := by
    intro fuel
    induction fuel with
    | zero => exact fun n ds clear => clear
    | succ fuel ih =>
        intro n ds clear
        have more : terminator ∉ Nat.digitChar (n % base) :: ds := by
          rw [List.mem_cons, not_or]
          exact ⟨(digitChar_ne _).symm, clear⟩
        unfold Nat.toDigitsCore
        dsimp only
        split
        · exact more
        · exact ih _ _ more
  exact core _ _ _ List.not_mem_nil

theorem not_mem_hex (width n : Nat) : terminator ∉ hex width n := by
  unfold hex
  rw [List.mem_append, not_or]
  exact ⟨fun zero => absurd (List.eq_of_mem_replicate zero) (by decide), not_mem_toDigits 16 n⟩

theorem not_mem_escapeCode (c : Char) : terminator ∉ escapeCode c := by
  unfold escapeCode
  repeat' split
  all_goals
    rw [List.mem_cons, List.mem_cons, not_or, not_or]
    exact ⟨by decide, by decide, not_mem_hex _ _⟩

theorem not_mem_quotedChar {quote : Char} (visible : quote ≠ terminator) (c : Char) :
    terminator ∉ quotedChar quote c := by
  unfold quotedChar
  by_cases special : c = quote ∨ c = '\\'
  · rw [if_pos special]
    have own : c ≠ terminator := by
      rcases special with rfl | rfl
      · exact visible
      · decide
    simpa [terminator, eq_comm] using own
  · rw [if_neg special]
    repeat' split
    · decide
    · decide
    · decide
    · rename_i other _ _
      simpa [terminator, eq_comm] using other
    · exact not_mem_escapeCode c

theorem unended_quoted (s : String) : Unended (quoted s) := by
  have visible : quoteFor s.toList ≠ terminator := by
    unfold quoteFor
    split <;> decide
  unfold Unended quoted
  simp only [String.toList_ofList, List.mem_cons, List.mem_append, List.mem_flatMap, not_or,
    List.not_mem_nil, not_false_eq_true, and_true, not_exists, not_and]
  exact ⟨⟨visible.symm, fun c _ => not_mem_quotedChar visible c⟩, visible.symm⟩

theorem isPrintable_of_outside {c : Char} (foreign : 0x7F ≤ c.toNat)
    (outside : ∀ run ∈ unprintableRuns.toList, c.toNat < run.1 ∨ run.2 < c.toNat) :
    isPrintable c = true := by
  rw [isPrintable, if_neg (by omega), ← Array.any_toList, Bool.not_eq_true', List.any_eq_false]
  intro run member within
  have apart := outside run member
  simp only [Bool.and_eq_true, decide_eq_true_eq] at within
  omega

/-- A printable character is quoted as it is, or with a mark before it. -/
theorem mem_quoted {s : String} {c : Char} (printed : isPrintable c = true) (inside : c ∈ s.toList) :
    c ∈ (quoted s).toList := by
  have visible : ∀ d, isPrintable d = false → c ≠ d := by
    rintro d hidden rfl
    cases printed.symm.trans hidden
  have kept : ∀ quote, c ∈ quotedChar quote c := by
    intro quote
    unfold quotedChar
    rw [if_neg (visible '\n' (by decide)), if_neg (visible '\r' (by decide)),
      if_neg (visible '\t' (by decide)), if_pos printed]
    split
    · exact .tail _ (.head _)
    · exact .head _
  unfold quoted
  rw [String.toList_ofList]
  exact List.mem_append_left _ (.tail _ (List.mem_flatMap.mpr ⟨c, inside, kept _⟩))

end Text

theorem unended_ofList {cs : List Char} : Unended (.ofList cs) ↔ terminator ∉ cs := by
  rw [Unended, String.toList_ofList]

namespace Number

theorem not_mem_formText (form : DecimalForm) {ds : List Char} (clear : terminator ∉ ds)
    (exponent : Int) : terminator ∉ form.text ds exponent := by
  have taken : ∀ n, terminator ∉ ds.take n := fun n ending => clear (List.mem_of_mem_take ending)
  have left : ∀ n, terminator ∉ ds.drop n := fun n ending => clear (List.mem_of_mem_drop ending)
  have zeros : ∀ n, terminator ∉ List.replicate n '0' := fun n ending =>
    absurd (List.eq_of_mem_replicate ending) (by decide)
  have power : ∀ width n, terminator ∉ (padded width n).toList := fun width n =>
    unended_padded width n
  have marks : terminator ≠ '0' ∧ terminator ≠ '.' ∧ terminator ≠ 'e' ∧ terminator ≠ '-' ∧
      terminator ≠ '+' := by decide
  unfold DecimalForm.text
  dsimp only
  repeat' split
  all_goals
    simp only [List.mem_append, List.mem_cons, List.not_mem_nil, taken, left, zeros, power, clear,
      marks, or_self, not_false_eq_true]

theorem not_mem_positiveText (q : Rat) : terminator ∉ positiveText q := by
  refine not_mem_formText _ (fun ending => ?_) _
  have digit := Nat.isDigit_of_mem_toDigits (by decide) (by decide)
    (List.mem_reverse.mp ((List.dropWhile_sublist _).mem (List.mem_reverse.mp ending)))
  exact absurd digit (by decide)

theorem unended_text (x : Binary64) : Unended x.text := by
  unfold Binary64.text
  split
  · split
    · decide
    · split
      · rw [unended_ofList, List.mem_cons, not_or]
        exact ⟨by decide, not_mem_positiveText _⟩
      · exact unended_ofList.mpr (not_mem_positiveText _)
  · decide
  · decide
  · decide
  · decide

end Number

namespace Value

theorem unended_partText (x : Number.Binary64) : Unended (partText x) := by
  unfold partText
  split
  · refine unended_ofList.mpr fun ending => ?_
    exact Number.unended_text x (List.dropLast_subset _ (List.dropLast_subset _ ending))
  · exact Number.unended_text x

theorem unended_complexText (re im : Number.Binary64) : Unended (complexText re im) := by
  unfold complexText
  split
  · exact unended_append.mpr ⟨unended_partText im, by decide⟩
  · have sign : Unended (if im.isNegative then "" else "+") := by split <;> decide
    simp only [unended_append]
    exact ⟨⟨⟨⟨by decide, unended_partText re⟩, sign⟩, unended_partText im⟩, by decide⟩

mutual

/-- No thing in the value has a name that ends a line. -/
def Plain : Value → Prop
  | .list items => AllPlain items
  | .table _ values => AllPlain values
  | .thing name => Unended name
  | _ => True

def AllPlain : List Value → Prop
  | [] => True
  | v :: rest => Plain v ∧ AllPlain rest

end

mutual

theorem unended_quoted : ∀ v : Value, v.Plain → Unended v.quoted
  | .null, _ => by decide
  | .bool true, _ => by decide
  | .bool false, _ => by decide
  | .int n, _ => unended_showInt n
  | .float x, _ => Number.unended_text x
  | .complex re im, _ => unended_complexText re im
  | .text s, _ => Text.unended_quoted s
  | .list items, plain => by
      have inside := unended_quotedItems items plain
      simp only [quoted, unended_append]
      exact ⟨⟨by decide, inside⟩, by decide⟩
  | .table names values, plain => by
      have inside := unended_quotedEntries names values plain
      simp only [quoted, unended_append]
      exact ⟨⟨by decide, inside⟩, by decide⟩
  | .thing name, plain => plain

theorem unended_quotedItems : ∀ items : List Value, AllPlain items → Unended (quotedItems items)
  | [], _ => by decide
  | [v], plain => unended_quoted v plain.1
  | v :: w :: rest, plain => by
      have first := unended_quoted v plain.1
      have others := unended_quotedItems (w :: rest) plain.2
      simp only [quotedItems, unended_append]
      exact ⟨⟨first, by decide⟩, others⟩

theorem unended_quotedEntries : ∀ (names : List String) (values : List Value), AllPlain values →
    Unended (quotedEntries names values)
  | [], _, _ => by simp [quotedEntries, Unended]
  | _ :: _, [], _ => by simp [quotedEntries, Unended]
  | name :: names, v :: rest, plain => by
      have first := unended_quoted v plain.1
      have others := unended_quotedEntries names rest plain.2
      have comma : Unended (if rest.isEmpty then "" else ", ") := by split <;> decide
      simp only [quotedEntries, unended_append]
      exact ⟨⟨⟨⟨Text.unended_quoted name, by decide⟩, first⟩, comma⟩, others⟩

end

end Value

/-- The name of a channel to store is a plain value. -/
def Request.Plain : Request → Prop
  | .setChannel c => (c.value .name).Plain
  | _ => True

theorem pieces_of_checkSentName {given collection : Value}
    (h : checkSentName given = .ok (.pieces collection)) : collection = given := by
  unfold checkSentName at h
  split at h
  · rename_i s
    cases checked : checkName s with
    | error why =>
        rw [checked] at h
        cases h
    | ok name =>
        rw [checked] at h
        cases h
  · split at h
    · unfold checkPieces at h
      split at h
      · cases h
      · split at h
        · cases h
        · dsimp only at h
          split at h <;> cases h
          rfl
    · cases h

theorem SentName.unended_text {given : Value} (plain : given.Plain) {name : SentName}
    (h : checkSentName given = .ok name) : Unended name.text := by
  cases name with
  | storable name =>
      exact fun ending => absurd (isField_name name.property terminator ending).1.1 (by decide)
  | pieces collection =>
      obtain rfl := pieces_of_checkSentName h
      exact Value.unended_quoted collection plain

/-- Every command that a request may send is one line. -/
theorem Request.May.unended {request : Request} {command : Command} (may : request.May command)
    (plain : request.Plain) : Unended command.line := by
  rcases may.wording_or_name with worded | ⟨c, number, name, rfl, rfl, checked⟩
  · exact Simulation.unended_of_printable worded.isPrintable
  · refine unended_append.mpr ⟨by decide, unended_join fun field member => ?_⟩
    rcases List.mem_cons.mp member with rfl | member
    · exact unended_padded 3 number
    · rw [List.mem_singleton.mp member]
      exact SentName.unended_text plain checked

end Transceiver
