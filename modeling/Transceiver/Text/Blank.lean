/-! White space, and trimming blanks from the ends of a text. Blanks are the characters of
Unicode White_Space together with the four information separators U+001C to U+001F. -/
namespace Transceiver.Text

def isWhiteSpace (c : Char) : Bool :=
  let n := c.toNat
  (0x09 ≤ n && n ≤ 0x0D) || n == 0x20 || n == 0x85 || n == 0xA0 || n == 0x1680
    || (0x2000 ≤ n && n ≤ 0x200A) || n == 0x2028 || n == 0x2029 || n == 0x202F || n == 0x205F
    || n == 0x3000

def isSeparator (c : Char) : Bool := 0x1C ≤ c.toNat && c.toNat ≤ 0x1F

def isBlank (c : Char) : Bool := isWhiteSpace c || isSeparator c

def dropBlanks (cs : List Char) : List Char := cs.dropWhile isBlank

def dropTrailingBlanks (cs : List Char) : List Char := (cs.reverse.dropWhile isBlank).reverse

def trimEnd (s : String) : String := .ofList (dropTrailingBlanks s.toList)

def trim (s : String) : String := .ofList (dropTrailingBlanks (dropBlanks s.toList))

theorem dropBlanks_eq_self {cs : List Char} (h : cs.head?.all (!isBlank ·) = true) :
    dropBlanks cs = cs := by
  cases cs with
  | nil => rfl
  | cons c rest =>
      have solid : isBlank c = false := by simpa using h
      rw [dropBlanks, List.dropWhile_cons, solid]
      rfl

theorem dropTrailingBlanks_append {front : List Char} (h : front.getLast?.all (!isBlank ·) = true)
    (cs : List Char) : dropTrailingBlanks (front ++ cs) = front ++ dropTrailingBlanks cs := by
  have reversed : front.reverse.head?.all (!isBlank ·) = true := by
    rwa [List.head?_reverse]
  have whole : front.reverse.dropWhile isBlank = front.reverse := dropBlanks_eq_self reversed
  unfold dropTrailingBlanks
  rw [List.reverse_append, List.dropWhile_append]
  split
  · rename_i blank
    have none : cs.reverse.dropWhile isBlank = [] := List.isEmpty_iff.mp blank
    rw [whole, none, List.reverse_reverse]
    simp
  · rw [List.reverse_append, List.reverse_reverse]

theorem dropTrailingBlanks_eq_self {cs : List Char} (h : cs.getLast?.all (!isBlank ·) = true) :
    dropTrailingBlanks cs = cs := by
  have split : dropTrailingBlanks (cs ++ []) = cs ++ dropTrailingBlanks [] :=
    dropTrailingBlanks_append h []
  have none : dropTrailingBlanks [] = [] := rfl
  rwa [none, List.append_nil] at split

/-- A text that neither starts nor ends in a blank is its own trimming. -/
theorem trim_eq_self {s : String} (front : s.toList.head?.all (!isBlank ·) = true)
    (back : s.toList.getLast?.all (!isBlank ·) = true) : trim s = s := by
  rw [trim, dropBlanks_eq_self front, dropTrailingBlanks_eq_self back, String.ofList_toList]

/-- A text is trimmed at its end only, if it does not start with a blank. -/
theorem trim_append {front : String} (first : ∃ c rest, front.toList = c :: rest ∧ isBlank c = false)
    (last : front.toList.getLast?.all (!isBlank ·) = true) (s : String) :
    trim (front ++ s) = front ++ trimEnd s := by
  obtain ⟨c, rest, spelled, solid⟩ := first
  have whole : dropBlanks (front ++ s).toList = front.toList ++ s.toList := by
    rw [String.toList_append]
    refine dropBlanks_eq_self ?_
    rw [spelled]
    simp [solid]
  rw [trim, whole, dropTrailingBlanks_append last, trimEnd]
  simp [String.ofList_append]

theorem toList_trimEnd (s : String) : (trimEnd s).toList = dropTrailingBlanks s.toList := by
  simp [trimEnd]

theorem dropTrailingBlanks_prefix (cs : List Char) : dropTrailingBlanks cs <+: cs := by
  have suffix : cs.reverse.dropWhile isBlank <:+ cs.reverse := List.dropWhile_suffix isBlank
  have turned := List.reverse_prefix.mpr suffix
  rwa [List.reverse_reverse] at turned

/-- A text ends in no blank exactly if trimming its end changes nothing. -/
theorem trimEnd_eq_self {s : String} :
    trimEnd s = s ↔ s.toList.getLast?.all (!isBlank ·) = true := by
  constructor
  · intro same
    have kept : dropTrailingBlanks s.toList = s.toList := by
      rw [← toList_trimEnd, same]
    have turned : s.toList.reverse.dropWhile isBlank = s.toList.reverse := by
      have reversed := congrArg List.reverse kept
      rwa [dropTrailingBlanks, List.reverse_reverse] at reversed
    have first := List.head?_dropWhile_not isBlank s.toList.reverse
    rw [turned, List.head?_reverse] at first
    cases last : s.toList.getLast? with
    | none => rfl
    | some c =>
        rw [last] at first
        simp [first]
  · intro solid
    rw [trimEnd, dropTrailingBlanks_eq_self solid, String.ofList_toList]

theorem trimEnd_trimEnd (s : String) : trimEnd (trimEnd s) = trimEnd s := by
  rw [trimEnd_eq_self, toList_trimEnd, dropTrailingBlanks, List.getLast?_reverse]
  have first := List.head?_dropWhile_not isBlank s.toList.reverse
  cases head : (s.toList.reverse.dropWhile isBlank).head? with
  | none => rfl
  | some c =>
      rw [head] at first
      simp [first]

end Transceiver.Text
