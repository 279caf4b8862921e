import Transceiver.Link

/-! The code page as a pair of translations. What it spells is read back character by character, so
that a text may be cut anywhere on its way, and only the carriage return is spelled as one. -/
namespace Transceiver.Text.CodePage

section
variable {α β : Type} {f : α → Option β}

theorem mapM_take {xs : List α} {ys : List β} (h : xs.mapM f = some ys) (n : Nat) :
    (xs.take n).mapM f = some (ys.take n) := by
  induction xs generalizing n ys with
  | nil =>
      cases h
      simp
  | cons x rest ih =>
      rw [List.mapM_cons] at h
      obtain ⟨y, here, h⟩ := Option.bind_eq_some_iff.mp h
      obtain ⟨others, later, same⟩ := Option.bind_eq_some_iff.mp h
      cases same
      cases n with
      | zero => rfl
      | succ n =>
          rw [List.take_succ_cons, List.mapM_cons, here, ih later n]
          rfl

theorem mapM_drop {xs : List α} {ys : List β} (h : xs.mapM f = some ys) (n : Nat) :
    (xs.drop n).mapM f = some (ys.drop n) := by
  induction xs generalizing n ys with
  | nil =>
      cases h
      simp
  | cons x rest ih =>
      cases n with
      | zero => exact h
      | succ n =>
          rw [List.mapM_cons] at h
          obtain ⟨y, -, h⟩ := Option.bind_eq_some_iff.mp h
          obtain ⟨others, later, same⟩ := Option.bind_eq_some_iff.mp h
          cases same
          exact ih later n

theorem length_mapM {xs : List α} {ys : List β} (h : xs.mapM f = some ys) : xs.length = ys.length := by
  induction xs generalizing ys with
  | nil =>
      cases h
      rfl
  | cons x rest ih =>
      rw [List.mapM_cons] at h
      obtain ⟨y, -, h⟩ := Option.bind_eq_some_iff.mp h
      obtain ⟨others, later, same⟩ := Option.bind_eq_some_iff.mp h
      cases same
      rw [List.length_cons, List.length_cons, ih later]

theorem mem_of_mapM {xs : List α} {ys : List β} (h : xs.mapM f = some ys) {x : α} (member : x ∈ xs) :
    ∃ y ∈ ys, f x = some y := by
  induction xs generalizing ys with
  | nil => cases member
  | cons first rest ih =>
      rw [List.mapM_cons] at h
      obtain ⟨y, here, h⟩ := Option.bind_eq_some_iff.mp h
      obtain ⟨others, later, same⟩ := Option.bind_eq_some_iff.mp h
      cases same
      rcases List.mem_cons.mp member with rfl | there
      · exact ⟨y, List.mem_cons_self, here⟩
      · obtain ⟨z, inside, known⟩ := ih later there
        exact ⟨z, List.mem_cons_of_mem y inside, known⟩

end

theorem decodeByte_encodeChar {c : Char} {b : UInt8} (h : encodeChar c = some b) :
    decodeByte b = some c := by
  unfold encodeChar at h
  split at h
  · rename_i plain
    cases h
    have code : (UInt8.ofNat c.toNat).toNat = c.toNat := by
      rw [UInt8.toNat_ofNat']
      omega
    have outside : ¬ (0x80 ≤ c.toNat ∧ c.toNat < 0xA0) := by omega
    rw [decodeByte, code, if_neg outside, Char.ofNat_toNat]
  · obtain ⟨i, found, rfl⟩ := Option.map_eq_some_iff.mp h
    obtain ⟨short, same, -⟩ := List.findIdx?_eq_some_iff_getElem.mp found
    have few : i < 32 := short
    have code : (UInt8.ofNat (0x80 + i)).toNat = 0x80 + i := by
      rw [UInt8.toNat_ofNat']
      omega
    have inside : 0x80 ≤ 0x80 + i ∧ 0x80 + i < 0xA0 := by omega
    rw [decodeByte, code, if_pos inside, Nat.add_sub_cancel_left, List.getElem?_eq_getElem short,
      eq_of_beq same]
    rfl

theorem mapM_encodeChar {position : Nat} {cs : List Char} {bytes : List UInt8}
    (h : encodeFrom position cs = .ok bytes) : bytes.mapM decodeByte = some cs := by
  induction cs generalizing position bytes with
  | nil =>
      cases h
      rfl
  | cons c rest ih =>
      unfold encodeFrom at h
      split at h
      · cases h
      · rename_i b spelled
        cases later : encodeFrom (position + 1) rest with
        | error u =>
            rw [later] at h
            cases h
        | ok others =>
            rw [later] at h
            cases h
            rw [List.mapM_cons, decodeByte_encodeChar spelled, ih later]
            rfl

theorem decode_encode {s : String} {bytes : List UInt8} (h : encode s = .ok bytes) :
    decode bytes = some s := by
  rw [decode, mapM_encodeChar h]
  exact congrArg some String.ofList_toList

/-- A text can be spelled if each of its characters can. -/
theorem exists_encodeFrom {position : Nat} {cs : List Char} :
    (∃ bytes, encodeFrom position cs = .ok bytes) ↔ ∀ c ∈ cs, (encodeChar c).isSome = true := by
  induction cs generalizing position with
  | nil => exact ⟨fun _ c member => absurd member List.not_mem_nil, fun _ => ⟨[], rfl⟩⟩
  | cons c rest ih =>
      have later := @ih (position + 1)
      rw [List.forall_mem_cons, ← later, encodeFrom]
      cases encodeChar c with
      | none => simp
      | some b =>
          cases encodeFrom (position + 1) rest with
          | error u => simp [Except.map]
          | ok others => simp [Except.map]

/-- A line and its end are spelled as the line is, and the end after it. -/
theorem encodeFrom_concat (position : Nat) (cs : List Char) :
    encodeFrom position (cs ++ [terminator]) = (encodeFrom position cs).map (· ++ [13]) := by
  induction cs generalizing position with
  | nil => rfl
  | cons c rest ih =>
      rw [List.cons_append, encodeFrom, encodeFrom]
      cases encodeChar c with
      | none =>
          -- The end can be spelled, so it does not lengthen a run that cannot.
          have run : (rest ++ [terminator]).takeWhile (fun d => (encodeChar d).isNone) =
              rest.takeWhile fun d => (encodeChar d).isNone := by
            rw [List.takeWhile_append]
            split
            · rename_i whole
              have ended : [terminator].takeWhile (fun d => (encodeChar d).isNone) = [] := rfl
              rw [ended, List.append_nil, (List.takeWhile_prefix _).eq_of_length whole]
            · rfl
          dsimp only
          rw [run]
          rfl
      | some b =>
          dsimp only
          rw [ih]
          cases encodeFrom (position + 1) rest with
          | error u => rfl
          | ok others => rfl

theorem encode_concat (s : String) :
    encode (s ++ terminator.toString) = (encode s).map (· ++ [13]) := by
  have parted : (s ++ terminator.toString).toList = s.toList ++ [terminator] := by
    rw [String.toList_append]
    rfl
  rw [encode, parted]
  exact encodeFrom_concat 0 s.toList

theorem encode_terminated {s : String} {bytes : List UInt8}
    (h : encode (s ++ terminator.toString) = .ok bytes) :
    ∃ line, encode s = .ok line ∧ bytes = line ++ [13] := by
  rw [encode_concat] at h
  cases spelled : encode s with
  | error u =>
      rw [spelled] at h
      cases h
  | ok line =>
      rw [spelled] at h
      cases h
      exact ⟨line, rfl, rfl⟩

theorem not_mem_encode {s : String} {bytes : List UInt8} (h : encode s = .ok bytes)
    (unended : terminator ∉ s.toList) : 13 ∉ bytes := by
  intro ending
  obtain ⟨c, inside, read⟩ := mem_of_mapM (mapM_encodeChar h) ending
  cases read
  exact unended inside

theorem decodeByte_terminator {b : UInt8} : decodeByte b = some terminator ↔ b = 13 := by
  have each : ∀ i : Fin 256, decodeByte (.ofNat i.val) = some terminator → i.val = 13 := by
    decide +kernel
  constructor
  · intro h
    have same := each ⟨b.toNat, b.toNat_lt⟩ (by rwa [UInt8.ofNat_toNat])
    exact UInt8.toNat_inj.mp same
  · rintro rfl
    rfl

theorem terminator_mem_of_mapM {bytes : List UInt8} {cs : List Char}
    (h : bytes.mapM decodeByte = some cs) (ending : terminator ∈ cs) : 13 ∈ bytes := by
  induction bytes generalizing cs with
  | nil =>
      cases h
      cases ending
  | cons b rest ih =>
      rw [List.mapM_cons] at h
      obtain ⟨c, here, h⟩ := Option.bind_eq_some_iff.mp h
      obtain ⟨others, later, same⟩ := Option.bind_eq_some_iff.mp h
      cases same
      rcases List.mem_cons.mp ending with rfl | there
      · rw [decodeByte_terminator.mp here]
        exact List.mem_cons_self
      · exact List.mem_cons_of_mem b (ih later there)

/-- What two runs of bytes stand for together, they stand for one after the other. -/
theorem decode_append {front rest : List UInt8} {text : String} :
    decode (front ++ rest) = some text ↔
      ∃ first more, decode front = some first ∧ decode rest = some more ∧ text = first ++ more := by
  constructor
  · intro h
    obtain ⟨cs, spelled, rfl⟩ := Option.map_eq_some_iff.mp h
    rw [List.mapM_append] at spelled
    obtain ⟨first, here, spelled⟩ := Option.bind_eq_some_iff.mp spelled
    obtain ⟨more, there, same⟩ := Option.bind_eq_some_iff.mp spelled
    cases same
    exact ⟨.ofList first, .ofList more, by rw [decode, here]; rfl, by rw [decode, there]; rfl,
      String.ofList_append⟩
  · rintro ⟨_, _, here, there, rfl⟩
    obtain ⟨first, spelled, rfl⟩ := Option.map_eq_some_iff.mp here
    obtain ⟨more, spelled', rfl⟩ := Option.map_eq_some_iff.mp there
    rw [decode, List.mapM_append, spelled, spelled']
    exact congrArg some String.ofList_append

theorem decode_line {bytes : List UInt8} {text : String} (h : decode bytes = some text) :
    decode (bytes ++ [13]) = some (text ++ terminator.toString) := by
  obtain ⟨cs, spelled, rfl⟩ := Option.map_eq_some_iff.mp h
  rw [decode, List.mapM_append, spelled]
  exact congrArg some (String.ofList_append)

/-- Bytes that hold the end of a line are read as a line, its end and what follows. -/
theorem decode_ended {bytes : List UInt8} {cs : List Char} (h : bytes.mapM decodeByte = some cs)
    (ending : terminator ∈ cs) : ∃ front rest text more, bytes = front ++ 13 :: rest ∧ 13 ∉ front ∧
      decode front = some text ∧ terminator ∉ text.toList ∧
      String.ofList cs = text ++ terminator.toString ++ more := by
  obtain ⟨front, rest, rfl, clear⟩ := List.eq_append_cons_of_mem (terminator_mem_of_mapM h ending)
  rw [List.mapM_append, List.mapM_cons] at h
  obtain ⟨first, spelled, h⟩ := Option.bind_eq_some_iff.mp h
  obtain ⟨others, later, same⟩ := Option.bind_eq_some_iff.mp h
  obtain ⟨c, here, later⟩ := Option.bind_eq_some_iff.mp later
  obtain ⟨more, -, same'⟩ := Option.bind_eq_some_iff.mp later
  cases here
  cases same'
  cases same
  refine ⟨front, rest, .ofList first, .ofList more, rfl, clear, ?_, ?_, ?_⟩
  · rw [decode, spelled]
    rfl
  · intro ending
    rw [String.toList_ofList] at ending
    exact clear (terminator_mem_of_mapM spelled ending)
  · rw [String.append_assoc, ← List.singleton_append, String.ofList_append, String.ofList_append]
    rfl

end Transceiver.Text.CodePage
