import Transceiver.Proofs.Agreement
import Transceiver.Proofs.Naming

/-! What a channel is stored as. Values that a channel accepts fit the fields of a memory record,
except that not every tone is one that the radio can store. -/
namespace Transceiver

open Record

theorem Number.Binary64.same_zero {x : Binary64} {q : Rat} (h : x.value? = some q) :
    x.same (.finite 0) = (q == 0) := by
  cases x <;> cases h <;> rfl

theorem Number.truncate_intCast (n : Int) : truncate (n : Rat) = n := by
  unfold truncate
  split
  · exact Rat.floor_intCast n
  · rw [← Rat.intCast_neg, Rat.floor_intCast, Int.neg_neg]

namespace Value

theorem wholePart_float {x : Number.Binary64} {q : Rat} (h : x.value? = some q) :
    (float x).wholePart = .ok (Number.truncate q) := by
  cases x <;> cases h <;> rfl

theorem truth_of_number? {v : Value} {x : Number.Binary64} (h : v.number? = some x) :
    v.truth = !x.same (.finite 0) := by
  cases v with
  | bool b =>
      cases b <;> cases h <;> rfl
  | int n =>
      cases h
      have exact : ((n : Rat) == 0) = (n == 0) := by
        rw [Bool.eq_iff_iff, beq_iff_eq, beq_iff_eq, Rat.intCast_eq_zero_iff]
      simp [truth, bne, Number.Binary64.same, Number.Binary64.value?, exact]
  | float y =>
      cases h
      rfl
  | complex re im =>
      change (if im.same (.finite 0) then some re else none) = some x at h
      split at h
      · rename_i real
        cases h
        simp [truth, real]
      · cases h
  | _ => cases h

end Value

theorem tones_truth (i : Fin 42) : (Value.float (tones.get i)).truth = true := by
  revert i
  decide +kernel

theorem dcsCodes_truth (i : Fin 104) : (Value.ofNat (dcsCodes.get i)).truth = true := by
  revert i
  decide +kernel

/-- At most one of the two tones and the code is on. -/
def MemoryRecord.Exclusive (r : MemoryRecord) : Prop := r.toneOn.val + r.ctcssOn.val + r.dcsOn.val ≤ 1

instance (r : MemoryRecord) : Decidable r.Exclusive :=
  Nat.decLe (r.toneOn.val + r.ctcssOn.val + r.dcsOn.val) 1

namespace Channel

/-- The attributes that name a tone or a code, the first ones before the others. -/
def toneSources : List Attribute := [.tone, .squelchTone, .dcsCode]

/-- The attribute that sets the tone mode of a channel. -/
def toneInUse (c : Channel) : Option Attribute := toneSources.find? fun a => (c.value a).truth

/-- The tone mode that an attribute sets. -/
def modeOfSource : Option Attribute → String
  | some .tone => "Tone"
  | some .squelchTone => "TSQL"
  | some .dcsCode => "DTCS"
  | _ => ""

theorem toneMode_eq (c : Channel) : c.toneMode = modeOfSource c.toneInUse := by
  unfold toneMode toneInUse toneSources
  cases tone : (c.value .tone).truth <;> cases squelch : (c.value .squelchTone).truth <;>
    cases code : (c.value .dcsCode).truth <;> simp [tone, squelch, code, modeOfSource]

theorem toneMode_iff (c : Channel) : (c.toneMode = "Tone" ↔ c.toneInUse = some .tone) ∧
    (c.toneMode = "TSQL" ↔ c.toneInUse = some .squelchTone) ∧
    (c.toneMode = "DTCS" ↔ c.toneInUse = some .dcsCode) := by
  rw [toneMode_eq]
  cases c.toneInUse with
  | none => decide
  | some a => cases a <;> decide

namespace Attribute

theorem truth_of_isZero {v : Value} (h : isZero v = true) : v.truth = false := by
  have numbers : v.sameNumber (.int 0) = true := by
    unfold isZero Value.same at h
    cases v with
    | list items => cases h
    | _ => exact h
  unfold Value.sameNumber at numbers
  cases given : v.number? with
  | some x =>
      rw [given] at numbers
      have zero : x.same (.finite ((0 : Int) : Rat)) = true := numbers
      rw [Value.truth_of_number? given]
      simpa using zero
  | none =>
      rw [given] at numbers
      cases v <;> cases numbers

theorem isCount_eq {greatest : Int} {v : Value} (h : isCount (some greatest) v = true) :
    ∃ n : Nat, v = .int n ∧ (n : Int) ≤ greatest := by
  cases v with
  | int n =>
      have range : 0 ≤ n ∧ n ≤ greatest := by simpa [isCount] using h
      exact ⟨n.toNat, congrArg Value.int (Int.toNat_of_nonneg range.1).symm, by omega⟩
  | _ => cases h

theorem isOneOf_eq {names : List String} {v : Value} (h : isOneOf names v = true) :
    ∃ s ∈ names, v = .text s := by
  cases v with
  | text s => exact ⟨s, List.contains_iff_mem.mp h, rfl⟩
  | _ => cases h

/-- A count is held by a field that has room for the greatest one. -/
theorem exists_int? (size : Nat) {greatest : Int} {v : Value} (h : isCount (some greatest) v = true)
    (room : greatest < size) : ∃ n : Fin size, v.int? = some (n.val : Int) := by
  obtain ⟨n, rfl, least⟩ := isCount_eq h
  have small : n < size := by omega
  exact ⟨⟨n, small⟩, rfl⟩

end Attribute

/-- A flag is stored as the number that it equals, unless it is a complex number. -/
theorem flagValue_of_below? {v : Value} {n : Fin 2} (h : v.below? 2 = some n) (real : v.isReal = true) :
    flagValue v = .ok (n.val : Int) := by
  obtain ⟨x, number, value⟩ := Option.bind_eq_some_iff.mp (Value.value_of_below? h)
  have rational : x.value? = some ((n.val : Int) : Rat) := value
  cases v with
  | bool b =>
      cases number
      have same : (if b then 1 else 0 : Rat) = ((n.val : Int) : Rat) := Option.some.inj rational
      cases b <;> exact congrArg Except.ok (Rat.intCast_inj.mp same)
  | int m =>
      cases number
      exact congrArg Except.ok (Rat.intCast_inj.mp (Option.some.inj rational))
  | float y =>
      cases number
      exact (Value.wholePart_float rational).trans (congrArg Except.ok (Number.truncate_intCast _))
  | complex re im => cases real
  | _ => cases number

/-- A flag counts as yes if the number that it equals is one. -/
theorem truth_of_below? {v : Value} {n : Fin 2} (h : v.below? 2 = some n) : v.truth = isOn n := by
  obtain ⟨x, number, value⟩ := Option.bind_eq_some_iff.mp (Value.value_of_below? h)
  have rational : x.value? = some ((n.val : Int) : Rat) := value
  have exact : (((n.val : Int) : Rat) == 0) = ((n.val : Int) == 0) := by
    rw [Bool.eq_iff_iff, beq_iff_eq, beq_iff_eq, Rat.intCast_eq_zero_iff]
  rw [Value.truth_of_number? number, Number.Binary64.same_zero rational, exact]
  clear h number value rational exact
  revert n
  decide

theorem isReal_of_flagValue {v : Value} {n : Int} (h : flagValue v = .ok n) : v.isReal = true := by
  cases v with
  | complex re im => cases h
  | _ => rfl

theorem codeOf_eq_ok {n : Nat} {code? : String → Option (Fin n)} {v : Value} {code : Fin n} :
    codeOf code? v = .ok code ↔ v.text?.bind code? = some code := by
  unfold codeOf
  split
  · rename_i found given
    rw [given]
    simp
  · rename_i none
    rw [none]
    simp

theorem placeOf_eq_ok {n : Nat} {place? : Value → Option (Fin n)} {v : Value} {place : Fin n} :
    placeOf place? v = .ok place ↔ place? v = some place := by
  unfold placeOf
  cases place? v <;> simp

theorem placeInUse_eq_ok {n : Nat} {place? : Value → Option (Fin (n + 1))} {v : Value}
    {place : Fin (n + 1)} :
    placeInUse place? v = .ok place ↔
      if v.truth = true then place? v = some place else place = 0 := by
  unfold placeInUse
  cases v.truth with
  | true => exact placeOf_eq_ok
  | false => simp [eq_comm]

theorem storableCodes_eq_ok {c : Channel} {found : Codes} :
    c.storableCodes = .ok found ↔ c.codes = .ok found := by
  unfold storableCodes
  split
  · rename_i codes given
    rw [given]
    simp
  · rename_i given
    rw [given]
    simp
  · rename_i why given
    rw [given, bind_eq_ok]
    simp

/-- The record that a channel is stored as. -/
structure StoredAs (c : Channel) (record : MemoryRecord) : Prop where
  number : (c.value .number).int? = some (record.channel.val : Int)
  freq : (c.value .freq).int? = some (record.freq.val : Int)
  offset : (c.value .offset).int? = some (record.offset.val : Int)
  txFreq : (c.value .txFreq).int? = some (record.txFreq.val : Int)
  txStep : (c.value .txStep).int? = some (record.txStep.val : Int)
  step : placeOf stepIndex? (c.value .tuningStep) = .ok record.step
  mode : codeOf (fun s => (Mode.ofName? s).map Mode.code) (c.value .mode) = .ok record.mode
  shift : codeOf (fun s => (Shift.ofName? s).map Shift.code) (c.value .duplex) = .ok record.shift
  reverse : flagValue (c.value .reverse) = .ok (record.reverse.val : Int)
  toneIndex : placeInUse toneIndex? (c.value .tone) = .ok record.toneIndex
  ctcssIndex : placeInUse toneIndex? (c.value .squelchTone) = .ok record.ctcssIndex
  dcsIndex : placeInUse dcsIndex? (c.value .dcsCode) = .ok record.dcsIndex
  toneOn : isOn record.toneOn = decide (c.toneInUse = some .tone)
  ctcssOn : isOn record.ctcssOn = decide (c.toneInUse = some .squelchTone)
  dcsOn : isOn record.dcsOn = decide (c.toneInUse = some .dcsCode)
  lockout : isOn record.lockout = (c.value .skip).same (.text "L")

theorem flag_eq {b : Bool} {n : Fin 2} :
    (Value.ofNat (if b then 1 else 0)).int? = some (n.val : Int) ↔ isOn n = b := by
  revert b n
  decide

theorem int?_ofNat_fin {size : Nat} {m n : Fin size} :
    (Value.ofNat m.val).int? = some (n.val : Int) ↔ m = n := by
  rw [Value.ofNat, Value.int?, Option.some.injEq, Int.ofNat_inj, Fin.ext_iff]

theorem codes_eq_ok {c : Channel} {found : Codes} :
    c.codes = .ok found ↔
      codeOf (fun s => (Mode.ofName? s).map Mode.code) (c.value .mode) = .ok found.mode ∧
      placeOf stepIndex? (c.value .tuningStep) = .ok found.step ∧
      codeOf (fun s => (Shift.ofName? s).map Shift.code) (c.value .duplex) = .ok found.shift ∧
      placeInUse toneIndex? (c.value .tone) = .ok found.tone ∧
      placeInUse toneIndex? (c.value .squelchTone) = .ok found.squelchTone ∧
      placeInUse dcsIndex? (c.value .dcsCode) = .ok found.dcsCode := by
  unfold codes
  simp only [bind_eq_ok, pure, Except.pure, Except.ok.injEq]
  constructor
  · rintro ⟨_, mode, _, step, _, shift, _, tone, _, squelch, _, code, rfl⟩
    exact ⟨mode, step, shift, tone, squelch, code⟩
  · rintro ⟨mode, step, shift, tone, squelch, code⟩
    exact ⟨_, mode, _, step, _, shift, _, tone, _, squelch, _, code, rfl⟩

/-- A channel can be stored exactly if each of its values has a place in the record. -/
theorem storedAs_iff {c : Channel} {record : MemoryRecord} :
    (∃ draft, c.toDraft = .ok draft ∧ draft.check = .ok record) ↔ c.StoredAs record := by
  obtain ⟨tone, squelch, code⟩ := c.toneMode_iff
  unfold toDraft
  simp only [bind_eq_ok, storableCodes_eq_ok, codes_eq_ok, pure, Except.pure, Except.ok.injEq, tone,
    squelch, code]
  clear tone squelch code
  constructor
  · rintro ⟨_, ⟨found, ⟨mode, step, shift, tone, squelch, code⟩, reverse, flag, rfl⟩, checked⟩
    rw [MemoryDraft.check_eq_ok] at checked
    simp only [MemoryDraft.values, MemoryRecord.values, List.map_cons, List.map_nil,
      List.cons.injEq, and_true, int?_ofNat_fin, flag_eq] at checked
    obtain ⟨number, freq, rung, shifted, turned, toneOn, ctcssOn, dcsOn, toned, squelched, coded,
      offset, moded, txFreq, txStep, lockout⟩ := checked
    -- Each number of the record is the code that the channel's value was given.
    have whole : _ = (record.reverse.val : Int) := Option.some.inj turned
    rw [moded] at mode
    rw [rung] at step
    rw [shifted] at shift
    rw [toned] at tone
    rw [squelched] at squelch
    rw [coded] at code
    rw [whole] at flag
    exact ⟨number, freq, offset, txFreq, txStep, step, mode, shift, flag, tone, squelch, code, toneOn,
      ctcssOn, dcsOn, lockout⟩
  · intro h
    refine ⟨_, ⟨⟨record.mode, record.step, record.shift, record.toneIndex, record.ctcssIndex,
      record.dcsIndex⟩, ⟨h.mode, h.step, h.shift, h.toneIndex, h.ctcssIndex, h.dcsIndex⟩, _, h.reverse,
      rfl⟩, ?_⟩
    rw [MemoryDraft.check_eq_ok]
    simp only [MemoryDraft.values, MemoryRecord.values, List.map_cons, List.map_nil,
      List.cons.injEq, and_true, true_and, int?_ofNat_fin, flag_eq]
    exact ⟨h.number, h.freq, rfl, h.toneOn, h.ctcssOn, h.dcsOn, h.offset, h.txFreq, h.txStep, h.lockout⟩

/-- Every attribute has a value that the channel accepts, and the rules are in force. -/
structure InOrder (c : Channel) : Prop where
  accepted : ∀ a : Attribute, a.accepts (c.value a) = true
  ruled : c.note? rulesLabel = none

theorem inOrder_blank : blank.InOrder := by
  refine ⟨fun a => ?_, rfl⟩
  cases a <;> decide +kernel

theorem InOrder.assign {c d : Channel} {a : Attribute} {v : Value} (h : c.InOrder)
    (assigned : c.assign a v = .ok d) : d.InOrder := by
  unfold Channel.assign at assigned
  split at assigned
  · rename_i accepted
    cases assigned
    refine ⟨fun other => ?_, h.ruled⟩
    rw [value_store]
    split
    · rename_i same
      exact same ▸ accepted
    · exact h.accepted other
  · cases assigned

theorem InOrder.assignLabel {c d : Channel} {label : String} {v : Value} (h : c.InOrder)
    (other : label ≠ rulesLabel) (assigned : c.assignLabel label v = .ok d) : d.InOrder := by
  unfold Channel.assignLabel at assigned
  rw [h.ruled] at assigned
  split at assigned
  · cases assigned
  · dsimp only at assigned
    cases named : Attribute.ofLabel? label with
    | some a =>
        rw [named] at assigned
        exact h.assign (mapError_eq_ok.mp assigned)
    | none =>
        rw [named] at assigned
        cases assigned
        refine ⟨?_, ?_⟩
        · rw [storeLabel, named]
          exact h.accepted
        · have unlike : (rulesLabel == label) = false := beq_eq_false_iff_ne.mpr other.symm
          rw [storeLabel, named, note?, List.lookup_cons, unlike]
          exact h.ruled

/-- A channel that was made by checked assignments only, of which none replaces the rules. -/
def Validated (c : Channel) : Prop :=
  ∃ number name assigned, build number name assigned [] = .ok c ∧
    ∀ entry ∈ assigned, entry.1 ≠ rulesLabel

theorem InOrder.assignAll {assigned : List (String × Value)} {c d : Channel} (h : c.InOrder)
    (others : ∀ entry ∈ assigned, entry.1 ≠ rulesLabel)
    (made : assigned.foldlM (fun c entry => Channel.assignLabel c entry.1 entry.2) c = .ok d) :
    d.InOrder := by
  induction assigned generalizing c with
  | nil =>
      cases made
      exact h
  | cons entry rest ih =>
      rw [List.foldlM_cons] at made
      obtain ⟨next, first, later⟩ := bind_eq_ok.mp made
      exact ih (h.assignLabel (others entry List.mem_cons_self) first)
        (fun entry member => others entry (List.mem_cons_of_mem _ member)) later

theorem Validated.inOrder {c : Channel} (h : c.Validated) : c.InOrder := by
  obtain ⟨number, name, assigned, built, others⟩ := h
  unfold build at built
  obtain ⟨made, first, built⟩ := bind_eq_ok.mp built
  obtain ⟨last, assigned, rest⟩ := bind_eq_ok.mp built
  cases rest
  unfold make at first
  obtain ⟨numbered, checked, named⟩ := bind_eq_ok.mp (mapError_eq_ok.mp first)
  exact ((inOrder_blank.assign checked).assign named).assignAll others assigned

theorem exists_mode {s : String} (h : s ∈ Mode.names) :
    ∃ m, Mode.ofName? s = some m ∧ (s = m.name ∨ s = "FM" ∧ m = .narrow) := by
  simp only [Mode.names, List.mem_cons, List.not_mem_nil, or_false] at h
  rcases h with rfl | rfl | rfl | rfl
  · exact ⟨.wide, rfl, .inl rfl⟩
  · exact ⟨.narrow, rfl, .inl rfl⟩
  · exact ⟨.am, rfl, .inl rfl⟩
  · exact ⟨.narrow, rfl, .inr ⟨rfl, rfl⟩⟩

/-- A tone or code is not in use, or it is in the table. -/
def HasPlace {n : Nat} (place? : Value → Option (Fin n)) (v : Value) : Prop :=
  Attribute.isZero v = true ∨ (place? v).isSome = true

theorem HasPlace.exists_placeInUse {n : Nat} {place? : Value → Option (Fin (n + 1))} {v : Value}
    (h : HasPlace place? v) : ∃ place, placeInUse place? v = .ok place := by
  simp only [placeInUse_eq_ok]
  cases yes : v.truth with
  | true =>
      rcases h with zero | found
      · rw [Attribute.truth_of_isZero zero] at yes
        cases yes
      · exact Option.isSome_iff_exists.mp found
  | false => exact ⟨0, rfl⟩

theorem exists_flag (b : Bool) : ∃ n : Fin 2, isOn n = b := by
  cases b with
  | true => exact ⟨1, rfl⟩
  | false => exact ⟨0, rfl⟩

/-- Where the tones are ones that the radio can store, the settings of a channel with accepted values are
in the tables. -/
theorem InOrder.exists_codes {c : Channel} (h : c.InOrder) (tone : HasPlace toneIndex? (c.value .tone))
    (squelchTone : HasPlace toneIndex? (c.value .squelchTone)) : ∃ found, c.codes = .ok found := by
  have code : HasPlace dcsIndex? (c.value .dcsCode) :=
    (Bool.or_eq_true _ _).mp (h.accepted .dcsCode)
  obtain ⟨step, listed⟩ := Option.isSome_iff_exists.mp (h.accepted .tuningStep)
  obtain ⟨named, member, text⟩ := Attribute.isOneOf_eq (h.accepted .mode)
  obtain ⟨mode, known, -⟩ := exists_mode member
  obtain ⟨sign, shifts, mark⟩ := Attribute.isOneOf_eq (h.accepted .duplex)
  obtain ⟨shift, -, rfl⟩ := List.mem_map.mp shifts
  obtain ⟨toneIndex, toned⟩ := tone.exists_placeInUse
  obtain ⟨ctcssIndex, squelched⟩ := squelchTone.exists_placeInUse
  obtain ⟨dcsIndex, coded⟩ := code.exists_placeInUse
  have moded : codeOf (fun s => (Mode.ofName? s).map Mode.code) (c.value .mode) = .ok mode.code := by
    rw [codeOf_eq_ok, text]
    exact congrArg (Option.map Mode.code) known
  have shifted : codeOf (fun s => (Shift.ofName? s).map Shift.code) (c.value .duplex) =
      .ok shift.code := by
    rw [codeOf_eq_ok, mark]
    exact congrArg (Option.map Shift.code) (Shift.ofName?_name shift)
  exact ⟨⟨mode.code, step, shift.code, toneIndex, ctcssIndex, dcsIndex⟩,
    codes_eq_ok.mpr ⟨moded, placeOf_eq_ok.mpr listed, shifted, toned, squelched, coded⟩⟩

/-- Then the channel can be stored, unless its reverse flag is a complex number. -/
theorem InOrder.storedAs_of_codes {c : Channel} (h : c.InOrder) {codes : Codes}
    (found : c.codes = .ok codes) (real : (c.value .reverse).isReal = true) :
    ∃ record, c.StoredAs record := by
  obtain ⟨moded, stepped, shifted, toned, squelched, coded⟩ := codes_eq_ok.mp found
  obtain ⟨channel, number⟩ := Attribute.exists_int? 1000 (h.accepted .number) (by decide)
  obtain ⟨freq, hertz⟩ := Attribute.exists_int? 10000000000 (h.accepted .freq) (by decide)
  obtain ⟨offset, apart⟩ := Attribute.exists_int? 100000000 (h.accepted .offset) (by decide)
  obtain ⟨txFreq, sent⟩ := Attribute.exists_int? 10000000000 (h.accepted .txFreq) (by decide)
  obtain ⟨txStep, rung⟩ := Attribute.exists_int? 10 (h.accepted .txStep) (by decide)
  obtain ⟨reverse, flag⟩ := Option.isSome_iff_exists.mp (h.accepted .reverse)
  obtain ⟨toneOn, first⟩ := exists_flag (c.toneInUse = some .tone)
  obtain ⟨ctcssOn, second⟩ := exists_flag (c.toneInUse = some .squelchTone)
  obtain ⟨dcsOn, third⟩ := exists_flag (c.toneInUse = some .dcsCode)
  obtain ⟨lockout, locked⟩ := exists_flag ((c.value .skip).same (.text "L"))
  exact ⟨⟨channel, freq, codes.step, codes.shift, reverse, toneOn, ctcssOn, dcsOn, codes.tone,
    codes.squelchTone, codes.dcsCode, offset, codes.mode, txFreq, txStep, lockout⟩,
    ⟨number, hertz, apart, sent, rung, stepped, moded, shifted, flagValue_of_below? flag real, toned,
      squelched, coded, first, second, third, locked⟩⟩

theorem InOrder.exists_storedAs {c : Channel} (h : c.InOrder) (real : (c.value .reverse).isReal = true)
    (tone : HasPlace toneIndex? (c.value .tone))
    (squelchTone : HasPlace toneIndex? (c.value .squelchTone)) : ∃ record, c.StoredAs record := by
  obtain ⟨codes, found⟩ := h.exists_codes tone squelchTone
  exact h.storedAs_of_codes found real

/-- What is made of a channel with accepted values is a record. -/
theorem InOrder.exists_check {c : Channel} (h : c.InOrder) {draft : MemoryDraft}
    (drafted : c.toDraft = .ok draft) : ∃ record, draft.check = .ok record := by
  have made := drafted
  unfold toDraft at made
  obtain ⟨codes, coded, made⟩ := bind_eq_ok.mp made
  obtain ⟨reverse, turned, -⟩ := bind_eq_ok.mp made
  obtain ⟨record, stored⟩ :=
    h.storedAs_of_codes (storableCodes_eq_ok.mp coded) (isReal_of_flagValue turned)
  obtain ⟨draft', drafted', fits⟩ := storedAs_iff.mpr stored
  rw [drafted, Except.ok.injEq] at drafted'
  subst drafted'
  exact ⟨record, fits⟩

/-- The channel that is made of a stored record. -/
def recalled (number : Value) (record : MemoryRecord) (shift : Shift) (name : String) : Channel :=
  (((blank.store .number number).store .name (.text "")).withRecord record shift).store .name
    (.text name)

/-- A channel is found as it was stored: some values in the kind in which the radio holds them, and
of several tones only the one that is in use. -/
structure FoundAs (c found : Channel) : Prop where
  number : found.value .number = c.value .number
  freq : found.value .freq = c.value .freq
  offset : found.value .offset = c.value .offset
  txFreq : found.value .txFreq = c.value .txFreq
  txStep : found.value .txStep = c.value .txStep
  duplex : found.value .duplex = c.value .duplex
  skip : found.value .skip = c.value .skip
  tuningStep : (found.value .tuningStep).same (c.value .tuningStep) = true
  reverse : found.value .reverse = .bool (c.value .reverse).truth
  mode : ∃ m : Mode, (c.value .mode = .text m.name ∨ c.value .mode = .text "FM" ∧ m = .narrow) ∧
    found.value .mode = .text m.name ∧ found.value .width = .ofNat m.passband
  toneMode : found.toneMode = c.toneMode
  kept : ∀ a, c.toneInUse = some a → (found.value a).same (c.value a) = true
  cleared : ∀ a ∈ toneSources, c.toneInUse ≠ some a → found.value a = .int 0

theorem Attribute.int_of_isCount {greatest : Int} {v : Value} {n : Nat}
    (h : isCount (some greatest) v = true) (value : v.int? = some (n : Int)) : .ofNat n = v := by
  obtain ⟨m, rfl, least⟩ := isCount_eq h
  exact congrArg Value.int (Option.some.inj value).symm

theorem codeOf_map_eq_ok {α : Type} {n : Nat} {ofName? : String → Option α} {code : α → Fin n}
    {v : Value} {place : Fin n} (h : codeOf (fun s => (ofName? s).map code) v = .ok place) :
    ∃ a, v.text?.bind ofName? = some a ∧ code a = place := by
  obtain ⟨name, given, found⟩ := Option.bind_eq_some_iff.mp (codeOf_eq_ok.mp h)
  obtain ⟨a, known, same⟩ := Option.map_eq_some_iff.mp found
  exact ⟨a, Option.bind_eq_some_iff.mpr ⟨name, given, known⟩, same⟩

namespace StoredAs

variable {c : Channel} {record : MemoryRecord}

theorem shift_eq (h : c.StoredAs record) :
    ∃ shift, Shift.ofRecord record = .ok shift ∧ c.value .duplex = .text shift.name := by
  obtain ⟨shift, named, code⟩ := codeOf_map_eq_ok h.shift
  refine ⟨shift, ?_, Shift.text_of_ofName? named⟩
  rw [Shift.ofRecord, ← code, Shift.ofCode?_code]

theorem mode_eq (h : c.StoredAs record) (accepted : Attribute.isOneOf Mode.names (c.value .mode) = true) :
    c.value .mode = .text (Mode.ofRecord record).name ∨
      c.value .mode = .text "FM" ∧ Mode.ofRecord record = .narrow := by
  obtain ⟨m, named, code⟩ := codeOf_map_eq_ok h.mode
  obtain ⟨s, member, text⟩ := Attribute.isOneOf_eq accepted
  obtain ⟨known, found, spelled⟩ := exists_mode member
  obtain rfl : m = known := by
    rw [text] at named
    exact Option.some.inj (named.symm.trans found)
  rw [Mode.ofRecord, ← code, Mode.ofCode_code, text]
  exact spelled.imp (congrArg Value.text) (And.imp_left (congrArg Value.text))

theorem reverse_eq (h : c.StoredAs record) (accepted : ((c.value .reverse).below? 2).isSome = true) :
    isOn record.reverse = (c.value .reverse).truth := by
  obtain ⟨reverse, flag⟩ := Option.isSome_iff_exists.mp accepted
  have turned := flagValue_of_below? flag (isReal_of_flagValue h.reverse)
  have yes := truth_of_below? flag
  have integers : (record.reverse.val : Int) = reverse.val := by
    rw [h.reverse] at turned
    exact Except.ok.inj turned
  rw [yes, Fin.ext (Int.ofNat_inj.mp integers)]

theorem skip_eq (h : c.StoredAs record) (accepted : Attribute.isOneOf skipValues (c.value .skip) = true) :
    .text (if isOn record.lockout then "L" else "") = c.value .skip := by
  obtain ⟨mark, member, text⟩ := Attribute.isOneOf_eq accepted
  have locked : isOn record.lockout = (Value.text mark).same (.text "L") := text ▸ h.lockout
  simp only [skipValues, List.mem_cons, List.not_mem_nil, or_false] at member
  rw [locked, text]
  rcases member with rfl | rfl <;> rfl

end StoredAs

/-- Of the tones of a channel, at most the one in use is on in its record. -/
theorem StoredAs.exclusive {c : Channel} {record : MemoryRecord} (h : c.StoredAs record) :
    record.Exclusive := by
  have number : ∀ flag : Fin 2, flag.val = if isOn flag then 1 else 0 := by decide
  unfold MemoryRecord.Exclusive
  rw [number record.toneOn, number record.ctcssOn, number record.dcsOn, h.toneOn, h.ctcssOn, h.dcsOn]
  rcases used : c.toneInUse with _ | a
  · decide
  · cases a <;> decide

theorem found_if {flag : Fin 2} {used : Prop} [Decidable used] (on : isOn flag = decide used)
    {v w : Value} (same : used → w.same v = true) (yes : w.truth = true) :
    (used → ((if isOn flag then some w else none).getD (.int 0)).same v = true ∧
      ((if isOn flag then some w else none).getD (.int 0)).truth = true) ∧
      (¬ used → (if isOn flag then some w else none).getD (.int 0) = .int 0) := by
  by_cases h : used
  · rw [on, decide_eq_true h]
    exact ⟨fun _ => ⟨same h, yes⟩, fun unused => absurd h unused⟩
  · rw [on, decide_eq_false h]
    exact ⟨fun used => absurd used h, fun _ => rfl⟩

theorem place_of_used {n : Nat} {place? : Value → Option (Fin (n + 1))} {c : Channel} {a : Attribute}
    {place : Fin (n + 1)} (h : placeInUse place? (c.value a) = .ok place)
    (used : c.toneInUse = some a) : place? (c.value a) = some place := by
  have yes : (c.value a).truth = true := List.find?_some (p := fun a => (c.value a).truth) used
  rw [placeInUse_eq_ok, if_pos yes] at h
  exact h

theorem StoredAs.tones_found {c : Channel} {record : MemoryRecord} (h : c.StoredAs record)
    (number : Value) (shift : Shift) (name : String) {a : Attribute} (source : a ∈ toneSources) :
    (c.toneInUse = some a → ((recalled number record shift name).value a).same (c.value a) = true ∧
      ((recalled number record shift name).value a).truth = true) ∧
      (c.toneInUse ≠ some a → (recalled number record shift name).value a = .int 0) := by
  simp only [toneSources, List.mem_cons, List.not_mem_nil, or_false] at source
  rcases source with rfl | rfl | rfl
  · exact found_if h.toneOn (fun used => same_of_findFinIdx? (place_of_used h.toneIndex used))
      (tones_truth _)
  · exact found_if h.ctcssOn (fun used => same_of_findFinIdx? (place_of_used h.ctcssIndex used))
      (tones_truth _)
  · exact found_if h.dcsOn (fun used => same_of_findFinIdx? (place_of_used h.dcsIndex used))
      (dcsCodes_truth _)

/-- Only the tone in use is found, so it is in use again. -/
theorem StoredAs.toneInUse_found {c : Channel} {record : MemoryRecord} (h : c.StoredAs record)
    (number : Value) (shift : Shift) (name : String) :
    (recalled number record shift name).toneInUse = c.toneInUse := by
  have counts : ∀ a ∈ toneSources,
      ((recalled number record shift name).value a).truth = decide (c.toneInUse = some a) := by
    intro a source
    obtain ⟨used, unused⟩ := h.tones_found number shift name source
    by_cases inUse : c.toneInUse = some a
    · rw [(used inUse).2, decide_eq_true inUse]
    · rw [unused inUse, decide_eq_false inUse]
      rfl
  -- No two sources count, so the first one that counts is the one in use.
  have only : toneSources.find? (fun a => decide (c.toneInUse = some a)) = c.toneInUse := by
    cases inUse : c.toneInUse with
    | none => rfl
    | some a =>
        have source : a ∈ toneSources := List.mem_of_find?_eq_some inUse
        simp only [toneSources, List.mem_cons, List.not_mem_nil, or_false] at source
        rcases source with rfl | rfl | rfl <;> rfl
  have first := counts .tone (by decide)
  have second := counts .squelchTone (by decide)
  have third := counts .dcsCode (by decide)
  rw [toneInUse, ← only]
  simp only [toneSources, List.find?_cons, List.find?_nil, first, second, third]

theorem StoredAs.foundAs {c : Channel} {record : MemoryRecord} (h : c.StoredAs record)
    (order : c.InOrder) {shift : Shift} (shifted : Shift.ofRecord record = .ok shift) (name : String) :
    c.FoundAs (recalled (c.value .number) record shift name) := by
  obtain ⟨own, same, duplex⟩ := h.shift_eq
  obtain rfl : own = shift := by
    rw [shifted] at same
    exact (Except.ok.inj same).symm
  constructor
  case number => rfl
  case freq => exact Attribute.int_of_isCount (order.accepted .freq) h.freq
  case offset => exact Attribute.int_of_isCount (order.accepted .offset) h.offset
  case txFreq => exact Attribute.int_of_isCount (order.accepted .txFreq) h.txFreq
  case txStep => exact Attribute.int_of_isCount (order.accepted .txStep) h.txStep
  case duplex => exact duplex.symm
  case skip => exact h.skip_eq (order.accepted .skip)
  case tuningStep => exact same_of_findFinIdx? (placeOf_eq_ok.mp h.step)
  case reverse => exact congrArg Value.bool (h.reverse_eq (order.accepted .reverse))
  case mode => exact ⟨Mode.ofRecord record, h.mode_eq (order.accepted .mode), rfl, rfl⟩
  case toneMode => rw [toneMode_eq, toneMode_eq, h.toneInUse_found]
  case kept =>
    intro a used
    exact ((h.tones_found _ _ _ (List.mem_of_find?_eq_some used)).1 used).1
  case cleared => exact fun a source unused => (h.tones_found _ _ _ source).2 unused

end Channel

end Transceiver
