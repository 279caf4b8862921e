import Transceiver.Proofs.Conversation
import Transceiver.Proofs.Grids
import Transceiver.Proofs.Performing

/-! Changes of a VFO: the settings a host may make, each with the value it sets. What a change
makes of a memory record is said here field by field, apart from how it is carried out. -/
namespace Transceiver

open Record

inductive Direction where
  | receiving
  | transmitting
  deriving DecidableEq, Repr

inductive Change where
  | frequency (direction : Direction) (hertz : Value)
  | mode (name : Value)
  | setting (setting : Setting) (value : Value)

theorem Value.intBelow?_eq_some {size : Nat} {v : Value} {n : Fin size} :
    v.intBelow? size = some n ↔ v.int? = some (n.val : Int) := by
  unfold Value.intBelow?
  cases v.int? with
  | none => simp
  | some k =>
      by_cases fits : 0 ≤ k ∧ k.toNat < size
      · simp only [fits, and_self, dif_pos, Option.some.injEq, Fin.ext_iff]
        omega
      · have := n.isLt
        simp only [fits, dif_neg, not_false_eq_true, reduceCtorEq, Option.some.injEq, false_iff]
        omega

theorem checked_eq_ok {size : Nat} {line label : String} {v : Value} {n : Fin size} :
    checked line label size v = .ok n ↔ v.int? = some (n.val : Int) := by
  rw [← Value.intBelow?_eq_some]
  unfold checked
  cases v.intBelow? size <;> simp

theorem bind_eq_ok {ε α β : Type} {e : Except ε α} {next : α → Except ε β} {b : β} :
    (e >>= next) = .ok b ↔ ∃ a, e = .ok a ∧ next a = .ok b := by
  constructor
  · intro h
    cases e with
    | error why => cases h
    | ok a => exact ⟨a, rfl, h⟩
  · rintro ⟨a, rfl, h⟩
    exact h

theorem bind_eq_error {ε α β : Type} {e : Except ε α} {next : α → Except ε β} {why : ε} :
    (e >>= next) = .error why ↔ e = .error why ∨ ∃ a, e = .ok a ∧ next a = .error why := by
  cases e with
  | ok a =>
      constructor
      · exact fun h => .inr ⟨a, rfl, h⟩
      · rintro (h | ⟨_, ⟨⟩, h⟩)
        · cases h
        · exact h
  | error other =>
      constructor
      · rintro ⟨⟩
        exact .inl rfl
      · rintro (h | ⟨_, ⟨⟩, _⟩)
        cases h
        rfl

theorem map_eq_ok {ε α β : Type} {e : Except ε α} {f : α → β} {b : β} :
    e.map f = .ok b ↔ ∃ a, e = .ok a ∧ f a = b := by
  cases e with
  | error why => exact ⟨nofun, nofun⟩
  | ok a => simp [Except.map]

theorem functor_map_eq_ok {ε α β : Type} {e : Except ε α} {f : α → β} {b : β} :
    f <$> e = .ok b ↔ ∃ a, e = .ok a ∧ f a = b :=
  map_eq_ok

theorem mapError_eq_ok {ε ε' α : Type} {e : Except ε α} {f : ε → ε'} {a : α} :
    e.mapError f = .ok a ↔ e = .ok a := by
  cases e with
  | error why => exact ⟨nofun, nofun⟩
  | ok b =>
      change Except.ok b = Except.ok a ↔ _
      rw [Except.ok.injEq, Except.ok.injEq]

theorem mapError_eq_error {ε ε' α : Type} {e : Except ε α} {f : ε → ε'} {why : ε'} :
    e.mapError f = .error why ↔ ∃ cause, e = .error cause ∧ f cause = why := by
  cases e with
  | error cause =>
      change Except.error (f cause) = Except.error why ↔ _
      simp
  | ok a => exact ⟨nofun, nofun⟩

/-- A draft is accepted if each value is an integer that the field holds, and then the record holds
these integers. -/
theorem MemoryDraft.check_eq_ok {d : MemoryDraft} {r : MemoryRecord} :
    d.check = .ok r ↔ d.values.map Value.int? = r.values.map fun n : Nat => some (n : Int) := by
  simp only [check, bind_eq_ok, checked_eq_ok, pure, Except.pure, Except.ok.injEq, values,
    MemoryRecord.values, List.map_cons, List.map_nil, List.cons.injEq, and_true]
  constructor
  · rintro ⟨_, h1, _, h2, _, h3, _, h4, _, h5, _, h6, _, h7, _, h8, _, h9, _, h10, _, h11, _, h12,
      _, h13, _, h14, _, h15, _, h16, rfl⟩
    exact ⟨h1, h2, h3, h4, h5, h6, h7, h8, h9, h10, h11, h12, h13, h14, h15, h16⟩
  · rintro ⟨h1, h2, h3, h4, h5, h6, h7, h8, h9, h10, h11, h12, h13, h14, h15, h16⟩
    exact ⟨_, h1, _, h2, _, h3, _, h4, _, h5, _, h6, _, h7, _, h8, _, h9, _, h10, _, h11, _, h12,
      _, h13, _, h14, _, h15, _, h16, rfl⟩

theorem checked_ofNat {size : Nat} (line label : String) (n : Fin size) :
    checked line label size (.ofNat n) = .ok n := checked_eq_ok.mpr rfl

theorem checked_beyond {size : Nat} (line label : String) {n : Int} (beyond : (size : Int) ≤ n) :
    checked line label size (.int n) = .error (.field label (.int n) line) := by
  have outside : ¬ (0 ≤ n ∧ n.toNat < size) := by omega
  simp only [checked, Value.intBelow?, Value.int?, outside, dif_neg, not_false_eq_true]

/-- An update to an offset that the field does not hold fits no record. -/
theorem offset_unfit (old : MemoryRecord) {n : Int} (beyond : 100000000 ≤ n) :
    (old.toDraft.overlay { offset := some (.int n) }).check =
      .error (.field "offset" (.int n) "ME") := by
  simp only [MemoryDraft.check, MemoryDraft.overlay, MemoryRecord.toDraft, Option.getD_none,
    Option.getD_some, checked_ofNat, checked_beyond "ME" "offset" beyond]
  rfl

/-- What an update gives for a field, or else the old number. -/
def Overlaid (given : Option Value) (old new : Nat) : Prop :=
  match given with
  | none => new = old
  | some v => v.int? = some (new : Int)

theorem int?_getD_ofNat {given : Option Value} {old new : Nat} :
    (given.getD (.ofNat old)).int? = some (new : Int) ↔ Overlaid given old new := by
  cases given with
  | none =>
      simp only [Option.getD_none, Overlaid, Value.ofNat, Value.int?, Option.some.injEq]
      omega
  | some v => exact Iff.rfl

@[simp] theorem overlaid_none {old new : Nat} : Overlaid none old new ↔ new = old := Iff.rfl

@[simp] theorem overlaid_int {n : Int} {old new : Nat} :
    Overlaid (some (.int n)) old new ↔ n = (new : Int) :=
  Option.some_inj

@[simp] theorem overlaid_ofNat {n old new : Nat} :
    Overlaid (some (.ofNat n)) old new ↔ n = new := by
  rw [Value.ofNat, overlaid_int, Int.ofNat_inj]

theorem check_overlay {old new : MemoryRecord} {u : MemoryUpdate} :
    (old.toDraft.overlay u).check = .ok new ↔
      new.channel = old.channel ∧ Overlaid u.freq old.freq new.freq ∧
      Overlaid u.step old.step new.step ∧ Overlaid u.shift old.shift new.shift ∧
      Overlaid u.reverse old.reverse new.reverse ∧ Overlaid u.toneOn old.toneOn new.toneOn ∧
      Overlaid u.ctcssOn old.ctcssOn new.ctcssOn ∧ Overlaid u.dcsOn old.dcsOn new.dcsOn ∧
      Overlaid u.toneIndex old.toneIndex new.toneIndex ∧
      Overlaid u.ctcssIndex old.ctcssIndex new.ctcssIndex ∧
      Overlaid u.dcsIndex old.dcsIndex new.dcsIndex ∧ Overlaid u.offset old.offset new.offset ∧
      Overlaid u.mode old.mode new.mode ∧ Overlaid u.txFreq old.txFreq new.txFreq ∧
      Overlaid u.txStep old.txStep new.txStep ∧ Overlaid u.lockout old.lockout new.lockout := by
  have number : (Value.ofNat old.channel.val).int? = some (new.channel.val : Int) ↔
      new.channel = old.channel := by
    simp only [Value.ofNat, Value.int?, Option.some.injEq, Fin.ext_iff]
    omega
  simp only [MemoryDraft.check_eq_ok, MemoryDraft.values, MemoryRecord.values, MemoryDraft.overlay,
    MemoryRecord.toDraft, List.map_cons, List.map_nil, List.cons.injEq, and_true, int?_getD_ofNat,
    number]

namespace MemoryUpdate

/-- What an update gives, field by field. -/
def fields (u : MemoryUpdate) : List (Option Value) :=
  [u.freq, u.step, u.shift, u.reverse, u.toneOn, u.ctcssOn, u.dcsOn, u.toneIndex, u.ctcssIndex,
   u.dcsIndex, u.offset, u.mode, u.txFreq, u.txStep, u.lockout]

end MemoryUpdate

/-- What an update gives for each of some fields, or else the old number. -/
def OverlaidAll : List (Option Value) → List Nat → List Nat → Prop
  | [], [], [] => True
  | given :: others, old :: olds, new :: news => Overlaid given old new ∧ OverlaidAll others olds news
  | _, _, _ => False

theorem check_overlay_iff {old new : MemoryRecord} {u : MemoryUpdate} :
    (old.toDraft.overlay u).check = .ok new ↔
      new.channel = old.channel ∧ OverlaidAll u.fields old.values.tail new.values.tail := by
  simp only [check_overlay, MemoryUpdate.fields, MemoryRecord.values, List.tail_cons, OverlaidAll,
    and_true]

theorem Overlaid.unique {given : Option Value} {old new new' : Nat} (h : Overlaid given old new)
    (h' : Overlaid given old new') : new = new' := by
  cases given with
  | none => exact h.trans h'.symm
  | some v => exact Int.ofNat_inj.mp (Option.some.inj (h.symm.trans h'))

theorem Overlaid.again {given : Option Value} {old new : Nat} (h : Overlaid given old new) :
    Overlaid given new new := by
  cases given with
  | none => rfl
  | some v => exact h

theorem OverlaidAll.again {given : List (Option Value)} {old new : List Nat}
    (h : OverlaidAll given old new) : OverlaidAll given new new := by
  fun_induction OverlaidAll given old new with
  | case1 => trivial
  | case2 given others old olds new news ih => exact ⟨h.1.again, ih h.2⟩
  | case3 => cases h

/-- An update that was laid over a record makes no difference to the outcome. -/
theorem overlay_again {old new : MemoryRecord} {u : MemoryUpdate}
    (h : (old.toDraft.overlay u).check = .ok new) : (new.toDraft.overlay u).check = .ok new :=
  check_overlay_iff.mpr ⟨rfl, (check_overlay_iff.mp h).2.again⟩

theorem frequencyUpdate_eq_ok {hertz : Value} {u : MemoryUpdate} :
    frequencyUpdate hertz = .ok u ↔ ∃ n, hertz.int? = some n ∧ Frequency.receivable n = true ∧
      u = { freq := some (.int (Frequency.snap n).hertz),
            step := some (.ofNat (Frequency.snap n).step) } := by
  unfold frequencyUpdate
  cases hertz.int? with
  | none => simp
  | some n =>
      by_cases received : Frequency.receivable n = true
      · simp only [received, if_true, Except.ok.injEq]
        constructor
        · rintro rfl
          exact ⟨n, rfl, received, rfl⟩
        · rintro ⟨_, ⟨⟩, _, rfl⟩
          rfl
      · simp only [received, if_false, Bool.false_eq_true, reduceCtorEq, false_iff]
        rintro ⟨_, ⟨⟩, received', _⟩
        exact received received'

theorem modeUpdate_eq_ok {name : Value} {u : MemoryUpdate} :
    modeUpdate name = .ok u ↔
      ∃ m, name.text?.bind Mode.ofName? = some m ∧ u = { mode := some (.ofNat m.code) } := by
  unfold modeUpdate
  cases name.text?.bind Mode.ofName? with
  | none => simp
  | some m => simp [eq_comm]

namespace Setting

theorem stepUpdate_eq_ok {v : Value} {u : MemoryUpdate} :
    stepUpdate v = .ok u ↔ ∃ i, stepIndex? v = some i ∧ u = { step := some (.ofNat i) } := by
  unfold stepUpdate
  cases stepIndex? v with
  | none => simp
  | some i => simp [eq_comm]

theorem toneUpdate_eq_ok {v : Value} {u : MemoryUpdate} :
    toneUpdate v = .ok u ↔ (v.truth = false ∧ u = { toneOn := some (.ofNat 0) }) ∨
      ∃ i, v.truth = true ∧ toneIndex? v = some i ∧
        u = { toneOn := some (.ofNat 1), ctcssOn := some (.ofNat 0), dcsOn := some (.ofNat 0),
              toneIndex := some (.ofNat i) } := by
  unfold toneUpdate
  cases v.truth with
  | false => simp [eq_comm]
  | true => cases toneIndex? v <;> simp [eq_comm]

theorem squelchToneUpdate_eq_ok {v : Value} {u : MemoryUpdate} :
    squelchToneUpdate v = .ok u ↔ (v.truth = false ∧ u = { ctcssOn := some (.ofNat 0) }) ∨
      ∃ i, v.truth = true ∧ toneIndex? v = some i ∧
        u = { toneOn := some (.ofNat 0), ctcssOn := some (.ofNat 1), dcsOn := some (.ofNat 0),
              ctcssIndex := some (.ofNat i) } := by
  unfold squelchToneUpdate
  cases v.truth with
  | false => simp [eq_comm]
  | true => cases toneIndex? v <;> simp [eq_comm]

theorem dcsCodeUpdate_eq_ok {v : Value} {u : MemoryUpdate} :
    dcsCodeUpdate v = .ok u ↔ (v.truth = false ∧ u = { dcsOn := some (.ofNat 0) }) ∨
      ∃ i, v.truth = true ∧ dcsIndex? v = some i ∧
        u = { toneOn := some (.ofNat 0), ctcssOn := some (.ofNat 0), dcsOn := some (.ofNat 1),
              dcsIndex := some (.ofNat i) } := by
  unfold dcsCodeUpdate
  cases v.truth with
  | false => simp [eq_comm]
  | true => cases dcsIndex? v <;> simp [eq_comm]

theorem shiftUpdate_eq_ok {v : Value} {u : MemoryUpdate} :
    shiftUpdate v = .ok u ↔
      ∃ s, v.text?.bind Shift.ofName? = some s ∧ u = { shift := some (.ofNat s.code) } := by
  unfold shiftUpdate
  cases v.text?.bind Shift.ofName? with
  | none => simp
  | some s => simp [eq_comm]

theorem offsetUpdate_eq_ok {v : Value} {u : MemoryUpdate} :
    offsetUpdate v = .ok u ↔ ∃ n, v.intBelow? 100000000 = some n ∧
      u = { offset := some (.int (Frequency.snap n.val).hertz) } := by
  unfold offsetUpdate
  cases v.intBelow? 100000000 with
  | none => simp
  | some n => simp [eq_comm]

/-- What is said about a value that a setting does not take. -/
def refusal : Setting → Value → ArgumentFault
  | .step => .step
  | .tone | .squelchTone => .tone
  | .dcsCode => .dcsCode
  | .shift => .shift
  | .offset => .offset

theorem isWritable_refusal (which : Setting) (v : Value) :
    (which.refusal v).isWritable = v.isWritable := by
  cases which <;> rfl

/-- A value is refused by name, or as a shift it is of a kind that no name is of. -/
theorem update_eq_error {which : Setting} {v : Value} {why : Fault}
    (failed : which.update v = .error why) :
    why = .ofArgument (which.refusal v) ∨ which = .shift ∧ v.isKey = false ∧ why = .mistyped := by
  cases which with
  | step =>
      change stepUpdate v = _ at failed
      unfold stepUpdate at failed
      split at failed <;> cases failed
      exact .inl rfl
  | tone =>
      change toneUpdate v = _ at failed
      unfold toneUpdate at failed
      split at failed
      · split at failed <;> cases failed
        exact .inl rfl
      · cases failed
  | squelchTone =>
      change squelchToneUpdate v = _ at failed
      unfold squelchToneUpdate at failed
      split at failed
      · split at failed <;> cases failed
        exact .inl rfl
      · cases failed
  | dcsCode =>
      change dcsCodeUpdate v = _ at failed
      unfold dcsCodeUpdate at failed
      split at failed
      · split at failed <;> cases failed
        exact .inl rfl
      · cases failed
  | shift =>
      change shiftUpdate v = _ at failed
      unfold shiftUpdate at failed
      split at failed <;> cases failed
      by_cases key : v.isKey = true
      · exact .inl (if_pos key)
      · exact .inr ⟨rfl, Bool.eq_false_iff.mpr key, if_neg key⟩
  | offset =>
      change offsetUpdate v = _ at failed
      unfold offsetUpdate at failed
      split at failed <;> cases failed
      exact .inl rfl

end Setting

namespace Change

def request (vfo : Value) : Change → Request
  | .frequency .receiving hertz => .setFrequency vfo hertz
  | .frequency .transmitting hertz => .setSplitFrequency vfo hertz
  | .mode name => .setMode vfo name
  | .setting which v => .set which vfo v

/-- The new record has the fields that a change names set to its value, and the other fields as in
the old one. No tone or code leaves its own flag off; one that is listed is the only one on. -/
inductive Edits : Change → MemoryRecord → MemoryRecord → Prop
  | frequency {direction hertz n freq} {old : MemoryRecord} (whole : hertz.int? = some n)
      (received : Frequency.receivable n = true)
      (snapped : (freq.val : Int) = (Frequency.snap n).hertz) :
      Edits (.frequency direction hertz) old { old with freq, step := (Frequency.snap n).step }
  | mode {name m} {old : MemoryRecord} (named : name.text?.bind Mode.ofName? = some m) :
      Edits (.mode name) old { old with mode := m.code }
  | step {v i} {old : MemoryRecord} (listed : stepIndex? v = some i) :
      Edits (.setting .step v) old { old with step := i }
  | noTone {v} {old : MemoryRecord} (no : v.truth = false) :
      Edits (.setting .tone v) old { old with toneOn := 0 }
  | tone {v i} {old : MemoryRecord} (yes : v.truth = true) (listed : toneIndex? v = some i) :
      Edits (.setting .tone v) old { old with toneOn := 1, ctcssOn := 0, dcsOn := 0, toneIndex := i }
  | noSquelchTone {v} {old : MemoryRecord} (no : v.truth = false) :
      Edits (.setting .squelchTone v) old { old with ctcssOn := 0 }
  | squelchTone {v i} {old : MemoryRecord} (yes : v.truth = true) (listed : toneIndex? v = some i) :
      Edits (.setting .squelchTone v) old
        { old with toneOn := 0, ctcssOn := 1, dcsOn := 0, ctcssIndex := i }
  | noDcsCode {v} {old : MemoryRecord} (no : v.truth = false) :
      Edits (.setting .dcsCode v) old { old with dcsOn := 0 }
  | dcsCode {v i} {old : MemoryRecord} (yes : v.truth = true) (listed : dcsIndex? v = some i) :
      Edits (.setting .dcsCode v) old
        { old with toneOn := 0, ctcssOn := 0, dcsOn := 1, dcsIndex := i }
  | shift {v s} {old : MemoryRecord} (named : v.text?.bind Shift.ofName? = some s) :
      Edits (.setting .shift v) old { old with shift := s.code }
  | offset {v n offset} {old : MemoryRecord} (whole : v.intBelow? 100000000 = some n)
      (snapped : (offset.val : Int) = (Frequency.snap n.val).hertz) :
      Edits (.setting .offset v) old { old with offset }

theorem Edits.channel_eq {change : Change} {old new : MemoryRecord} (h : change.Edits old new) :
    new.channel = old.channel := by
  cases h <;> rfl

def update : Change → Except Fault MemoryUpdate
  | .frequency _ hertz => frequencyUpdate hertz
  | .mode name => modeUpdate name
  | .setting which v => which.update v

/-- The VFO that a change is about: split redirects frequencies and the mode. -/
def redirect (r : Rig) (vfo : Value) : Change → Except Fault Value
  | .frequency .receiving _ | .mode _ => (r.receivingVfo vfo).mapError .radio
  | .frequency .transmitting _ => (r.transmittingVfo vfo).mapError .radio
  | .setting _ _ => .ok vfo

/-- A change is about the VFO that is named, or about one that split directs it to. -/
theorem redirect_eq_ok {r : Rig} {vfo target : Value} {change : Change}
    (h : change.redirect r vfo = .ok target) : target = vfo ∨ ∃ band : Band, target = .text band.vfo := by
  have either : ∀ own : Session → Band,
      (r.openSession >>= fun s => pure (if s.split then .text (own s).vfo else vfo)) = .ok target →
        target = vfo ∨ ∃ band : Band, target = .text band.vfo := by
    intro own found
    obtain ⟨s, -, same⟩ := bind_eq_ok.mp found
    cases same
    cases s.split
    · exact .inl rfl
    · exact .inr ⟨own s, rfl⟩
  cases change with
  | frequency direction hertz =>
      cases direction with
      | receiving => exact either Session.receive (mapError_eq_ok.mp h)
      | transmitting => exact either Session.transmit (mapError_eq_ok.mp h)
  | mode name => exact either Session.receive (mapError_eq_ok.mp h)
  | setting which v => exact .inl (Except.ok.inj h).symm

/-- The VFO and the fields to change. A mode is looked at before the session is. -/
def prepared (r : Rig) (vfo : Value) (change : Change) : Except Fault (Value × MemoryUpdate) :=
  match change with
  | .mode _ => do
    let u ← change.update
    return (← change.redirect r vfo, u)
  | _ => do
    let target ← change.redirect r vfo
    return (target, ← change.update)

/-- Everything about a change is settled before anything is sent. -/
theorem perform_request (r : Rig) (vfo : Value) (change : Change) :
    r.perform (change.request vfo) =
      Dialogue.ofExcept (change.prepared r vfo) >>= fun p =>
        Rig.changeVfo p.1 p.2 >>= fun _ => pure (Answer.nothing, r) := by
  cases change with
  | frequency direction hertz =>
      cases direction with
      | receiving =>
          refine (Rig.dialogue_doing _ r).trans ?_
          simp only [Rig.setFrequency, prepared, redirect, update]
          cases r.receivingVfo vfo <;> cases frequencyUpdate hertz <;> rfl
      | transmitting =>
          refine (Rig.dialogue_doing _ r).trans ?_
          simp only [Rig.setSplitFrequency, prepared, redirect, update]
          cases r.transmittingVfo vfo <;> cases frequencyUpdate hertz <;> rfl
  | mode name =>
      refine (Rig.dialogue_doing _ r).trans ?_
      simp only [Rig.setMode, prepared, redirect, update]
      cases modeUpdate name <;> cases r.receivingVfo vfo <;> rfl
  | setting which v =>
      refine (Rig.dialogue_doing _ r).trans ?_
      simp only [Rig.set, prepared, redirect, update]
      cases which.update v <;> rfl

theorem prepared_eq_ok {r : Rig} {vfo target : Value} {change : Change} {u : MemoryUpdate} :
    change.prepared r vfo = .ok (target, u) ↔
      change.redirect r vfo = .ok target ∧ change.update = .ok u := by
  unfold prepared
  cases change with
  | frequency direction hertz =>
      dsimp only
      cases redirect r vfo (.frequency direction hertz) <;>
        cases update (.frequency direction hertz) <;> simp [bind, Except.bind, pure, Except.pure]
  | mode name =>
      dsimp only
      cases redirect r vfo (.mode name) <;> cases update (.mode name) <;>
        simp [bind, Except.bind, pure, Except.pure]
  | setting which v =>
      dsimp only
      cases redirect r vfo (.setting which v) <;> cases update (.setting which v) <;>
        simp [bind, Except.bind, pure, Except.pure]

theorem prepared_refused {r : Rig} {vfo target : Value} {change : Change} {why : Fault}
    (redirected : change.redirect r vfo = .ok target) (refused : change.update = .error why) :
    change.prepared r vfo = .error why := by
  unfold prepared
  rw [redirected, refused]
  cases change <;> rfl

/-- A new value that is refused is refused before anything is said. -/
theorem perform_refused {r : Rig} {vfo target : Value} {change : Change} {why : Fault}
    (redirected : change.redirect r vfo = .ok target) (refused : change.update = .error why) :
    r.perform (change.request vfo) = .fail why := by
  rw [perform_request, prepared_refused redirected refused]
  rfl

theorem update_unreceivable (direction : Direction) {hertz : Int}
    (unreceived : Frequency.receivable hertz = false) :
    (frequency direction (.int hertz)).update = .error (.ofArgument (.unreceivable hertz)) := by
  simp [update, frequencyUpdate, Value.int?, unreceived]

/-- A change that edits a record has an update, and this laid over the record checks as the edited
one. -/
theorem Edits.check {change : Change} {old new : MemoryRecord} (h : change.Edits old new) :
    ∃ u, change.update = .ok u ∧ (old.toDraft.overlay u).check = .ok new := by
  cases h with
  | frequency whole received snapped =>
      refine ⟨_, frequencyUpdate_eq_ok.mpr ⟨_, whole, received, rfl⟩, ?_⟩
      simp [check_overlay, snapped]
  | mode named =>
      refine ⟨_, modeUpdate_eq_ok.mpr ⟨_, named, rfl⟩, ?_⟩
      simp [check_overlay]
  | step listed =>
      refine ⟨_, Setting.stepUpdate_eq_ok.mpr ⟨_, listed, rfl⟩, ?_⟩
      simp [check_overlay]
  | noTone no =>
      refine ⟨_, Setting.toneUpdate_eq_ok.mpr (.inl ⟨no, rfl⟩), ?_⟩
      simp [check_overlay]
  | tone yes listed =>
      refine ⟨_, Setting.toneUpdate_eq_ok.mpr (.inr ⟨_, yes, listed, rfl⟩), ?_⟩
      simp [check_overlay]
  | noSquelchTone no =>
      refine ⟨_, Setting.squelchToneUpdate_eq_ok.mpr (.inl ⟨no, rfl⟩), ?_⟩
      simp [check_overlay]
  | squelchTone yes listed =>
      refine ⟨_, Setting.squelchToneUpdate_eq_ok.mpr (.inr ⟨_, yes, listed, rfl⟩), ?_⟩
      simp [check_overlay]
  | noDcsCode no =>
      refine ⟨_, Setting.dcsCodeUpdate_eq_ok.mpr (.inl ⟨no, rfl⟩), ?_⟩
      simp [check_overlay]
  | dcsCode yes listed =>
      refine ⟨_, Setting.dcsCodeUpdate_eq_ok.mpr (.inr ⟨_, yes, listed, rfl⟩), ?_⟩
      simp [check_overlay]
  | shift named =>
      refine ⟨_, Setting.shiftUpdate_eq_ok.mpr ⟨_, named, rfl⟩, ?_⟩
      simp [check_overlay]
  | offset whole snapped =>
      refine ⟨_, Setting.offsetUpdate_eq_ok.mpr ⟨_, whole, rfl⟩, ?_⟩
      simp [check_overlay, snapped]

/-- A change whose value is accepted can be made to any record, as long as its offset, if it sets one,
fits the field for it. Frequencies fit by themselves. -/
theorem exists_edits {change : Change} {u : MemoryUpdate} (accepted : change.update = .ok u)
    (old : MemoryRecord)
    (room : ∀ v n, change = .setting .offset v → v.intBelow? 100000000 = some n →
      ∃ offset : Fin 100000000, (offset.val : Int) = (Frequency.snap n.val).hertz) :
    ∃ new, change.Edits old new := by
  cases change with
  | frequency direction hertz =>
      obtain ⟨n, whole, received, -⟩ := frequencyUpdate_eq_ok.mp accepted
      obtain ⟨freq, snapped⟩ := Frequency.snap_fits received
      exact ⟨_, .frequency whole received snapped⟩
  | mode name =>
      obtain ⟨m, named, -⟩ := modeUpdate_eq_ok.mp accepted
      exact ⟨_, .mode named⟩
  | setting which v =>
      cases which with
      | step =>
          obtain ⟨i, listed, -⟩ := Setting.stepUpdate_eq_ok.mp accepted
          exact ⟨_, .step listed⟩
      | tone =>
          rcases Setting.toneUpdate_eq_ok.mp accepted with
            ⟨no, -⟩ | ⟨i, yes, listed, -⟩
          · exact ⟨_, .noTone no⟩
          · exact ⟨_, .tone yes listed⟩
      | squelchTone =>
          rcases Setting.squelchToneUpdate_eq_ok.mp accepted with
            ⟨no, -⟩ | ⟨i, yes, listed, -⟩
          · exact ⟨_, .noSquelchTone no⟩
          · exact ⟨_, .squelchTone yes listed⟩
      | dcsCode =>
          rcases Setting.dcsCodeUpdate_eq_ok.mp accepted with
            ⟨no, -⟩ | ⟨i, yes, listed, -⟩
          · exact ⟨_, .noDcsCode no⟩
          · exact ⟨_, .dcsCode yes listed⟩
      | shift =>
          obtain ⟨s, named, -⟩ := Setting.shiftUpdate_eq_ok.mp accepted
          exact ⟨_, .shift named⟩
      | offset =>
          obtain ⟨n, whole, -⟩ := Setting.offsetUpdate_eq_ok.mp accepted
          obtain ⟨offset, snapped⟩ := room v n rfl whole
          exact ⟨_, .offset whole snapped⟩

/-- The only update that a record has no room for sets an offset, which the grid moves out of its field. -/
theorem offset_of_unfit {change : Change} {u : MemoryUpdate} (given : change.update = .ok u)
    {old : MemoryRecord} {why : ArgumentFault} (unfit : (old.toDraft.overlay u).check = .error why) :
    (∃ v, change = .setting .offset v) ∧ why = .field "offset" (.int 100000000) "ME" := by
  by_cases lifted : ∃ v n, change = .setting .offset v ∧ v.intBelow? 100000000 = some n ∧
      99997500 ≤ (n.val : Int)
  · obtain ⟨v, n, rfl, whole, high⟩ := lifted
    obtain ⟨n', whole', rfl⟩ := Setting.offsetUpdate_eq_ok.mp given
    rw [whole, Option.some.injEq] at whole'
    subst whole'
    rw [Frequency.snap_beyond high (by omega), offset_unfit old (Int.le_refl _)] at unfit
    cases unfit
    exact ⟨⟨v, rfl⟩, rfl⟩
  · obtain ⟨new, edits⟩ := exists_edits given old fun v n same whole =>
      Frequency.snap_below (Int.natCast_nonneg n.val)
        (Int.not_le.mp fun high => lifted ⟨v, n, same, whole, high⟩)
    obtain ⟨u', given', fits⟩ := edits.check
    rw [given, Except.ok.injEq] at given'
    subst given'
    cases unfit.symm.trans fits

/-- An update changes nothing but what its change names. -/
theorem edits_of_check {change : Change} {old new : MemoryRecord} {u : MemoryUpdate}
    (given : change.update = .ok u) (fits : (old.toDraft.overlay u).check = .ok new) :
    change.Edits old new := by
  have room : ∀ v n, change = .setting .offset v → v.intBelow? 100000000 = some n →
      ∃ offset : Fin 100000000, (offset.val : Int) = (Frequency.snap n.val).hertz := by
    rintro v n rfl whole
    obtain ⟨n', whole', rfl⟩ := Setting.offsetUpdate_eq_ok.mp given
    rw [whole, Option.some.injEq] at whole'
    subst whole'
    have snapped := (check_overlay.mp fits).2.2.2.2.2.2.2.2.2.2.2.1
    exact ⟨new.offset, (overlaid_int.mp snapped).symm⟩
  obtain ⟨edited, edits⟩ := exists_edits given old room
  -- Checking has one outcome, so what was edited is what was checked.
  obtain ⟨u', given', fits'⟩ := edits.check
  rw [given, Except.ok.injEq] at given'
  subst given'
  rw [fits, Except.ok.injEq] at fits'
  rwa [fits']

end Change

end Transceiver
