import Transceiver.Proofs.VfoMemory

/-! Setting a VFO and asking for what was set. On a quiet bench a change of a VFO stores one record,
the request that asks for the same setting gives its value back, and a second such change makes no
difference. -/
namespace Transceiver

open Record Simulation Dialogue

theorem same_of_findFinIdx? {α : Type} {n : Nat} {xs : Vector α n} {p : α → Bool} {i : Fin n}
    (h : xs.findFinIdx? p = some i) : p (xs.get i) = true := by
  obtain ⟨array, rfl⟩ := xs
  have found : array.findFinIdx? p = some i := by
    simpa [Vector.findFinIdx?] using h
  exact (Array.findFinIdx?_eq_some_iff.mp found).1

/-- A shift has one name. -/
theorem Shift.text_of_ofName? {v : Value} {shift : Shift}
    (h : v.text?.bind Shift.ofName? = some shift) : v = .text shift.name := by
  obtain ⟨name, given, found⟩ := Option.bind_eq_some_iff.mp h
  have same : (shift.name == name) = true :=
    List.find?_some (p := fun other : Shift => other.name == name) found
  cases v <;> cases given
  exact congrArg Value.text (beq_iff_eq.mp same).symm

namespace Simulation

theorem Table.insert_insert (key : Int) (old new : String) (entries : List (Int × String)) :
    insert key new (insert key old entries) = insert key new entries := by
  induction entries with
  | nil => simp [insert]
  | cons entry rest ih =>
      obtain ⟨k, text⟩ := entry
      by_cases less : key < k
      · simp [insert, less]
      · by_cases same : key = k
        · simp [insert, same]
        · simp [insert, less, same, ih]

/-- Of two texts put under one number the later one stays. -/
theorem Table.put_put (t : Table) (key : Int) (old new : String) :
    (t.put key old).put key new = t.put key new := by
  rw [put, put, insert_insert]
  rfl

theorem Radio.store_store (r : Radio) (band : Band) (old new : MemoryRecord) :
    (r.store band old).store band new = r.store band new := by
  simp only [store, Table.put_put]

end Simulation

namespace Rig

variable {r : Rig} {session : Session} (opened : r.session = some session) (vfo : Value)

include opened

theorem receivingVfo_opened :
    r.receivingVfo vfo = .ok (if session.split then .text session.receive.vfo else vfo) := by
  rw [receivingVfo, openSession, opened]
  rfl

theorem transmittingVfo_opened :
    r.transmittingVfo vfo = .ok (if session.split then .text session.transmit.vfo else vfo) := by
  rw [transmittingVfo, openSession, opened]
  rfl

end Rig

namespace Change

/-- The request that asks for what a change sets. -/
def query (vfo : Value) : Change → Request
  | .frequency .receiving _ => .frequency vfo
  | .frequency .transmitting _ => .splitFrequency vfo
  | .mode _ => .mode vfo
  | .setting which _ => .get which vfo

/-- The band that a change is about: split directs frequencies and the mode to its own. -/
def band (change : Change) (session : Session) (choice : VfoChoice) (r : Radio) : Band :=
  match change with
  | .frequency .receiving _ | .mode _ => if session.split then session.receive else choice.band r
  | .frequency .transmitting _ => if session.split then session.transmit else choice.band r
  | .setting _ _ => choice.band r

/-- The band that split directs a change to, if it does. -/
def directedTo (session : Session) : Change → Option Band
  | .frequency .receiving _ | .mode _ => if session.split then some session.receive else none
  | .frequency .transmitting _ => if session.split then some session.transmit else none
  | .setting _ _ => none

theorem band_eq (change : Change) (session : Session) (choice : VfoChoice) (r : Radio) :
    change.band session choice r = (change.directedTo session).getD (choice.band r) := by
  unfold band directedTo
  cases change with
  | frequency direction hertz => cases direction <;> cases session.split <;> rfl
  | mode name => cases session.split <;> rfl
  | setting which v => rfl

theorem redirect_opened {r : Rig} {session : Session} (opened : r.session = some session) (vfo : Value)
    (change : Change) : change.redirect r vfo =
      .ok ((change.directedTo session).elim vfo fun band => .text band.vfo) := by
  have receiving := Rig.receivingVfo_opened opened vfo
  have transmitting := Rig.transmittingVfo_opened opened vfo
  unfold directedTo
  cases change with
  | frequency direction hertz =>
      cases direction with
      | receiving =>
          rw [redirect, receiving]
          cases session.split <;> rfl
      | transmitting =>
          rw [redirect, transmitting]
          cases session.split <;> rfl
  | mode name =>
      rw [redirect, receiving]
      cases session.split <;> rfl
  | setting which v => rfl

/-- The settings that read back as they were set; offsets are moved to a grid. -/
def Faithful : Change → Prop
  | .setting .offset _ => False
  | _ => True

/-- The settings that a value which counts as false switches off. -/
def tonal : List Setting := [.tone, .squelchTone, .dcsCode]

/-- What is read back after a change. -/
inductive Answers : Change → Value → Prop
  | frequency {direction hertz n} (whole : hertz.int? = some n) :
      Answers (.frequency direction hertz) (.int (Frequency.snap n).hertz)
  | mode {name m} (named : name.text?.bind Mode.ofName? = some m) :
      Answers (.mode name) (.list [.text m.name, .ofNat m.passband])
  | off {which v} (switched : which ∈ tonal) (no : v.truth = false) :
      Answers (.setting which v) (.int 0)
  | same {which v w} (on : which ∈ tonal → v.truth = true) (same : w.same v = true) :
      Answers (.setting which v) w

/-- What a record tells about the setting of a change. -/
def reading (change : Change) (record : MemoryRecord) : Except Fault Value :=
  match change with
  | .frequency _ _ => .ok (.ofNat record.freq)
  | .mode _ => .ok (.list [.text (Mode.ofRecord record).name, .ofNat (Mode.ofRecord record).passband])
  | .setting which _ => (which.reading record).mapError .radio

/-- Storing a record does not move control, so a change is about the same band as before. -/
theorem band_store (change : Change) (session : Session) (choice : VfoChoice) (r : Radio) (band : Band)
    (record : MemoryRecord) :
    change.band session choice (r.store band record) = change.band session choice r := by
  cases change with
  | frequency direction hertz => cases direction <;> cases choice <;> rfl
  | mode name => cases choice <;> rfl
  | setting which v => cases choice <;> rfl

theorem perform_query (r : Rig) (vfo : Value) (change : Change) :
    r.perform (change.query vfo) =
      Dialogue.ofExcept (change.redirect r vfo) >>= fun target =>
        Rig.readVfoMemory target >>= fun record =>
          Dialogue.ofExcept (change.reading record) >>= fun v => pure (Answer.value v, r) := by
  cases change with
  | frequency direction hertz =>
      cases direction with
      | receiving =>
          refine (Rig.dialogue_answering _ r).trans ?_
          simp only [Rig.frequency, redirect, reading]
          cases r.receivingVfo vfo with
          | error why => rfl
          | ok target =>
              simp only [LawfulMonad.bind_assoc]
              rfl
      | transmitting =>
          refine (Rig.dialogue_answering _ r).trans ?_
          simp only [Rig.splitFrequency, redirect, reading]
          cases r.transmittingVfo vfo with
          | error why => rfl
          | ok target =>
              simp only [LawfulMonad.bind_assoc]
              rfl
  | mode name =>
      refine (Rig.dialogue_answering _ r).trans ?_
      simp only [Rig.mode, redirect, reading]
      cases r.receivingVfo vfo with
      | error why => rfl
      | ok target =>
          simp only [LawfulMonad.bind_assoc]
          rfl
  | setting which v =>
      refine (Rig.dialogue_answering _ r).trans ?_
      simp only [Rig.get, redirect, reading, LawfulMonad.bind_assoc]
      rfl

theorem redirect_eq {r : Rig} {session : Session} (opened : r.session = some session) {vfo : Value}
    {choice : VfoChoice} (chosen : VfoChoice.ofValue vfo = .ok choice) (change : Change) :
    ∃ target choice', change.redirect r vfo = .ok target ∧ VfoChoice.ofValue target = .ok choice' ∧
      ∀ radio, choice'.band radio = change.band session choice radio := by
  refine ⟨_, (change.directedTo session).elim choice .named, redirect_opened opened vfo change, ?_, ?_⟩
  · cases change.directedTo session with
    | none => exact chosen
    | some band => cases band <;> rfl
  · intro radio
    rw [band_eq]
    cases change.directedTo session <;> rfl

theorem Edits.answers {change : Change} {old new : MemoryRecord} (h : change.Edits old new)
    (faithful : change.Faithful) : ∃ v, change.reading new = .ok v ∧ change.Answers v := by
  cases h with
  | frequency whole received snapped =>
      refine ⟨_, rfl, ?_⟩
      rw [Value.ofNat, snapped]
      exact .frequency whole
  | mode named =>
      refine ⟨_, rfl, ?_⟩
      rw [Mode.ofRecord, Mode.ofCode_code]
      exact .mode named
  | step listed =>
      exact ⟨_, rfl, .same (fun member => absurd member (by decide)) (same_of_findFinIdx? listed)⟩
  | noTone no => exact ⟨_, rfl, .off (by decide) no⟩
  | tone yes listed => exact ⟨_, rfl, .same (fun _ => yes) (same_of_findFinIdx? listed)⟩
  | noSquelchTone no => exact ⟨_, rfl, .off (by decide) no⟩
  | squelchTone yes listed => exact ⟨_, rfl, .same (fun _ => yes) (same_of_findFinIdx? listed)⟩
  | noDcsCode no => exact ⟨_, rfl, .off (by decide) no⟩
  | dcsCode yes listed => exact ⟨_, rfl, .same (fun _ => yes) (same_of_findFinIdx? listed)⟩
  | @shift v shift old named =>
      have text : v = .text shift.name := Shift.text_of_ofName? named
      refine ⟨.text shift.name, ?_, ?_⟩
      · rw [reading, Setting.reading, Shift.ofRecord, Shift.ofCode?_code]
        rfl
      · rw [text]
        exact .same (fun member => absurd member (by decide)) (beq_self_eq_true shift.name)
  | offset whole snapped => cases faithful

theorem Edits.again {change : Change} {old new : MemoryRecord} (h : change.Edits old new) :
    change.Edits new new := by
  cases h with
  | frequency whole received snapped => exact .frequency whole received snapped
  | mode named => exact .mode named
  | step listed => exact .step listed
  | noTone no => exact .noTone no
  | tone yes listed => exact .tone yes listed
  | noSquelchTone no => exact .noSquelchTone no
  | squelchTone yes listed => exact .squelchTone yes listed
  | noDcsCode no => exact .noDcsCode no
  | dcsCode yes listed => exact .dcsCode yes listed
  | shift named => exact .shift named
  | offset whole snapped => exact .offset whole snapped

end Change

namespace Rig

section
variable {r : Rig} {vfo target : Value} {choice : VfoChoice} {change : Change} {radio : Radio}
variable (redirected : change.redirect r vfo = .ok target)
variable (named : VfoChoice.ofValue target = .ok choice)

include redirected named

theorem talks_change_redirected {old new : MemoryRecord} (held : radio.Holds (choice.band radio) old)
    (edits : change.Edits old new) :
    (r.perform (change.request vfo)).Talks radio (.ok (.nothing, r))
      (radio.store (choice.band radio) new) := by
  obtain ⟨u, accepted, fits⟩ := edits.check
  rw [Change.perform_request, Change.prepared_eq_ok.mpr ⟨redirected, accepted⟩]
  exact Talks.bind (.done _ radio) (Talks.map (talks_changeVfo named held fits))

theorem talks_query_redirected {record : MemoryRecord} (held : radio.Holds (choice.band radio) record)
    {v : Value} (told : change.reading record = .ok v) :
    (r.perform (change.query vfo)).Talks radio (.ok (.value v, r)) radio := by
  rw [Change.perform_query, redirected]
  refine Talks.bind (.done _ radio) (Talks.bind (talks_readVfoMemory named held) ?_)
  rw [told]
  exact .done _ radio

end

section
variable {r : Rig} {session : Session} (opened : r.session = some session) {vfo : Value}
variable {choice : VfoChoice} (chosen : VfoChoice.ofValue vfo = .ok choice) {change : Change}
variable {radio : Radio}

include opened chosen

theorem talks_change {old new : MemoryRecord} (held : radio.Holds (change.band session choice radio) old)
    (edits : change.Edits old new) :
    (r.perform (change.request vfo)).Talks radio (.ok (.nothing, r))
      (radio.store (change.band session choice radio) new) := by
  obtain ⟨target, choice', redirected, named, same⟩ := Change.redirect_eq opened chosen change
  rw [← same radio] at held ⊢
  exact talks_change_redirected redirected named held edits

theorem talks_query {record : MemoryRecord} (held : radio.Holds (change.band session choice radio) record)
    {v : Value} (told : change.reading record = .ok v) :
    (r.perform (change.query vfo)).Talks radio (.ok (.value v, r)) radio := by
  obtain ⟨target, choice', redirected, named, same⟩ := Change.redirect_eq opened chosen change
  rw [← same radio] at held
  exact talks_query_redirected redirected named held told

end

/-- Carrying a request out comes to the answer, leaves the rig as it is, and leaves a quiet bench
with such a radio. -/
def Obtains (link : Link) (r : Rig) (request : Request) (s : Bench) (answer : Answer)
    (radio : Radio) : Prop :=
  (r.carryOut link Bench.port request s).1.result = .ok answer ∧
    (r.carryOut link Bench.port request s).2 = r ∧
    (r.carryOut link Bench.port request s).1.port.radio = radio ∧
    (r.carryOut link Bench.port request s).1.port.Quiet

theorem obtains_of_talks {link : Link} (patient : 0 ≤ link.patience) {r : Rig} {request : Request}
    {answer : Answer} {s : Bench} (quiet : s.Quiet) {radio : Radio}
    (talks : (r.perform request).Talks s.radio (.ok (answer, r)) radio) :
    r.Obtains link request s answer radio :=
  carryOut_of_talks patient talks quiet rfl

/-- On a quiet bench whose radio stores a record for the VFO, a change that the rig accepts succeeds.
The radio stores the edited record in the place of the old one and is the same otherwise. Asked for
what was set, it then gives it back, and the same change once more leaves the radio as it is. -/
theorem change_then_query {link : Link} (patient : 0 ≤ link.patience) {r : Rig} {session : Session}
    (opened : r.session = some session) {vfo : Value} {choice : VfoChoice}
    (chosen : VfoChoice.ofValue vfo = .ok choice) {change : Change} (faithful : change.Faithful)
    {u : MemoryUpdate} (accepted : change.update = .ok u) {s : Bench} (quiet : s.Quiet)
    {old : MemoryRecord} (held : s.radio.Holds (change.band session choice s.radio) old) :
    ∃ new v, change.Edits old new ∧ change.Answers v ∧
      (s.radio.store (change.band session choice s.radio) new).Holds
        (change.band session choice s.radio) new ∧
      r.Obtains link (change.request vfo) s .nothing
        (s.radio.store (change.band session choice s.radio) new) ∧
      ∀ t : Bench, t.Quiet → t.radio = s.radio.store (change.band session choice s.radio) new →
        r.Obtains link (change.query vfo) t (.value v) t.radio ∧
          r.Obtains link (change.request vfo) t .nothing t.radio := by
  obtain ⟨new, edits⟩ := Change.exists_edits accepted old fun which n same => by
    rw [same] at faithful
    cases faithful
  obtain ⟨v, told, answers⟩ := edits.answers faithful
  have own : new.channel = (change.band session choice s.radio).channel := by
    obtain ⟨payload, -, known⟩ := held
    rw [edits.channel_eq, (ownRecord_eq_ok.mp known).2]
  have stored := s.radio.holds_store own
  refine ⟨new, v, edits, answers, stored, ?_, ?_⟩
  · exact obtains_of_talks patient quiet (talks_change opened chosen held edits)
  · intro t quiet' left
    have same : change.band session choice t.radio = change.band session choice s.radio := by
      rw [left, Change.band_store]
    have held' : t.radio.Holds (change.band session choice t.radio) new := by
      rw [same, left]
      exact stored
    have again : t.radio.store (change.band session choice t.radio) new = t.radio := by
      rw [same, left, Radio.store_store]
    refine ⟨obtains_of_talks patient quiet' (talks_query opened chosen held' told), ?_⟩
    have talks := talks_change opened chosen held' edits.again
    rw [again] at talks
    exact obtains_of_talks patient quiet' talks

theorem change_then_query_stored :
    ∃ new v, (Change.frequency .receiving (.int 145512345)).Answers v ∧
      (Rig.closed .warn).opened.Obtains ⟨8, 3, 3⟩ (.setFrequency (.text "VFOA") (.int 145512345))
        (Bench.ofRadio (Radio.initial.store .a (.empty 998))) .nothing
        ((Radio.initial.store .a (.empty 998)).store .a new) := by
  have patient : 0 ≤ (⟨8, 3, 3⟩ : Link).patience := by decide
  have chosen : VfoChoice.ofValue (.text "VFOA") = .ok (.named .a) := rfl
  have held : (Radio.initial.store .a (.empty 998)).Holds .a (.empty 998) := Radio.holds_store _ rfl
  have accepted : (Change.frequency .receiving (.int 145512345)).update = .ok _ := rfl
  have faithful : (Change.frequency .receiving (.int 145512345)).Faithful := trivial
  obtain ⟨new, v, -, answers, -, obtains, -⟩ := change_then_query patient
    (r := (Rig.closed .warn).opened) rfl chosen faithful accepted (Bench.quiet_ofRadio _) held
  exact ⟨new, v, answers, obtains⟩

end Rig

end Transceiver
