import Transceiver.Proofs.Parting

/-! Reconciling the session with the radio. The radio is asked on which band it transmits, and the answer
is held against the session's band; where the two differ it is warned of once, and the policy decides which
of them is told. -/
namespace Transceiver

open Dialogue Simulation

/-- What is warned of when the radio reports a transmitting band. -/
def driftWarnings (reported expected : Band) : List LogRecord :=
  if reported = expected then [] else [driftNote reported expected]

/-- The session once the radio has reported a transmitting band. -/
def Session.reconciled (s : Session) (policy : Policy) (reported : Band) : Session :=
  match policy with
  | .warn => s
  | .adopt => if reported = s.transmit then s else s.adopt reported

namespace Session

variable (s : Session) (reported : Band)

theorem reconciled_adopt_transmit : (s.reconciled .adopt reported).transmit = reported := by
  unfold reconciled
  dsimp only
  split
  · rename_i same
    exact same.symm
  · rfl

theorem reconciled_adopt_split : (s.reconciled .adopt reported).split = s.split := by
  unfold reconciled
  dsimp only
  split <;> rfl

theorem reconciled_adopt_receive : (s.reconciled .adopt reported).receive =
    if reported = s.transmit then s.receive else reported.other := by
  unfold reconciled
  dsimp only
  split <;> rfl

/-- A session that agrees with the radio already stays as it is under every policy. -/
theorem reconciled_same (policy : Policy) : s.reconciled policy s.transmit = s := by
  cases policy with
  | warn => rfl
  | adopt => exact if_pos rfl

end Session

/-- A value is the same as a text only if it is that text. -/
theorem Value.same_text {v : Value} {t : String} : v.same (.text t) = true ↔ v = .text t := by
  cases v <;> simp [Value.same, Value.sameNumber, Value.number?]

/-- Over a quiet line an exchange is worth no warning. -/
theorem Simulation.Bench.exchange_quiet_warnings {link : Link} (patient : 0 ≤ link.patience) {s : Bench}
    (quiet : s.Quiet) {command : String} (unended : terminator ∉ command.toList)
    (clear : terminator ∉ (s.radio.answer command).1.toList) :
    (link.exchange Bench.port command s).log.filter (fun record => record.level == Level.warning) =
      [] := by
  obtain ⟨⟨-, untimed⟩, -⟩ := Bench.attempt_quiet patient quiet unended clear
  have once : (link.exchange Bench.port command s).log =
      (Bench.port.attempt link.patience command s).log := by
    unfold Link.exchange
    rw [attempts_of_untimed untimed]
    rfl
  refine List.filter_eq_nil_iff.mpr fun record member => ?_
  rw [once] at member
  rw [(attempt_log Bench.port link.patience command s record member).2]
  decide

namespace Rig

/-- Reading the split state asks for the band control once and leaves the radio alone. It warns of this,
and tells the split flag and the transmitting VFO. -/
structure TellsSplit (link : Link) (r : Rig) (s : Bench) (warnings : List LogRecord) (split : Bool)
    (transmit : Band) (r' : Rig) : Prop where
  achieves : r.Achieves link .split s [.readControl]
    (.value (.list [.bool split, .text transmit.vfo])) r' s.radio
  warnings : ((r.carryOut link Bench.port .split s).1.log.filter
    fun record => record.level == Level.warning) = warnings

theorem splitLog_warnings (policy : Policy) (reported expected : Band) :
    (splitLog policy reported expected).filter (fun record => record.level == Level.warning) =
      driftWarnings reported expected := by
  unfold splitLog driftWarnings
  by_cases agree : reported = expected
  · rw [if_pos agree, if_pos agree]
    rfl
  · rw [if_neg agree, if_neg agree]
    cases policy <;> rfl

section
variable {r : Rig} {session : Session} (opened : r.session = some session) {told : BandControl}

include opened

theorem speaks_reconciling {radio : Radio}
    (control : radio.control = (told.control.index.val : Int))
    (transmit : radio.transmit = (told.transmit.index.val : Int)) :
    r.reconciling.Speaks radio [.readControl]
      (.ok (session.split, (session.reconciled r.policy told.transmit).transmit,
        { r with session := some (session.reconciled r.policy told.transmit) })) radio := by
  obtain ⟨policy, _⟩ := r
  cases opened
  unfold reconciling
  refine Speaks.bind (.done session radio) (Speaks.bind (Radio.speaks_readControl control transmit) ?_)
  dsimp only
  by_cases agree : told.transmit = session.transmit
  · rw [if_pos agree, agree, Session.reconciled_same]
    exact .done _ _
  · rw [if_neg agree]
    refine .note ?_
    cases policy with
    | warn => exact .done _ _
    | adopt =>
        rw [Session.reconciled, if_neg agree]
        exact .note (.done _ _)

/-- On a quiet bench the session is reconciled with the radio and told as it is then. -/
theorem tellsSplit {link : Link} (patient : 0 ≤ link.patience) {s : Bench} (quiet : s.Quiet)
    (control : s.radio.control = (told.control.index.val : Int))
    (transmit : s.radio.transmit = (told.transmit.index.val : Int)) :
    r.TellsSplit link s (driftWarnings told.transmit session.transmit) session.split
      (session.reconciled r.policy told.transmit).transmit
      { r with session := some (session.reconciled r.policy told.transmit) } where
  achieves := by
    refine achieves_of_speaks patient quiet ?_
    rw [perform_split]
    exact Speaks.map (speaks_reconciling opened control transmit)
  warnings := by
    have replied : s.radio.answer "BC" = (told.line, s.radio) :=
      Radio.answer_readControl control transmit
    have single : terminator ∉ (s.radio.answer "BC").1.toList := by
      rw [replied]
      exact unended_of_printable (wording_writeControl told).isPrintable
    rw [carryOut_split_log link Bench.port opened, told_of_bands patient quiet control transmit,
      List.filter_append, Bench.exchange_quiet_warnings patient quiet (by decide) single,
      List.nil_append]
    exact splitLog_warnings _ _ _

/-- Where the radio transmits on the band of the session, the session is told as it is. -/
theorem tellsSplit_agreed {link : Link} (patient : 0 ≤ link.patience) {s : Bench} (quiet : s.Quiet)
    {first : Band} (control : s.radio.control = (first.index.val : Int))
    (transmit : s.radio.transmit = (session.transmit.index.val : Int)) :
    r.TellsSplit link s [] session.split session.transmit r := by
  let told : BandControl := ⟨first, session.transmit⟩
  have control' : s.radio.control = (told.control.index.val : Int) := control
  have tells := tellsSplit opened patient quiet control' transmit
  have kept : { r with session := some session } = r := by
    rw [← opened]
  rwa [Session.reconciled_same, kept, driftWarnings, if_pos rfl] at tells

end

/-- Whichever VFO is asked for, the transmitting band is settled with the radio or refused. -/
theorem talks_transmitChoice (vfo : Value) (radio : Radio) :
    ∃ result, (transmitChoice vfo).Talks radio result radio := by
  have current : ∃ result, currentBand.Talks radio result radio := by
    rcases radio.talks_readControl with ⟨transmit, told⟩ | ⟨-, fault, failed⟩
    · exact ⟨_, Talks.map told⟩
    · exact ⟨_, Talks.bind_error failed⟩
  unfold transmitChoice
  split
  · exact current
  · split
    · exact current
    · split
      · exact ⟨_, .done _ _⟩
      · exact ⟨_, .fail _ _⟩
  · exact ⟨_, .fail _ _⟩

/-- Split that was turned on transmits on the band that the radio transmits on. -/
theorem controls_of_splitOn {link : Link} (patient : 0 ≤ link.patience) {r : Rig} {session : Session}
    (opened : r.session = some session) {s : Bench} (quiet : s.Quiet) {on vfo : Value}
    (yes : on.truth = true) {answer : Answer}
    (succeeds : (r.carryOut link Bench.port (.setSplit on vfo) s).1.result = .ok answer) :
    ∃ band, (r.carryOut link Bench.port (.setSplit on vfo) s).1.port.radio.Controls band ∧
      (r.carryOut link Bench.port (.setSplit on vfo) s).1.port.Quiet ∧
      (r.carryOut link Bench.port (.setSplit on vfo) s).2 = { r with session := some (.splitOn band) } := by
  obtain ⟨result, choice⟩ := talks_transmitChoice vfo s.radio
  cases result with
  | error why =>
      have failed : (r.perform (.setSplit on vfo)).Talks s.radio (.error why) s.radio := by
        rw [perform_setSplit]
        refine Talks.bind_error ?_
        unfold splitting
        rw [openSession_eq_ok.mpr opened]
        exact Talks.bind (.done session s.radio) (Talks.bind_error choice)
      obtain ⟨came, -⟩ := carryOut_of_talks patient failed quiet rfl
      cases came.symm.trans succeeds
  | ok band =>
      obtain ⟨-, rig, left, quiet'⟩ :=
        carryOut_of_talks patient (talks_setSplit_chosen opened on choice) quiet rfl
      refine ⟨band, ?_, quiet', ?_⟩
      · rw [left]
        exact ⟨rfl, rfl⟩
      · rw [rig, yes]
        rfl

/-- A rig is open over a quiet line to a radio with two bands in its band control. Reading the split
state asks one question, warns exactly if the radio transmits on another band than the session, and, by
any policy but `adopt`, tells the session's split and transmitting VFO and keeps the session. By `adopt`
it tells the radio's band, which the session then has too, with the other one to receive if that is new;
read once more, nothing is warned of and the same is told. Once split was turned on, the band that was
given transmission is told by every policy, without a warning. -/
theorem split_state_is_reconciled {link : Link} (patient : 0 ≤ link.patience) (policy : Value)
    (session : Session) {s : Bench} (quiet : s.Quiet) :
    let r : Rig := ⟨.ofValue policy, some session⟩
    (∀ told : BandControl, s.radio.control = (told.control.index.val : Int) →
      s.radio.transmit = (told.transmit.index.val : Int) →
      let warnings := driftWarnings told.transmit session.transmit
      (policy ≠ .text "adopt" →
        r.TellsSplit link s warnings session.split session.transmit r) ∧
      (policy = .text "adopt" → ∃ followed : Session,
        followed.transmit = told.transmit ∧ followed.split = session.split ∧
        followed.receive =
          (if told.transmit = session.transmit then session.receive else told.transmit.other) ∧
        let r' : Rig := ⟨.ofValue policy, some followed⟩
        r.TellsSplit link s warnings session.split told.transmit r' ∧
        ∀ t : Bench, t.Quiet → t.radio = s.radio →
          r'.TellsSplit link t [] session.split told.transmit r')) ∧
    ∀ on vfo answer, on.truth = true →
      let o := r.carryOut link Bench.port (.setSplit on vfo) s
      o.1.result = .ok answer → ∃ band, o.1.port.radio.transmit = (band.index.val : Int) ∧ o.1.port.Quiet ∧
        ∀ t : Bench, t.Quiet → t.radio = o.1.port.radio → o.2.TellsSplit link t [] true band o.2 := by
  refine ⟨fun told control transmit => ⟨fun other => ?_, fun adopts => ?_⟩, ?_⟩
  · rw [show Policy.ofValue policy = .warn from if_neg fun same => other (Value.same_text.mp same)]
    exact tellsSplit (r := ⟨.warn, some session⟩) rfl patient quiet control transmit
  · rw [show Policy.ofValue policy = .adopt from if_pos (Value.same_text.mpr adopts)]
    have followed := session.reconciled_adopt_transmit told.transmit
    refine ⟨session.reconciled .adopt told.transmit, followed, session.reconciled_adopt_split _,
      session.reconciled_adopt_receive _, ?_, fun t quiet' same => ?_⟩
    · have tells := tellsSplit (r := ⟨.adopt, some session⟩) rfl patient quiet control transmit
      rwa [followed] at tells
    · have agreed := tellsSplit_agreed (r := ⟨.adopt, some (session.reconciled .adopt told.transmit)⟩)
        rfl patient quiet' (same ▸ control) (by rw [followed, same, transmit])
      rwa [followed, session.reconciled_adopt_split] at agreed
  · intro on vfo answer yes o succeeds
    obtain ⟨band, controls, quiet', rig⟩ :=
      controls_of_splitOn (r := ⟨.ofValue policy, some session⟩) patient rfl quiet yes succeeds
    refine ⟨band, controls.2, quiet', fun t quiet'' left => ?_⟩
    have rig' : o.2 = ⟨.ofValue policy, some (.splitOn band)⟩ := rig
    have opened : o.2.session = some (.splitOn band) := by
      rw [rig']
    have controls' : t.radio.Controls band := left ▸ controls
    exact tellsSplit_agreed opened patient quiet'' controls'.1 controls'.2

/-- A rig that adopts follows a radio that was moved to the second band, and can split on it. -/
theorem split_state_is_reconciled_adopted :
    let link : Link := ⟨8, 3, 3⟩
    let start : Bench := .ofRadio { Radio.initial with control := 1, transmit := 1 }
    let r : Rig := ⟨.ofValue (.text "adopt"), some ⟨.a, .b, true⟩⟩
    let request : Request := .setSplit (.bool true) (.text "currVFO")
    r.TellsSplit link start [driftNote .b .a] true .b ⟨r.policy, some ⟨.b, .a, true⟩⟩ ∧
      (r.carryOut link Bench.port request start).1.result = .ok .nothing ∧
      (r.carryOut link Bench.port request start).2.TellsSplit link
        (r.carryOut link Bench.port request start).1.port [] true .b
        (r.carryOut link Bench.port request start).2 := by
  intro link start r request
  have patient : 0 ≤ link.patience := by decide
  have quiet : start.Quiet := Bench.quiet_ofRadio _
  have control : start.radio.control = (Band.b.index.val : Int) := rfl
  have transmit : start.radio.transmit = (Band.b.index.val : Int) := rfl
  -- What follows needs no more of the bench, and nothing of it is to be computed.
  clear_value start
  obtain ⟨read, split⟩ := split_state_is_reconciled patient (.text "adopt") ⟨.a, .b, true⟩ quiet
  have told : readControl.Speaks start.radio [.readControl] (.ok ⟨.b, .b⟩) start.radio :=
    Radio.speaks_readControl control transmit
  have current : (transmitChoice (.text "currVFO")).Talks start.radio (.ok .b) start.radio :=
    Talks.map told.talks
  have chosen := talks_setSplit_chosen (r := r) rfl (.bool true) current
  obtain ⟨succeeds, -, left, -⟩ := carryOut_of_talks patient chosen quiet rfl
  refine ⟨?_, succeeds, ?_⟩
  · obtain ⟨⟨transmit, receive, on⟩, rfl, rfl, rfl, tells, -⟩ := (read ⟨.b, .b⟩ control transmit).2 rfl
    exact tells
  · obtain ⟨band, transmits, quiet', tells⟩ := split (.bool true) (.text "currVFO") _ rfl succeeds
    have second : band = .b := by
      rw [left] at transmits
      cases band with
      | a => cases transmits
      | b => rfl
    subst second
    exact tells _ quiet' rfl

end Rig

end Transceiver
