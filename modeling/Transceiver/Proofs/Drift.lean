import Transceiver.Proofs.Sessions

/-! Drift as it is noted. While the split state is read, the radio's transmitting band is held against
the session's, and only there is drift noted; with less than no patience there is nothing to hold. -/
namespace Transceiver

open Dialogue

/-- The warning that the radio transmits on another band than the session says. -/
def driftNote (reported expected : Band) : LogRecord :=
  ⟨Source.rig, Level.warning, "The PTT band has been changed on the radio to " ++ reported.vfo ++
    ", but the TX VFO is " ++ expected.vfo⟩

section
variable {σ α : Type}

@[simp] theorem Outcome.log_after (earlier : List Event) (o : Outcome σ α) :
    (o.after earlier).log = earlier.filterMap Event.record? ++ o.log := by
  simp [Outcome.log, Outcome.after]

theorem answerOf_log (text : String) : ∀ record ∈ (answerOf text).2.filterMap Event.record?,
    record.source = Source.link ∧ record.level = Level.debug := by
  unfold answerOf
  dsimp only
  split <;> simp [noteDebug, Event.record?]

theorem attempt_log (port : Port σ) (patience : Int) (command : String) (s : σ) :
    ∀ record ∈ (port.attempt patience command s).log,
      record.source = Source.link ∧ record.level = Level.debug := by
  have came := attempted port patience command s
  generalize port.attempt patience command s = o at came
  cases came with
  | unspelled spelled => simp [Outcome.log, noteDebug, Event.record?]
  | unwritten spelled sent => simp [Outcome.log, noteDebug, Event.record?]
  | unanswered spelled sent collected => simp [Outcome.log, noteDebug, Event.record?]
  | @answered bytes s' text s'' spelled sent collected =>
      intro record member
      rcases List.mem_cons.mp member with rfl | later
      · exact ⟨rfl, rfl⟩
      · exact answerOf_log text record later

theorem attempts_log (link : Link) (port : Port σ) (command : String) (repetition left : Nat) (s : σ) :
    ∀ record ∈ (link.attempts port command repetition left s).log, record.source = Source.link := by
  induction left generalizing repetition s with
  | zero => exact fun record member => (attempt_log port link.patience command s record member).1
  | succ left ih =>
      unfold Link.attempts
      dsimp only
      split
      · split
        · exact fun record member => (attempt_log port link.patience command s record member).1
        · intro record member
          rw [Outcome.log_after, List.filterMap_append] at member
          rcases List.mem_append.mp member with before | later
          · rcases List.mem_append.mp before with here | note
            · exact (attempt_log port link.patience command s record here).1
            · rw [List.mem_singleton.mp note]
          · exact ih _ _ record later
      · exact fun record member => (attempt_log port link.patience command s record member).1

/-- What is noted during an exchange is noted by the link. -/
theorem exchange_log (link : Link) (port : Port σ) (command : String) (s : σ) :
    ∀ record ∈ (link.exchange port command s).log, record.source = Source.link :=
  attempts_log link port command 1 link.retries.toNat s

theorem carryOut_log (link : Link) (port : Port σ) (r : Rig) (request : Request) (s : σ) :
    (r.carryOut link port request s).1.log = ((r.perform request).run link port s).log := by
  rw [Rig.carryOut_eq, Outcome.log, Outcome.withRig_history]
  rfl

theorem run_of_carryOut_error {link : Link} {port : Port σ} {r : Rig} {request : Request} {s : σ}
    {why : Fault} (h : (r.carryOut link port request s).1.result = .error why) :
    ((r.perform request).run link port s).result = .error why := by
  rw [Rig.carryOut_eq] at h
  cases came : ((r.perform request).run link port s).result with
  | ok found =>
      rw [Outcome.withRig_ok came] at h
      cases h
  | error other =>
      rw [Outcome.withRig_error came] at h
      cases h
      rfl

end

namespace Rig

variable {σ : Type}

/-- What is noted where the radio reports a transmitting band. -/
def splitLog (policy : Policy) (reported expected : Band) : List LogRecord :=
  if reported = expected then []
  else driftNote reported expected ::
    match policy with
    | .warn => []
    | .adopt => [⟨Source.rig, Level.info, "Using " ++ reported.vfo ++ " as the TX VFO"⟩]

/-- What is noted while the split state is read: the exchange, and what comes of the band control. -/
theorem carryOut_split_log (link : Link) (port : Port σ) {r : Rig} {session : Session}
    (opened : r.session = some session) (s : σ) :
    (r.carryOut link port .split s).1.log = (link.exchange port "BC" s).log ++
      match (link.exchange port "BC" s).result.bind BandControl.parse with
      | .error _ => []
      | .ok control => splitLog r.policy control.transmit session.transmit := by
  have line : (Command.readControl).line = "BC" := rfl
  rw [carryOut_log, perform_split]
  unfold reconciling
  rw [openSession_eq_ok.mpr opened, readControl_eq]
  change Outcome.log (((inquiry .readControl BandControl.parse >>= _) >>= _ : Dialogue _).run
    link port s) = _
  rw [LawfulMonad.bind_assoc, run_inquiry, line, Outcome.log_after]
  refine congrArg _ ?_
  cases (link.exchange port "BC" s).result.bind BandControl.parse with
  | error why => rfl
  | ok control =>
      dsimp only [splitLog]
      by_cases agree : control.transmit = session.transmit
      · rw [if_pos agree, if_pos agree]
        rfl
      · rw [if_neg agree, if_neg agree]
        cases r.policy <;> rfl

theorem carryOut_split_log_closed (link : Link) (port : Port σ) {r : Rig} (closed : r.session = none)
    (s : σ) : (r.carryOut link port .split s).1.log = [] := by
  have shut : r.openSession = .error .notOpen := by
    unfold openSession
    rw [closed]
  rw [carryOut_log, perform_split]
  unfold reconciling
  rw [shut]
  rfl

theorem driftNote_not_exchange {link : Link} {port : Port σ} {command : String} {s : σ}
    (reported expected : Band) : driftNote reported expected ∉ (link.exchange port command s).log :=
  fun member => absurd (exchange_log link port command s _ member)
    (show Source.rig ≠ Source.link by decide)

/-- Where the radio reports the transmitting band of the session, no drift is noted. -/
theorem undrifted_of_told {link : Link} {port : Port σ} {r : Rig} {s : σ}
    (told : ∀ session control, r.session = some session →
      (link.exchange port "BC" s).result.bind BandControl.parse = .ok control →
      control.transmit = session.transmit)
    (reported expected : Band) :
    driftNote reported expected ∉ (r.carryOut link port .split s).1.log := by
  cases opened : r.session with
  | none =>
      rw [carryOut_split_log_closed link port opened]
      exact List.not_mem_nil
  | some session =>
      rw [carryOut_split_log link port opened]
      intro member
      rcases List.mem_append.mp member with noted | drifted
      · exact driftNote_not_exchange reported expected noted
      · cases came : (link.exchange port "BC" s).result.bind BandControl.parse with
        | error why =>
            rw [came] at drifted
            cases drifted
        | ok control =>
            rw [came] at drifted
            dsimp only [splitLog] at drifted
            rw [if_pos (told session control opened came)] at drifted
            cases drifted

end Rig

section
variable {σ : Type}

/-- With less than no patience every answer comes too late. -/
theorem collect_impatient (port : Port σ) {patience : Int} (hasty : patience < 0) (command : String)
    (s : σ) (text : String) : (port.collect patience command 0 "" s).1 ≠ .ok text := by
  rw [Port.collect]
  split
  · rintro ⟨⟩
  · rename_i bytes ticks s' reading
    cases Text.CodePage.decode bytes with
    | none => rintro ⟨⟩
    | some more =>
        dsimp only
        rw [if_pos (by omega)]
        rintro ⟨⟩

theorem attempt_impatient (port : Port σ) {patience : Int} (hasty : patience < 0) (command : String)
    (s : σ) (text : String) : (port.attempt patience command s).result ≠ .ok text := by
  have came := attempted port patience command s
  generalize port.attempt patience command s = o at came
  cases came with
  | unspelled spelled => rintro ⟨⟩
  | unwritten spelled sent => rintro ⟨⟩
  | unanswered spelled sent collected => rintro ⟨⟩
  | @answered bytes s' text' s'' spelled sent collected =>
      exact absurd (congrArg Prod.fst collected) (collect_impatient port hasty command s' text')

theorem exchange_impatient {link : Link} (hasty : link.patience < 0) (port : Port σ) (command : String)
    (s : σ) (reply : String) : (link.exchange port command s).result ≠ .ok reply := by
  intro came
  obtain ⟨text, answered, -⟩ := bind_eq_ok.mp came
  obtain ⟨last, same⟩ | ⟨why, -, same⟩ := attempts_last link port command 1 link.retries.toNat s
  · exact attempt_impatient port hasty command last text (same.symm.trans answered)
  · cases same.symm.trans answered

end

end Transceiver
