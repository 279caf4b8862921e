import Transceiver.Proofs.CodePages
import Transceiver.Proofs.Drift
import Transceiver.Simulation.Script

/-! Repeated attempts. An exchange comes to what its last attempt comes to: the first one that does not
end in a timeout, unless there are too many before it. That takes a number of repetitions that can be
written, for each repetition is announced with it. -/
namespace Transceiver

section
variable {σ : Type}

namespace Outcome

def TimedOut (o : Outcome σ String) : Prop := ∃ command, o.result = .error (.radio (.timeout command))

def warnings (o : Outcome σ String) : List LogRecord :=
  o.log.filter fun record => record.level == Level.warning

end Outcome

namespace Link

variable (link : Link) (port : Port σ) (command : String) (s : σ)

/-- The port after so many attempts. -/
def afterAttempts : Nat → σ
  | 0 => s
  | n + 1 => (port.attempt link.patience command (afterAttempts n)).port

/-- The attempt that follows the first `n`. -/
def attemptAfter (n : Nat) : Outcome σ String :=
  port.attempt link.patience command (link.afterAttempts port command s n)

/-- What happens in the first attempts, each of them ending with the note that there will be another. -/
def repeated : Nat → List Event
  | 0 => []
  | n + 1 =>
    repeated n ++
      ((link.attemptAfter port command s n).history ++
        [retryNote command (n + 1) (Number.showInt link.retries)])

/-- An outcome with `n` repetitions. All attempts but the last end in a timeout, and what the last one
ends in is the outcome, but that an answer may refuse the command. -/
structure Tries (n : Nat) (o : Outcome σ String) : Prop where
  few : n ≤ link.retries.toNat
  timedOut : ∀ i, i < n → (link.attemptAfter port command s i).TimedOut
  exhausted : (link.attemptAfter port command s n).TimedOut → n = link.retries.toNat
  answered : ∀ reply, (link.attemptAfter port command s n).result = .ok reply →
    o.result = if reply = "N" ∨ reply = "?" then .error (.radio (.refused command reply)) else .ok reply
  failed : ∀ why, (link.attemptAfter port command s n).result = .error why → o.result = .error why
  history : o.history =
    link.repeated port command s n ++ (link.attemptAfter port command s n).history
  port : o.port = link.afterAttempts port command s (n + 1)

theorem attempts_repeated (i left : Nat)
    (announced : left ≠ 0 → (link.attemptAfter port command s i).TimedOut →
      link.announced.value.wholeText = .ok (Number.showInt link.retries)) :
    ∃ n, i ≤ n ∧ n ≤ i + left ∧
      (∀ j, i ≤ j → j < n → (link.attemptAfter port command s j).TimedOut) ∧
      ((link.attemptAfter port command s n).TimedOut → n = i + left) ∧
      (link.attempts port command (i + 1) left (link.afterAttempts port command s i)).after
          (link.repeated port command s i) =
        (link.attemptAfter port command s n).after (link.repeated port command s n) := by
  induction left generalizing i with
  | zero =>
      exact ⟨i, Nat.le_refl i, Nat.le_refl i, fun j from' below => absurd below (Nat.not_lt.mpr from'),
        fun _ => rfl, rfl⟩
  | succ left ih =>
      by_cases late : (link.attemptAfter port command s i).TimedOut
      · have spelled := announced (Nat.succ_ne_zero left) late
        obtain ⟨n, least, most, timedOut, exhausted, same⟩ := ih (i + 1) fun _ _ => spelled
        refine ⟨n, Nat.le_of_succ_le least, Nat.le_trans most (by omega), ?_, ?_, ?_⟩
        · intro j least' below
          rcases Nat.eq_or_lt_of_le least' with rfl | later
          · exact late
          · exact timedOut j later below
        · intro last
          rw [exhausted last]
          omega
        · rw [← same]
          obtain ⟨c, late⟩ := late
          rw [attempts_of_timeout late spelled, Outcome.after_after]
          rfl
      · refine ⟨i, Nat.le_refl i, Nat.le_add_right i _,
          fun j least below => absurd below (Nat.not_lt.mpr least), fun last => absurd last late, ?_⟩
        rw [attempts_of_untimed fun c came => late ⟨c, came⟩]
        rfl

theorem exchange_tries
    (announced : 0 < link.retries → (port.attempt link.patience command s).TimedOut →
      link.announced.value.wholeText = .ok (Number.showInt link.retries)) :
    ∃ n, link.Tries port command s n (link.exchange port command s) := by
  obtain ⟨n, -, most, timedOut, exhausted, same⟩ :=
    attempts_repeated link port command s 0 link.retries.toNat fun some => announced (by omega)
  have last : link.attempts port command 1 link.retries.toNat s =
      (link.attemptAfter port command s n).after (link.repeated port command s n) := same
  rw [Nat.zero_add] at most exhausted
  refine ⟨n, most, fun i below => timedOut i i.zero_le below, exhausted, ?_, ?_, ?_, ?_⟩
  · intro reply came
    rw [exchange, last]
    change (link.attemptAfter port command s n).result.bind (accepted command) = _
    rw [came]
    change accepted command reply = _
    simp only [accepted, Record.isRefusal, Bool.or_eq_true, beq_iff_eq]
  · intro why came
    rw [exchange, last]
    change (link.attemptAfter port command s n).result.bind (accepted command) = _
    rw [came]
    rfl
  · rw [exchange, last]
    rfl
  · rw [exchange, last]
    rfl

variable {link port command s}

theorem attemptAfter_writes {bytes : List UInt8}
    (spelled : Text.CodePage.encode (command ++ terminator.toString) = .ok bytes) (n : Nat) :
    (link.attemptAfter port command s n).history.filterMap Event.bytes? = [bytes] := by
  change (link.attemptAfter port command s n).writes = [bytes]
  rw [attemptAfter, attempt_writes, spelled]

theorem repeated_writes {bytes : List UInt8}
    (spelled : Text.CodePage.encode (command ++ terminator.toString) = .ok bytes) (n : Nat) :
    (link.repeated port command s n).filterMap Event.bytes? = List.replicate n bytes := by
  induction n with
  | zero => rfl
  | succ n ih =>
      rw [repeated, List.filterMap_append, List.filterMap_append, ih, attemptAfter_writes spelled,
        List.replicate_succ']
      rfl

/-- The note that precedes a repetition. -/
def retryWarning (link : Link) (command : String) (repetition : Nat) : LogRecord :=
  ⟨Source.link, Level.warning, "No reply to " ++ command ++ ", retrying (" ++
    Number.showNat repetition ++ "/" ++ Number.showInt link.retries ++ ")"⟩

theorem attemptAfter_warnings (n : Nat) :
    ((link.attemptAfter port command s n).history.filterMap Event.record?).filter
      (fun record => record.level == Level.warning) = [] := by
  refine List.filter_eq_nil_iff.mpr fun record member => ?_
  rw [(attempt_log port link.patience command _ record member).2]
  decide

theorem repeated_warnings (n : Nat) :
    ((link.repeated port command s n).filterMap Event.record?).filter
        (fun record => record.level == Level.warning) =
      (List.range n).map fun i => link.retryWarning command (i + 1) := by
  induction n with
  | zero => rfl
  | succ n ih =>
      rw [repeated, List.filterMap_append, List.filterMap_append, List.filter_append,
        List.filter_append, ih, attemptAfter_warnings, List.range_succ, List.map_append]
      rfl

namespace Tries

variable {n : Nat} {o : Outcome σ String} (tries : link.Tries port command s n o)

include tries

/-- An attempt that does not time out is the last one. -/
theorem last {i : Nat} (made : i ≤ n) (untimed : ¬ (link.attemptAfter port command s i).TimedOut) :
    i = n :=
  Nat.le_antisymm made (Nat.le_of_not_lt fun less => untimed (tries.timedOut i less))

theorem writes {bytes : List UInt8}
    (spelled : Text.CodePage.encode (command ++ terminator.toString) = .ok bytes) :
    o.writes = List.replicate (n + 1) bytes := by
  rw [Outcome.writes, tries.history, List.filterMap_append, repeated_writes spelled,
    attemptAfter_writes spelled, List.replicate_succ']

theorem warnings : o.warnings = (List.range n).map fun i => link.retryWarning command (i + 1) := by
  rw [Outcome.warnings, Outcome.log, tries.history, List.filterMap_append, List.filter_append,
    repeated_warnings, attemptAfter_warnings, List.append_nil]

/-- A fault that is no timeout ends the exchange. -/
theorem ending {i : Nat} (made : i ≤ n) {why : Fault}
    (came : (link.attemptAfter port command s i).result = .error why)
    (untimed : ∀ c, why ≠ .radio (.timeout c)) : i = n ∧ o.result = .error why := by
  have last : i = n := tries.last made fun ⟨c, late⟩ => by
    cases came.symm.trans late
    exact untimed c rfl
  subst last
  exact ⟨rfl, tries.failed why came⟩

theorem unwritten {i : Nat} (made : i ≤ n) {bytes : List UInt8} {why : WriteFault} {s' : σ}
    (spelled : Text.CodePage.encode (command ++ terminator.toString) = .ok bytes)
    (unwritten : port.write bytes (link.afterAttempts port command s i) = (.error why, s')) :
    i = n ∧ o.result = .error why.fault ∧ o.port = s' := by
  have came : link.attemptAfter port command s i =
      ⟨.error why.fault, [noteDebug ("PC->RADIO: " ++ command), .wrote bytes], s'⟩ := by
    unfold attemptAfter Port.attempt
    simp only [spelled, unwritten]
  have untimed : ∀ c, why.fault ≠ .radio (.timeout c) := by cases why <;> rintro c ⟨⟩
  obtain ⟨last, result⟩ := tries.ending made (congrArg Outcome.result came) untimed
  subst last
  exact ⟨rfl, result, tries.port.trans (congrArg Outcome.port came)⟩

end Tries

/-- What an exchange that announces its repetitions comes to. -/
structure Ends (link : Link) (port : Port σ) (command : String) (s : σ) (n : Nat) (o : Outcome σ String) :
    Prop where
  tries : link.Tries port command s n o
  answered : ∀ i, i ≤ n → ∀ reply, (link.attemptAfter port command s i).result = .ok reply → i = n
  failed : ∀ i, i ≤ n → ∀ why, (link.attemptAfter port command s i).result = .error why →
    (∀ c, why ≠ .radio (.timeout c)) → i = n ∧ o.result = .error why
  unwritten : ∀ i, i ≤ n → ∀ bytes why s',
    Text.CodePage.encode (command ++ terminator.toString) = .ok bytes →
    port.write bytes (link.afterAttempts port command s i) = (.error why, s') →
    i = n ∧ o.result = .error why.fault ∧ o.port = s'
  warnings : o.warnings = ((List.range n).map fun i => ⟨Source.link, Level.warning,
    "No reply to " ++ command ++ ", retrying (" ++ Number.showNat (i + 1) ++ "/" ++
      Number.showInt link.retries ++ ")"⟩)
  writes : ∀ line, Text.CodePage.encode command = .ok line →
    o.writes = List.replicate (n + 1) (line ++ [13])
  unspelled : ∀ u, Text.CodePage.encode command = .error u → n = 0 ∧ o.writes = [] ∧ o.port = s ∧
    o.result = .error (.argument (.unspellable (Text.trim (command ++ terminator.toString)) u))

theorem Tries.ends {n : Nat} (tries : link.Tries port command s n (link.exchange port command s)) :
    link.Ends port command s n (link.exchange port command s) := by
  refine ⟨tries, fun i made reply came => ?_,
    fun i made why came untimed => tries.ending made came untimed,
    fun i made bytes why s' spelled unwritten => tries.unwritten made spelled unwritten,
    tries.warnings, fun line spelled => ?_, fun u unspelled => ?_⟩
  · exact tries.last made fun ⟨c, late⟩ => by cases came.symm.trans late
  · refine tries.writes ?_
    rw [Text.CodePage.encode_concat, spelled]
    rfl
  · have unspelled' : Text.CodePage.encode (command ++ terminator.toString) = .error u := by
      rw [Text.CodePage.encode_concat, unspelled]
      rfl
    have came : (link.attemptAfter port command s 0).result =
        .error (.argument (.unspellable (Text.trim (command ++ terminator.toString)) u)) := by
      rw [attemptAfter, attempt_unspelled unspelled']
    obtain ⟨none, result⟩ := tries.ending n.zero_le came (by rintro c ⟨⟩)
    obtain ⟨same, silent, -⟩ := exchange_unspelled link port unspelled' s
    exact ⟨none.symm, silent, same, result⟩

/-- An exchange makes attempts up to the first that does not time out, but not more of them than there
are retries and one more, and its outcome is that of the last one, with a refusal for an answer of `N`
or `?`. Each attempt writes the line of the command and its end, each but the first is announced, and a
command that cannot be spelled is not written. If the number of retries is too long to be written, a
timeout of the first attempt is the end instead, and comes out as a fault of another kind. -/
theorem exchange_ends_with_its_last_attempt (patience retries : Int) (port : Port σ) (command : String)
    (s : σ) :
    let link : Link := { patience, retries }
    let first := port.attempt patience command s
    let o := link.exchange port command s
    ((0 < retries → first.TimedOut → Number.isWritable retries = true) →
      ∃ n, link.Ends port command s n o) ∧
    (0 < retries → first.TimedOut → Number.isWritable retries = false →
      o = { first with result := .error .notInteger }) := by
  intro link first o
  have written : link.announced.value.wholeText =
      if Number.isWritable retries then .ok (Number.showInt retries) else .error .notInteger :=
    Value.wholeText_int retries
  constructor
  · intro short
    obtain ⟨n, tries⟩ := exchange_tries link port command s fun some late => by
      rw [written, if_pos (short some late)]
    exact ⟨n, tries.ends⟩
  · rintro some ⟨c, late⟩ long
    refine exchange_unannounced some late ?_
    rw [written, long]
    rfl

end Link

end

namespace Simulation.Script

/-- An answer that is one read too late for the first attempt, and in time for the second. -/
def dawdling : Script := .ofArrivals [.data [] 1, .data [66, 67, 32, 48, 44, 48, 13] 0] []

/-- What the first attempt writes and reads, and what is left for the second. -/
theorem attempt_dawdling :
    (port.attempt 0 "BC" dawdling).result = .error (.radio (.timeout "BC")) ∧
      (port.attempt 0 "BC" dawdling).writes.length = 1 ∧
      (port.attempt 0 "BC" (port.attempt 0 "BC" dawdling).port).result = .ok "BC 0,0" := by
  have spelled : Text.CodePage.encode ("BC" ++ terminator.toString) = .ok [66, 67, 13] := by rfl
  have sent (s : Script) (free : (port.write [66, 67, 13] s).1 = .ok ()) :=
    attempt_sent 0 spelled free
  obtain ⟨left, late⟩ := sent dawdling rfl
  let later : Script := (port.read (port.write [66, 67, 13] dawdling).2).2
  have nothing : port.read (port.write [66, 67, 13] dawdling).2 = (.arrived [] 1, later) := rfl
  rw [collect_arrived nothing rfl, if_pos (by decide)] at left late
  refine ⟨late, by rw [attempt_writes, spelled]; rfl, ?_⟩
  rw [left]
  obtain ⟨-, answered⟩ := sent later rfl
  have reply : port.read (port.write [66, 67, 13] later).2 =
    (.arrived [66, 67, 32, 48, 44, 48, 13] 0, _) := rfl
  have decoded : Text.CodePage.decode [66, 67, 32, 48, 44, 48, 13] = some "BC 0,0\r" := by rfl
  rw [collect_arrived reply decoded, if_neg (by decide), if_pos (by decide)] at answered
  exact answered

/-- Ten to the power of 4300 repetitions are none: the number has a digit too many to be announced. -/
theorem overlong_retries_unmade :
    let link : Link := { patience := 0, retries := (Nat.pow 10 Number.maxDigits : Nat) }
    (link.attemptAfter port "BC" dawdling 0).TimedOut ∧
      (link.attemptAfter port "BC" dawdling 1).result = .ok "BC 0,0" ∧
      (link.exchange port "BC" dawdling).result = .error .notInteger ∧
      (link.exchange port "BC" dawdling).writes.length = 1 ∧
      ¬ ∃ n, link.Ends port "BC" dawdling n (link.exchange port "BC" dawdling) := by
  have long : Number.isWritable (Nat.pow 10 Number.maxDigits : Nat) = false :=
    Number.isWritable_power (by decide) (Nat.le_refl _)
  generalize Nat.pow 10 Number.maxDigits = retries at long ⊢
  have some : 0 < retries := Nat.pos_of_ne_zero (by rintro rfl; exact absurd long (by decide))
  intro link
  obtain ⟨timedOut, once, answered⟩ := attempt_dawdling
  have late : (link.attemptAfter port "BC" dawdling 0).TimedOut := ⟨"BC", timedOut⟩
  have same : link.exchange port "BC" dawdling = _ :=
    exchange_unannounced (Int.natCast_pos.mpr some) timedOut (Rate.wholeText_overlong long)
  have result : (link.exchange port "BC" dawdling).result = .error .notInteger := by rw [same]
  refine ⟨late, answered, result, by rw [same]; exact once, fun ⟨n, ends⟩ => ?_⟩
  have made : n = 1 := by
    rcases Nat.lt_trichotomy n 1 with none | one | more
    · obtain rfl : n = 0 := by omega
      have exhausted : 0 = (retries : Int).toNat := ends.tries.exhausted late
      omega
    · exact one
    · exact (ends.answered 1 (Nat.le_of_lt more) _ answered).symm
  subst made
  have came := ends.tries.answered _ answered
  rw [result] at came
  cases came

end Simulation.Script

end Transceiver
