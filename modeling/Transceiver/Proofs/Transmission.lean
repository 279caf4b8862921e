import Transceiver.Proofs.Conversation

/-! What a conversation puts on the wire: the line of each command, once for every attempt. An
attempt follows another one only on a timeout, so a link of `n` retries sends a line at most
`n + 1` times; a line that the wire cannot spell is not sent at all. -/
namespace Transceiver

/-- The bytes of a command's line and its end, if the wire can spell them. -/
def Command.bytes (command : Command) : Except Text.CodePage.Unspellable (List UInt8) :=
  Text.CodePage.encode (command.line ++ terminator.toString)

/-- What a link writes for some turns: each command's bytes, repeated where it was sent again. -/
inductive Transmitted (link : Link) : List Turn → List (List UInt8) → Prop
  | none : Transmitted link [] []
  | sent {turn turns writes bytes} (times : Nat) : turn.command.bytes = .ok bytes → 1 ≤ times →
      times ≤ link.retries.toNat + 1 → Transmitted link turns writes →
      Transmitted link (turn :: turns) (List.replicate times bytes ++ writes)
  | unspelled {turn turns writes u} : turn.command.bytes = .error u →
      Transmitted link turns writes → Transmitted link (turn :: turns) writes

namespace Outcome

variable {σ α : Type}

@[simp] theorem writes_after (earlier : List Event) (o : Outcome σ α) :
    (o.after earlier).writes = earlier.filterMap Event.bytes? ++ o.writes := by
  simp [writes, after]

theorem after_after (first second : List Event) (o : Outcome σ α) :
    (o.after second).after first = o.after (first ++ second) := by
  simp [after]

end Outcome

section
variable {σ α : Type}

/-- One read of a collection. -/
theorem collect_arrived {port : Port σ} {bytes : List UInt8} {ticks : Nat} {s s' : σ} {more : String}
    (brought : port.read s = (.arrived bytes ticks, s'))
    (decoded : Text.CodePage.decode bytes = some more) (patience : Int) (command : String)
    (elapsed : Nat) (text : String) :
    port.collect patience command elapsed text s =
      if patience < (elapsed + ticks : Nat) then (.error (.radio (.timeout command)), s')
      else if Text.contains (text ++ more) terminator then (.ok (text ++ more), s')
      else port.collect patience command (elapsed + ticks) (text ++ more) s' := by
  rw [Port.collect]
  split
  · rename_i why s'' reading
    rw [brought] at reading
    cases reading
  · rename_i bytes' ticks' s'' reading
    rw [brought] at reading
    cases reading
    rw [decoded]

theorem collect_undecodable {port : Port σ} {bytes : List UInt8} {ticks : Nat} {s s' : σ}
    (brought : port.read s = (.arrived bytes ticks, s'))
    (undecodable : Text.CodePage.decode bytes = none) (patience : Int) (command : String)
    (elapsed : Nat) (text : String) :
    port.collect patience command elapsed text s = (.error .undecodable, s') := by
  rw [Port.collect]
  split
  · rename_i why s'' reading
    rw [brought] at reading
    cases reading
  · rename_i bytes' ticks' s'' reading
    rw [brought] at reading
    cases reading
    rw [undecodable]

theorem collect_failed {port : Port σ} {why : String} {s s' : σ}
    (failed : port.read s = (.failed why, s')) (patience : Int) (command : String) (elapsed : Nat)
    (text : String) :
    port.collect patience command elapsed text s = (.error (.radio (.readFailed why)), s') := by
  rw [Port.collect]
  split
  · rename_i why' s'' reading
    rw [failed] at reading
    cases reading
    rfl
  · rename_i bytes ticks s'' reading
    rw [failed] at reading
    cases reading

/-- A collection fails in a read, for a byte that stands for nothing, or because the time is up. -/
theorem collect_fault {port : Port σ} {patience : Int} {command : String} {elapsed : Nat}
    {text : String} {s : σ} {why : Fault}
    (failed : (port.collect patience command elapsed text s).1 = .error why) :
    why = .undecodable ∨ (∃ reason, why = .radio (.readFailed reason)) ∨
      why = .radio (.timeout command) := by
  fun_induction port.collect patience command elapsed text s with
  | case1 elapsed text s reason s' reading =>
      cases failed
      exact .inr (.inl ⟨reason, rfl⟩)
  | case2 elapsed text s bytes ticks s' reading undecodable =>
      cases failed
      exact .inl rfl
  | case3 elapsed text s bytes ticks s' reading more decoded late =>
      cases failed
      exact .inr (.inr rfl)
  | case4 elapsed text s bytes ticks s' reading more decoded intime ended => cases failed
  | case5 elapsed text s bytes ticks s' reading more decoded intime unended ih => exact ih failed

theorem answerOf_silent (text : String) : (answerOf text).2.filterMap Event.bytes? = [] := by
  unfold answerOf
  dsimp only
  split <;> rfl

/-- What comes of an attempt, by how far it gets. -/
inductive Attempted (port : Port σ) (patience : Int) (command : String) (s : σ) :
    Outcome σ String → Prop
  | unspelled {u} : Text.CodePage.encode (command ++ terminator.toString) = .error u →
      Attempted port patience command s
        ⟨.error (.argument (.unspellable (Text.trim (command ++ terminator.toString)) u)),
          [noteDebug ("PC->RADIO: " ++ command)], s⟩
  | unwritten {bytes why s'} : Text.CodePage.encode (command ++ terminator.toString) = .ok bytes →
      port.write bytes s = (.error why, s') →
      Attempted port patience command s
        ⟨.error why.fault, [noteDebug ("PC->RADIO: " ++ command), .wrote bytes], s'⟩
  | unanswered {bytes s' why s''} :
      Text.CodePage.encode (command ++ terminator.toString) = .ok bytes →
      port.write bytes s = (.ok (), s') →
      port.collect patience command 0 "" s' = (.error why, s'') →
      Attempted port patience command s
        ⟨.error why, [noteDebug ("PC->RADIO: " ++ command), .wrote bytes], s''⟩
  | answered {bytes s' text s''} :
      Text.CodePage.encode (command ++ terminator.toString) = .ok bytes →
      port.write bytes s = (.ok (), s') →
      port.collect patience command 0 "" s' = (.ok text, s'') →
      Attempted port patience command s
        ⟨.ok (answerOf text).1,
          noteDebug ("PC->RADIO: " ++ command) :: .wrote bytes :: (answerOf text).2, s''⟩

theorem attempted (port : Port σ) (patience : Int) (command : String) (s : σ) :
    Attempted port patience command s (port.attempt patience command s) := by
  unfold Port.attempt
  dsimp only
  cases spelled : Text.CodePage.encode (command ++ terminator.toString) with
  | error u => exact .unspelled spelled
  | ok bytes =>
      dsimp only
      rcases written : port.write bytes s with ⟨why | _, s'⟩
      · exact .unwritten spelled written
      · dsimp only
        rcases collected : port.collect patience command 0 "" s' with ⟨why | text, s''⟩
        · exact .unanswered spelled written collected
        · exact .answered spelled written collected

theorem attempt_writes (port : Port σ) (patience : Int) (command : String) (s : σ) :
    (port.attempt patience command s).writes =
      match Text.CodePage.encode (command ++ terminator.toString) with
      | .ok bytes => [bytes]
      | .error _ => [] := by
  have came := attempted port patience command s
  generalize port.attempt patience command s = o at came
  cases came with
  | unspelled spelled => rw [spelled]; rfl
  | unwritten spelled written => rw [spelled]; rfl
  | unanswered spelled written collected => rw [spelled]; rfl
  | answered spelled written collected =>
      rw [spelled]
      simp only [Outcome.writes, List.filterMap_cons, noteDebug, Event.bytes?, answerOf_silent]

/-- Once a command went out, an attempt is what is collected. -/
theorem attempt_sent {port : Port σ} (patience : Int) {command : String}
    {bytes : List UInt8} {s : σ}
    (spelled : Text.CodePage.encode (command ++ terminator.toString) = .ok bytes)
    (sent : (port.write bytes s).1 = .ok ()) :
    (port.attempt patience command s).port =
        (port.collect patience command 0 "" (port.write bytes s).2).2 ∧
      (port.attempt patience command s).result =
        (port.collect patience command 0 "" (port.write bytes s).2).1.map fun text =>
          (answerOf text).1 := by
  have came := attempted port patience command s
  generalize port.attempt patience command s = o at came
  cases came with
  | unspelled unspelled => cases spelled.symm.trans unspelled
  | unwritten spelled' written =>
      cases spelled.symm.trans spelled'
      rw [written] at sent
      cases sent
  | unanswered spelled' written collected =>
      cases spelled.symm.trans spelled'
      rw [written, collected]
      exact ⟨rfl, rfl⟩
  | answered spelled' written collected =>
      cases spelled.symm.trans spelled'
      rw [written, collected]
      exact ⟨rfl, rfl⟩

theorem attempt_unspelled {port : Port σ} {patience : Int} {command : String} {s : σ}
    {u : Text.CodePage.Unspellable}
    (h : Text.CodePage.encode (command ++ terminator.toString) = .error u) :
    port.attempt patience command s =
      ⟨.error (.argument (.unspellable (Text.trim (command ++ terminator.toString)) u)),
        [noteDebug ("PC->RADIO: " ++ command)], s⟩ := by
  unfold Port.attempt
  simp only [h]

theorem attempt_unwritten {port : Port σ} {patience : Int} {command : String} {s s' : σ}
    {bytes : List UInt8} {why : WriteFault}
    (spelled : Text.CodePage.encode (command ++ terminator.toString) = .ok bytes)
    (failed : port.write bytes s = (.error why, s')) :
    port.attempt patience command s =
      ⟨.error why.fault, [noteDebug ("PC->RADIO: " ++ command), .wrote bytes], s'⟩ := by
  unfold Port.attempt
  simp only [spelled, failed]

theorem attempt_unanswered {port : Port σ} {patience : Int} {command : String} {s s' s'' : σ}
    {bytes : List UInt8} {why : Fault}
    (spelled : Text.CodePage.encode (command ++ terminator.toString) = .ok bytes)
    (sent : port.write bytes s = (.ok (), s'))
    (failed : port.collect patience command 0 "" s' = (.error why, s'')) :
    port.attempt patience command s =
      ⟨.error why, [noteDebug ("PC->RADIO: " ++ command), .wrote bytes], s''⟩ := by
  unfold Port.attempt
  simp only [spelled, sent, failed]

/-- A command is sent again after a timeout only. -/
theorem attempts_of_untimed {link : Link} {port : Port σ} {command : String} {s : σ}
    (untimed : ∀ c, (port.attempt link.patience command s).result ≠ .error (.radio (.timeout c)))
    (repetition left : Nat) :
    link.attempts port command repetition left s = port.attempt link.patience command s := by
  cases left with
  | zero => rfl
  | succ left =>
      unfold Link.attempts
      dsimp only
      split
      · rename_i late
        exact absurd late (untimed _)
      · rfl

/-- A repetition that can be announced is made. -/
theorem attempts_of_timeout {link : Link} {port : Port σ} {command c retries : String} {s : σ}
    (late : (port.attempt link.patience command s).result = .error (.radio (.timeout c)))
    (announced : link.announced.value.wholeText = .ok retries) (repetition left : Nat) :
    link.attempts port command repetition (left + 1) s =
      (link.attempts port command (repetition + 1) left
        (port.attempt link.patience command s).port).after
        ((port.attempt link.patience command s).history ++ [Link.retryNote command repetition retries]) := by
  rw [Link.attempts]
  rw [late, announced]

theorem attempts_unannounced {link : Link} {port : Port σ} {command c : String} {s : σ} {why : Fault}
    (late : (port.attempt link.patience command s).result = .error (.radio (.timeout c)))
    (unannounced : link.announced.value.wholeText = .error why) (repetition left : Nat) :
    link.attempts port command repetition (left + 1) s =
      { port.attempt link.patience command s with result := .error why } := by
  rw [Link.attempts]
  rw [late, unannounced]

/-- Where the repetitions cannot be announced, the first timeout ends the exchange. -/
theorem exchange_unannounced {link : Link} {port : Port σ} {command c : String} {s : σ} {why : Fault}
    (some : 0 < link.retries)
    (late : (port.attempt link.patience command s).result = .error (.radio (.timeout c)))
    (unannounced : link.announced.value.wholeText = .error why) :
    link.exchange port command s =
      { port.attempt link.patience command s with result := .error why } := by
  obtain ⟨left, same⟩ : ∃ left, link.retries.toNat = left + 1 := ⟨link.retries.toNat - 1, by omega⟩
  rw [Link.exchange, same, attempts_unannounced late unannounced]
  rfl

theorem Rate.wholePart_fault {r : Rate} {why : Fault} (failed : r.value.wholePart = .error why) :
    why = .unbounded ∨ why = .notInteger := by
  cases r with
  | count n => cases failed
  | flag b => cases failed
  | measure x =>
      cases x with
      | infinite negative =>
          cases failed
          exact .inl rfl
      | nan =>
          cases failed
          exact .inr rfl
      | finite q => cases failed
      | negativeZero => cases failed

/-- A rate is a number: what keeps it from being written is its size, or that no integer is close. -/
theorem Rate.wholeText_fault {r : Rate} {why : Fault} (failed : r.value.wholeText = .error why) :
    why = .unbounded ∨ why = .notInteger := by
  unfold Value.wholeText at failed
  cases whole : r.value.wholePart with
  | error other =>
      rw [whole] at failed
      cases failed
      exact Rate.wholePart_fault whole
  | ok n =>
      rw [whole] at failed
      dsimp only [bind, Except.bind] at failed
      split at failed
      · cases failed
      · cases failed
        exact .inr rfl

/-- Whatever the attempts come to, one of them came to it, or there was no way to announce the next. -/
theorem attempts_last (link : Link) (port : Port σ) (command : String) (repetition left : Nat) (s : σ) :
    (∃ last, (link.attempts port command repetition left s).result =
      (port.attempt link.patience command last).result) ∨
    ∃ why, link.announced.value.wholeText = .error why ∧
      (link.attempts port command repetition left s).result = .error why := by
  induction left generalizing repetition s with
  | zero => exact .inl ⟨s, rfl⟩
  | succ left ih =>
      unfold Link.attempts
      dsimp only
      split
      · split
        · rename_i why unannounced
          exact .inr ⟨why, unannounced, rfl⟩
        · exact ih _ _
      · exact .inl ⟨s, rfl⟩

theorem attempts_unspelled {link : Link} {port : Port σ} {command : String}
    {u : Text.CodePage.Unspellable}
    (h : Text.CodePage.encode (command ++ terminator.toString) = .error u)
    (repetition left : Nat) (s : σ) :
    link.attempts port command repetition left s = port.attempt link.patience command s := by
  refine attempts_of_untimed (fun c => ?_) repetition left
  rw [attempt_unspelled h]
  rintro ⟨⟩

/-- A command that cannot be spelled is not sent. -/
theorem exchange_unspelled (link : Link) (port : Port σ) {command : String}
    {u : Text.CodePage.Unspellable}
    (unspelled : Text.CodePage.encode (command ++ terminator.toString) = .error u) (s : σ) :
    (link.exchange port command s).port = s ∧ (link.exchange port command s).writes = [] ∧
      ∃ why, (link.exchange port command s).result = .error (.argument why) := by
  unfold Link.exchange
  rw [attempts_unspelled unspelled, attempt_unspelled unspelled]
  exact ⟨rfl, rfl, _, rfl⟩

theorem attempts_spelled (link : Link) (port : Port σ) {command : String} {bytes : List UInt8}
    (h : Text.CodePage.encode (command ++ terminator.toString) = .ok bytes)
    (repetition left : Nat) (s : σ) :
    ∃ times, 1 ≤ times ∧ times ≤ left + 1 ∧
      (link.attempts port command repetition left s).writes = List.replicate times bytes := by
  have once : ∀ s : σ, (port.attempt link.patience command s).writes = [bytes] := by
    intro s
    rw [attempt_writes, h]
  induction left generalizing repetition s with
  | zero => exact ⟨1, Nat.le_refl 1, Nat.le_refl 1, once s⟩
  | succ left ih =>
      unfold Link.attempts
      dsimp only
      split
      -- Only a timeout is answered by another attempt.
      · split
        · exact ⟨1, Nat.le_refl 1, Nat.le_add_left 1 (left + 1), once s⟩
        · obtain ⟨times, _, few, same⟩ :=
            ih (repetition + 1) (port.attempt link.patience command s).port
          refine ⟨times + 1, Nat.le_add_left 1 times, Nat.succ_le_succ few, ?_⟩
          have first : (port.attempt link.patience command s).history.filterMap Event.bytes? = [bytes] :=
            once s
          rw [Outcome.writes_after, List.filterMap_append, first, same]
          rfl
      · exact ⟨1, Nat.le_refl 1, Nat.le_add_left 1 (left + 1), once s⟩

theorem exchange_writes (link : Link) (port : Port σ) (command : String) (s : σ) :
    (link.exchange port command s).writes =
      (link.attempts port command 1 link.retries.toNat s).writes := rfl

/-- An exchange fails as an attempt does, for a refusal that arrived, or for a repetition that cannot be
announced. -/
theorem exchange_failed {link : Link} {port : Port σ} {command : String} {s : σ} {why : Fault}
    (failed : (link.exchange port command s).result = .error why) :
    (∃ last, (port.attempt link.patience command last).result = .error why ∨
      ∃ reply, (port.attempt link.patience command last).result = .ok reply ∧
        Record.isRefusal reply = true ∧ why = .radio (.refused command reply)) ∨
    link.announced.value.wholeText = .error why := by
  change (link.attempts port command 1 link.retries.toNat s).result.bind (Link.accepted command) = _
    at failed
  obtain ⟨last, same⟩ | ⟨other, unannounced, same⟩ :=
    attempts_last link port command 1 link.retries.toNat s
  · refine .inl ⟨last, ?_⟩
    rw [same] at failed
    cases came : (port.attempt link.patience command last).result with
    | error other =>
        rw [came] at failed
        cases failed
        exact .inl rfl
    | ok reply =>
        rw [came] at failed
        change Link.accepted command reply = _ at failed
        unfold Link.accepted at failed
        split at failed
        · rename_i refusal
          cases failed
          exact .inr ⟨reply, rfl, refusal, rfl⟩
        · cases failed
  · rw [same] at failed
    cases failed
    exact .inr unannounced

/-- What follows on a value is carried on where the dialogue left the port. -/
theorem run_bind_ok {β : Type} {link : Link} {port : Port σ} {d : Dialogue α} {next : α → Dialogue β}
    {s : σ} {value : α} (came : (d.run link port s).result = .ok value) :
    (d >>= next).run link port s =
      ((next value).run link port (d.run link port s).port).after (d.run link port s).history := by
  induction d generalizing s with
  | done v =>
      cases came
      rfl
  | fail why => cases came
  | note record rest ih =>
      have later := congrArg (Outcome.after [.noted record]) (ih (s := s) came)
      rwa [Outcome.after_after] at later
  | send command rest ih =>
      have later := congrArg (Outcome.after (link.exchange port command.line s).history) (ih _ came)
      rwa [Outcome.after_after] at later

theorem run_inquiry {β : Type} (link : Link) (port : Port σ) {command : Command}
    {meaning : String → Except Fault α} (next : α → Dialogue β) (s : σ) :
    (Dialogue.inquiry command meaning >>= next).run link port s =
      ((match (link.exchange port command.line s).result.bind meaning with
        | .error why => Dialogue.fail why
        | .ok value => next value).run link port (link.exchange port command.line s).port).after
      (link.exchange port command.line s).history := by
  change Outcome.after _ _ = _
  dsimp only
  cases (link.exchange port command.line s).result.bind meaning <;> rfl

theorem run_inquiry_result (link : Link) (port : Port σ) {command : Command}
    {meaning : String → Except Fault α} (s : σ) :
    ((Dialogue.inquiry command meaning).run link port s).result =
      (link.exchange port command.line s).result.bind meaning := by
  change ((Dialogue.ofExcept _).run link port _).result = _
  cases (link.exchange port command.line s).result.bind meaning <;> rfl

/-- A command that stays unanswered ends the dialogue that begins with it. -/
theorem run_unanswered {link : Link} {port : Port σ} {s : σ} {d : Dialogue α} {record : LogRecord}
    {command : Command} {rest : Except Fault String → Dialogue α} {why : Fault}
    (shape : d = .note record (.send command rest))
    (unanswered : (link.exchange port command.line s).result = .error why)
    (stops : rest (.error why) = .fail why) : (d.run link port s).result = .error why := by
  subst shape
  change ((rest (link.exchange port command.line s).result).run link port _).result = _
  rw [unanswered, stops]
  rfl

/-- Whatever the port does, a dialogue writes the lines of its commands, in their order. -/
theorem transmitted_run (link : Link) (port : Port σ) (d : Dialogue α) (s : σ) :
    Transmitted link (d.turns link port s) (d.run link port s).writes := by
  induction d generalizing s with
  | done value => exact .none
  | fail why => exact .none
  | note record rest ih =>
      change Transmitted link (rest.turns link port s) (((rest.run link port s).after _).writes)
      rw [Outcome.writes_after]
      exact ih s
  | send command rest ih =>
      have later :=
        ih (link.exchange port command.line s).result (link.exchange port command.line s).port
      change Transmitted link (_ :: _) ((Outcome.after _ _).writes)
      rw [Outcome.writes_after]
      change Transmitted link _ ((link.exchange port command.line s).writes ++ _)
      rw [exchange_writes]
      cases spelling : command.bytes with
      | error u =>
          rw [attempts_unspelled spelling, attempt_unspelled spelling]
          exact .unspelled spelling later
      | ok bytes =>
          obtain ⟨times, some, few, same⟩ := attempts_spelled link port spelling 1
            link.retries.toNat s
          rw [same]
          exact .sent times spelling some few later

end

namespace Transmitted

variable {link : Link}

theorem nothing {writes : List (List UInt8)} (h : Transmitted link [] writes) : writes = [] := by
  cases h
  rfl

theorem mem_bytes {turns : List Turn} {writes : List (List UInt8)} (h : Transmitted link turns writes)
    {bytes : List UInt8} (written : bytes ∈ writes) :
    ∃ turn ∈ turns, turn.command.bytes = .ok bytes := by
  induction h with
  | none => cases written
  | @sent turn turns writes found times spelling some few later ih =>
      rcases List.mem_append.mp written with here | there
      · rw [List.eq_of_mem_replicate here]
        exact ⟨turn, List.mem_cons_self, spelling⟩
      · obtain ⟨turn', member, same⟩ := ih there
        exact ⟨turn', List.mem_cons_of_mem turn member, same⟩
  | @unspelled turn turns writes u spelling later ih =>
      obtain ⟨turn', member, same⟩ := ih written
      exact ⟨turn', List.mem_cons_of_mem turn member, same⟩

end Transmitted

end Transceiver
