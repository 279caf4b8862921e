import Transceiver.Proofs.QuietLine

/-! Dialogues held with a radio directly, without a line between. On a quiet bench and with some
patience, a dialogue over the port is the one that is held directly, and each of its commands is
written once. -/
namespace Transceiver

open Simulation

/-- The bytes of a printable command's line and its end. -/
def Command.sent (command : Command) : List UInt8 := asciiBytes command.line ++ [13]

theorem Bench.exchange_sent {link : Link} (patient : 0 ≤ link.patience) {s : Bench} (quiet : s.Quiet)
    {command : Command} (worded : IsPrintable command.line)
    (clear : IsPrintable (s.radio.answer command.line).1) :
    (link.exchange Bench.port command.line s).writes = [command.sent] := by
  obtain ⟨⟨-, untimed⟩, -⟩ := Bench.attempt_quiet patient quiet (unended_of_printable worded)
    (unended_of_printable clear)
  rw [exchange_writes, attempts_of_untimed untimed, attempt_writes, encode_line worded]
  rfl

namespace Dialogue

variable {α β : Type}

/-- A dialogue with a radio comes to this result and leaves the radio like that. Every command and
every answer is printable. -/
inductive Talks : Dialogue α → Radio → Except Fault α → Radio → Prop
  | done (value : α) (r) : Talks (.done value) r (.ok value) r
  | fail (why : Fault) (r) : Talks (.fail why) r (.error why) r
  | note {record rest r result r'} : Talks rest r result r' → Talks (.note record rest) r result r'
  | send {command : Command} {rest r result r'} : IsPrintable command.line →
      IsPrintable (r.answer command.line).1 →
      Talks (rest (Link.accepted command.line (Text.trim (r.answer command.line).1)))
        (r.answer command.line).2 result r' →
      Talks (.send command rest) r result r'

/-- Such a dialogue together with the commands that are said in it. -/
inductive Speaks : Dialogue α → Radio → List Command → Except Fault α → Radio → Prop
  | done (value : α) (r) : Speaks (.done value) r [] (.ok value) r
  | fail (why : Fault) (r) : Speaks (.fail why) r [] (.error why) r
  | note {record rest r commands result r'} : Speaks rest r commands result r' →
      Speaks (.note record rest) r commands result r'
  | send {command : Command} {rest r commands result r'} : IsPrintable command.line →
      IsPrintable (r.answer command.line).1 →
      Speaks (rest (Link.accepted command.line (Text.trim (r.answer command.line).1)))
        (r.answer command.line).2 commands result r' →
      Speaks (.send command rest) r (command :: commands) result r'

theorem Speaks.talks {d : Dialogue α} {r r' : Radio} {commands : List Command} {result : Except Fault α}
    (h : d.Speaks r commands result r') : d.Talks r result r' := by
  induction h with
  | done value r => exact .done value r
  | fail why r => exact .fail why r
  | note later ih => exact .note ih
  | send worded clear later ih => exact .send worded clear ih

theorem Talks.speaks {d : Dialogue α} {r r' : Radio} {result : Except Fault α}
    (h : d.Talks r result r') : ∃ commands, d.Speaks r commands result r' := by
  induction h with
  | done value r => exact ⟨[], .done value r⟩
  | fail why r => exact ⟨[], .fail why r⟩
  | note later ih =>
      obtain ⟨commands, speaks⟩ := ih
      exact ⟨commands, .note speaks⟩
  | @send command rest r result r' worded clear later ih =>
      obtain ⟨commands, speaks⟩ := ih
      exact ⟨command :: commands, .send worded clear speaks⟩

namespace Speaks

variable {r r' r'' : Radio} {commands later : List Command} {value : α} {why : Fault}

/-- What is said over a quiet line is said to the radio, and nothing else is written. -/
theorem run {link : Link} (patient : 0 ≤ link.patience) {d : Dialogue α} {result : Except Fault α}
    (h : d.Speaks r commands result r') {s : Bench} (quiet : s.Quiet) (same : s.radio = r) :
    (d.run link Bench.port s).result = result ∧ (d.run link Bench.port s).port.radio = r' ∧
      (d.run link Bench.port s).port.Quiet ∧
      (d.run link Bench.port s).writes = commands.map Command.sent := by
  induction h generalizing s with
  | done value r => exact ⟨rfl, same, quiet, rfl⟩
  | fail why r => exact ⟨rfl, same, quiet, rfl⟩
  | note later ih =>
      obtain ⟨result, radio, quiet', writes⟩ := ih quiet same
      refine ⟨result, radio, quiet', ?_⟩
      rw [← writes]
      exact Outcome.writes_after _ _
  | @send command rest r commands result r' worded clear later ih =>
      subst same
      have sent := Bench.exchange_sent patient quiet worded clear
      obtain ⟨answer, radio, quiet'⟩ := Bench.exchange_serve patient quiet
        (unended_of_printable worded) (unended_of_printable clear)
      rw [Radio.serve_printable worded clear] at answer radio
      dsimp only at answer radio
      obtain ⟨result, left, quiet'', writes⟩ := ih quiet' radio
      rw [← answer] at result left quiet'' writes
      refine ⟨result, left, quiet'', ?_⟩
      rw [List.map_cons, ← writes, ← List.singleton_append, ← sent]
      exact Outcome.writes_after _ _

theorem ofExcept (e : Except Fault α) (r : Radio) : (Dialogue.ofExcept e).Speaks r [] e r := by
  cases e with
  | ok value => exact .done value r
  | error why => exact .fail why r

theorem bind {d : Dialogue α} {next : α → Dialogue β} {result : Except Fault β}
    (first : d.Speaks r commands (.ok value) r') (second : (next value).Speaks r' later result r'') :
    (d >>= next).Speaks r (commands ++ later) result r'' := by
  induction d generalizing r commands with
  | done v =>
      cases first
      exact second
  | fail why => cases first
  | note record rest ih =>
      cases first with
      | note talks => exact .note (ih talks)
  | send command rest ih =>
      cases first with
      | send worded clear talks => exact .send worded clear (ih _ talks)

/-- What is settled beforehand takes no words. -/
theorem settled {e : Except Fault α} {next : α → Dialogue β} {result : Except Fault β}
    (known : e = .ok value) (second : (next value).Speaks r commands result r') :
    (Dialogue.ofExcept e >>= next).Speaks r commands result r' := by
  subst known
  exact second

theorem bind_error {d : Dialogue α} {next : α → Dialogue β} (h : d.Speaks r commands (.error why) r') :
    (d >>= next).Speaks r commands (.error why) r' := by
  induction d generalizing r commands with
  | done v => cases h
  | fail why =>
      cases h
      exact .fail _ _
  | note record rest ih =>
      cases h with
      | note talks => exact .note (ih talks)
  | send command rest ih =>
      cases h with
      | send worded clear talks => exact .send worded clear (ih _ talks)

theorem map {d : Dialogue α} {f : α → β} (h : d.Speaks r commands (.ok value) r') :
    (d >>= fun v => pure (f v)).Speaks r commands (.ok (f value)) r' := by
  have mapped : (d >>= fun v => pure (f v)).Speaks r (commands ++ []) (.ok (f value)) r' :=
    bind h (.done (f value) r')
  rwa [List.append_nil] at mapped

theorem rescue_ok {d : Dialogue α} {handler : Fault → Dialogue α}
    (h : d.Speaks r commands (.ok value) r') :
    (tryCatch d handler).Speaks r commands (.ok value) r' := by
  induction d generalizing r commands with
  | done v =>
      cases h
      exact .done _ _
  | fail why => cases h
  | note record rest ih =>
      cases h with
      | note talks => exact .note (ih talks)
  | send command rest ih =>
      cases h with
      | send worded clear talks => exact .send worded clear (ih _ talks)

theorem rescue_error {d : Dialogue α} {handler : Fault → Dialogue α} {result : Except Fault α}
    (h : d.Speaks r commands (.error why) r') (otherwise : (handler why).Speaks r' later result r'') :
    (tryCatch d handler).Speaks r (commands ++ later) result r'' := by
  induction d generalizing r commands with
  | done v => cases h
  | fail why =>
      cases h
      exact otherwise
  | note record rest ih =>
      cases h with
      | note talks => exact .note (ih talks)
  | send command rest ih =>
      cases h with
      | send worded clear talks => exact .send worded clear (ih _ talks)

/-- A command whose answer is all that counts is all that is said. -/
theorem inquiry {command : Command} {meaning : String → Except Fault α} {result : Except Fault α}
    (h : (Dialogue.inquiry command meaning).Talks r result r') :
    (Dialogue.inquiry command meaning).Speaks r [command] result r' := by
  have silent : ∀ {e : Except Fault α} {r₀ : Radio}, (Dialogue.ofExcept e).Talks r₀ result r' →
      (Dialogue.ofExcept e).Speaks r₀ [] result r' := by
    intro e r₀ talks
    cases e <;> cases talks
    · exact .fail _ _
    · exact .done _ _
  cases h with
  | send worded clear talks => exact .send worded clear (silent talks)

end Speaks

namespace Talks

variable {r r' r'' : Radio} {value : α} {why : Fault}

theorem run {link : Link} (patient : 0 ≤ link.patience) {d : Dialogue α} {result : Except Fault α}
    (h : d.Talks r result r') {s : Bench} (quiet : s.Quiet) (same : s.radio = r) :
    (d.run link Bench.port s).result = result ∧ (d.run link Bench.port s).port.radio = r' ∧
      (d.run link Bench.port s).port.Quiet := by
  obtain ⟨commands, speaks⟩ := h.speaks
  obtain ⟨result, radio, quiet', -⟩ := speaks.run patient quiet same
  exact ⟨result, radio, quiet'⟩

theorem ofExcept (e : Except Fault α) (r : Radio) : (Dialogue.ofExcept e).Talks r e r :=
  (Speaks.ofExcept e r).talks

theorem bind {d : Dialogue α} {next : α → Dialogue β} {result : Except Fault β}
    (first : d.Talks r (.ok value) r') (second : (next value).Talks r' result r'') :
    (d >>= next).Talks r result r'' := by
  obtain ⟨commands, speaks⟩ := first.speaks
  obtain ⟨later, speaks'⟩ := second.speaks
  exact (speaks.bind speaks').talks

theorem map {d : Dialogue α} {f : α → β} (h : d.Talks r (.ok value) r') :
    (d >>= fun v => pure (f v)).Talks r (.ok (f value)) r' :=
  bind h (.done (f value) r')

theorem rescue_ok {d : Dialogue α} {handler : Fault → Dialogue α} (h : d.Talks r (.ok value) r') :
    (tryCatch d handler).Talks r (.ok value) r' := by
  obtain ⟨commands, speaks⟩ := h.speaks
  exact speaks.rescue_ok.talks

theorem rescue_error {d : Dialogue α} {handler : Fault → Dialogue α} {result : Except Fault α}
    (h : d.Talks r (.error why) r') (otherwise : (handler why).Talks r' result r'') :
    (tryCatch d handler).Talks r result r'' := by
  obtain ⟨commands, speaks⟩ := h.speaks
  obtain ⟨later, speaks'⟩ := otherwise.speaks
  exact (speaks.rescue_error speaks').talks

theorem bind_error {d : Dialogue α} {next : α → Dialogue β} (h : d.Talks r (.error why) r') :
    (d >>= next).Talks r (.error why) r' := by
  obtain ⟨commands, speaks⟩ := h.speaks
  exact speaks.bind_error.talks

/-- An answer is made sense of without the blanks around it. -/
theorem inquiry_trimmed {command : Command} {meaning : String → Except Fault α} {reply : String}
    (worded : IsPrintable command.line) (replied : r.answer command.line = (reply, r'))
    (clear : IsPrintable reply) :
    (Dialogue.inquiry command meaning).Talks r
      ((Link.accepted command.line (Text.trim reply)).bind meaning) r' := by
  refine .send worded (by rw [replied]; exact clear) ?_
  rw [replied]
  exact ofExcept _ r'

theorem inquiry {command : Command} {meaning : String → Except Fault α} {reply : String}
    (worded : IsPrintable command.line) (replied : r.answer command.line = (reply, r'))
    (clear : IsPrintable reply) (whole : Text.trim reply = reply) :
    (Dialogue.inquiry command meaning).Talks r
      ((Link.accepted command.line reply).bind meaning) r' := by
  have talks : (Dialogue.inquiry command meaning).Talks r _ r' :=
    inquiry_trimmed worded replied clear
  rwa [whole] at talks

/-- What an inquiry comes to is what the radio serves of its command. -/
theorem served {command : Command} {meaning : String → Except Fault α} {result : Except Fault α}
    (h : (Dialogue.inquiry command meaning).Talks r result r') :
    IsPrintable command.line ∧ IsPrintable (r.answer command.line).1 ∧
      (r.serve command.line).1.bind meaning = result ∧ (r.answer command.line).2 = r' := by
  have silent : ∀ {e : Except Fault α} {r₀ : Radio}, (Dialogue.ofExcept e).Talks r₀ result r' →
      e = result ∧ r₀ = r' := by
    intro e r₀ talks
    cases e <;> cases talks <;> exact ⟨rfl, rfl⟩
  cases h with
  | send worded clear later =>
      obtain ⟨came, left⟩ := silent later
      have served := congrArg Prod.fst (Radio.serve_printable worded clear)
      dsimp only at served
      exact ⟨worded, clear, served ▸ came, left⟩

end Talks

end Dialogue

namespace Rig

/-- Over a quiet line a request comes to what it comes to with the radio itself. One that fails leaves
the rig as it is. -/
theorem carryOut_of_talks {link : Link} (patient : 0 ≤ link.patience) {r : Rig} {request : Request}
    {radio radio' : Radio} {result : Except Fault (Answer × Rig)}
    (talks : (r.perform request).Talks radio result radio') {s : Bench} (quiet : s.Quiet)
    (same : s.radio = radio) :
    (r.carryOut link Bench.port request s).1.result = result.map (·.1) ∧
      (r.carryOut link Bench.port request s).2 = (result.map (·.2)).toOption.getD r ∧
      (r.carryOut link Bench.port request s).1.port.radio = radio' ∧
      (r.carryOut link Bench.port request s).1.port.Quiet := by
  obtain ⟨came, left, quiet'⟩ := talks.run patient quiet same
  rw [carryOut_eq]
  unfold Outcome.withRig
  rw [came]
  cases result with
  | ok pair => exact ⟨rfl, rfl, left, quiet'⟩
  | error why => exact ⟨rfl, rfl, left, quiet'⟩

/-- Carrying a request out over a quiet line comes to the answer and the rig. It writes each of the
commands once and leaves a quiet bench with such a radio. -/
structure Achieves (link : Link) (r : Rig) (request : Request) (s : Bench) (commands : List Command)
    (answer : Answer) (r' : Rig) (radio : Radio) : Prop where
  result : (r.carryOut link Bench.port request s).1.result = .ok answer
  rig : (r.carryOut link Bench.port request s).2 = r'
  writes : (r.carryOut link Bench.port request s).1.writes = commands.map Command.sent
  radio : (r.carryOut link Bench.port request s).1.port.radio = radio
  quiet : (r.carryOut link Bench.port request s).1.port.Quiet

theorem achieves_of_speaks {link : Link} (patient : 0 ≤ link.patience) {r r' : Rig} {request : Request}
    {s : Bench} (quiet : s.Quiet) {commands : List Command} {answer : Answer} {radio : Radio}
    (speaks : (r.perform request).Speaks s.radio commands (.ok (answer, r')) radio) :
    r.Achieves link request s commands answer r' radio := by
  obtain ⟨result, rig, left, quiet'⟩ := carryOut_of_talks patient speaks.talks quiet rfl
  obtain ⟨-, -, -, writes⟩ := speaks.run patient quiet rfl
  rw [← carryOut_writes] at writes
  exact ⟨result, rig, writes, left, quiet'⟩

end Rig

end Transceiver
