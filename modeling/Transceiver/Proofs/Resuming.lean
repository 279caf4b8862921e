import Transceiver.Proofs.LostAnswers

/-! Dialogues that may be held again. A dialogue that was cut short may be held again from the start if
each of its commands may be, and if later commands keep to what the earlier ones came to. -/
namespace Transceiver

open Dialogue Record Simulation

namespace Dialogue

variable {α β : Type}

/-- How a dialogue ends that is held with a radio directly, and the radio after it. -/
def held : Dialogue α → Radio → Except Fault α × Radio
  | .done value, r => (.ok value, r)
  | .fail why, r => (.error why, r)
  | .note _ rest, r => rest.held r
  | .send command rest, r => (rest (r.serve command.line).1).held (r.serve command.line).2

section
variable {d : Dialogue α} {next : α → Dialogue β} {r r' r'' : Radio} {value : α} {why : Fault}

theorem held_send (command : Command) (rest : Except Fault String → Dialogue α) (r : Radio) :
    (send command rest).held r = (rest (r.serve command.line).1).held (r.serve command.line).2 := rfl

theorem held_note (record : LogRecord) (rest : Dialogue α) (r : Radio) :
    (note record rest).held r = rest.held r := rfl

theorem held_bind_ok (h : d.held r = (.ok value, r')) : (d >>= next).held r = (next value).held r' := by
  induction d generalizing r with
  | done v =>
      cases h
      rfl
  | fail why => cases h
  | note record rest ih => exact ih h
  | send command rest ih => exact ih _ h

theorem held_bind_error (h : d.held r = (.error why, r')) : (d >>= next).held r = (.error why, r') := by
  induction d generalizing r with
  | done v => cases h
  | fail why =>
      cases h
      rfl
  | note record rest ih => exact ih h
  | send command rest ih => exact ih _ h

theorem held_ofExcept (e : Except Fault α) (r : Radio) : (ofExcept e).held r = (e, r) := by
  cases e <;> rfl

theorem held_inquiry (command : Command) (meaning : String → Except Fault α) (r : Radio) :
    (inquiry command meaning).held r =
      ((r.serve command.line).1.bind meaning, (r.serve command.line).2) :=
  held_ofExcept _ _

theorem held_bind_congr (h : d.held r' = d.held r) : (d >>= next).held r' = (d >>= next).held r := by
  cases same : d.held r with
  | mk result after =>
      rw [same] at h
      cases result with
      | ok value => rw [held_bind_ok h, held_bind_ok same]
      | error why => rw [held_bind_error h, held_bind_error same]

theorem held_rescue_ok {handler : Fault → Dialogue α} (h : d.held r = (.ok value, r')) :
    (tryCatch d handler).held r = (.ok value, r') := by
  induction d generalizing r with
  | done v =>
      cases h
      rfl
  | fail why => cases h
  | note record rest ih => exact ih h
  | send command rest ih => exact ih _ h

theorem held_rescue_error {handler : Fault → Dialogue α} (h : d.held r = (.error why, r')) :
    (tryCatch d handler).held r = (handler why).held r' := by
  induction d generalizing r with
  | done v => cases h
  | fail why =>
      cases h
      rfl
  | note record rest ih => exact ih h
  | send command rest ih => exact ih _ h

theorem Talks.held {result : Except Fault α} (h : d.Talks r result r') : d.held r = (result, r') := by
  induction h with
  | done value r => rfl
  | fail why r => rfl
  | note later ih => exact ih
  | @send command rest r result r' worded clear later ih =>
      rw [held_send, Radio.serve_printable worded clear]
      dsimp only
      exact ih

end

/-- Over a quiet line a dialogue ends as with the radio directly. -/
theorem held_run {link : Link} (patient : 0 ≤ link.patience) {d : Dialogue α}
    (apart : d.Asks Command.Apart fun _ => True) {s : Bench} (quiet : s.Quiet)
    (unbroken : s.radio.Unbroken) :
    (d.run link Bench.port s).result = (d.held s.radio).1 ∧
      (d.run link Bench.port s).port.radio = (d.held s.radio).2 := by
  induction d generalizing s with
  | done value => exact ⟨rfl, rfl⟩
  | fail why => exact ⟨rfl, rfl⟩
  | note record rest ih => exact ih apart quiet unbroken
  | send command rest ih =>
      obtain ⟨⟨single, other⟩, after⟩ := apart
      obtain ⟨answer, radio, quiet'⟩ := Bench.exchange_serve patient quiet single
        (Radio.answer_unbroken unbroken single other).1
      have unbroken' : (link.exchange Bench.port command.line s).port.radio.Unbroken :=
        radio ▸ unbroken.serve single other
      obtain ⟨result, left⟩ := ih _ (after _) quiet' unbroken'
      have onward : (rest (link.exchange Bench.port command.line s).result).held
          (link.exchange Bench.port command.line s).port.radio = (send command rest).held s.radio := by
        rw [answer, radio]
        rfl
      rw [onward] at result left
      exact ⟨result, left⟩

namespace Suffers

variable {d : Dialogue α} {next : α → Dialogue β} {r r' : Radio}

theorem of_bind {result : Except Fault β} (h : (d >>= next).Suffers r result r') :
    (∃ why, d.Suffers r (.error why) r' ∧ result = .error why) ∨
      ∃ value between, d.Suffers r (.ok value) between ∧ (next value).Suffers between result r' := by
  induction d generalizing r with
  | done v => exact .inr ⟨v, r, .done v r, h⟩
  | fail why =>
      cases h
      exact .inl ⟨why, .fail why _, rfl⟩
  | note record rest ih =>
      cases h with
      | note h =>
          rcases ih h with ⟨why, first, same⟩ | ⟨value, between, first, second⟩
          · exact .inl ⟨why, .note first, same⟩
          · exact .inr ⟨value, between, .note first, second⟩
  | send command rest ih =>
      cases h with
      | send meets h =>
          rcases ih _ h with ⟨why, first, same⟩ | ⟨value, between, first, second⟩
          · exact .inl ⟨why, .send meets first, same⟩
          · exact .inr ⟨value, between, .send meets first, second⟩

theorem of_rescue {handler : Fault → Dialogue α} {result : Except Fault α}
    (h : (tryCatch d handler).Suffers r result r') :
    (∃ value, d.Suffers r (.ok value) r' ∧ result = .ok value) ∨
      ∃ why between, d.Suffers r (.error why) between ∧ (handler why).Suffers between result r' := by
  induction d generalizing r with
  | done v =>
      cases h
      exact .inl ⟨v, .done v _, rfl⟩
  | fail why => exact .inr ⟨why, r, .fail why r, h⟩
  | note record rest ih =>
      cases h with
      | note h =>
          rcases ih h with ⟨value, first, same⟩ | ⟨why, between, first, second⟩
          · exact .inl ⟨value, .note first, same⟩
          · exact .inr ⟨why, between, .note first, second⟩
  | send command rest ih =>
      cases h with
      | send meets h =>
          rcases ih _ h with ⟨value, first, same⟩ | ⟨why, between, first, second⟩
          · exact .inl ⟨value, .send meets first, same⟩
          · exact .inr ⟨why, between, .send meets first, second⟩

theorem of_note {record : LogRecord} {result : Except Fault α}
    (h : (Dialogue.note record d).Suffers r result r') : d.Suffers r result r' := by
  cases h with
  | note later => exact later

theorem of_ofExcept {e result : Except Fault α} (h : (Dialogue.ofExcept e).Suffers r result r') :
    result = e ∧ r' = r := by
  cases e <;> cases h <;> exact ⟨rfl, rfl⟩

/-- What every command of a dialogue keeps is kept, whatever is lost. -/
theorem keeps {P : Radio → Prop} {result : Except Fault α}
    (asks : d.Asks (fun command => ∀ r, P r → P (r.answer command.line).2) fun _ => True)
    (h : d.Suffers r result r') (start : P r) : P r' := by
  induction h with
  | done value r => exact start
  | fail why r => exact start
  | note later ih => exact ih asks start
  | @send command rest r answer between result r' meets later ih =>
      refine ih (asks.2 _) ?_
      rcases meets.radio with rfl | rfl
      · exact start
      · rcases r.serve_radio command.line with same | answered
        · rwa [same]
        · rw [answered]
          exact asks.1 r start

/-- A single command is served, or its fault is no rejection; the radio heard it at most. -/
theorem of_inquiry {command : Command} {meaning : String → Except Fault α} {result : Except Fault α}
    (h : (inquiry command meaning).Suffers r result r') :
    (inquiry command meaning).held r = (result, r') ∨
      (∃ why : Fault, why.Unrejected ∧ result = .error why) ∧
        (r' = r ∨ r' = (r.serve command.line).2) := by
  cases h with
  | send meets later =>
      obtain ⟨came, same⟩ := later.of_ofExcept
      cases meets with
      | served =>
          left
          rw [came, same, held_inquiry]
      | lost unrejected => exact .inr ⟨⟨_, unrejected, came⟩, .inl same⟩
      | unheard unrejected => exact .inr ⟨⟨_, unrejected, came⟩, .inr same⟩

end Suffers

/-- If the dialogue succeeds in spite of all losses, nothing is amiss. -/
structure Truthful (d : Dialogue α) : Prop where
  came : ∀ {r value r'}, d.Suffers r (.ok value) r' → d.held r = (.ok value, r')

/-- Whatever losses the dialogue suffered, it may be held again from the start. -/
structure Repeats (d : Dialogue α) (r : Radio) : Prop where
  again : ∀ {result r'}, d.Suffers r result r' → d.held r' = d.held r

namespace Truthful

theorem inquiry (command : Command) (meaning : String → Except Fault α) :
    (Dialogue.inquiry command meaning).Truthful := by
  refine ⟨fun suffers => ?_⟩
  rcases suffers.of_inquiry with came | ⟨⟨why, -, ⟨⟩⟩, -⟩
  exact came

theorem ofExcept (e : Except Fault α) : (Dialogue.ofExcept e).Truthful := by
  refine ⟨fun suffers => ?_⟩
  obtain ⟨rfl, rfl⟩ := suffers.of_ofExcept
  rfl

theorem bind {d : Dialogue α} {next : α → Dialogue β} (first : d.Truthful)
    (second : ∀ value, (next value).Truthful) : (d >>= next).Truthful := by
  refine ⟨fun suffers => ?_⟩
  rcases suffers.of_bind with ⟨why, -, ⟨⟩⟩ | ⟨v, between, begun, ended⟩
  rw [held_bind_ok (first.came begun), (second v).came ended]

theorem discard {d : Dialogue α} (h : d.Truthful) : (Functor.discard d).Truthful :=
  bind h fun _ => ofExcept (.ok ())

end Truthful

theorem truthful_parsed (command : Command) (parse : String → Except Fault α) :
    (Functor.discard (ask command >>= fun reply => Dialogue.ofExcept (parse reply))).Truthful := by
  rw [ask_bind_eq]
  exact (Truthful.inquiry command parse).discard

namespace Repeats

variable {d : Dialogue α} {next : α → Dialogue β} {r : Radio}

theorem ofExcept (e : Except Fault α) (r : Radio) : (Dialogue.ofExcept e).Repeats r := by
  refine ⟨fun suffers => ?_⟩
  obtain ⟨-, rfl⟩ := suffers.of_ofExcept
  rfl

theorem given {e : Except Fault α} (h : ∀ value, e = .ok value → (next value).Repeats r) :
    (Dialogue.ofExcept e >>= next).Repeats r := by
  cases e with
  | error why => exact ofExcept (.error why) r
  | ok value => exact h value rfl

theorem note {record : LogRecord} (h : d.Repeats r) : (Dialogue.note record d).Repeats r :=
  ⟨fun suffers => h.again suffers.of_note⟩

theorem inquiry (command : Command) (meaning : String → Except Fault α) (r : Radio) :
    (Dialogue.inquiry command meaning).Repeats r := by
  have twice : (Dialogue.inquiry command meaning).held (r.serve command.line).2 =
      (Dialogue.inquiry command meaning).held r := by
    rw [held_inquiry, held_inquiry, r.serve_again]
  refine ⟨fun {result r'} suffers => ?_⟩
  rcases suffers.of_inquiry with came | ⟨-, rfl | rfl⟩
  · have left : r' = (r.serve command.line).2 := by
      rw [held_inquiry] at came
      exact (Prod.mk.inj came).2.symm
    rw [left, twice]
  · rfl
  · exact twice

/-- What follows without a word to the radio makes no difference. -/
theorem close (h : d.Repeats r)
    (silent : ∀ value {r result r'}, (next value).Suffers r result r' → r' = r) :
    (d >>= next).Repeats r := by
  refine ⟨fun suffers => held_bind_congr ?_⟩
  rcases suffers.of_bind with ⟨why, begun, -⟩ | ⟨value, between, begun, ended⟩
  · exact h.again begun
  · rw [silent value ended]
    exact h.again begun

theorem map {f : α → β} (h : d.Repeats r) : (d >>= fun value => pure (f value)).Repeats r :=
  h.close fun value _ _ _ ended => by
    cases ended
    rfl

/-- A dialogue may be held again if both parts of it may, and the commands of the second part keep to
what the first part came to. -/
theorem bind (truthful : d.Truthful) (first : d.Repeats r)
    (second : ∀ value r', d.held r = (.ok value, r') → (next value).Repeats r' ∧
      ∃ P : Radio → Prop, P r' ∧ (∀ r, P r → d.held r = (.ok value, r)) ∧
        (next value).Asks (fun command => ∀ r, P r → P (r.answer command.line).2) fun _ => True) :
    (d >>= next).Repeats r := by
  refine ⟨fun {result r'} suffers => ?_⟩
  rcases suffers.of_bind with ⟨why, begun, -⟩ | ⟨value, between, begun, ended⟩
  · exact held_bind_congr (first.again begun)
  · have came := truthful.came begun
    obtain ⟨repeats, P, reached, lasting, kept⟩ := second value between came
    rw [held_bind_ok (lasting r' (ended.keeps kept reached)), held_bind_ok came, repeats.again ended]

end Repeats

theorem repeats_parsed (command : Command) (parse : String → Except Fault α) (r : Radio) :
    (Functor.discard (ask command >>= fun reply => Dialogue.ofExcept (parse reply))).Repeats r := by
  rw [ask_bind_eq]
  exact (Repeats.inquiry command parse r).map

end Dialogue

end Transceiver
