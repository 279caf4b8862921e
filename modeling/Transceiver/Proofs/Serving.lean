import Transceiver.Proofs.SingleLines

/-! Turns that a radio serves directly. Over a quiet line, and with lines and answers that hold no
carriage return, a dialogue takes the turns that it would take with the radio itself. -/
namespace Transceiver.Simulation

open Dialogue

/-- Each turn brings what comes of its command, and the radio goes from one to the next. -/
inductive Radio.Serves : Radio → List Turn → Radio → Prop
  | done (r) : Serves r [] r
  | turn {r turn turns r'} : turn.answer = (r.serve turn.command.line).1 →
      Serves (r.serve turn.command.line).2 turns r' → Serves r (turn :: turns) r'

namespace Radio

theorem serve_radio (r : Radio) (line : String) :
    (r.serve line).2 = r ∨ (r.serve line).2 = (r.answer line).2 := by
  unfold serve
  dsimp only
  split
  · exact .inl rfl
  · split <;> exact .inr rfl

theorem Clear.serve {r : Radio} (clear : r.Clear) {line : String} (single : Unended line) :
    (r.serve line).2.Clear := by
  rcases r.serve_radio line with same | answered
  · rwa [same]
  · rw [answered]
    exact (answer_single clear single).2

theorem Serves.cons {r r' : Radio} {command : Command} {answer : Except Fault String}
    {turns : List Turn} (h : r.Serves (⟨command, answer⟩ :: turns) r') :
    answer = (r.serve command.line).1 ∧ (r.serve command.line).2.Serves turns r' := by
  cases h with
  | turn answered later => exact ⟨answered, later⟩

theorem Serves.append {r r' : Radio} {earlier later : List Turn}
    (h : r.Serves (earlier ++ later) r') : ∃ between, r.Serves earlier between ∧
      between.Serves later r' := by
  induction earlier generalizing r with
  | nil => exact ⟨r, .done r, h⟩
  | cons turn rest ih =>
      cases h with
      | turn answered h =>
          obtain ⟨between, first, second⟩ := ih h
          exact ⟨between, .turn answered first, second⟩

end Radio

/-- Over a quiet line a dialogue takes its turns with the radio, and the line stays quiet. -/
theorem serves_run {α : Type} {link : Link} (patient : 0 ≤ link.patience) {d : Dialogue α}
    (single : d.Asks (fun command => Unended command.line) fun _ => True) {s : Bench}
    (quiet : s.Quiet) (clear : s.radio.Clear) :
    s.radio.Serves (d.turns link Bench.port s) (d.run link Bench.port s).port.radio ∧
      (d.run link Bench.port s).port.Quiet ∧ (d.run link Bench.port s).port.radio.Clear := by
  induction d generalizing s with
  | done value => exact ⟨.done _, quiet, clear⟩
  | fail why => exact ⟨.done _, quiet, clear⟩
  | note record rest ih => exact ih single quiet clear
  | send command rest ih =>
      obtain ⟨result, radio, quiet'⟩ := Bench.exchange_serve patient quiet single.1
        (Radio.answer_single clear single.1).1
      have clear' : (link.exchange Bench.port command.line s).port.radio.Clear :=
        radio ▸ clear.serve single.1
      obtain ⟨serves, left⟩ := ih _ (single.2 _) quiet' clear'
      rw [radio] at serves
      exact ⟨.turn result serves, left⟩

end Transceiver.Simulation
