import Transceiver.Proofs.Answering
import Transceiver.Proofs.Talking

/-! Keying the transmitter. Nothing that a rig is asked for can put a line of its own choosing on the
wire, so the transmitter of a simulated radio is keyed by the request to key it and by no other. -/
namespace Transceiver

open Record Simulation

/-- The commands that the radio carried out during a call. -/
def Call.heard (call : Call Bench) : List String := call.before.obeyed call.outcome.writes

namespace Simulation.Radio

theorem answer_receive (r : Radio) : (r.answer "RX").2.transmitting = false := by
  rw [r.answer_bare (by decide)]
  rfl

theorem answer_worded (r : Radio) {line : String} (h : Wording line) (key : line ≠ "TX")
    (release : line ≠ "RX") : (r.answer line).2.transmitting = r.transmitting := by
  rcases h.shape with bare | ⟨name, known, fields, -, -, rfl⟩
  · have control : line = "BC" := by
      simpa [key, release] using bare
    rw [control, r.answer_bare (by decide)]
    exact (r.answerNamed_transmitting [] (by decide) (by decide)).getD rfl
  · have names : ∀ name ∈ fieldedNames, ' ' ∉ name.toList ∧ name ≠ "TX" ∧ name ≠ "RX" := by decide
    obtain ⟨bare, other, another⟩ := names name known
    rw [r.answer_named fields bare]
    exact (r.answerNamed_transmitting _ other another).getD rfl

/-- A radio that transmits was keyed, or it did so before and was not released. -/
theorem obey_transmitting {r : Radio} {lines : List String} (worded : ∀ line ∈ lines, Wording line)
    (h : (r.obey lines).transmitting = true) :
    "TX" ∈ lines ∨ (r.transmitting = true ∧ "RX" ∉ lines) := by
  induction lines generalizing r with
  | nil => exact .inr ⟨h, List.not_mem_nil⟩
  | cons line rest ih =>
      -- Whatever is heard later counts more, so the first line matters only if none of the rest keys.
      rcases ih (fun other member => worded other (List.mem_cons_of_mem line member)) h with
        later | ⟨transmitting, unreleased⟩
      · exact .inl (List.mem_cons_of_mem line later)
      · by_cases key : line = "TX"
        · exact .inl (key ▸ List.mem_cons_self)
        · by_cases release : line = "RX"
          · rw [release, r.answer_receive] at transmitting
            cases transmitting
          · rw [r.answer_worded (worded line List.mem_cons_self) key release] at transmitting
            refine .inr ⟨transmitting, fun released => ?_⟩
            rcases List.mem_cons.mp released with same | later
            · exact release same.symm
            · exact unreleased later

end Simulation.Radio

namespace Rig

/-- A call that leaves the radio transmitting keyed it, or found it so and did not release it. -/
theorem carryOut_transmitting {link : Link} {r : Rig} {request : Request} {s : Bench}
    (named : request.NamesText) (waiting : s.unfinished = [])
    (h : (r.carryOut link Bench.port request s).1.port.radio.transmitting = true) :
    ("TX" ∈ s.obeyed (r.carryOut link Bench.port request s).1.writes ∧
        ∃ on, request = .setTransmit on ∧ on.truth = true) ∨
      (s.radio.transmitting = true ∧
        "RX" ∉ s.obeyed (r.carryOut link Bench.port request s).1.writes) := by
  obtain ⟨-, radio, heard⟩ := carryOut_radio link r named waiting
  rw [radio] at h
  have worded : ∀ line ∈ s.obeyed (r.carryOut link Bench.port request s).1.writes, Wording line := by
    intro line member
    obtain ⟨command, may, rfl⟩ := heard line member
    exact may.wording named
  rcases Radio.obey_transmitting worded h with keyed | unreleased
  · obtain ⟨command, may, line⟩ := heard "TX" keyed
    exact .inl ⟨keyed, may.keying.1 line⟩
  · exact .inr unreleased

/-- A run that leaves the radio transmitting keyed it in some call and released it in none after
that, or found it so and released it in none. -/
theorem calls_transmitting {link : Link} {r : Rig} {requests : List Request} {s : Bench}
    (named : ∀ request ∈ requests, request.NamesText) (waiting : s.unfinished = [])
    (h : (r.portAfter link Bench.port requests s).radio.transmitting = true) :
    (∃ earlier key later, r.calls link Bench.port requests s = earlier ++ key :: later ∧
      (∃ on, key.request = .setTransmit on ∧ on.truth = true) ∧ "TX" ∈ key.heard ∧
      ∀ call ∈ later, "RX" ∉ call.heard) ∨
    (s.radio.transmitting = true ∧
      ∀ call ∈ r.calls link Bench.port requests s, "RX" ∉ call.heard) := by
  induction requests generalizing r s with
  | nil => exact .inr ⟨h, fun call member => absurd member List.not_mem_nil⟩
  | cons request rest ih =>
      have own := named request List.mem_cons_self
      have waiting' := (carryOut_radio link r own waiting).1
      rcases ih (fun other member => named other (List.mem_cons_of_mem request member)) waiting' h with
        ⟨earlier, key, later, calls, keying⟩ | ⟨transmitting, unreleased⟩
      · refine .inl ⟨⟨request, s, (r.carryOut link Bench.port request s).1⟩ :: earlier, key, later, ?_,
          keying⟩
        exact congrArg (List.cons _) calls
      · rcases carryOut_transmitting own waiting transmitting with ⟨keyed, on⟩ | ⟨already, quiet⟩
        · exact .inl ⟨[], _, _, rfl, on, keyed, unreleased⟩
        · refine .inr ⟨already, fun call member => ?_⟩
          rcases List.mem_cons.mp member with rfl | later
          · exact quiet
          · exact unreleased call later

/-- In a run on any port every write is one line, printable but for the carriage return that ends it
and of one of the forms of `Wording`; only a request to key the transmitter sends the line that does
so, and only one to release it the line for that. A simulated radio transmits after a run only if
some call keyed it and the radio was not released in any later one. -/
theorem writes_are_lines {σ : Type} (link : Link) (port : Port σ) (r : Rig)
    (requests : List Request) (s : σ) (named : ∀ request ∈ requests, request.NamesText) :
    (∀ call ∈ r.calls link port requests s, ∀ bytes ∈ call.outcome.writes,
      ∃ line, bytes = asciiBytes line ++ [13] ∧ 13 ∉ asciiBytes line ∧ IsPrintable line ∧
        Wording line ∧
        (line = "TX" → ∃ on, call.request = .setTransmit on ∧ on.truth = true) ∧
        (line = "RX" → ∃ on, call.request = .setTransmit on ∧ on.truth = false)) ∧
    ∀ bench : Bench, bench.unfinished = [] → bench.radio.transmitting = false →
      (r.portAfter link Bench.port requests bench).radio.transmitting = true →
      ∃ earlier key later, r.calls link Bench.port requests bench = earlier ++ key :: later ∧
        (∃ on, key.request = .setTransmit on ∧ on.truth = true) ∧ "TX" ∈ key.heard ∧
        ∀ call ∈ later, "RX" ∉ call.heard := by
  constructor
  · intro call member bytes written
    obtain ⟨requested, r', carried⟩ := mem_calls member
    rw [carried] at written
    obtain ⟨command, may, worded, same⟩ := line_of_carryOut (named call.request requested) written
    exact ⟨command.line, same, not_mem_asciiBytes worded.isPrintable, worded.isPrintable, worded,
      may.keying⟩
  · intro bench waiting silent transmitting
    rcases calls_transmitting named waiting transmitting with keyed | ⟨already, -⟩
    · exact keyed
    · rw [silent] at already
      cases already

theorem writes_are_lines_keyed :
    ∃ earlier key later, (Rig.closed .warn).opened.calls ⟨8, 0, 0⟩ Bench.port
        [.setTransmit (.bool true)] Bench.initial = earlier ++ key :: later ∧
      (∃ on, key.request = .setTransmit on ∧ on.truth = true) ∧ "TX" ∈ key.heard ∧
      ∀ call ∈ later, "RX" ∉ call.heard := by
  have keyed : ((Rig.closed .warn).opened.perform (.setTransmit (.bool true))).Talks Radio.initial
      (.ok (.nothing, (Rig.closed .warn).opened)) { Radio.initial with transmitting := true } := by
    refine .send (by decide) (by decide) ?_
    exact .done _ _
  have named : ∀ request ∈ [Request.setTransmit (.bool true)], request.NamesText := by
    intro request member
    rw [List.mem_singleton.mp member]
    trivial
  have patient : 0 ≤ (⟨8, 0, 0⟩ : Link).patience := by decide
  have quiet : Bench.initial.Quiet := Bench.quiet_ofRadio _
  obtain ⟨-, left, -⟩ := keyed.run patient quiet rfl
  have transmitting : ((Rig.closed .warn).opened.portAfter ⟨8, 0, 0⟩ Bench.port
      [.setTransmit (.bool true)] Bench.initial).radio.transmitting = true := by
    unfold portAfter
    dsimp only [portAfter]
    rw [carryOut_port, left]
  exact (writes_are_lines ⟨8, 0, 0⟩ Bench.port _ _ Bench.initial named).2 Bench.initial rfl rfl
    transmitting

end Rig

end Transceiver
