import Transceiver.Proofs.LossyLine
import Transceiver.Proofs.Repeating

/-! A line that also loses answers. A command that the radio carried out may then stay unanswered as
well as one that it never heard. Sent again, it comes to the same, so all attempts at a command together
leave the radio as it was or as the command does once. -/
namespace Transceiver

open Dialogue Simulation

/-- The fault is not about a refusal, nor about a reply that makes no sense. -/
def Fault.Unrejected (why : Fault) : Prop := ∀ fault, why = .radio fault → fault.kind ≠ .rejected

/-- A number that cannot be written is no matter of a reply. -/
theorem Rate.unrejected {rate : Rate} {why : Fault} (failed : rate.value.wholeText = .error why) :
    why.Unrejected := by
  rcases Rate.wholeText_fault failed with rfl | rfl <;> rintro fault ⟨⟩

namespace Simulation

namespace Bench

/-- The bench without faults. -/
def mended (s : Bench) : Bench := { s with faults := [] }

/-- The rate that the radio hears alone, if there is one, and the rate of the line. -/
def rates (s : Bench) : Option Rate × Rate := (s.onlyRate, s.rate)

theorem queueReply_rates (s : Bench) (reply : String) : (s.queueReply reply).2.rates = s.rates := by
  unfold queueReply
  cases Text.CodePage.encode reply <;> rfl

theorem takeCommand_rates (s : Bench) (command : String) : (s.takeCommand command).2.rates = s.rates := by
  unfold takeCommand
  dsimp only
  split
  · exact queueReply_rates _ _
  · exact queueReply_rates _ _

theorem takePieces_rates (pieces : List (List UInt8)) (s : Bench) :
    (takePieces pieces s).2.rates = s.rates := by
  fun_induction takePieces pieces s with
  | case1 s => rfl
  | case2 unfinished s => rfl
  | case3 piece rest s some s' taken ih =>
      have same := s.takeCommand_rates (commandText piece)
      rw [taken] at same
      exact ih.trans same
  | case4 piece rest s some why s' taken =>
      have same := s.takeCommand_rates (commandText piece)
      rw [taken] at same
      exact same

/-- Writing does not change the rate of the line. -/
theorem write_rates (s : Bench) (bytes : List UInt8) : (s.write bytes).2.rates = s.rates := by
  unfold write
  split
  · rfl
  · dsimp only
    split
    · rfl
    · rfl
    · rfl
    · exact takePieces_rates _ _

theorem read_rates (s : Bench) : s.read.2.rates = s.rates := by
  unfold read
  split <;> rfl

end Bench

/-- A bench on a line that also loses answers: those to the writes that are marked, in their order. -/
structure Wire where
  bench : Bench
  lost : List Bool

namespace Wire

def write (bytes : List UInt8) (w : Wire) : Except WriteFault Unit × Wire :=
  let (result, bench) := w.bench.write bytes
  (result, ⟨if w.lost.headD false then { bench with queue := w.bench.queue } else bench, w.lost.tail⟩)

def read (w : Wire) : Reading × Wire :=
  let (reading, bench) := w.bench.read
  (reading, { w with bench })

/-- The serial port that leads to the bench over the line. -/
def port : Port Wire where
  write := write
  read := read
  setRate baud w := { w with bench := { w.bench with rate := baud } }
  pending w := w.bench.queue.length
  read_pending w bytes h := w.bench.read_pending bytes h

/-- What is kept by every write and every read is kept by a dialogue. -/
theorem run_keeps {P : Bench → Prop}
    (write : ∀ s bytes, P s → P (s.write bytes).2 ∧ P { (s.write bytes).2 with queue := s.queue })
    (read : ∀ s, P s → P s.read.2) {α : Type} (link : Link) (d : Dialogue α) {w : Wire} (start : P w.bench) :
    P (d.run link port w).port.bench := by
  have alike : port.Alike fun w _ => P w.bench := by
    refine ⟨fun kept => read _ kept, fun {w _} bytes kept => ?_⟩
    obtain ⟨whole, swallowed⟩ := write w.bench bytes kept
    change P (if w.lost.headD false then _ else _)
    split
    · exact swallowed
    · exact whole
  exact alike.run (t := w) start link d

/-- Once they are on their way, answers come in as from the bench. -/
theorem collect_eq (patience : Int) (command : String) (elapsed : Nat) (text : String) (w : Wire) :
    port.collect patience command elapsed text w =
      ((Bench.port.collect patience command elapsed text w.bench).1,
        { w with bench := (Bench.port.collect patience command elapsed text w.bench).2 }) := by
  have reads : ∀ {w w' : Wire} {reading}, port.read w = (reading, w') →
      Bench.port.read w.bench = (reading, w'.bench) ∧ w' = { w with bench := w'.bench } := by
    rintro w w' reading ⟨⟩
    exact ⟨rfl, rfl⟩
  fun_induction port.collect patience command elapsed text w with
  | case1 elapsed text w why w' reading =>
      obtain ⟨brought, same⟩ := reads reading
      rw [collect_failed brought, same]
  | case2 elapsed text w bytes ticks w' reading undecodable =>
      obtain ⟨brought, same⟩ := reads reading
      rw [collect_undecodable brought undecodable, same]
  | case3 elapsed text w bytes ticks w' reading more decoded late =>
      obtain ⟨brought, same⟩ := reads reading
      rw [collect_arrived brought decoded, if_pos late, same]
  | case4 elapsed text w bytes ticks w' reading more decoded intime ended =>
      obtain ⟨brought, same⟩ := reads reading
      rw [collect_arrived brought decoded, if_neg intime, if_pos ended, same]
  | case5 elapsed text w bytes ticks w' reading more decoded intime unended ih =>
      obtain ⟨brought, same⟩ := reads reading
      rw [collect_arrived brought decoded, if_neg intime, if_neg unended, ih, same]

end Wire

/-- What may come of a line that is sent to a radio: the radio serves it, the line is lost, or its
answer is. -/
inductive Radio.Meets (r : Radio) (line : String) : Except Fault String → Radio → Prop
  | served : Meets r line (r.serve line).1 (r.serve line).2
  | lost {why} : why.Unrejected → Meets r line (.error why) r
  | unheard {why} : why.Unrejected → Meets r line (.error why) (r.serve line).2

namespace Radio.Meets

variable {r r' : Radio} {line : String} {result : Except Fault String}

theorem radio (h : r.Meets line result r') : r' = r ∨ r' = (r.serve line).2 := by
  cases h with
  | served => exact .inr rfl
  | lost unrejected => exact .inl rfl
  | unheard unrejected => exact .inr rfl

/-- What the radio did stands, also where the exchange ends in another fault. -/
theorem of_radio {why : Fault} (unrejected : why.Unrejected) (left : r' = r ∨ r' = (r.serve line).2) :
    r.Meets line (.error why) r' := by
  rcases left with rfl | rfl
  · exact .lost unrejected
  · exact .unheard unrejected

/-- It makes no difference that the line came in once before. -/
theorem before (h : (r.serve line).2.Meets line result r') : r.Meets line result r' := by
  have again := r.serve_again line
  cases h with
  | served =>
      rw [again]
      exact .served
  | lost unrejected => exact .unheard unrejected
  | unheard unrejected =>
      rw [again]
      exact .unheard unrejected

end Radio.Meets

namespace Wire

section
variable {w : Wire} {command : String} {patience : Int}

/-- Where no answer is lost, an attempt is one on the bench. -/
theorem attempt_heard {bytes : List UInt8}
    (whole : Text.CodePage.encode (command ++ terminator.toString) = .ok bytes)
    (heard : w.lost.headD false = false) :
    port.attempt patience command w =
      { Bench.port.attempt patience command w.bench with
        port := ⟨(Bench.port.attempt patience command w.bench).port, w.lost.tail⟩ } := by
  have written : port.write bytes w =
      ((w.bench.write bytes).1, ⟨(w.bench.write bytes).2, w.lost.tail⟩) := by
    change w.write bytes = _
    rw [write]
    simp only [heard, Bool.false_eq_true, if_false]
  have written' : Bench.port.write bytes w.bench = w.bench.write bytes := rfl
  unfold Port.attempt
  simp only [whole, written, written']
  obtain ⟨result, s⟩ := w.bench.write bytes
  cases result with
  | error why => rfl
  | ok sent =>
      dsimp only
      rw [collect_eq]
      dsimp only
      obtain ⟨collected, s'⟩ := Bench.port.collect patience command 0 "" s
      cases collected <;> rfl

theorem write_eq {bytes : List UInt8} {result : Except WriteFault Unit} {s : Bench}
    (written : w.bench.write bytes = (result, s)) (silent : s.queue = w.bench.queue) :
    port.write bytes w = (result, ⟨s, w.lost.tail⟩) := by
  have same : ({ s with queue := w.bench.queue } : Bench) = s := by
    rw [← silent]
  change w.write bytes = _
  rw [write, written]
  dsimp only
  rw [same, ite_self]

/-- Where the radio took a line in but its answer is lost, none is collected. -/
theorem write_lost {bytes : List UInt8} {result : Except WriteFault Unit} {s : Bench}
    (written : w.bench.write bytes = (result, s)) (lost : w.lost.headD false = true) :
    port.write bytes w = (result, ⟨{ s with queue := w.bench.queue }, w.lost.tail⟩) := by
  change w.write bytes = _
  rw [write, written]
  simp only [lost, if_true]

theorem attempt_uncollected {bytes : List UInt8} {v : Wire} {why : Fault} {s : Bench}
    (whole : Text.CodePage.encode (command ++ terminator.toString) = .ok bytes)
    (written : port.write bytes w = (.ok (), v))
    (failed : Bench.port.collect patience command 0 "" v.bench = (.error why, s)) :
    port.attempt patience command w =
      ⟨.error why, [noteDebug ("PC->RADIO: " ++ command), .wrote bytes], ⟨s, v.lost⟩⟩ := by
  refine attempt_unanswered whole written ?_
  rw [collect_eq, failed]

/-- Where the radio carried a command out but the answer to it is lost, the attempt fails. -/
theorem attempt_lost {bytes : List UInt8} {s : Bench} {reply : String}
    (whole : Text.CodePage.encode (command ++ terminator.toString) = .ok bytes)
    (heard : w.bench.write bytes = s.queueReply reply) (lost : w.lost.headD false = true)
    (silent : w.bench.queue = []) (idle : s.Idle) :
    ∃ why, (port.attempt patience command w).result = .error why ∧
      (port.attempt patience command w).port.bench = s := by
  obtain ⟨result, queue, queued⟩ : ∃ result queue, s.queueReply reply = (result, { s with queue }) := by
    unfold Bench.queueReply
    cases Text.CodePage.encode reply with
    | ok text => exact ⟨_, _, rfl⟩
    | error u => exact ⟨_, s.queue, rfl⟩
  have same : ({ s with queue := w.bench.queue } : Bench) = s := by
    rw [silent, ← idle.silent]
  have written := write_lost (heard.trans queued) lost
  dsimp only at written
  rw [same] at written
  cases result with
  | error why =>
      rw [attempt_unwritten whole written]
      exact ⟨_, rfl, rfl⟩
  | ok sent =>
      rw [attempt_uncollected whole written
        (Bench.collect_idle patience command 0 "" idle.healthy idle.silent List.not_mem_nil)]
      exact ⟨_, rfl, rfl⟩

variable (patient : 0 ≤ patience) (idle : w.bench.Idle) (unended : Unended command)
  (clear : Unended (w.bench.radio.answer command).1)

include patient idle unended clear

theorem attempt_meets :
    w.bench.radio.Meets command ((port.attempt patience command w).result.bind (Link.accepted command))
        (port.attempt patience command w).port.bench.radio ∧
      (port.attempt patience command w).port.bench.Idle := by
  have unrejected : ∀ {why}, (port.attempt patience command w).result = .error why → why.Unrejected := by
    rintro why failed fault rfl
    exact attempt_unrejected failed
  cases whole : Text.CodePage.encode (command ++ terminator.toString) with
  | error u =>
      have meets : w.bench.radio.Meets command _ _ := .served
      rw [Radio.serve_unspelled whole] at meets
      rw [attempt_unspelled whole]
      exact ⟨meets, idle⟩
  | ok bytes =>
      obtain ⟨front, spelled, rfl⟩ := Text.CodePage.encode_terminated whole
      have delivered := Bench.delivered_write idle (front ++ [13])
      generalize sent : w.bench.write (front ++ [13]) = outcome at delivered
      cases delivered with
      | heard faults =>
          have taken := Bench.takeBytes_command (s := { w.bench with faults }) idle.unforced idle.waiting
            spelled unended
          have heard := sent.trans taken
          obtain ⟨⟨came, -⟩, carried, left⟩ := Bench.attempt_heard (t := { w.bench with faults }) patient
            idle.healthy idle.silent whole heard clear
          have idle' : (Bench.answered { w.bench with faults } command).Idle :=
            ⟨idle.unforced, idle.healthy, idle.waiting, idle.silent⟩
          have radio : (Bench.answered { w.bench with faults } command).radio =
              (w.bench.radio.serve command).2 := carried.symm
          cases lost : w.lost.headD false with
          | false =>
              rw [attempt_heard whole lost]
              dsimp only
              rw [came, left, radio]
              exact ⟨.served, idle'⟩
          | true =>
              obtain ⟨why, failed, port⟩ := attempt_lost whole heard lost idle.silent idle'
              rw [failed, port, radio]
              exact ⟨.unheard (unrejected failed), idle'⟩
      | @failed why s radio idle' =>
          have written := write_eq sent (idle'.silent.trans idle.silent.symm)
          have failed : port.attempt patience command w = _ := attempt_unwritten whole written
          have why := unrejected (congrArg Outcome.result failed)
          rw [failed, ← radio]
          exact ⟨.lost why, idle'⟩
      | @unheard s readFails radio idle' =>
          have written := write_eq sent (idle'.silent.trans idle.silent.symm)
          obtain ⟨why, collected⟩ := Bench.collect_unheard patience command readFails idle'
          have failed : port.attempt patience command w = _ :=
            attempt_uncollected whole written collected
          have why := unrejected (congrArg Outcome.result failed)
          rw [failed, ← radio]
          exact ⟨.lost why, idle'⟩

end

section
variable {w : Wire} {command : String} {bytes : List UInt8} {s : Bench}

/-- Where the radio took a line in and its answer is lost, the attempt runs out of time. -/
theorem attempt_swallowed (patience : Int)
    (whole : Text.CodePage.encode (command ++ terminator.toString) = .ok bytes)
    (written : w.bench.write bytes = (.ok (), s)) (lost : w.lost.headD false = true)
    (silent : w.bench.queue = []) (healthy : s.readFails = false) :
    (port.attempt patience command w).result = .error (.radio (.timeout command)) ∧
      (port.attempt patience command w).port = ⟨{ s with queue := [] }, w.lost.tail⟩ := by
  have sent := write_lost written lost
  rw [silent] at sent
  have collected := Bench.collect_idle (s := { s with queue := [] }) patience command 0 "" healthy rfl
    List.not_mem_nil
  rw [attempt_uncollected whole sent collected]
  exact ⟨rfl, rfl⟩

/-- Where nothing is repeated, the exchange ends with that. -/
theorem exchange_swallowed {link : Link} (once : link.retries ≤ 0)
    (whole : Text.CodePage.encode (command ++ terminator.toString) = .ok bytes)
    (written : w.bench.write bytes = (.ok (), s)) (lost : w.lost.headD false = true)
    (silent : w.bench.queue = []) (healthy : s.readFails = false) :
    (link.exchange port command w).result = .error (.radio (.timeout command)) ∧
      (link.exchange port command w).port = ⟨{ s with queue := [] }, w.lost.tail⟩ := by
  obtain ⟨late, left⟩ := attempt_swallowed link.patience whole written lost silent healthy
  have single : link.retries.toNat = 0 := Int.toNat_of_nonpos once
  unfold Link.exchange
  rw [single, Link.attempts]
  refine ⟨?_, left⟩
  dsimp only
  rw [late]
  rfl

/-- A command that no fault awaits is served where its answer is not lost. -/
theorem exchange_heard {link : Link} (patient : 0 ≤ link.patience) {faults : List (String × List LineFault)}
    (heard : w.bench.onlyRate.any (!w.bench.rate.same ·) = false) (idle : w.bench.Idle)
    (worded : IsPrintable command) (clear : terminator ∉ (w.bench.radio.answer command).1.toList)
    (taken : Bench.takeFault command w.bench.faults = (.none, faults)) (kept : w.lost.headD false = false) :
    (link.exchange port command w).result = (w.bench.radio.serve command).1 ∧
      (link.exchange port command w).port =
        ⟨Bench.answered { w.bench with faults } command, w.lost.tail⟩ := by
  have sent := Bench.write_heard heard idle (encode_printable worded) (unended_of_printable worded) taken
  obtain ⟨⟨result, untimed⟩, -, left⟩ := Bench.attempt_heard (t := { w.bench with faults }) patient
    idle.healthy idle.silent (encode_line worded) sent clear
  have same : port.attempt link.patience command w = _ := attempt_heard (encode_line worded) kept
  have untimed' : ∀ c, (port.attempt link.patience command w).result ≠ .error (.radio (.timeout c)) := by
    rw [same]
    exact untimed
  unfold Link.exchange
  rw [attempts_of_untimed untimed', same]
  dsimp only
  exact ⟨result, by rw [left]⟩

end

section
variable {link : Link} (patient : 0 ≤ link.patience) {command : String} (single : Unended command)
  (other : (Text.cut ' ' command).1 ≠ "FO")

include patient single other

/-- However often a command is sent and wherever that is cut off, the radio carried it out once. -/
theorem attempts_meets {w : Wire} (idle : w.bench.Idle) (unbroken : w.bench.radio.Unbroken)
    (repetition left : Nat) :
    w.bench.radio.Meets command
        ((link.attempts port command repetition left w).result.bind (Link.accepted command))
        (link.attempts port command repetition left w).port.bench.radio ∧
      (link.attempts port command repetition left w).port.bench.Idle := by
  induction left generalizing repetition w with
  | zero => exact attempt_meets patient idle single (Radio.answer_unbroken unbroken single other).1
  | succ left ih =>
      obtain ⟨meets, idle'⟩ :=
        attempt_meets patient idle single (Radio.answer_unbroken unbroken single other).1
      unfold Link.attempts
      dsimp only
      split
      · split
        · rename_i unannounced
          exact ⟨.of_radio (Rate.unrejected unannounced) meets.radio, idle'⟩
        rcases meets.radio with same | served
        · obtain ⟨later, idle''⟩ := ih idle' (same ▸ unbroken) (repetition + 1)
          rw [same] at later
          exact ⟨later, idle''⟩
        · obtain ⟨later, idle''⟩ :=
            ih idle' (served ▸ unbroken.serve single other) (repetition + 1)
          rw [served] at later
          exact ⟨later.before, idle''⟩
      · exact ⟨meets, idle'⟩

theorem exchange_meets {w : Wire} (idle : w.bench.Idle) (unbroken : w.bench.radio.Unbroken) :
    w.bench.radio.Meets command (link.exchange port command w).result
        (link.exchange port command w).port.bench.radio ∧
      (link.exchange port command w).port.bench.Idle ∧
      (link.exchange port command w).port.bench.radio.Unbroken := by
  obtain ⟨meets, idle'⟩ := attempts_meets patient single other idle unbroken 1 link.retries.toNat
  refine ⟨meets, idle', ?_⟩
  rcases meets.radio with same | served
  · exact same ▸ unbroken
  · exact served ▸ unbroken.serve single other

end

section
variable {w : Wire} {α : Type} (link : Link) (d : Dialogue α)

theorem run_rates : (d.run link port w).port.bench.rates = w.bench.rates :=
  run_keeps (P := fun s => s.rates = w.bench.rates)
    (fun s bytes same => ⟨(s.write_rates bytes).trans same, (s.write_rates bytes).trans same⟩)
    (fun s same => s.read_rates.trans same) link d rfl

/-- Where the radio is deaf, nothing comes of anything. -/
theorem run_deaf (deaf : w.bench.onlyRate.any (!w.bench.rate.same ·) = true) (idle : w.bench.Idle) :
    (d.run link port w).port.bench = w.bench := by
  refine run_keeps (P := fun s => s = w.bench) (fun s bytes same => ?_) (fun s same => ?_) link d rfl
  · have unchanged : w.bench.write bytes = (.ok (), w.bench) := if_pos deaf
    rw [same, unchanged]
    exact ⟨rfl, rfl⟩
  · rw [same, Bench.read_idle idle.healthy idle.silent]

end

end Wire

end Simulation

namespace Dialogue

/-- What may come of a dialogue, and the radio after it, where commands and answers are lost. -/
inductive Suffers {α : Type} : Dialogue α → Radio → Except Fault α → Radio → Prop
  | done (value : α) (r) : Suffers (.done value) r (.ok value) r
  | fail (why : Fault) (r) : Suffers (.fail why) r (.error why) r
  | note {record rest r result r'} : Suffers rest r result r' → Suffers (.note record rest) r result r'
  | send {command : Command} {rest r answer between result r'} :
      r.Meets command.line answer between → Suffers (rest answer) between result r' →
      Suffers (.send command rest) r result r'

theorem suffers_run {α : Type} {link : Link} (patient : 0 ≤ link.patience) {d : Dialogue α}
    (apart : d.Asks Command.Apart fun _ => True) {w : Wire} (idle : w.bench.Idle)
    (unbroken : w.bench.radio.Unbroken) :
    d.Suffers w.bench.radio (d.run link Wire.port w).result (d.run link Wire.port w).port.bench.radio ∧
      (d.run link Wire.port w).port.bench.Idle ∧
      (d.run link Wire.port w).port.bench.radio.Unbroken := by
  induction d generalizing w with
  | done value => exact ⟨.done value _, idle, unbroken⟩
  | fail why => exact ⟨.fail why _, idle, unbroken⟩
  | note record rest ih =>
      obtain ⟨suffers, left⟩ := ih apart idle unbroken
      exact ⟨.note suffers, left⟩
  | send command rest ih =>
      obtain ⟨⟨single, other⟩, after⟩ := apart
      obtain ⟨meets, idle', unbroken'⟩ := Wire.exchange_meets patient single other idle unbroken
      obtain ⟨suffers, left⟩ := ih _ (after _) idle' unbroken'
      exact ⟨.send meets suffers, left⟩

end Dialogue

end Transceiver
