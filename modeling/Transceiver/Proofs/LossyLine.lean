import Transceiver.Proofs.Quoting
import Transceiver.Proofs.Serving

/-! A line that loses commands. Where no answer is forced and nothing is on the way, a command is lost
or the radio serves it, whatever faults are set up; a command that is lost leaves the radio as it was. -/
namespace Transceiver

open Simulation Dialogue

namespace Simulation

namespace Bench

/-- No answer is forced, and nothing is on the way in either direction. -/
structure Idle (s : Bench) : Prop where
  unforced : s.replies = []
  healthy : s.readFails = false
  waiting : s.unfinished = []
  silent : s.queue = []

theorem Quiet.idle {s : Bench} (quiet : s.Quiet) : s.Idle :=
  ⟨quiet.unforced, quiet.healthy, quiet.waiting, quiet.silent⟩

theorem read_idle {s : Bench} (healthy : s.readFails = false) (silent : s.queue = []) :
    s.read = (.arrived [] 1, s) := by
  obtain ⟨radio, replies, faults, onlyRate, rate, readFails, unfinished, queue, commands⟩ := s
  cases healthy
  cases silent
  rfl

/-- Where no answer is on its way, none is collected. -/
theorem collect_idle (patience : Int) (command : String) (elapsed : Nat) (text : String) {s : Bench}
    (healthy : s.readFails = false) (silent : s.queue = []) (unended : terminator ∉ text.toList) :
    port.collect patience command elapsed text s = (.error (.radio (.timeout command)), s) := by
  have brought : port.read s = (.arrived [] 1, s) := read_idle healthy silent
  have none : Text.CodePage.decode [] = some "" := rfl
  have same : text ++ "" = text := by simp
  have open_ : ¬ Text.contains text terminator = true :=
    fun ended => unended (List.contains_iff_mem.mp ended)
  rw [collect_arrived brought none, same]
  by_cases late : patience < (elapsed + 1 : Nat)
  · rw [if_pos late]
  · rw [if_neg late, if_neg open_]
    exact collect_idle patience command (elapsed + 1) text healthy silent unended
termination_by (patience + 1 - elapsed).toNat
decreasing_by omega

theorem collect_failing (patience : Int) (command : String) {s : Bench} (healthy : s.readFails = false) :
    port.collect patience command 0 "" { s with readFails := true } =
      (.error (.radio (.readFailed "read failed")), s) := by
  have same : ({ s with readFails := false } : Bench) = s := by
    rw [← healthy]
  have failed : port.read { s with readFails := true } = (.failed "read failed", s) :=
    congrArg (Prod.mk _) same
  exact collect_failed failed patience command 0 ""

/-- Where nothing came of a write, no answer is collected, whether or not the next read fails. -/
theorem collect_unheard (patience : Int) (command : String) (readFails : Bool) {s : Bench} (idle : s.Idle) :
    ∃ why, port.collect patience command 0 "" { s with readFails } = (.error why, s) := by
  cases readFails with
  | true => exact ⟨_, collect_failing patience command idle.healthy⟩
  | false =>
      have same : ({ s with readFails := false } : Bench) = s := by
        rw [← idle.healthy]
      rw [same]
      exact ⟨_, collect_idle patience command 0 "" idle.healthy idle.silent List.not_mem_nil⟩

/-- How a write on an idle bench ends: the radio takes the bytes in, the write fails, or nothing comes
of it but perhaps a failing read. -/
inductive Delivered (s : Bench) (bytes : List UInt8) : Except WriteFault Unit × Bench → Prop
  | heard (faults) : Delivered s bytes (Bench.takeBytes { s with faults } bytes)
  | failed {why} {t : Bench} : t.radio = s.radio → t.Idle → Delivered s bytes (.error why, t)
  | unheard {t : Bench} (readFails) : t.radio = s.radio → t.Idle →
      Delivered s bytes (.ok (), { t with readFails })

theorem delivered_write {s : Bench} (idle : s.Idle) (bytes : List UInt8) :
    Delivered s bytes (s.write bytes) := by
  obtain ⟨unforced, healthy, waiting, silent⟩ := idle
  unfold write
  split
  · exact .unheard s.readFails rfl ⟨unforced, healthy, waiting, silent⟩
  · dsimp only
    cases takeFault (commandText bytes.dropLast) s.faults with
    | mk fault faults =>
        dsimp only
        have unheard : ∀ readFails, Delivered s bytes (.ok (),
            { Bench.record { s with faults } (commandText bytes.dropLast) with readFails }) :=
          fun readFails => .unheard (t := Bench.record { s with faults } _) readFails rfl
            ⟨unforced, healthy, waiting, silent⟩
        cases fault with
        | silent => exact unheard s.readFails
        | writeError =>
            exact .failed (t := { s with faults }) rfl ⟨unforced, healthy, waiting, silent⟩
        | readError => exact unheard true
        | none => exact .heard faults

/-- What comes of a command on an idle bench: it is lost and the radio stays as it was, or the radio
serves it. The bench is idle again. -/
inductive Passed (command : String) (s : Bench) : Except Fault String → Bench → Prop
  | lost {why} {t : Bench} : t.radio = s.radio → t.Idle → Passed command s (.error why) t
  | served {t : Bench} : t.radio = (s.radio.serve command).2 → t.Idle →
      Passed command s (s.radio.serve command).1 t

theorem Passed.split {command : String} {s t : Bench} {result : Except Fault String}
    (h : Passed command s result t) :
    t.Idle ∧ ((t.radio = s.radio ∧ ∃ why, result = .error why) ∨
      (t.radio = (s.radio.serve command).2 ∧ result = (s.radio.serve command).1)) := by
  cases h with
  | lost radio idle => exact ⟨idle, .inl ⟨radio, _, rfl⟩⟩
  | served radio idle => exact ⟨idle, .inr ⟨radio, rfl⟩⟩

theorem Passed.of_radio {command : String} {s s' t : Bench} {result : Except Fault String}
    (same : s'.radio = s.radio) (h : Passed command s' result t) : Passed command s result t := by
  cases h with
  | lost radio idle => exact .lost (radio.trans same) idle
  | served radio idle =>
      rw [same] at radio ⊢
      exact .served radio idle

section
variable {s : Bench} {command : String}

/-- An attempt loses the command or is served, and one that was served has not timed out. -/
theorem attempt_idle {patience : Int} (patient : 0 ≤ patience) (idle : s.Idle)
    (unended : terminator ∉ command.toList)
    (clear : terminator ∉ (s.radio.answer command).1.toList) :
    Passed command s ((port.attempt patience command s).result.bind (Link.accepted command))
        (port.attempt patience command s).port ∧
      ∀ c, (port.attempt patience command s).result = .error (.radio (.timeout c)) →
        (port.attempt patience command s).port.radio = s.radio ∧
          (port.attempt patience command s).port.Idle := by
  cases whole : Text.CodePage.encode (command ++ terminator.toString) with
  | error u =>
      rw [attempt_unspelled whole]
      exact ⟨.lost rfl idle, fun _ _ => ⟨rfl, idle⟩⟩
  | ok bytes =>
      obtain ⟨front, spelled, rfl⟩ := Text.CodePage.encode_terminated whole
      have delivered := delivered_write idle (front ++ [13])
      generalize sent : s.write (front ++ [13]) = outcome at delivered
      cases delivered with
      | heard faults =>
          have taken := takeBytes_command (s := { s with faults }) idle.unforced idle.waiting spelled
            unended
          obtain ⟨⟨came, untimed⟩, carried, left⟩ := attempt_heard (t := { s with faults }) patient
            idle.healthy idle.silent whole (sent.trans taken) clear
          rw [came, left]
          refine ⟨.served carried.symm ⟨idle.unforced, idle.healthy, idle.waiting, idle.silent⟩, ?_⟩
          exact fun c late => absurd late (untimed c)
      | @failed why t radio idle' =>
          have written : port.write (front ++ [13]) s = (.error why, t) := sent
          rw [attempt_unwritten whole written]
          exact ⟨.lost radio idle', fun _ _ => ⟨radio, idle'⟩⟩
      | @unheard t readFails radio idle' =>
          have written : port.write (front ++ [13]) s = (.ok (), { t with readFails }) := sent
          obtain ⟨why, collected⟩ := collect_unheard patience command readFails idle'
          rw [attempt_unanswered whole written collected]
          exact ⟨.lost radio idle', fun _ _ => ⟨radio, idle'⟩⟩

theorem attempts_idle {link : Link} (patient : 0 ≤ link.patience) (idle : s.Idle)
    (unended : terminator ∉ command.toList)
    (clear : terminator ∉ (s.radio.answer command).1.toList) (repetition left : Nat) :
    Passed command s
      ((link.attempts port command repetition left s).result.bind (Link.accepted command))
      (link.attempts port command repetition left s).port := by
  induction left generalizing repetition s with
  | zero => exact (attempt_idle patient idle unended clear).1
  | succ left ih =>
      obtain ⟨passed, lost⟩ := attempt_idle patient idle unended clear
      unfold Link.attempts
      dsimp only
      split
      -- A command that was served is not sent again.
      · rename_i c late
        obtain ⟨radio, idle'⟩ := lost c late
        split
        · exact .lost radio idle'
        · exact (ih idle' (radio ▸ clear) (repetition + 1)).of_radio radio
      · exact passed

theorem exchange_idle {link : Link} (patient : 0 ≤ link.patience) (idle : s.Idle)
    (unended : terminator ∉ command.toList)
    (clear : terminator ∉ (s.radio.answer command).1.toList) :
    Passed command s (link.exchange port command s).result (link.exchange port command s).port :=
  attempts_idle patient idle unended clear 1 link.retries.toNat

end

theorem write_heard {s : Bench} {command : String} {faults : List (String × List LineFault)}
    {front : List UInt8}
    (heard : s.onlyRate.any (!s.rate.same ·) = false) (idle : s.Idle)
    (spelled : Text.CodePage.encode command = .ok front) (unended : terminator ∉ command.toList)
    (taken : takeFault command s.faults = (.none, faults)) :
    s.write (front ++ [13]) =
      (Bench.answered { s with faults } command).queueReply (s.radio.answer command).1 := by
  have given : commandText front = command := by
    rw [commandText, Text.CodePage.decode_encode spelled]
    rfl
  unfold write
  rw [heard]
  simp only [Bool.false_eq_true, if_false, List.dropLast_concat, given, taken]
  exact takeBytes_command (s := { s with faults }) idle.unforced idle.waiting spelled unended

/-- A command that no fault awaits is served. -/
theorem exchange_heard {link : Link} (patient : 0 ≤ link.patience) {s : Bench} {command : String}
    {faults : List (String × List LineFault)} (heard : s.onlyRate.any (!s.rate.same ·) = false)
    (idle : s.Idle) (worded : IsPrintable command) (clear : terminator ∉ (s.radio.answer command).1.toList)
    (taken : takeFault command s.faults = (.none, faults)) :
    (link.exchange port command s).result = (s.radio.serve command).1 ∧
      (link.exchange port command s).port = Bench.answered { s with faults } command := by
  have sent := write_heard heard idle (encode_printable worded) (unended_of_printable worded) taken
  obtain ⟨⟨result, untimed⟩, -, left⟩ := attempt_heard (t := { s with faults }) patient idle.healthy
    idle.silent (encode_line worded) sent clear
  unfold Link.exchange
  rw [attempts_of_untimed untimed]
  exact ⟨result, left⟩

/-- A command that the radio does not answer is on record, and costs a time-out. -/
theorem attempt_silenced {s : Bench} {command : String} {bytes : List UInt8}
    {faults : List (String × List LineFault)}
    (heard : s.onlyRate.any (!s.rate.same ·) = false) (idle : s.Idle)
    (whole : Text.CodePage.encode (command ++ terminator.toString) = .ok bytes)
    (taken : takeFault command s.faults = (.silent, faults)) (patience : Int) :
    port.attempt patience command s =
      ⟨.error (.radio (.timeout command)), [noteDebug ("PC->RADIO: " ++ command), .wrote bytes],
        Bench.record { s with faults } command⟩ := by
  obtain ⟨front, spelled, rfl⟩ := Text.CodePage.encode_terminated whole
  have given : commandText front = command := by
    rw [commandText, Text.CodePage.decode_encode spelled]
    rfl
  have written : port.write (front ++ [13]) s = (.ok (), Bench.record { s with faults } command) := by
    change s.write (front ++ [13]) = _
    unfold write
    rw [heard]
    simp only [Bool.false_eq_true, if_false, List.dropLast_concat, given, taken]
  exact attempt_unanswered whole written
    (collect_idle patience command 0 "" idle.healthy idle.silent List.not_mem_nil)

end Bench

namespace Radio

/-- The radio with other texts for its VFOs. -/
def withVfo (r : Radio) (vfo : PerBand String) : Radio := { r with vfo }

/-- The same answer, by a radio with other texts for its VFOs. -/
def aside (vfo : PerBand String) (answered : Option (String × Radio)) : Option (String × Radio) :=
  answered.map fun pair => (pair.1, pair.2.withVfo vfo)

section
variable {vfo : PerBand String}

theorem aside_bind {α : Type} {o : Option α} {next next' : α → Option (String × Radio)}
    (h : ∀ a, o = some a → next' a = aside vfo (next a)) : (o >>= next') = aside vfo (o >>= next) := by
  cases o with
  | none => rfl
  | some a => exact h a rfl

theorem aside_ite {condition : Prop} {here there : Decidable condition}
    {yes no yes' no' : Option (String × Radio)} (first : yes' = aside vfo yes)
    (second : no' = aside vfo no) :
    @ite _ condition here yes' no' = aside vfo (@ite _ condition there yes no) := by
  by_cases holds : condition
  · rw [if_pos holds, if_pos holds, first]
  · rw [if_neg holds, if_neg holds, second]

end

section
variable (r : Radio) (vfo : PerBand String) (args : List String)

theorem answerMemory_withVfo : (r.withVfo vfo).answerMemory args = aside vfo (r.answerMemory args) := by
  unfold answerMemory
  refine aside_bind fun _ _ => aside_bind fun channel _ => ?_
  split
  · dsimp only [withVfo]
    cases r.memories.get? channel <;> rfl
  · split <;> rfl

theorem answerName_withVfo : (r.withVfo vfo).answerName args = aside vfo (r.answerName args) := by
  unfold answerName
  refine aside_bind fun _ _ => aside_bind fun channel _ => ?_
  cases args[1]? <;> rfl

theorem answerControl_withVfo :
    (r.withVfo vfo).answerControl args = aside vfo (r.answerControl args) := by
  unfold answerControl
  split
  · exact aside_bind fun _ _ => rfl
  · refine aside_bind fun _ _ => aside_bind fun _ _ => aside_bind fun _ _ => aside_bind fun _ _ => ?_
    exact aside_bind fun _ _ => rfl

theorem answerTuning_withVfo : (r.withVfo vfo).answerTuning args = aside vfo (r.answerTuning args) := by
  unfold answerTuning
  refine aside_bind fun _ _ => aside_bind fun n _ => ?_
  have replied : ∀ r' : Radio,
      (do let tuning ← Number.written? Number.showInt ((r'.withVfo vfo).tuning.get (← bandOf? n))
          return ("VM " ++ Number.showInt n ++ "," ++ tuning, r'.withVfo vfo)) =
        aside vfo (do
          let tuning ← Number.written? Number.showInt (r'.tuning.get (← bandOf? n))
          return ("VM " ++ Number.showInt n ++ "," ++ tuning, r')) :=
    fun r' => aside_bind fun _ _ => aside_bind fun _ _ => rfl
  cases args[1]? with
  | none => exact replied r
  | some arg =>
      refine aside_bind fun mode _ => aside_bind fun band _ => ?_
      exact replied { r with tuning := r.tuning.set band mode }

theorem answerSelection_withVfo :
    (r.withVfo vfo).answerSelection args = aside vfo (r.answerSelection args) := by
  unfold answerSelection
  refine aside_bind fun _ _ => aside_bind fun _ _ => ?_
  cases args[1]? with
  | none => exact aside_bind fun _ _ => rfl
  | some arg =>
      refine aside_bind fun channel _ => ?_
      exact aside_ite rfl (aside_bind fun _ _ => aside_bind fun _ _ => rfl)

theorem answerBusy_withVfo : (r.withVfo vfo).answerBusy args = aside vfo (r.answerBusy args) := by
  unfold answerBusy
  refine aside_bind fun _ _ => aside_bind fun _ _ => aside_bind fun _ _ => ?_
  exact aside_bind fun _ _ => rfl

/-- Only the command for them depends on the texts of the VFOs. -/
theorem answerNamed_withVfo {name : String} (other : name ≠ "FO") :
    (r.withVfo vfo).answerNamed name args = aside vfo (r.answerNamed name args) := by
  unfold answerNamed
  split
  · rfl
  · exact r.answerMemory_withVfo vfo args
  · exact r.answerName_withVfo vfo args
  · exact r.answerControl_withVfo vfo args
  · exact r.answerTuning_withVfo vfo args
  · exact r.answerSelection_withVfo vfo args
  · exact r.answerBusy_withVfo vfo args
  · exact absurd rfl other
  · rfl
  · rfl
  · rfl

theorem answer_withVfo {line : String} (other : (Text.cut ' ' line).1 ≠ "FO") :
    (r.withVfo vfo).answer line = ((r.answer line).1, (r.answer line).2.withVfo vfo) := by
  unfold answer
  dsimp only
  rw [r.answerNamed_withVfo vfo _ other]
  cases r.answerNamed (Text.cut ' ' line).1 (argumentsOf (Text.cut ' ' line).2) <;> rfl

end

/-- No stored memory and no name holds a carriage return. -/
structure Unbroken (r : Radio) : Prop where
  memories : ∀ key text, r.memories.get? key = some text → Unended text
  names : ∀ key text, r.names.get? key = some text → Unended text

theorem Clear.unbroken {r : Radio} (clear : r.Clear) : r.Unbroken := ⟨clear.memories, clear.names⟩

theorem answer_unbroken {r : Radio} (unbroken : r.Unbroken) {line : String} (single : Unended line)
    (other : (Text.cut ' ' line).1 ≠ "FO") :
    Unended (r.answer line).1 ∧ (r.answer line).2.Unbroken := by
  have blank : ∀ band, Unended ((⟨"", ""⟩ : PerBand String).get band) := by
    intro band
    cases band <;> decide
  have clear : (r.withVfo ⟨"", ""⟩).Clear := ⟨unbroken.memories, unbroken.names, blank⟩
  obtain ⟨unended, left⟩ := answer_single clear single
  rw [r.answer_withVfo ⟨"", ""⟩ other] at unended left
  exact ⟨unended, left.memories, left.names⟩

theorem Unbroken.serve {r : Radio} (unbroken : r.Unbroken) {line : String} (single : Unended line)
    (other : (Text.cut ' ' line).1 ≠ "FO") : (r.serve line).2.Unbroken := by
  rcases r.serve_radio line with same | answered
  · rwa [same]
  · rw [answered]
    exact (answer_unbroken unbroken single other).2

/-- Each turn is lost, or brings what comes of its command; the radio goes from one to the next. -/
inductive Hears : Radio → List Turn → Radio → Prop
  | done (r) : Hears r [] r
  | lost {r turn turns r'} {why : Fault} : turn.answer = .error why → Hears r turns r' →
      Hears r (turn :: turns) r'
  | served {r turn turns r'} : turn.answer = (r.serve turn.command.line).1 →
      Hears (r.serve turn.command.line).2 turns r' → Hears r (turn :: turns) r'

theorem Hears.nothing {r r' : Radio} (h : r.Hears [] r') : r' = r := by
  cases h
  rfl

theorem Hears.append {r r' : Radio} {earlier later : List Turn}
    (h : r.Hears (earlier ++ later) r') : ∃ between, r.Hears earlier between ∧
      between.Hears later r' := by
  induction earlier generalizing r with
  | nil => exact ⟨r, .done r, h⟩
  | cons turn rest ih =>
      cases h with
      | lost failed h =>
          obtain ⟨between, first, second⟩ := ih h
          exact ⟨between, .lost failed first, second⟩
      | served answered h =>
          obtain ⟨between, first, second⟩ := ih h
          exact ⟨between, .served answered first, second⟩

end Radio

end Simulation

/-- The command is one line, and not one about the texts of the VFOs. -/
def Command.Apart (command : Command) : Prop :=
  Unended command.line ∧ (Text.cut ' ' command.line).1 ≠ "FO"

theorem cut_lineText {name : String} (bare : ' ' ∉ name.toList) (fields : List String) :
    (Text.cut ' ' (Record.lineText name fields)).1 = name := by
  have blank : " " = ' '.toString := by rfl
  unfold Record.lineText
  rw [blank, Text.cut_append _ bare]

theorem Wording.apart {line : String} (h : Wording line) : (Text.cut ' ' line).1 ≠ "FO" := by
  cases h with
  | control => decide
  | transmit => decide
  | receive => decide
  | _ =>
      rw [cut_lineText (by decide)]
      decide

theorem Request.May.apart {request : Request} {command : Command} (may : request.May command)
    (plain : request.Plain) : command.Apart := by
  refine ⟨may.unended plain, ?_⟩
  rcases may.wording_or_name with worded | ⟨c, number, name, -, rfl, -⟩
  · exact worded.apart
  · have line : (Command.writeName number name).line =
        Record.lineText "MN" [channelDigits number, name.text] := rfl
    rw [line, cut_lineText (by decide)]
    decide

/-- On an idle bench each turn of a dialogue is lost or served by the radio, and the bench stays idle. -/
theorem hears_run {α : Type} {link : Link} (patient : 0 ≤ link.patience) {d : Dialogue α}
    (apart : d.Asks Command.Apart fun _ => True) {s : Bench} (idle : s.Idle)
    (unbroken : s.radio.Unbroken) :
    s.radio.Hears (d.turns link Bench.port s) (d.run link Bench.port s).port.radio ∧
      (d.run link Bench.port s).port.Idle ∧ (d.run link Bench.port s).port.radio.Unbroken := by
  induction d generalizing s with
  | done value => exact ⟨.done _, idle, unbroken⟩
  | fail why => exact ⟨.done _, idle, unbroken⟩
  | note record rest ih => exact ih apart idle unbroken
  | send command rest ih =>
      obtain ⟨⟨single, other⟩, after⟩ := apart
      have passed := Bench.exchange_idle patient idle single
        (Radio.answer_unbroken unbroken single other).1
      obtain ⟨idle', ⟨radio, why, failed⟩ | ⟨radio, answered⟩⟩ := passed.split
      · obtain ⟨hears, left⟩ := ih _ (after _) idle' (radio ▸ unbroken)
        rw [radio] at hears
        exact ⟨.lost failed hears, left⟩
      · obtain ⟨hears, left⟩ := ih _ (after _) idle' (radio ▸ unbroken.serve single other)
        rw [radio] at hears
        exact ⟨.served answered hears, left⟩

theorem Rig.hears_carryOut {link : Link} (patient : 0 ≤ link.patience) (r : Rig) {request : Request}
    (plain : request.Plain) {s : Bench} (idle : s.Idle) (unbroken : s.radio.Unbroken) :
    s.radio.Hears ((r.perform request).turns link Bench.port s)
        (r.carryOut link Bench.port request s).1.port.radio ∧
      (r.carryOut link Bench.port request s).1.port.Idle ∧
      (r.carryOut link Bench.port request s).1.port.radio.Unbroken := by
  have apart : (r.perform request).Asks Command.Apart fun _ => True :=
    (r.asks_perform request).weaken (fun _ may => may.apart plain) fun _ _ => trivial
  rw [Rig.carryOut_port]
  exact hears_run patient apart idle unbroken

end Transceiver
