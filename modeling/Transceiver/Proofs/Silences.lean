import Transceiver.Proofs.InnerLines
import Transceiver.Proofs.Selecting

/-! Silences. Where the only faults of a line are commands that stay unanswered, and no command meets
more of them than it may be repeated, a request comes to what it comes to without faults. Each silence
costs one repetition and one warning. -/
namespace Transceiver

open Simulation Dialogue Record

/-- Whether the event is more than a debug note. -/
def Event.matters : Event → Bool
  | .noted record => record.level != Level.debug
  | _ => true

section
variable {σ α : Type}

/-- What happened, without the debug notes. -/
def Outcome.account (o : Outcome σ α) : List Event := o.history.filter Event.matters

@[simp] theorem Outcome.account_after (earlier : List Event) (o : Outcome σ α) :
    (o.after earlier).account = earlier.filter Event.matters ++ o.account := by
  simp [account, after]

/-- All that is written matters. -/
theorem bytes_of_matters (events : List Event) :
    (events.filter Event.matters).filterMap Event.bytes? = events.filterMap Event.bytes? := by
  rw [List.filterMap_filter]
  refine congrArg (List.filterMap · events) (funext fun event => ?_)
  cases event with
  | noted record => split <;> rfl
  | wrote bytes => rfl
  | rate baud => rfl

theorem answerOf_account (text : String) : (answerOf text).2.filter Event.matters = [] := by
  unfold answerOf
  dsimp only
  split <;> rfl

/-- Of an attempt only the line matters that it sends. -/
theorem attempt_account (port : Port σ) (patience : Int) (command : String) (s : σ) :
    (port.attempt patience command s).account =
      match Text.CodePage.encode (command ++ terminator.toString) with
      | .ok bytes => [.wrote bytes]
      | .error _ => [] := by
  have came := attempted port patience command s
  generalize port.attempt patience command s = o at came
  cases came with
  | unspelled spelled => rw [spelled]; rfl
  | unwritten spelled written => rw [spelled]; rfl
  | unanswered spelled written collected => rw [spelled]; rfl
  | @answered bytes s' text s'' spelled written collected =>
      rw [spelled]
      change .wrote bytes :: (answerOf text).2.filter Event.matters = _
      rw [answerOf_account]

end

namespace Link

/-- What happens while a line meets silences: it is sent, and a warning that names the number of retries
comes before it is sent again. -/
def unanswered (retries command : String) (bytes : List UInt8) (repetition : Nat) :
    (times : Nat) → List Event
  | 0 => []
  | times + 1 =>
    .wrote bytes :: retryNote command repetition retries ::
      unanswered retries command bytes (repetition + 1) times

/-- The same events where each line that is sent meets so many silences before it is heard. -/
def insisting (retries : String) : List Nat → List Event → List Event
  | _, [] => []
  | times :: counts, .wrote bytes :: rest =>
    unanswered retries (Bench.commandText bytes.dropLast) bytes 1 times ++
      .wrote bytes :: insisting retries counts rest
  | counts, event :: rest => event :: insisting retries counts rest

end Link

/-- The same commands where each meets so many silences before it is heard. -/
def insisted : List Nat → List String → List String
  | times :: counts, command :: rest => List.replicate (times + 1) command ++ insisted counts rest
  | _, commands => commands

namespace Simulation.Bench

/-- The silences that a command meets before it is heard, and the faults that remain then. -/
def takeSilences (command : String) :
    List (String × List LineFault) → Nat × List (String × List LineFault)
  | [] => (0, [])
  | (key, faults) :: rest =>
    if key = command then
      ((faults.takeWhile (· == .silent)).length,
        (key, (faults.dropWhile (· == .silent)).tail) :: rest)
    else
      let (times, rest) := takeSilences command rest
      (times, (key, faults) :: rest)

/-- The silences that each of some lines meets. -/
def silencesIn (faults : List (String × List LineFault)) : List (List UInt8) → List Nat
  | [] => []
  | bytes :: rest =>
    let (times, faults) := takeSilences (commandText bytes.dropLast) faults
    times :: silencesIn faults rest

/-- The silences that each of some lines meets on a bench. A radio that is deaf at the rate of the line
does not get as far as being silent. -/
def silences (s : Bench) (writes : List (List UInt8)) : List Nat :=
  if s.onlyRate.any (!s.rate.same ·) then writes.map fun _ => 0 else silencesIn s.faults writes

/-- Nothing worse than a silence awaits any command. -/
def Hushed (faults : List (String × List LineFault)) : Prop :=
  ∀ entry ∈ faults, ∀ fault ∈ entry.2, fault = .silent ∨ fault = .none

theorem hushed_cons {entry : String × List LineFault} {rest : List (String × List LineFault)} :
    Hushed (entry :: rest) ↔ (∀ fault ∈ entry.2, fault = .silent ∨ fault = .none) ∧ Hushed rest :=
  List.forall_mem_cons

theorem takeFault_heard {command : String} {faults rest : List (String × List LineFault)}
    (hushed : Hushed faults) (met : takeSilences command faults = (0, rest)) :
    takeFault command faults = (.none, rest) ∧ Hushed rest := by
  induction faults generalizing rest with
  | nil =>
      cases met
      exact ⟨rfl, hushed⟩
  | cons entry others ih =>
      obtain ⟨key, awaiting⟩ := entry
      obtain ⟨here, there⟩ := hushed_cons.mp hushed
      unfold takeSilences at met
      unfold takeFault
      by_cases own : key = command
      · rw [if_pos own] at met ⊢
        cases awaiting with
        | nil =>
            cases met
            exact ⟨rfl, hushed⟩
        | cons fault more =>
            rcases here fault List.mem_cons_self with rfl | rfl
            · cases met
            · cases met
              exact ⟨rfl, hushed_cons.mpr ⟨fun f member => here f (.tail _ member), there⟩⟩
      · rw [if_neg own] at met ⊢
        generalize later : takeSilences command others = awaited at met
        obtain ⟨times, rest'⟩ := awaited
        cases met
        obtain ⟨taken, hushed'⟩ := ih there later
        rw [taken]
        exact ⟨rfl, hushed_cons.mpr ⟨here, hushed'⟩⟩

theorem takeFault_silenced {command : String} {faults rest : List (String × List LineFault)} {times : Nat}
    (hushed : Hushed faults) (met : takeSilences command faults = (times + 1, rest)) :
    ∃ faults', takeFault command faults = (.silent, faults') ∧
      takeSilences command faults' = (times, rest) ∧ Hushed faults' := by
  induction faults generalizing rest with
  | nil => cases met
  | cons entry others ih =>
      obtain ⟨key, awaiting⟩ := entry
      obtain ⟨here, there⟩ := hushed_cons.mp hushed
      unfold takeSilences at met
      unfold takeFault
      by_cases own : key = command
      · rw [if_pos own] at met
        simp only [if_pos own]
        cases awaiting with
        | nil => cases met
        | cons fault more =>
            rcases here fault List.mem_cons_self with rfl | rfl
            · cases met
              refine ⟨_, rfl, ?_, hushed_cons.mpr ⟨fun f member => here f (.tail _ member), there⟩⟩
              rw [takeSilences, if_pos own]
              rfl
            · cases met
      · rw [if_neg own] at met
        simp only [if_neg own]
        generalize later : takeSilences command others = awaited at met
        obtain ⟨n, rest'⟩ := awaited
        cases met
        obtain ⟨faults', taken, left, hushed'⟩ := ih there later
        refine ⟨_, by rw [taken], ?_, hushed_cons.mpr ⟨here, hushed'⟩⟩
        rw [takeSilences, if_neg own, left]

theorem hushed_takeSilences {command : String} {faults rest : List (String × List LineFault)} {times : Nat}
    (hushed : Hushed faults) (met : takeSilences command faults = (times, rest)) : Hushed rest := by
  induction times generalizing faults with
  | zero => exact (takeFault_heard hushed met).2
  | succ times ih =>
      obtain ⟨faults', -, met', hushed'⟩ := takeFault_silenced hushed met
      exact ih hushed' met'

/-- The bench after the radio carried out a command that was sent so many times. -/
def insistedOn (s : Bench) (command : String) (times : Nat) (faults : List (String × List LineFault)) :
    Bench :=
  { s with
    radio := (s.radio.answer command).2
    faults
    commands := s.commands ++ List.replicate times command }

section
variable {s : Bench} {command : String} {bytes : List UInt8}

variable {link : Link} {retries : String} {faults : List (String × List LineFault)} {times left : Nat}

/-- A command that meets no more silences than there are repetitions left is heard in the end, where the
repetitions can be announced. -/
theorem attempts_hushed (patient : 0 ≤ link.patience)
    (heard : s.onlyRate.any (!s.rate.same ·) = false) (idle : s.Idle) (hushed : Hushed s.faults)
    (whole : Text.CodePage.encode (command ++ terminator.toString) = .ok bytes)
    (unended : terminator ∉ command.toList)
    (clear : terminator ∉ (s.radio.answer command).1.toList)
    (met : takeSilences command s.faults = (times, faults)) (few : times ≤ left)
    (announced : times ≠ 0 → link.announced.value.wholeText = .ok retries) (repetition : Nat) :
    (link.attempts port command repetition left s).result.bind (Link.accepted command) =
        (s.radio.serve command).1 ∧
      (link.attempts port command repetition left s).account =
        Link.unanswered retries command bytes repetition times ++ [.wrote bytes] ∧
      (link.attempts port command repetition left s).port =
        s.insistedOn command (times + 1) faults := by
  induction times generalizing s repetition left with
  | zero =>
      obtain ⟨front, spelled, rfl⟩ := Text.CodePage.encode_terminated whole
      have sent := write_heard heard idle spelled unended (takeFault_heard hushed met).1
      obtain ⟨⟨came, untimed⟩, -, left'⟩ := attempt_heard (t := { s with faults }) patient
        idle.healthy idle.silent whole sent clear
      rw [attempts_of_untimed untimed]
      refine ⟨came, ?_, left'⟩
      rw [attempt_account, whole]
      rfl
  | succ times ih =>
      obtain ⟨left, rfl⟩ := Nat.exists_eq_add_one_of_ne_zero (Nat.ne_of_gt (Nat.lt_of_lt_of_le
        (Nat.succ_pos times) few))
      obtain ⟨faults', taken, met', hushed'⟩ := takeFault_silenced hushed met
      have first := attempt_silenced heard idle whole taken link.patience
      -- The bench is as before, but for the fault that is used up and the command on record.
      obtain ⟨result, account, port⟩ := ih (s := Bench.record { s with faults := faults' } command)
        heard ⟨idle.unforced, idle.healthy, idle.waiting, idle.silent⟩ hushed' clear met'
        (Nat.le_of_succ_le_succ few) (fun _ => announced (Nat.succ_ne_zero times)) (repetition + 1)
      have again : link.attempts Bench.port command repetition (left + 1) s =
          (link.attempts Bench.port command (repetition + 1) left
            (Bench.record { s with faults := faults' } command)).after
            ([noteDebug ("PC->RADIO: " ++ command), .wrote bytes] ++
              [Link.retryNote command repetition retries]) := by
        rw [attempts_of_timeout (congrArg Outcome.result first) (announced (Nat.succ_ne_zero times)),
          first]
      rw [again]
      refine ⟨result, ?_, ?_⟩
      · rw [Outcome.account_after, account]
        rfl
      · refine port.trans ?_
        simp only [insistedOn, Bench.record, List.append_assoc, List.replicate_succ (n := times + 1),
          List.singleton_append]

end

/-- A fresh radio on a line where two of the commands that select a VFO are lost at first. -/
def hesitant : Bench :=
  { ofRadio .initial with faults := [("VM 0,1", [.silent]), ("ME 998", [.silent, .silent])] }

/-- The bench without faults and with other commands on record. -/
def calmed (s : Bench) (commands : List String) : Bench := { s with faults := [], commands }

theorem Idle.calmed {s : Bench} (idle : s.Idle) (commands : List String) : (s.calmed commands).Idle :=
  ⟨idle.unforced, idle.healthy, idle.waiting, idle.silent⟩

section
variable {s t : Bench}

/-- A radio that is deaf takes nothing in, and the time goes by. -/
theorem attempt_unheard (deaf : s.onlyRate.any (!s.rate.same ·) = true) (idle : s.Idle) (patience : Int)
    {command : String} {bytes : List UInt8}
    (whole : Text.CodePage.encode (command ++ terminator.toString) = .ok bytes) :
    port.attempt patience command s =
      ⟨.error (.radio (.timeout command)), [noteDebug ("PC->RADIO: " ++ command), .wrote bytes], s⟩ := by
  have written : port.write bytes s = (.ok (), s) := if_pos deaf
  exact attempt_unanswered whole written
    (collect_idle patience command 0 "" idle.healthy idle.silent List.not_mem_nil)

/-- On a bench whose radio is deaf an attempt goes the same way whatever else there is, and changes
nothing. -/
theorem attempt_deaf (deaf : s.onlyRate.any (!s.rate.same ·) = true)
    (deaf' : t.onlyRate.any (!t.rate.same ·) = true) (idle : s.Idle) (idle' : t.Idle) (patience : Int)
    (command : String) :
    port.attempt patience command s = { port.attempt patience command t with port := s } := by
  cases whole : Text.CodePage.encode (command ++ terminator.toString) with
  | error u => rw [attempt_unspelled whole, attempt_unspelled whole]
  | ok bytes => rw [attempt_unheard deaf idle patience whole, attempt_unheard deaf' idle' patience whole]

theorem attempts_deaf (deaf : s.onlyRate.any (!s.rate.same ·) = true)
    (deaf' : t.onlyRate.any (!t.rate.same ·) = true) (idle : s.Idle) (idle' : t.Idle) (link : Link)
    (command : String) (repetition left : Nat) :
    link.attempts port command repetition left s =
      { link.attempts port command repetition left t with port := s } := by
  have first := attempt_deaf deaf deaf' idle idle' link.patience command
  have stays := congrArg Outcome.port (attempt_deaf deaf' deaf' idle' idle' link.patience command)
  induction left generalizing repetition with
  | zero => exact first
  | succ left ih =>
      unfold Link.attempts
      rw [first]
      dsimp only at stays ⊢
      split
      · split
        · rfl
        · rw [ih, stays]
          rfl
      · rfl

/-- A command that no attempt is heard with ends in a timeout, where its repetitions can be announced. -/
theorem attempts_unheard (deaf : s.onlyRate.any (!s.rate.same ·) = true) (idle : s.Idle) {link : Link}
    {command : String} {bytes : List UInt8}
    (whole : Text.CodePage.encode (command ++ terminator.toString) = .ok bytes) (repetition left : Nat)
    (announced : left ≠ 0 → link.announced.Writable) :
    (link.attempts port command repetition left s).result = .error (.radio (.timeout command)) ∧
      (link.attempts port command repetition left s).port = s := by
  have first := attempt_unheard deaf idle link.patience whole
  induction left generalizing repetition with
  | zero =>
      rw [Link.attempts, first]
      exact ⟨rfl, rfl⟩
  | succ left ih =>
      obtain ⟨retries, written⟩ := announced (Nat.succ_ne_zero left)
      rw [attempts_of_timeout (congrArg Outcome.result first) written, first]
      exact ih (repetition + 1) fun _ => announced (Nat.succ_ne_zero left)

theorem run_deaf {α : Type} (deaf : s.onlyRate.any (!s.rate.same ·) = true)
    (deaf' : t.onlyRate.any (!t.rate.same ·) = true) (idle : s.Idle) (idle' : t.Idle) (link : Link)
    (d : Dialogue α) : d.run link port s = { d.run link port t with port := s } := by
  induction d with
  | done value => rfl
  | fail why => rfl
  | note record rest ih =>
      rw [run, ih]
      rfl
  | send command rest ih =>
      have exchanged : ∀ {u : Bench}, u.onlyRate.any (!u.rate.same ·) = true → u.Idle →
          link.exchange port command.line u =
            { link.exchange port command.line t with port := u } := by
        intro u unheard still
        unfold Link.exchange
        rw [attempts_deaf unheard deaf' still idle']
      have stays : (link.exchange port command.line t).port = t :=
        congrArg Outcome.port (exchanged deaf' idle')
      rw [run, run, exchanged deaf idle]
      dsimp only
      rw [ih, stays]
      rfl

end

end Simulation.Bench

/-- The first outcome is the second one but for silences: it comes to the same, each line was sent and
each command taken in once more a silence, and each repetition was warned about. The benches differ in
nothing else but the faults that are left. -/
structure Insists {α : Type} (retries : String) (counts : List Nat) (commands commands' : List String)
    (o o' : Outcome Bench α) : Prop where
  result : o.result = o'.result
  account : o.account = Link.insisting retries counts o'.account
  port : ∃ faults received, o'.port.commands = commands' ++ received ∧
    o.port = { o'.port with faults, commands := commands ++ insisted counts received }

theorem insisted_nil (counts : List Nat) : insisted counts [] = [] := by
  cases counts <;> rfl

theorem Link.insisting_noted (retries : String) (counts : List Nat) (record : LogRecord)
    (rest : List Event) : Link.insisting retries counts (.noted record :: rest) =
      .noted record :: Link.insisting retries counts rest := by
  cases counts <;> rfl

namespace Insists

variable {α : Type} {retries : String} {counts : List Nat} {commands commands' : List String}
  {o o' : Outcome Bench α}

theorem still (retries : String) (counts : List Nat) (s : Bench) (commands : List String)
    (result : Except Fault α) :
    Insists retries counts s.commands commands ⟨result, [], s⟩ ⟨result, [], s.calmed commands⟩ := by
  refine ⟨rfl, ?_, s.faults, [], (List.append_nil _).symm, ?_⟩
  · cases counts <;> rfl
  · rw [insisted_nil, List.append_nil]
    rfl

theorem note (h : Insists retries counts commands commands' o o') (record : LogRecord) :
    Insists retries counts commands commands' (o.after [.noted record]) (o'.after [.noted record]) := by
  refine ⟨h.result, ?_, h.port⟩
  rw [Outcome.account_after, Outcome.account_after, h.account]
  cases matters : (Event.noted record).matters with
  | true =>
      rw [List.filter_cons_of_pos matters]
      exact (Link.insisting_noted retries counts record o'.account).symm
  | false =>
      rw [List.filter_cons_of_neg (Bool.eq_false_iff.mp matters)]
      rfl

/-- A line that is heard in the end goes before what follows. -/
theorem heard {times : Nat} {command : String} {bytes : List UInt8} {earlier earlier' : List Event}
    (h : Insists retries counts (commands ++ List.replicate (times + 1) command) (commands' ++ [command])
      o o')
    (given : Bench.commandText bytes.dropLast = command)
    (sent : earlier.filter Event.matters = Link.unanswered retries command bytes 1 times ++ [.wrote bytes])
    (sent' : earlier'.filter Event.matters = [.wrote bytes]) :
    Insists retries (times :: counts) commands commands' (o.after earlier) (o'.after earlier') := by
  obtain ⟨faults, received, left', left⟩ := h.port
  refine ⟨h.result, ?_, faults, command :: received, ?_, ?_⟩
  · rw [Outcome.account_after, Outcome.account_after, h.account, sent, sent', List.append_assoc]
    change _ = Link.unanswered retries (Bench.commandText bytes.dropLast) bytes 1 times ++ _
    rw [given]
    rfl
  · exact left'.trans (List.append_assoc ..)
  · refine left.trans ?_
    rw [List.append_assoc]
    rfl

end Insists

/-- Whether a line that is sent may meet so many silences: there are as many repetitions of it, and they
can be announced. -/
def Link.Bears (link : Link) (retries : String) (times : Nat) : Prop :=
  times ≤ link.retries.toNat ∧ (times ≠ 0 → link.announced.value.wholeText = .ok retries)

theorem Link.bears_none (link : Link) (retries : String) : link.Bears retries 0 :=
  ⟨Nat.zero_le _, fun some => absurd rfl some⟩

section
variable {link : Link} {retries : String} (patient : 0 ≤ link.patience)

include patient

/-- A line that meets no more silences than there are repetitions is heard in the end, and the dialogue
goes on with what the radio makes of it. -/
theorem run_heard {α : Type} {command : Command} (rest : Except Fault String → Dialogue α) {s : Bench}
    {bytes : List UInt8} {faults : List (String × List LineFault)} {times : Nat}
    (heard : s.onlyRate.any (!s.rate.same ·) = false) (idle : s.Idle) (hushed : Bench.Hushed s.faults)
    (whole : Text.CodePage.encode (command.line ++ terminator.toString) = .ok bytes)
    (unended : Unended command.line) (clear : Unended (s.radio.answer command.line).1)
    (met : Bench.takeSilences command.line s.faults = (times, faults)) (few : link.Bears retries times) :
    ∃ earlier : List Event, earlier.filter Event.matters =
        Link.unanswered retries command.line bytes 1 times ++ [.wrote bytes] ∧
      (Dialogue.send command rest).run link Bench.port s =
        ((rest (s.radio.serve command.line).1).run link Bench.port
          (s.insistedOn command.line (times + 1) faults)).after earlier := by
  obtain ⟨result, account, port⟩ :=
    Bench.attempts_hushed patient heard idle hushed whole unended clear met few.1 few.2 1
  refine ⟨(link.exchange Bench.port command.line s).history, account, ?_⟩
  have result' : (link.exchange Bench.port command.line s).result = (s.radio.serve command.line).1 :=
    result
  have port' : (link.exchange Bench.port command.line s).port =
      s.insistedOn command.line (times + 1) faults := port
  rw [run, result', port']

/-- Where each line is heard in the end, a dialogue goes as it does without faults. -/
theorem run_hushed {α : Type} {d : Dialogue α} (apart : d.Asks Command.Apart fun _ => True) {s : Bench}
    (heard : s.onlyRate.any (!s.rate.same ·) = false) (idle : s.Idle) (hushed : Bench.Hushed s.faults)
    (unbroken : s.radio.Unbroken) {commands : List String}
    (few : ∀ times ∈ Bench.silencesIn s.faults (d.run link Bench.port (s.calmed commands)).writes,
      link.Bears retries times) :
    Insists retries (Bench.silencesIn s.faults (d.run link Bench.port (s.calmed commands)).writes)
      s.commands commands (d.run link Bench.port s) (d.run link Bench.port (s.calmed commands)) := by
  induction d generalizing s commands with
  | done value => exact .still retries _ s commands _
  | fail why => exact .still retries _ s commands _
  | note record rest ih =>
      have noted : ((Dialogue.note record rest).run link Bench.port (s.calmed commands)).writes =
          (rest.run link Bench.port (s.calmed commands)).writes := Outcome.writes_after _ _
      rw [noted] at few ⊢
      exact (ih apart heard idle hushed unbroken few).note record
  | send command rest ih =>
      obtain ⟨⟨single, other⟩, after⟩ := apart
      obtain ⟨clear, unbroken'⟩ := Radio.answer_unbroken unbroken single other
      cases whole : Text.CodePage.encode (command.line ++ terminator.toString) with
      | error u =>
          -- The line is not sent, so there is nothing that could stay unanswered.
          have unsent : ∀ v : Bench, (Dialogue.send command rest).run link Bench.port v =
              ((rest (.error (.argument (.unspellable
                (Text.trim (command.line ++ terminator.toString)) u)))).run link Bench.port v).after
                [noteDebug ("PC->RADIO: " ++ command.line)] := by
            intro v
            rw [run, Link.exchange, attempts_unspelled whole, attempt_unspelled whole]
            rfl
          rw [unsent, Outcome.writes_after] at few
          rw [unsent, unsent, Outcome.writes_after]
          exact (ih _ (after _) heard idle hushed unbroken few).note _
      | ok bytes =>
          obtain ⟨front, spelled, rfl⟩ := Text.CodePage.encode_terminated whole
          have given : Bench.commandText (front ++ [13]).dropLast = command.line := by
            rw [List.dropLast_concat, Bench.commandText, Text.CodePage.decode_encode spelled]
            rfl
          generalize met : Bench.takeSilences command.line s.faults = awaited
          obtain ⟨times, faults⟩ := awaited
          have counted : ∀ writes, Bench.silencesIn s.faults ((front ++ [13]) :: writes) =
              times :: Bench.silencesIn faults writes := by
            intro writes
            rw [Bench.silencesIn, given, met]
          obtain ⟨earlier', sent', calmly⟩ := run_heard patient rest (s := s.calmed commands) heard
            (idle.calmed commands) (fun _ member => absurd member List.not_mem_nil) whole single clear
            rfl (link.bears_none retries)
          have onward : Bench.insistedOn (s.calmed commands) command.line 1 [] =
              (s.insistedOn command.line (times + 1) faults).calmed (commands ++ [command.line]) := rfl
          have bytes' : earlier'.filterMap Event.bytes? = [front ++ [13]] := by
            rw [← bytes_of_matters, sent']
            rfl
          rw [calmly, Outcome.writes_after, bytes', List.singleton_append, counted, onward] at few ⊢
          obtain ⟨earlier, sent, insisting⟩ := run_heard patient rest heard idle hushed whole single
            clear met (few times List.mem_cons_self)
          rw [insisting]
          have hushed' : Bench.Hushed faults := Bench.hushed_takeSilences hushed met
          have left : Radio.Unbroken (s.insistedOn command.line (times + 1) faults).radio := unbroken'
          have later := ih _ (after (s.radio.serve command.line).1)
            (s := s.insistedOn command.line (times + 1) faults) heard
            ⟨idle.unforced, idle.healthy, idle.waiting, idle.silent⟩ hushed' left
            fun times member => few times (.tail _ member)
          exact later.heard given sent sent'

end

theorem Link.insisting_zeros (retries : String) {counts : List Nat} (none : ∀ times ∈ counts, times = 0)
    (events : List Event) : Link.insisting retries counts events = events := by
  induction events generalizing counts with
  | nil => cases counts <;> rfl
  | cons event rest ih =>
      cases counts with
      | nil =>
          have same := ih none
          cases event <;> exact congrArg _ same
      | cons times counts =>
          obtain rfl := none times List.mem_cons_self
          have later : ∀ times ∈ counts, times = 0 := fun times member => none times (.tail _ member)
          cases event with
          | wrote bytes => exact congrArg _ (ih later)
          | rate baud => exact congrArg _ (ih none)
          | noted record => exact congrArg _ (ih none)

namespace Rig

theorem insists_carryOut {link : Link} {retries : String} {counts : List Nat}
    {commands commands' : List String} {r : Rig} {request : Request} {s t : Bench}
    (h : Insists retries counts commands commands' ((r.perform request).run link Bench.port s)
      ((r.perform request).run link Bench.port t)) :
    (r.carryOut link Bench.port request s).2 = (r.carryOut link Bench.port request t).2 ∧
      Insists retries counts commands commands' (r.carryOut link Bench.port request s).1
        (r.carryOut link Bench.port request t).1 := by
  rw [carryOut_eq, carryOut_eq]
  unfold Outcome.withRig
  rw [h.result]
  cases ((r.perform request).run link Bench.port t).result with
  | ok pair => exact ⟨rfl, rfl, h.account, h.port⟩
  | error why => exact ⟨rfl, rfl, h.account, h.port⟩

/-- Where nothing worse than a silence awaits any command, and no line of the request meets more of them
than it may be repeated with a warning, the request comes to the same as without faults: the same result
or fault, the same rig, and the same bench but for the faults that are left and the commands on record.
Each line is sent once more a silence, each repetition counted from one and warned about, and nothing
else is noted but debug notes. -/
theorem silences_are_transparent {link : Link} {retries : String} (patient : 0 ≤ link.patience) (r : Rig)
    {request : Request} (plain : request.Plain) {s : Bench} (idle : s.Idle)
    (unbroken : s.radio.Unbroken) (hushed : Bench.Hushed s.faults)
    (few : ∀ times ∈ s.silences
      (r.carryOut link Bench.port request (s.calmed s.commands)).1.writes, link.Bears retries times) :
    let faulty := r.carryOut link Bench.port request s
    let calm := r.carryOut link Bench.port request (s.calmed s.commands)
    faulty.2 = calm.2 ∧
      Insists retries (s.silences calm.1.writes) s.commands s.commands faulty.1 calm.1 := by
  dsimp only
  refine insists_carryOut ?_
  rw [carryOut_writes] at few ⊢
  unfold Bench.silences at few ⊢
  cases deaf : s.onlyRate.any (!s.rate.same ·) with
  | true =>
      simp only [deaf, if_true] at few ⊢
      have calm : (s.calmed s.commands).Idle := idle.calmed s.commands
      have stays := congrArg Outcome.port
        (Bench.run_deaf (s := s.calmed s.commands) (t := s.calmed s.commands) deaf deaf calm calm link
          (r.perform request))
      dsimp only at stays
      rw [Bench.run_deaf deaf (t := s.calmed s.commands) deaf idle calm]
      refine ⟨rfl, ?_, s.faults, [], ?_, ?_⟩
      · refine (Link.insisting_zeros retries (fun times member => ?_) _).symm
        obtain ⟨bytes, -, rfl⟩ := List.mem_map.mp member
        rfl
      · rw [stays, List.append_nil]
        rfl
      · rw [stays, insisted_nil, List.append_nil]
        rfl
  | false =>
      simp only [deaf, Bool.false_eq_true, if_false] at few ⊢
      have apart : (r.perform request).Asks Command.Apart fun _ => True :=
        (r.asks_perform request).weaken (fun _ may => may.apart plain) fun _ _ => trivial
      exact run_hushed patient apart deaf idle hushed unbroken few

theorem silences_are_transparent_selecting :
    ((closed .warn).opened.carryOut ⟨8, 3, 3⟩ Bench.port (.selectVfo (.text "VFOA"))
        Bench.hesitant).1.result = .ok .nothing ∧
      Insists "3" [1, 2, 0, 0, 0] [] []
        ((closed .warn).opened.carryOut ⟨8, 3, 3⟩ Bench.port (.selectVfo (.text "VFOA"))
          Bench.hesitant).1
        ((closed .warn).opened.carryOut ⟨8, 3, 3⟩ Bench.port (.selectVfo (.text "VFOA"))
          (Bench.hesitant.calmed Bench.hesitant.commands)).1 := by
  have patient : 0 ≤ (⟨8, 3, 3⟩ : Link).patience := by decide
  have selected : (closed .warn).opened.Achieves ⟨8, 3, 3⟩ (.selectVfo (.text "VFOA"))
      (Bench.hesitant.calmed Bench.hesitant.commands) _ _ _ _ :=
    achieves_of_speaks patient (Bench.quiet_ofRadio .initial)
      (speaks_selectVfo rfl (.inl rfl : Selects _ .a) (.inl rfl))
  have counted : Bench.hesitant.silences ((closed .warn).opened.carryOut ⟨8, 3, 3⟩ Bench.port
      (.selectVfo (.text "VFOA")) (Bench.hesitant.calmed Bench.hesitant.commands)).1.writes =
        [1, 2, 0, 0, 0] := by
    rw [selected.writes]
    decide
  have idle : Bench.hesitant.Idle := ⟨rfl, rfl, rfl, rfl⟩
  have clear : Bench.hesitant.radio.Unbroken := ⟨nofun, nofun⟩
  have hushed : Bench.Hushed Bench.hesitant.faults := by
    simp [Bench.hesitant, Bench.Hushed]
  have announced : (⟨8, 3, 3⟩ : Link).announced.value.wholeText = .ok "3" := by rfl
  have enough : ∀ times ∈ [1, 2, 0, 0, 0], times ≤ (⟨8, 3, 3⟩ : Link).retries.toNat := by decide
  have few : ∀ times ∈ [1, 2, 0, 0, 0], Link.Bears ⟨8, 3, 3⟩ "3" times := fun times member =>
    ⟨enough times member, fun _ => announced⟩
  have plain : (Request.selectVfo (.text "VFOA")).Plain := trivial
  obtain ⟨-, insists⟩ := silences_are_transparent patient (closed .warn).opened plain idle clear hushed
    (by rwa [counted])
  rw [counted] at insists
  exact ⟨insists.result.trans selected.result, insists⟩

/-- No silence is too many for so many repetitions, but the first cannot be warned about: the number of
retries is too long to be written, and the request fails with that. -/
theorem silence_unannounced :
    let link : Link := { patience := 8, retries := (Nat.pow 10 Number.maxDigits : Nat) }
    let select := fun s => ((closed .warn).opened.carryOut link Bench.port (.selectVfo (.text "VFOA")) s).1
    (∀ times ∈ Bench.hesitant.silences (select (Bench.hesitant.calmed [])).writes,
        times ≤ link.retries.toNat) ∧
      (select (Bench.hesitant.calmed [])).result = .ok .nothing ∧
      (select Bench.hesitant).result = .error .notInteger := by
  have long : Number.isWritable (Nat.pow 10 Number.maxDigits : Nat) = false :=
    Number.isWritable_power (by decide) (Nat.le_refl _)
  generalize Nat.pow 10 Number.maxDigits = retries at long ⊢
  intro link select
  have large : 2 ≤ retries := Nat.le_trans (by decide : 2 ≤ Nat.pow 10 1)
    (Number.pow_le_of_unwritable (by decide) (by decide) long)
  have patient : 0 ≤ link.patience := Int.natCast_nonneg 8
  have selected : (closed .warn).opened.Achieves link (.selectVfo (.text "VFOA"))
      (Bench.hesitant.calmed []) _ _ _ _ :=
    achieves_of_speaks patient (Bench.quiet_ofRadio .initial)
      (speaks_selectVfo rfl (.inl rfl : Selects _ .a) (.inl rfl))
  refine ⟨?_, selected.result, ?_⟩
  · have counted : Bench.hesitant.silences (select (Bench.hesitant.calmed [])).writes =
        [1, 2, 0, 0, 0] := by
      rw [selected.writes]
      decide
    rw [counted]
    have few : ∀ times ∈ [1, 2, 0, 0, 0], times ≤ 2 := by decide
    exact fun times member => Nat.le_trans (few times member) large
  · have idle : Bench.hesitant.Idle := ⟨rfl, rfl, rfl, rfl⟩
    have worded : IsPrintable (Command.writeTuning ⟨.a, .memory⟩).line :=
      (wording_writeTuning _).isPrintable
    have silenced : Bench.takeFault (Command.writeTuning ⟨.a, .memory⟩).line Bench.hesitant.faults =
        (.silent, _) := rfl
    have late := Bench.attempt_silenced rfl idle (encode_line worded) silenced link.patience
    have unannounced : link.announced.value.wholeText = .error .notInteger :=
      Rate.wholeText_overlong long
    have some : 0 < link.retries := Int.natCast_pos.mpr (Nat.lt_of_lt_of_le (by decide) large)
    have unanswered : (link.exchange Bench.port (Command.writeTuning ⟨.a, .memory⟩).line
        Bench.hesitant).result = .error .notInteger := by
      rw [exchange_unannounced some (congrArg Outcome.result late) unannounced]
    have failed : (((closed .warn).opened.perform (.selectVfo (.text "VFOA"))).run link Bench.port
        Bench.hesitant).result = .error .notInteger := run_unanswered rfl unanswered rfl
    change ((closed .warn).opened.carryOut _ _ _ _).1.result = _
    rw [carryOut_eq, Outcome.withRig_error failed]

/-- A name that nothing checked, and whose printed form ends the line of the command that stores it. -/
def brokenName : Value := .table ["A"] [.thing "\rBC"]

def brokenChannel : Channel :=
  ((Channel.blank.store .number (.int 5)).store .name (.text "")).store .name brokenName

/-- A fresh radio that does not answer the command that stores that name at first. -/
def misled : Bench :=
  { Bench.ofRadio .initial with faults := [("MN 005,\x7b'A': \rBC\x7d", [.silent])] }

/-- The line that was one command with the silence is two commands without it. -/
theorem silence_splits :
    Channel.build (.int 5) (.text "") [] [("name", brokenName)] = .ok brokenChannel ∧
      ∃ record : MemoryRecord,
        ((closed .warn).opened.carryOut ⟨8, 1, 1⟩ Bench.port (.setChannel brokenChannel)
          (misled.calmed [])).1.port.commands =
            [(Command.writeMemory record).line, "MN 005,\x7b'A': ", "BC\x7d"] ∧
        ((closed .warn).opened.carryOut ⟨8, 1, 1⟩ Bench.port (.setChannel brokenChannel)
          misled).1.port.commands =
            [(Command.writeMemory record).line, "MN 005,\x7b'A': \rBC\x7d", "MN 005,\x7b'A': ", "BC\x7d"] ∧
        ∀ counts, insisted counts [(Command.writeMemory record).line, "MN 005,\x7b'A': ", "BC\x7d"] ≠
            [(Command.writeMemory record).line, "MN 005,\x7b'A': \rBC\x7d", "MN 005,\x7b'A': ", "BC\x7d"] := by
  have empty : isName "" = true := by decide
  obtain ⟨record, stored⟩ := Channel.exists_storedAs_make 5 empty
  have free : Unreserved (.int 5) 5 := ⟨rfl, by decide, by decide⟩
  have renamed : brokenChannel.StoredAs record := stored.rename brokenName
  have patient : 0 ≤ (⟨8, 1, 1⟩ : Link).patience := by decide
  have idle : misled.Idle := ⟨rfl, rfl, rfl, rfl⟩
  have named : checkSentName (brokenChannel.value .name) = .ok (.pieces brokenName) := rfl
  obtain ⟨bytes, first, second, spelled, given, split, pieces⟩ : ∃ bytes first second,
      (Command.writeName 5 (.pieces brokenName)).bytes = .ok bytes ∧
        Bench.commandText bytes.dropLast = "MN 005,\x7b'A': \rBC\x7d" ∧
        bytes.splitOn 13 = [first, second] ++ [[]] ∧
        [first, second].map Bench.commandText = ["MN 005,\x7b'A': ", "BC\x7d"] :=
    ⟨_, [77, 78, 32, 48, 48, 53, 44, 123, 39, 65, 39, 58, 32], [66, 67, 125], rfl, rfl, rfl, rfl⟩
  have stores : (Radio.initial.keep record).answer "MN 005,\x7b'A': " =
    ("MN 005,\x7b'A': ", (Radio.initial.keep record).label 5 "\x7b'A': ") := rfl
  have refuses : ∀ r : Radio, r.answer "BC\x7d" = ("?", r) := fun _ => rfl
  obtain ⟨answers, answered⟩ : ∃ answers,
      (Radio.initial.keep record).answersTo ([first, second].map Bench.commandText) = some answers := by
    rw [pieces]
    simp only [Radio.answersTo, stores, refuses]
    exact ⟨_, rfl⟩
  have any : [first, second] ≠ [] := List.cons_ne_nil _ _
  have other : "MN 005,\x7b'A': \rBC\x7d" ≠ (Command.writeMemory record).line := by
    intro same
    have printable : IsPrintable (Command.writeMemory record).line :=
      (wording_writeMemory record).isPrintable
    rw [← same] at printable
    exact absurd (unended_of_printable printable) (by decide)
  have taken : Bench.takeFault (Command.writeMemory record).line misled.faults =
      (.none, misled.faults) := by
    simp [misled, Bench.takeFault, other]
  have calm := carryOut_lines patient (closed .warn).opened (s := misled.calmed []) rfl (idle.calmed [])
    free renamed named rfl rfl spelled split any rfl answered
  have faulty := carryOut_lines_late patient (closed .warn).opened (s := misled) rfl idle free renamed
    named rfl taken (by decide) rfl spelled split any rfl (by rw [given]; rfl) answered
  rw [pieces] at calm faulty
  refine ⟨rfl, record, calm.2, faulty, fun counts same => ?_⟩
  have next := congrArg (·[1]?) same
  rcases counts with _ | ⟨_ | times, counts⟩
  · exact absurd next (by simp [insisted])
  · rcases counts with _ | ⟨times, counts⟩
    · exact absurd next (by simp [insisted])
    · exact absurd next (by simp [insisted, List.replicate_succ])
  · exact other (Option.some.inj next).symm

end Rig

end Transceiver
