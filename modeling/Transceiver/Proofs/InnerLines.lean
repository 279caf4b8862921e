import Transceiver.Proofs.LossyLine
import Transceiver.Proofs.Storing

/-! Lines within a line. The printed form of a foreign object in the place of a name may hold line ends,
and then the radio takes the command that stores the name for several commands. It obeys them all, and
the host reads the answer to the first. -/
namespace Transceiver

open Simulation Dialogue Record

namespace Simulation

/-- The answers to commands that come in one after the other, as they are on their way to the host. -/
def Radio.answersTo (r : Radio) : List String → Option (List UInt8)
  | [] => some []
  | command :: rest =>
    match Text.CodePage.encode (r.answer command).1 with
    | .ok answer => ((r.answer command).2.answersTo rest).map fun later => answer ++ [13] ++ later
    | .error _ => none

theorem Radio.answersTo_cons {r : Radio} {command : String} {rest : List String} {answers : List UInt8} :
    r.answersTo (command :: rest) = some answers ↔
      ∃ answer later, Text.CodePage.encode (r.answer command).1 = .ok answer ∧
        (r.answer command).2.answersTo rest = some later ∧ answer ++ [13] ++ later = answers := by
  rw [answersTo]
  cases Text.CodePage.encode (r.answer command).1 with
  | error u => simp
  | ok answer => simp

/-- Answers can be read, and each ends a line. -/
theorem Radio.answersTo_legible {r : Radio} {commands : List String} {answers : List UInt8}
    (answered : r.answersTo commands = some answers) :
    ∃ cs, answers.mapM Text.CodePage.decodeByte = some cs ∧ (commands ≠ [] → terminator ∈ cs) := by
  induction commands generalizing r answers with
  | nil =>
      cases answered
      exact ⟨[], rfl, fun none => absurd rfl none⟩
  | cons command rest ih =>
      obtain ⟨answer, later, spelled, answered', rfl⟩ := answersTo_cons.mp answered
      obtain ⟨cs, decoded, -⟩ := ih answered'
      refine ⟨(r.answer command).1.toList ++ [terminator] ++ cs, ?_, fun _ => by simp⟩
      rw [List.mapM_append, List.mapM_append, Text.CodePage.mapM_encodeChar spelled, decoded]
      rfl

namespace Bench

/-- The bench after the radio obeyed commands, with their answers on the way. -/
def obeying (s : Bench) (commands : List String) (queue : List UInt8) : Bench :=
  { s with
    radio := s.radio.obey commands
    commands := s.commands ++ commands
    queue }

theorem takeCommand_answered {s : Bench} (unforced : s.replies = []) {command : String}
    {answer : List UInt8} (spelled : Text.CodePage.encode (s.radio.answer command).1 = .ok answer) :
    s.takeCommand command = (.ok (), s.obeying [command] (s.queue ++ (answer ++ [13]))) := by
  have free : s.replies.lookup command = none := by
    rw [unforced]
    rfl
  unfold takeCommand
  dsimp only [record]
  rw [free]
  dsimp only [queueReply]
  rw [spelled, ← List.append_assoc]
  rfl

theorem takePieces_lines {s : Bench} (unforced : s.replies = []) (waiting : s.unfinished = [])
    {pieces : List (List UInt8)} {answers : List UInt8}
    (answered : s.radio.answersTo (pieces.map commandText) = some answers) :
    takePieces (pieces ++ [[]]) s =
      (.ok (), s.obeying (pieces.map commandText) (s.queue ++ answers)) := by
  induction pieces generalizing s answers with
  | nil =>
      cases answered
      obtain ⟨radio, replies, faults, onlyRate, rate, readFails, unfinished, queue, commands⟩ := s
      cases waiting
      simp [takePieces, obeying, Radio.obey]
  | cons piece rest ih =>
      obtain ⟨answer, later, spelled, answered', rfl⟩ := Radio.answersTo_cons.mp answered
      have first := takeCommand_answered unforced spelled
      have after := ih (s := s.obeying [commandText piece] (s.queue ++ (answer ++ [13]))) unforced waiting
        answered'
      obtain ⟨next, others, more⟩ : ∃ next others, rest ++ [[]] = next :: others :=
        List.exists_cons_of_ne_nil (by simp)
      rw [List.cons_append, more, takePieces, first, ← more]
      · refine after.trans ?_
        simp [obeying, Radio.obey]
      · simp

/-- A write of several lines is several commands. -/
theorem write_lines {s : Bench} (heard : s.onlyRate.any (!s.rate.same ·) = false) (idle : s.Idle)
    {faults : List (String × List LineFault)} {bytes answers : List UInt8} {pieces : List (List UInt8)}
    (taken : takeFault (commandText bytes.dropLast) s.faults = (.none, faults))
    (split : bytes.splitOn 13 = pieces ++ [[]])
    (answered : s.radio.answersTo (pieces.map commandText) = some answers) :
    s.write bytes =
      (.ok (), Bench.obeying { s with faults } (pieces.map commandText) answers) := by
  obtain ⟨radio, replies, awaiting, onlyRate, rate, readFails, unfinished, queue, commands⟩ := s
  cases idle.waiting
  cases idle.silent
  have obeyed := takePieces_lines
    (s := ⟨radio, replies, faults, onlyRate, rate, readFails, [], [], commands⟩) idle.unforced rfl
    answered
  rw [← split] at obeyed
  unfold write
  rw [heard]
  simp only [Bool.false_eq_true, if_false, taken]
  exact obeyed

/-- Reads bring a text as soon as they bring the end of a line. -/
theorem collect_ended {patience : Int} (patient : 0 ≤ patience) (command text : String) {s : Bench}
    (healthy : s.readFails = false) {cs : List Char}
    (queued : s.queue.mapM Text.CodePage.decodeByte = some cs) (ended : terminator ∈ cs) :
    ∃ found, (port.collect patience command 0 text s).1 = .ok found := by
  have some : cs ≠ [] := List.ne_nil_of_mem ended
  rw [collect_step patient command text healthy some queued]
  split
  · exact ⟨_, rfl⟩
  · rename_i open_
    have later : terminator ∈ cs.drop 8 := by
      rcases List.mem_append.mp (List.take_append_drop 8 cs ▸ ended) with now | later
      · refine absurd (List.contains_iff_mem.mpr ?_) open_
        rw [String.toList_append, String.toList_ofList]
        exact List.mem_append_right _ now
      · exact later
    exact collect_ended (s := { s with queue := s.queue.drop 8 }) patient command _ healthy
      (Text.CodePage.mapM_drop queued 8) later
termination_by cs.length
decreasing_by
  have some := List.length_pos_of_mem ended
  rw [List.length_drop]
  omega

/-- Several lines that are sent at once are several commands, and are not sent again. -/
theorem attempts_lines {link : Link} (patient : 0 ≤ link.patience) {s : Bench}
    (heard : s.onlyRate.any (!s.rate.same ·) = false) (idle : s.Idle)
    {faults : List (String × List LineFault)} {command : String} {bytes answers : List UInt8}
    {pieces : List (List UInt8)}
    (spelled : Text.CodePage.encode (command ++ terminator.toString) = .ok bytes)
    (taken : takeFault (commandText bytes.dropLast) s.faults = (.none, faults))
    (split : bytes.splitOn 13 = pieces ++ [[]]) (some : pieces ≠ [])
    (answered : s.radio.answersTo (pieces.map commandText) = .some answers) (repetition left : Nat) :
    (link.attempts port command repetition left s).port.AlikeTo
      (Bench.obeying { s with faults } (pieces.map commandText) []) := by
  obtain ⟨cs, decoded, ends⟩ := Radio.answersTo_legible answered
  have sent := write_lines heard idle taken split answered
  have written : port.write bytes s = _ := sent
  obtain ⟨left', came⟩ := attempt_sent link.patience spelled (congrArg Prod.fst written)
  obtain ⟨found, collected⟩ := collect_ended
    (s := Bench.obeying { s with faults } (pieces.map commandText) answers) patient command ""
    idle.healthy decoded (ends (by simpa using some))
  rw [written] at left' came
  have untimed : ∀ c, (port.attempt link.patience command s).result ≠ .error (.radio (.timeout c)) := by
    intro c late
    rw [came, collected] at late
    cases late
  rw [attempts_of_untimed untimed, left']
  exact alike.collect ⟨_, _, rfl⟩ link.patience command 0 ""

end Bench

end Simulation

namespace Rig

/-- After the record of a channel was stored, storing it ends as the exchange about its name does. -/
theorem run_naming {σ : Type} {link : Link} {port : Port σ} (r : Rig) {s t : σ} {radio : Radio}
    {c : Channel} {number : Fin 1000} {record : MemoryRecord} {name : SentName}
    (free : Unreserved (c.value .number) number) (stored : c.StoredAs record)
    (named : checkSentName (c.value .name) = .ok name) (written : name.written = .ok name)
    (served : (link.exchange port (Command.writeMemory record).line s).result =
      (radio.serve (Command.writeMemory record).line).1)
    (left : (link.exchange port (Command.writeMemory record).line s).port = t) :
    ((r.perform (.setChannel c)).run link port s).result =
        ((link.exchange port (Command.writeName number name).line t).result.bind MemoryName.parse).map
          (fun _ => (.nothing, r)) ∧
      ((r.perform (.setChannel c)).run link port s).port =
        (link.exchange port (Command.writeName number name).line t).port := by
  have talks := radio.talks_writeMemory record
  rw [writeMemory_eq] at talks
  obtain ⟨-, -, stores, -⟩ := talks.served
  rw [r.perform_setChannel_eq free stored named written, writeMemory_eq, run_inquiry, served, stores,
    left]
  dsimp only
  rw [run_inquiry]
  generalize (link.exchange port (Command.writeName number name).line t).result.bind
      MemoryName.parse = told
  cases told <;> exact ⟨rfl, rfl⟩

section
variable {link : Link} (patient : 0 ≤ link.patience) (r : Rig) {s : Bench}
  (heard : s.onlyRate.any (!s.rate.same ·) = false) (idle : s.Idle)
  {faults : List (String × List LineFault)} {c : Channel} {number : Fin 1000} {record : MemoryRecord}
  {name : SentName} (free : Unreserved (c.value .number) number) (stored : c.StoredAs record)
  (named : checkSentName (c.value .name) = .ok name) (written : name.written = .ok name)
  (taken : Bench.takeFault (Command.writeMemory record).line s.faults = (.none, faults))

include patient heard idle free stored named written taken

theorem carryOut_naming : (r.carryOut link Bench.port (.setChannel c) s).1.port =
    (link.exchange Bench.port (Command.writeName number name).line
      (Bench.answered { s with faults } (Command.writeMemory record).line)).port := by
  have talks := s.radio.talks_writeMemory record
  rw [writeMemory_eq] at talks
  obtain ⟨worded, clear, -, -⟩ := talks.served
  obtain ⟨served, left⟩ :=
    Bench.exchange_heard patient heard idle worded (unended_of_printable clear) taken
  rw [carryOut_port]
  exact (run_naming r free stored named written served left).2

/-- A channel that is stored under a name with line ends in its printed form leaves the radio as all
those commands do, one after the other. -/
theorem carryOut_lines {awaiting : List (String × List LineFault)} {bytes answers : List UInt8}
    {pieces : List (List UInt8)} (spelled : (Command.writeName number name).bytes = .ok bytes)
    (split : bytes.splitOn 13 = pieces ++ [[]]) (some : pieces ≠ [])
    (taken' : Bench.takeFault (Bench.commandText bytes.dropLast) faults = (.none, awaiting))
    (answered : (s.radio.keep record).answersTo (pieces.map Bench.commandText) = .some answers) :
    (r.carryOut link Bench.port (.setChannel c) s).1.port.radio =
        (s.radio.keep record).obey (pieces.map Bench.commandText) ∧
      (r.carryOut link Bench.port (.setChannel c) s).1.port.commands =
        s.commands ++ (Command.writeMemory record).line :: pieces.map Bench.commandText := by
  have stores : (s.radio.answer (Command.writeMemory record).line).2 = s.radio.keep record :=
    congrArg Prod.snd (s.radio.answer_writeMemory record)
  rw [r.carryOut_naming patient heard idle free stored named written taken]
  generalize (Command.writeMemory record).line = line at stores ⊢
  rw [← stores] at answered ⊢
  have alike : (link.exchange Bench.port _ (Bench.answered { s with faults } line)).port.AlikeTo _ :=
    Bench.attempts_lines (s := Bench.answered { s with faults } line) patient heard
      ⟨idle.unforced, idle.healthy, idle.waiting, idle.silent⟩ spelled taken' split some answered 1
      link.retries.toNat
  obtain ⟨queue, readFails, same⟩ := alike
  refine ⟨(congrArg Bench.radio same).symm, ?_⟩
  refine (congrArg Bench.commands same).symm.trans ?_
  exact List.append_assoc ..

/-- Where that command stays unanswered at first, it comes in once as it was written and then as those
commands. -/
theorem carryOut_lines_late {retries : String} {awaiting later : List (String × List LineFault)}
    {bytes answers : List UInt8} {pieces : List (List UInt8)} (some : 0 < link.retries)
    (announced : link.announced.value.wholeText = .ok retries)
    (spelled : (Command.writeName number name).bytes = .ok bytes)
    (split : bytes.splitOn 13 = pieces ++ [[]]) (any : pieces ≠ [])
    (late : Bench.takeFault (Command.writeName number name).line faults = (.silent, awaiting))
    (taken' : Bench.takeFault (Bench.commandText bytes.dropLast) awaiting = (.none, later))
    (answered : (s.radio.keep record).answersTo (pieces.map Bench.commandText) = .some answers) :
    (r.carryOut link Bench.port (.setChannel c) s).1.port.commands =
      s.commands ++ (Command.writeMemory record).line :: (Command.writeName number name).line ::
        pieces.map Bench.commandText := by
  have stores : (s.radio.answer (Command.writeMemory record).line).2 = s.radio.keep record :=
    congrArg Prod.snd (s.radio.answer_writeMemory record)
  rw [r.carryOut_naming patient heard idle free stored named written taken]
  generalize (Command.writeMemory record).line = line at stores ⊢
  rw [← stores] at answered
  have first := Bench.attempt_silenced (s := Bench.answered { s with faults } line) heard
    ⟨idle.unforced, idle.healthy, idle.waiting, idle.silent⟩ spelled late link.patience
  obtain ⟨more, counted⟩ : ∃ more, link.retries.toNat = more + 1 :=
    ⟨link.retries.toNat - 1, by omega⟩
  unfold Link.exchange
  dsimp only
  rw [counted, attempts_of_timeout (congrArg Outcome.result first) announced, first]
  obtain ⟨queue, readFails, same⟩ := Bench.attempts_lines
    (s := Bench.record { Bench.answered { s with faults } line with faults := awaiting }
      (Command.writeName number name).line) patient heard
    ⟨idle.unforced, idle.healthy, idle.waiting, idle.silent⟩ spelled taken' split any answered 2 more
  refine (congrArg Bench.commands same).symm.trans ?_
  simp [Bench.obeying, Bench.record, Bench.answered]

end

end Rig

end Transceiver
