import Transceiver.Proofs.CodePages
import Transceiver.Proofs.Hearing

/-! A line without faults. On a quiet bench a command reaches the radio, and the radio's answer comes
back whole, however it is cut into reads. -/
namespace Transceiver.Simulation

namespace Bench

/-- Nothing keeps the radio from hearing, no fault and no answer is set up, and nothing is on the
way in either direction. -/
structure Quiet (s : Bench) : Prop where
  heard : s.onlyRate.any (!s.rate.same ·) = false
  unforced : s.replies = []
  unspoilt : ∀ entry ∈ s.faults, entry.2 = []
  healthy : s.readFails = false
  waiting : s.unfinished = []
  silent : s.queue = []

theorem quiet_ofRadio (r : Radio) : (ofRadio r).Quiet :=
  ⟨rfl, rfl, fun _ member => absurd member List.not_mem_nil, rfl, rfl, rfl⟩

theorem takeFault_empty {faults : List (String × List LineFault)}
    (h : ∀ entry ∈ faults, entry.2 = []) (command : String) :
    takeFault command faults = (.none, faults) := by
  induction faults with
  | nil => rfl
  | cons entry rest ih =>
      obtain ⟨key, awaiting⟩ := entry
      have none : awaiting = [] := h _ List.mem_cons_self
      subst none
      unfold takeFault
      rw [ih fun other member => h other (List.mem_cons_of_mem _ member)]
      split <;> rfl

/-- The bench after the radio carried out a command; its answer is on the way. -/
def answered (s : Bench) (command : String) : Bench :=
  { s with
    radio := (s.radio.answer command).2
    commands := s.commands ++ [command] }

theorem quiet_answered {s : Bench} (quiet : s.Quiet) (command : String) : (s.answered command).Quiet :=
  ⟨quiet.heard, quiet.unforced, quiet.unspoilt, quiet.healthy, quiet.waiting, quiet.silent⟩

/-- A command whose bytes come in is carried out whether or not its answer can be spelled. -/
theorem takeBytes_command {s : Bench} (unforced : s.replies = []) (waiting : s.unfinished = [])
    {command : String} {bytes : List UInt8} (spelled : Text.CodePage.encode command = .ok bytes)
    (unended : terminator ∉ command.toList) :
    s.takeBytes (bytes ++ [13]) = (s.answered command).queueReply (s.radio.answer command).1 := by
  have given : commandText bytes = command := by
    rw [commandText, Text.CodePage.decode_encode spelled]
    rfl
  have taken : s.takeCommand command =
      (s.answered command).queueReply (s.radio.answer command).1 := by
    have free : s.replies.lookup command = none := by
      rw [unforced]
      rfl
    unfold takeCommand
    dsimp only [record]
    rw [free]
    rfl
  have waiting' : (s.answered command).unfinished = [] := waiting
  have ended : ({ s.answered command with unfinished := [] } : Bench) = s.answered command := by
    rw [← waiting']
  rw [takeBytes_single waiting (Text.CodePage.not_mem_encode spelled unended)]
  unfold takePieces
  rw [given, taken]
  unfold queueReply
  cases Text.CodePage.encode (s.radio.answer command).1 with
  | error u => exact congrArg (Prod.mk _) ended
  | ok answer =>
      dsimp only
      unfold takePieces
      rw [waiting']

theorem write_quiet {s : Bench} (quiet : s.Quiet) {command : String} {bytes : List UInt8}
    (spelled : Text.CodePage.encode command = .ok bytes) (unended : terminator ∉ command.toList) :
    s.write (bytes ++ [13]) = (s.answered command).queueReply (s.radio.answer command).1 := by
  have given : commandText bytes = command := by
    rw [commandText, Text.CodePage.decode_encode spelled]
    rfl
  unfold write
  rw [quiet.heard]
  simp only [Bool.false_eq_true, if_false, List.dropLast_concat, given,
    takeFault_empty quiet.unspoilt]
  exact takeBytes_command quiet.unforced quiet.waiting spelled unended

theorem read_quiet {s : Bench} (healthy : s.readFails = false) (busy : s.queue ≠ []) :
    s.read = (.arrived (s.queue.take 8) 0, { s with queue := s.queue.drop 8 }) := by
  have waiting : s.queue.isEmpty = false := by
    rw [List.isEmpty_eq_false_iff]
    exact busy
  unfold read
  rw [healthy, waiting]
  rfl

theorem collect_step {patience : Int} (patient : 0 ≤ patience) (command text : String) {s : Bench}
    (healthy : s.readFails = false) {cs : List Char} (some : cs ≠ [])
    (queued : s.queue.mapM Text.CodePage.decodeByte = Option.some cs) :
    port.collect patience command 0 text s =
      if Text.contains (text ++ .ofList (cs.take 8)) terminator then
        (.ok (text ++ .ofList (cs.take 8)), { s with queue := s.queue.drop 8 })
      else
        port.collect patience command 0 (text ++ .ofList (cs.take 8))
          { s with queue := s.queue.drop 8 } := by
  have busy : s.queue ≠ [] := by
    intro empty
    rw [empty] at queued
    cases queued
    exact some rfl
  have brought : port.read s = _ := read_quiet healthy busy
  have decoded : Text.CodePage.decode (s.queue.take 8) = Option.some (.ofList (cs.take 8)) := by
    rw [Text.CodePage.decode, Text.CodePage.mapM_take queued]
    rfl
  have intime : ¬ patience < ((0 + 0 : Nat) : Int) := Int.not_lt.mpr patient
  rw [collect_arrived brought decoded, if_neg intime]

/-- Reads of eight bytes each, none of which takes time, bring the whole answer. -/
theorem collect_quiet {patience : Int} (patient : 0 ≤ patience) (command text : String)
    (cs : List Char) (s : Bench) (healthy : s.readFails = false) (clear : terminator ∉ text.toList)
    (unended : terminator ∉ cs)
    (queued : s.queue.mapM Text.CodePage.decodeByte = some (cs ++ [terminator])) :
    port.collect patience command 0 text s =
      (.ok (text ++ .ofList (cs ++ [terminator])), { s with queue := [] }) := by
  -- The end of the answer comes with the last read; each read before it takes eight bytes off.
  rw [collect_step patient command text healthy (by simp) queued]
  have length : s.queue.length = (cs ++ [terminator]).length :=
    Text.CodePage.length_mapM queued
  by_cases short : cs.length < 8
  · have fits : (cs ++ [terminator]).length ≤ 8 := by
      rw [List.length_append, List.length_singleton]
      omega
    rw [List.take_of_length_le fits, List.drop_of_length_le (length ▸ fits), if_pos]
    simp [Text.contains]
  · have long : 8 ≤ cs.length := by omega
    have clear' : terminator ∉ (text ++ .ofList (cs.take 8)).toList := by
      rw [String.toList_append, String.toList_ofList]
      intro ending
      rcases List.mem_append.mp ending with before | now
      · exact clear before
      · exact unended (List.mem_of_mem_take now)
    have later := collect_quiet patient command _ (cs.drop 8) { s with queue := s.queue.drop 8 }
      healthy clear' (fun ending => unended (List.mem_of_mem_drop ending))
      (by rw [← List.drop_append_of_le_length long]; exact Text.CodePage.mapM_drop queued 8)
    rw [List.take_append_of_le_length long, if_neg]
    · refine later.trans ?_
      rw [String.append_assoc, ← String.ofList_append, ← List.append_assoc, List.take_append_drop]
    · exact fun ended => clear' (List.contains_iff_mem.mp ended)
termination_by cs.length
decreasing_by
  rw [List.length_drop]
  omega

/-- The answer is what comes before the first end of a line. -/
theorem answerOf_append {front : String} (rest : String) (unended : terminator ∉ front.toList) :
    (answerOf (front ++ terminator.toString ++ rest)).1 = Text.trim front := by
  unfold answerOf
  rw [Text.cut_append rest unended]

theorem answerOf_line {reply : String} (unended : terminator ∉ reply.toList) :
    (answerOf ("" ++ .ofList (reply.toList ++ [terminator]))).1 = Text.trim reply := by
  have whole : "" ++ String.ofList (reply.toList ++ [terminator]) =
      reply ++ terminator.toString ++ "" := by
    simp [String.ofList_append]
  rw [whole, answerOf_append "" unended]

end Bench

/-- What comes of a line that is sent to the radio, and the radio after it. A line that cannot be
spelled does not reach it, and an answer that cannot be spelled does not come back. -/
def Radio.serve (r : Radio) (line : String) : Except Fault String × Radio :=
  let text := line ++ terminator.toString
  match Text.CodePage.encode text with
  | .error u => (.error (.argument (.unspellable (Text.trim text) u)), r)
  | .ok _ =>
    let (reply, r) := r.answer line
    match Text.CodePage.encode reply with
    | .ok _ => (Link.accepted line (Text.trim reply), r)
    | .error _ => (.error .unencodable, r)

theorem Radio.serve_unspelled {r : Radio} {line : String} {u : Text.CodePage.Unspellable}
    (h : Text.CodePage.encode (line ++ terminator.toString) = .error u) :
    r.serve line =
      (.error (.argument (.unspellable (Text.trim (line ++ terminator.toString)) u)), r) := by
  unfold serve
  simp only [h]

namespace Bench

/-- Where the radio of a bench hears a command, the attempt comes to what the radio makes of it. -/
theorem attempt_heard {patience : Int} (patient : 0 ≤ patience) {s t : Bench}
    (healthy : t.readFails = false) (silent : t.queue = []) {command : String} {bytes : List UInt8}
    (spelled : Text.CodePage.encode (command ++ terminator.toString) = .ok bytes)
    (sent : s.write bytes = (t.answered command).queueReply (t.radio.answer command).1)
    (clear : terminator ∉ (t.radio.answer command).1.toList) :
    ((port.attempt patience command s).result.bind (Link.accepted command) =
        (t.radio.serve command).1 ∧
      ∀ c, (port.attempt patience command s).result ≠ .error (.radio (.timeout c))) ∧
    (t.radio.serve command).2 = (t.radio.answer command).2 ∧
    (port.attempt patience command s).port = t.answered command := by
  have written : port.write bytes s = _ := sent
  unfold Port.attempt Radio.serve
  simp only [spelled]
  rw [written]
  unfold queueReply
  cases replied : Text.CodePage.encode (t.radio.answer command).1 with
  | error u => exact ⟨⟨rfl, by rintro _ ⟨⟩⟩, rfl, rfl⟩
  | ok answer =>
      have silent' : (t.answered command).queue = [] := silent
      have queued : ((t.answered command).queue ++ answer ++ [13]).mapM
          Text.CodePage.decodeByte = some ((t.radio.answer command).1.toList ++ [terminator]) := by
        rw [silent', List.nil_append, List.mapM_append, Text.CodePage.mapM_encodeChar replied]
        rfl
      have collected := collect_quiet patient command "" _
        { t.answered command with queue := (t.answered command).queue ++ answer ++ [13] }
        healthy List.not_mem_nil clear queued
      have unread : ({ t.answered command with queue := [] } : Bench) = t.answered command := by
        rw [← silent']
      dsimp only
      rw [collected, unread]
      refine ⟨⟨?_, by rintro _ ⟨⟩⟩, rfl, rfl⟩
      dsimp only
      rw [answerOf_line clear, Except.bind]

theorem attempt_quiet {patience : Int} (patient : 0 ≤ patience) {s : Bench} (quiet : s.Quiet)
    {command : String} (unended : terminator ∉ command.toList)
    (clear : terminator ∉ (s.radio.answer command).1.toList) :
    ((port.attempt patience command s).result.bind (Link.accepted command) =
        (s.radio.serve command).1 ∧
      ∀ c, (port.attempt patience command s).result ≠ .error (.radio (.timeout c))) ∧
    (port.attempt patience command s).port.radio = (s.radio.serve command).2 ∧
    (port.attempt patience command s).port.Quiet := by
  cases whole : Text.CodePage.encode (command ++ terminator.toString) with
  | error u =>
      rw [attempt_unspelled whole, Radio.serve_unspelled whole]
      exact ⟨⟨rfl, by rintro _ ⟨⟩⟩, rfl, quiet⟩
  | ok bytes =>
      obtain ⟨front, spelled, rfl⟩ := Text.CodePage.encode_terminated whole
      have sent := write_quiet quiet spelled unended
      obtain ⟨came, carried, left⟩ :=
        attempt_heard patient quiet.healthy quiet.silent whole sent clear
      rw [left]
      exact ⟨came, carried.symm, quiet_answered quiet command⟩

/-- On a quiet bench a command comes to what the radio makes of it, and the bench stays quiet. -/
theorem exchange_serve {link : Link} (patient : 0 ≤ link.patience) {s : Bench} (quiet : s.Quiet)
    {command : String} (unended : terminator ∉ command.toList)
    (clear : terminator ∉ (s.radio.answer command).1.toList) :
    (link.exchange port command s).result = (s.radio.serve command).1 ∧
      (link.exchange port command s).port.radio = (s.radio.serve command).2 ∧
      (link.exchange port command s).port.Quiet := by
  obtain ⟨⟨result, untimed⟩, left⟩ := attempt_quiet patient quiet unended clear
  unfold Link.exchange
  rw [attempts_of_untimed untimed]
  exact ⟨result, left⟩

end Bench

theorem unended_of_printable {s : String} (h : IsPrintable s) : terminator ∉ s.toList :=
  fun ending => absurd (h terminator ending).1 (by decide)

theorem Radio.serve_printable {r : Radio} {line : String} (worded : IsPrintable line)
    (clear : IsPrintable (r.answer line).1) :
    r.serve line = (Link.accepted line (Text.trim (r.answer line).1), (r.answer line).2) := by
  unfold serve
  simp only [encode_line worded, encode_printable clear]

/-- Nothing changes on a quiet bench but what the radio makes of the command. -/
theorem Bench.exchange_answered {link : Link} (patient : 0 ≤ link.patience) {s : Bench} (quiet : s.Quiet)
    {command : String} (worded : IsPrintable command)
    (clear : terminator ∉ (s.radio.answer command).1.toList) :
    (link.exchange port command s).result = (s.radio.serve command).1 ∧
      (link.exchange port command s).port = s.answered command := by
  have sent := write_quiet quiet (encode_printable worded) (unended_of_printable worded)
  obtain ⟨⟨result, untimed⟩, -, left⟩ :=
    attempt_heard patient quiet.healthy quiet.silent (encode_line worded) sent clear
  unfold Link.exchange
  rw [attempts_of_untimed untimed]
  exact ⟨result, left⟩

end Transceiver.Simulation
