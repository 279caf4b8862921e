import Transceiver.Proofs.OnTheWay

/-! A radio whose answers lag. Two commands are known to it, and each answer takes the time that is laid
down for it; an answer that is late is found by the next attempt. -/
namespace Transceiver

/-- A radio that two commands are known to, over a line on which an answer may take its time. -/
structure Lagging where
  /-- How many ticks the next answers take; those after them take none. -/
  delays : List Nat
  /-- Answers on the way: the ticks until each is there, and what is left of it. -/
  queue : List (Nat × List UInt8)
  heard : List Answered

namespace Lagging

def answerTo (line : List UInt8) : List UInt8 :=
  match Simulation.Bench.commandText line with
  | "BC" => asciiBytes "BC 0,0"
  | "BY 0" => asciiBytes "BY 0,0"
  | _ => asciiBytes "?"

def write (bytes : List UInt8) (s : Lagging) : Except WriteFault Unit × Lagging :=
  let line := bytes.dropLast
  (.ok (), ⟨s.delays.tail, s.queue ++ [(s.delays.headD 0, answerTo line ++ [13])],
    s.heard ++ [⟨line, answerTo line⟩]⟩)

/-- A read waits for the next answer, and the one after that brings some of it. -/
def read (s : Lagging) : Reading × Lagging :=
  match s.queue with
  | [] => (.arrived [] 1, s)
  | (delay + 1, bytes) :: rest => (.arrived [] (delay + 1), { s with queue := (0, bytes) :: rest })
  | (0, bytes) :: rest =>
    (.arrived (bytes.take chunkSize) 0,
      { s with queue := if bytes.length ≤ chunkSize then rest else (0, bytes.drop chunkSize) :: rest })

def pendingIn : List (Nat × List UInt8) → Nat
  | [] => 0
  | answer :: rest => answer.2.length + 1 + pendingIn rest

def pending (s : Lagging) : Nat := pendingIn s.queue

theorem read_pending (s : Lagging) (bytes : List UInt8) (h : s.read.1 = .arrived bytes 0) :
    s.read.2.pending < s.pending := by
  unfold read at h ⊢
  rcases coming : s.queue with _ | ⟨⟨_ | delay, left⟩, rest⟩
  · simp [coming] at h
  · simp only [pending, coming, pendingIn]
    split
    · omega
    · simp only [pendingIn, List.length_drop, chunkSize] at *
      omega
  · simp [coming] at h

def port : Port Lagging where
  write := write
  read := read
  setRate _ s := s
  pending := pending
  read_pending := read_pending

theorem unended_answerTo (line : List UInt8) : 13 ∉ answerTo line := by
  unfold answerTo
  split <;> decide

/-- What is on the way, whenever it arrives. -/
def coming (s : Lagging) : List UInt8 := s.queue.flatMap Prod.snd

theorem read_coming (s : Lagging) : ∃ bytes ticks, s.read.1 = .arrived bytes ticks ∧
    s.coming = bytes ++ s.read.2.coming ∧ s.read.2.heard = s.heard := by
  unfold read coming
  rcases queued : s.queue with _ | ⟨⟨_ | delay, left⟩, rest⟩
  · exact ⟨[], 1, rfl, by simp [queued], rfl⟩
  · refine ⟨left.take chunkSize, 0, rfl, ?_, rfl⟩
    dsimp only
    split
    · rename_i short
      rw [List.take_of_length_le short]
      rfl
    · rw [List.flatMap_cons, List.flatMap_cons, ← List.append_assoc, List.take_append_drop]
  · exact ⟨[], delay + 1, rfl, rfl, rfl⟩

theorem answerTo_known (line : List UInt8) : ∃ text, (answerTo line).length < chunkSize ∧
    Text.CodePage.decode (answerTo line) = some text ∧ terminator ∉ text.toList := by
  unfold answerTo
  split
  · exact ⟨"BC 0,0", by decide, by decide, by decide⟩
  · exact ⟨"BY 0,0", by decide, by decide, by decide⟩
  · exact ⟨"?", by decide, by decide, by decide⟩

theorem encode_bc : Text.CodePage.encode ("BC" ++ terminator.toString) = .ok (asciiBytes "BC" ++ [13]) :=
  rfl

theorem encode_by :
    Text.CodePage.encode ("BY 0" ++ terminator.toString) = .ok (asciiBytes "BY 0" ++ [13]) :=
  rfl

theorem write_line (line : List UInt8) (s : Lagging) : port.write (line ++ [13]) s =
    (.ok (), ⟨s.delays.tail, s.queue ++ [(s.delays.headD 0, answerTo line ++ [13])],
      s.heard ++ [⟨line, answerTo line⟩]⟩) := by
  change Lagging.write (line ++ [13]) s = _
  unfold Lagging.write
  rw [List.dropLast_concat]

def answering : port.Answering where
  heard := heard
  coming := coming
  written s line _ := by
    refine ⟨answerTo line, unended_answerTo line, ?_⟩
    rw [write_line]
    refine ⟨rfl, rfl, ?_⟩
    simp [coming]
  brought := read_coming

variable {patience : Int} {command text : String} {line answer : List UInt8} {delay : Nat}
  {rest : List (Nat × List UInt8)} {s : Lagging}

/-- A short answer that arrives in time is collected with one read once it is there. -/
theorem collect_in_time (short : answer.length < chunkSize)
    (decoded : Text.CodePage.decode answer = some text) (inTime : (delay : Int) ≤ patience)
    (delays : List Nat) (heard : List Answered) :
    port.collect patience command 0 "" ⟨delays, (delay, answer ++ [13]) :: rest, heard⟩ =
      (.ok (text ++ terminator.toString), ⟨delays, rest, heard⟩) := by
  have fits : (answer ++ [13]).length ≤ chunkSize := by
    rw [List.length_append, List.length_singleton]
    omega
  have there : ∀ elapsed : Nat, (elapsed : Int) ≤ patience →
      port.collect patience command elapsed "" ⟨delays, (0, answer ++ [13]) :: rest, heard⟩ =
        (.ok (text ++ terminator.toString), ⟨delays, rest, heard⟩) := by
    intro elapsed inTime
    have brought : port.read ⟨delays, (0, answer ++ [13]) :: rest, heard⟩ =
        (.arrived (answer ++ [13]) 0, ⟨delays, rest, heard⟩) := by
      change Lagging.read ⟨delays, (0, answer ++ [13]) :: rest, heard⟩ = _
      unfold Lagging.read
      dsimp only
      rw [if_pos fits, List.take_of_length_le fits]
    rw [collect_arrived brought (Text.CodePage.decode_line decoded), if_neg (by omega),
      String.empty_append, if_pos]
    simp [Text.contains]
  cases delay with
  | zero => exact there 0 inTime
  | succ delay =>
      have nothing : Text.CodePage.decode [] = some "" := rfl
      have brought : port.read ⟨delays, (delay + 1, answer ++ [13]) :: rest, heard⟩ =
          (.arrived [] (delay + 1), ⟨delays, (0, answer ++ [13]) :: rest, heard⟩) := rfl
      rw [collect_arrived brought nothing, if_neg (by omega), if_neg (by decide)]
      exact there (0 + (delay + 1)) (by omega)

theorem collect_late {bytes : List UInt8} (late : patience < delay) (some : 0 < delay)
    (delays : List Nat) (heard : List Answered) :
    port.collect patience command 0 "" ⟨delays, (delay, bytes) :: rest, heard⟩ =
      (.error (.radio (.timeout command)), ⟨delays, (0, bytes) :: rest, heard⟩) := by
  cases delay with
  | zero => exact absurd some (Nat.lt_irrefl 0)
  | succ delay =>
      have nothing : Text.CodePage.decode [] = Option.some "" := rfl
      have brought : port.read ⟨delays, (delay + 1, bytes) :: rest, heard⟩ =
          (.arrived [] (delay + 1), ⟨delays, (0, bytes) :: rest, heard⟩) := rfl
      rw [collect_arrived brought nothing, if_pos (by omega)]

/-- An attempt that finds a short answer in time at the head of what is on the way. -/
theorem attempt_in_time (spelled : Text.CodePage.encode (command ++ terminator.toString) =
      .ok (line ++ [13]))
    (head : s.queue ++ [(s.delays.headD 0, answerTo line ++ [13])] = (delay, answer ++ [13]) :: rest)
    (short : answer.length < chunkSize) (decoded : Text.CodePage.decode answer = some text)
    (unended : terminator ∉ text.toList) (inTime : (delay : Int) ≤ patience) :
    (port.attempt patience command s).result = .ok (Text.trim text) ∧
      (port.attempt patience command s).port =
        ⟨s.delays.tail, rest, s.heard ++ [⟨line, answerTo line⟩]⟩ := by
  have sent : (port.write (line ++ [13]) s).1 = .ok () := rfl
  obtain ⟨after, result⟩ := attempt_sent patience spelled sent
  rw [write_line, head, collect_in_time short decoded inTime] at after result
  refine ⟨?_, after⟩
  rw [result, ← String.append_empty (s := text ++ terminator.toString)]
  exact congrArg Except.ok (Simulation.Bench.answerOf_append "" unended)

theorem attempt_late (spelled : Text.CodePage.encode (command ++ terminator.toString) =
      .ok (line ++ [13])) {bytes : List UInt8}
    (head : s.queue ++ [(s.delays.headD 0, answerTo line ++ [13])] = (delay, bytes) :: rest)
    (late : patience < delay) (some : 0 < delay) :
    (port.attempt patience command s).result = .error (.radio (.timeout command)) ∧
      (port.attempt patience command s).port =
        ⟨s.delays.tail, (0, bytes) :: rest, s.heard ++ [⟨line, answerTo line⟩]⟩ := by
  have sent : (port.write (line ++ [13]) s).1 = .ok () := rfl
  obtain ⟨after, result⟩ := attempt_sent patience spelled sent
  rw [write_line, head, collect_late late some] at after result
  exact ⟨result, after⟩

theorem exchange_in_time (link : Link) (s : Lagging)
    (spelled : Text.CodePage.encode (command ++ terminator.toString) =
      .ok (line ++ [13]))
    (head : s.queue ++ [(s.delays.headD 0, answerTo line ++ [13])] = (delay, answer ++ [13]) :: rest)
    (short : answer.length < chunkSize) (decoded : Text.CodePage.decode answer = some text)
    (unended : terminator ∉ text.toList) (inTime : (delay : Int) ≤ link.patience) :
    (link.exchange port command s).result = Link.accepted command (Text.trim text) ∧
      (link.exchange port command s).port =
        ⟨s.delays.tail, rest, s.heard ++ [⟨line, answerTo line⟩]⟩ ∧
      (link.exchange port command s).writes = [line ++ [13]] := by
  obtain ⟨result, after⟩ := attempt_in_time (s := s) spelled head short decoded unended inTime
  have untimed : ∀ c, (port.attempt link.patience command s).result ≠ .error (.radio (.timeout c)) := by
    intro c
    rw [result]
    rintro ⟨⟩
  have writes := attempt_writes port link.patience command s
  rw [spelled] at writes
  unfold Link.exchange
  rw [attempts_of_untimed untimed]
  exact ⟨congrArg (Except.bind · (Link.accepted command)) result, after, writes⟩

/-- The first answer is late. The second attempt finds it, and leaves the answer to itself. -/
theorem exchange_late (link : Link) (s : Lagging)
    (spelled : Text.CodePage.encode (command ++ terminator.toString) =
      .ok (line ++ [13])) (clean : s.queue = []) (late : link.patience < s.delays.headD 0)
    (some : 0 < s.delays.headD 0) (patient : 0 ≤ link.patience) (again : 0 < link.retries)
    {retries : String} (announced : link.announced.value.wholeText = .ok retries) :
    (link.exchange port command s).port =
      ⟨s.delays.tail.tail, [(s.delays.tail.headD 0, answerTo line ++ [13])],
        s.heard ++ [⟨line, answerTo line⟩, ⟨line, answerTo line⟩]⟩ := by
  have head : s.queue ++ [(s.delays.headD 0, answerTo line ++ [13])] =
      [(s.delays.headD 0, answerTo line ++ [13])] := by
    rw [clean, List.nil_append]
  obtain ⟨result, after⟩ := attempt_late (s := s) spelled head late some
  obtain ⟨text, short, decoded, unended⟩ := answerTo_known line
  obtain ⟨left, several⟩ : ∃ left, link.retries.toNat = left + 1 :=
    ⟨link.retries.toNat - 1, by omega⟩
  have head' : (port.attempt link.patience command s).port.queue ++
      [((port.attempt link.patience command s).port.delays.headD 0, answerTo line ++ [13])] =
      (0, answerTo line ++ [13]) :: [(s.delays.tail.headD 0, answerTo line ++ [13])] := by
    rw [after]
    rfl
  obtain ⟨result', after'⟩ := attempt_in_time spelled head' short decoded unended patient
  have untimed : ∀ c, (port.attempt link.patience command
      (port.attempt link.patience command s).port).result ≠ .error (.radio (.timeout c)) := by
    intro c
    rw [result']
    rintro ⟨⟩
  unfold Link.exchange
  rw [several, attempts_of_timeout result announced 1 left, attempts_of_untimed untimed]
  change (port.attempt link.patience command (port.attempt link.patience command s).port).port = _
  rw [after', after]
  simp

end Lagging

end Transceiver
