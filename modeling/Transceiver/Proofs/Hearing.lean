import Transceiver.Proofs.Calls
import Transceiver.Proofs.Wording
import Transceiver.Simulation.Bench

/-! What a simulated radio hears of a run. Reading takes nothing away that a later write depends on,
so a run leaves the radio as its writes alone do, and the radio carries out one command a line. -/
namespace Transceiver

section
variable {σ α : Type}

/-- The port after some writes with no reading in between. -/
def Port.writeAll (port : Port σ) (writes : List (List UInt8)) (s : σ) : σ :=
  writes.foldl (fun s bytes => (port.write bytes s).2) s

/-- States that differ only in what reading uses up: reading leaves them alike, and so does the same
write to both. -/
structure Port.Alike (port : Port σ) (R : σ → σ → Prop) : Prop where
  read : ∀ {s t}, R s t → R (port.read s).2 t
  write : ∀ {s t} (bytes : List UInt8), R s t → R (port.write bytes s).2 (port.write bytes t).2

namespace Port.Alike

variable {port : Port σ} {R : σ → σ → Prop} (alike : port.Alike R) {s t : σ}

include alike

theorem collect (h : R s t) (patience : Int) (command : String) (elapsed : Nat) (text : String) :
    R (port.collect patience command elapsed text s).2 t := by
  fun_induction port.collect patience command elapsed text s with
  | case1 elapsed text s why s' reading =>
      have after := alike.read h
      rwa [reading] at after
  | case2 elapsed text s bytes ticks s' reading undecodable =>
      have after := alike.read h
      rwa [reading] at after
  | case3 elapsed text s bytes ticks s' reading more decoded late =>
      have after := alike.read h
      rwa [reading] at after
  | case4 elapsed text s bytes ticks s' reading more decoded intime ended =>
      have after := alike.read h
      rwa [reading] at after
  | case5 elapsed text s bytes ticks s' reading more decoded intime unended ih =>
      have after := alike.read h
      rw [reading] at after
      exact ih after

theorem attempt (h : R s t) (patience : Int) (command : String) :
    R (port.attempt patience command s).port
      (port.writeAll (port.attempt patience command s).writes t) := by
  have written : ∀ {bytes result s'}, port.write bytes s = (result, s') →
      R s' (port.write bytes t).2 := by
    intro bytes result s' sent
    have after := alike.write bytes h
    rwa [sent] at after
  have read : ∀ {bytes s' result s''}, port.write bytes s = (.ok (), s') →
      port.collect patience command 0 "" s' = (result, s'') → R s'' (port.write bytes t).2 := by
    intro bytes s' result s'' sent collected
    have after := alike.collect (written sent) patience command 0 ""
    rwa [collected] at after
  have came := attempted port patience command s
  rw [attempt_writes]
  generalize port.attempt patience command s = o at came
  cases came with
  | unspelled spelled =>
      rw [spelled]
      exact h
  | unwritten spelled sent =>
      rw [spelled]
      exact written sent
  | unanswered spelled sent collected =>
      rw [spelled]
      exact read sent collected
  | answered spelled sent collected =>
      rw [spelled]
      exact read sent collected

theorem attempts (h : R s t) (link : Link) (command : String) (repetition left : Nat) :
    R (link.attempts port command repetition left s).port
      (port.writeAll (link.attempts port command repetition left s).writes t) := by
  induction left generalizing repetition s t with
  | zero => exact alike.attempt h link.patience command
  | succ left ih =>
      have first := alike.attempt h link.patience command
      unfold Link.attempts
      dsimp only
      split
      · split
        · exact first
        · have later := ih first (repetition + 1)
          rw [Outcome.writes_after, List.filterMap_append, List.append_assoc]
          unfold Port.writeAll at later ⊢
          rw [List.foldl_append]
          exact later
      · exact first

/-- A dialogue leaves a port as its writes alone do. -/
theorem run (h : R s t) (link : Link) (d : Dialogue α) :
    R (d.run link port s).port (port.writeAll (d.run link port s).writes t) := by
  induction d generalizing s t with
  | done value => exact h
  | fail why => exact h
  | note record rest ih =>
      change R (rest.run link port s).port (port.writeAll ((rest.run link port s).after _).writes t)
      rw [Outcome.writes_after]
      exact ih h
  | send command rest ih =>
      have first := alike.attempts h link command.line 1 link.retries.toNat
      rw [← exchange_writes] at first
      have later := ih (link.exchange port command.line s).result first
      change R (Dialogue.run link port (rest (link.exchange port command.line s).result)
        (link.exchange port command.line s).port).port (port.writeAll (Outcome.after _ _).writes t)
      rw [Outcome.writes_after]
      unfold Port.writeAll at later ⊢
      rw [List.foldl_append]
      exact later

end Port.Alike

end

namespace Simulation

/-- Benches that differ only in answers on their way. -/
def Bench.AlikeTo (s t : Bench) : Prop := ∃ queue readFails, t = { s with queue, readFails }

namespace Bench

theorem alikeTo_refl (s : Bench) : s.AlikeTo s := ⟨s.queue, s.readFails, rfl⟩

theorem queueReply_alike {s t : Bench} (h : s.AlikeTo t) (reply : String) :
    (s.queueReply reply).1 = (t.queueReply reply).1 ∧
      (s.queueReply reply).2.AlikeTo (t.queueReply reply).2 := by
  obtain ⟨queue, readFails, rfl⟩ := h
  unfold queueReply
  cases Text.CodePage.encode reply with
  | ok bytes => exact ⟨rfl, _, _, rfl⟩
  | error u => exact ⟨rfl, _, _, rfl⟩

theorem takeCommand_alike {s t : Bench} (h : s.AlikeTo t) (command : String) :
    (s.takeCommand command).1 = (t.takeCommand command).1 ∧
      (s.takeCommand command).2.AlikeTo (t.takeCommand command).2 := by
  obtain ⟨queue, readFails, rfl⟩ := h
  unfold takeCommand
  dsimp only [record]
  cases s.replies.lookup command with
  | some reply => exact queueReply_alike ⟨_, _, rfl⟩ reply
  | none => exact queueReply_alike ⟨_, _, rfl⟩ _

theorem takePieces_alike (pieces : List (List UInt8)) {s t : Bench} (h : s.AlikeTo t) :
    (takePieces pieces s).2.AlikeTo (takePieces pieces t).2 := by
  induction pieces generalizing s t with
  | nil => exact h
  | cons piece rest ih =>
      cases rest with
      | nil =>
          obtain ⟨queue, readFails, rfl⟩ := h
          exact ⟨_, _, rfl⟩
      | cons next rest =>
          -- A forced answer that cannot be spelled stops both benches at the same piece.
          obtain ⟨result, after⟩ := takeCommand_alike h (commandText piece)
          unfold takePieces
          cases taken : s.takeCommand (commandText piece) with
          | mk answered s' =>
              cases taken' : t.takeCommand (commandText piece) with
              | mk answered' t' =>
                  rw [taken, taken'] at result after
                  dsimp only at result after
                  subst result
                  cases answered with
                  | ok done => exact ih after
                  | error why =>
                      obtain ⟨queue, readFails, rfl⟩ := after
                      exact ⟨_, _, rfl⟩

theorem write_alike {s t : Bench} (h : s.AlikeTo t) (bytes : List UInt8) :
    (s.write bytes).2.AlikeTo (t.write bytes).2 := by
  obtain ⟨queue, readFails, rfl⟩ := h
  unfold write
  dsimp only
  split
  · exact ⟨_, _, rfl⟩
  · split
    · exact ⟨_, _, rfl⟩
    · exact ⟨_, _, rfl⟩
    · exact ⟨_, _, rfl⟩
    · exact takePieces_alike _ ⟨_, _, rfl⟩

theorem read_alike {s t : Bench} (h : s.AlikeTo t) : s.read.2.AlikeTo t := by
  obtain ⟨queue, readFails, rfl⟩ := h
  unfold read
  split
  · exact ⟨_, _, rfl⟩
  · exact ⟨_, _, rfl⟩

theorem alike : port.Alike AlikeTo := ⟨read_alike, fun bytes h => write_alike h bytes⟩

/-- The command of a line that the radio carries out: it is heard at the rate of the line, no fault
spoils it, and no answer is forced on it. -/
def obeys (s : Bench) (bytes : List UInt8) : Option String :=
  if s.onlyRate.any (!s.rate.same ·) then none
  else
    let command := commandText bytes.dropLast
    if (takeFault command s.faults).1 = .none ∧ s.replies.lookup command = none then some command
    else none

def obeyed : Bench → List (List UInt8) → List String
  | _, [] => []
  | s, bytes :: rest => (s.obeys bytes).toList ++ (s.write bytes).2.obeyed rest

end Bench

def Radio.obey (r : Radio) (commands : List String) : Radio :=
  commands.foldl (fun r command => (r.answer command).2) r

/-- Bytes that end in their only carriage return. -/
def IsLine (bytes : List UInt8) : Prop := ∃ front, bytes = front ++ [13] ∧ 13 ∉ front

namespace Bench

theorem queueReply_radio (s : Bench) (reply : String) :
    (s.queueReply reply).2.radio = s.radio := by
  unfold queueReply
  cases Text.CodePage.encode reply <;> rfl

theorem takeCommand_radio (s : Bench) (command : String) :
    (s.takeCommand command).2.radio =
      if s.replies.lookup command = none then (s.radio.answer command).2 else s.radio := by
  unfold takeCommand
  dsimp only [record]
  cases s.replies.lookup command with
  | some reply => exact queueReply_radio _ reply
  | none => exact queueReply_radio _ _

theorem takePieces_line (s : Bench) (front : List UInt8) :
    (takePieces [front, []] s).2 =
      { (s.takeCommand (commandText front)).2 with unfinished := [] } := by
  unfold takePieces
  cases s.takeCommand (commandText front) with
  | mk result s' =>
      cases result with
      | ok done => rfl
      | error why => rfl

theorem takeBytes_single {s : Bench} (waiting : s.unfinished = []) {front : List UInt8}
    (single : 13 ∉ front) : s.takeBytes (front ++ [13]) = takePieces [front, []] s := by
  unfold takeBytes
  rw [waiting, List.nil_append, List.splitOn_append_cons_of_beq front [] (by rfl),
    List.splitOn_eq_singleton single]
  rfl

theorem takeBytes_line {s : Bench} (waiting : s.unfinished = []) {front : List UInt8}
    (single : 13 ∉ front) :
    (s.takeBytes (front ++ [13])).2 =
      { (s.takeCommand (commandText front)).2 with unfinished := [] } := by
  rw [takeBytes_single waiting single, takePieces_line]

theorem write_line {s : Bench} {bytes : List UInt8} (waiting : s.unfinished = [])
    (line : IsLine bytes) :
    (s.write bytes).2.unfinished = [] ∧
      (s.write bytes).2.radio = s.radio.obey (s.obeys bytes).toList := by
  obtain ⟨front, rfl, single⟩ := line
  unfold write obeys
  by_cases deaf : s.onlyRate.any (!s.rate.same ·) = true
  · simp only [deaf, if_true]
    exact ⟨waiting, rfl⟩
  · simp only [deaf, Bool.false_eq_true, if_false, List.dropLast_concat]
    cases awaited : takeFault (commandText front) s.faults with
    | mk fault faults =>
        dsimp only
        cases fault with
        | silent => exact ⟨waiting, rfl⟩
        | writeError => exact ⟨waiting, rfl⟩
        | readError => exact ⟨waiting, rfl⟩
        | none =>
            dsimp only
            rw [takeBytes_line (s := { s with faults }) waiting single]
            refine ⟨rfl, ?_⟩
            rw [takeCommand_radio]
            dsimp only
            cases s.replies.lookup (commandText front) with
            | none => rfl
            | some reply => rfl

theorem writeAll_lines {s : Bench} {writes : List (List UInt8)} (waiting : s.unfinished = [])
    (lines : ∀ bytes ∈ writes, IsLine bytes) :
    (port.writeAll writes s).unfinished = [] ∧
      (port.writeAll writes s).radio = s.radio.obey (s.obeyed writes) := by
  induction writes generalizing s with
  | nil => exact ⟨waiting, rfl⟩
  | cons bytes rest ih =>
      obtain ⟨waiting', radio⟩ := write_line waiting (lines bytes List.mem_cons_self)
      obtain ⟨waiting'', radio'⟩ := ih waiting' fun other member =>
        lines other (List.mem_cons_of_mem bytes member)
      refine ⟨waiting'', ?_⟩
      change (port.writeAll rest (s.write bytes).2).radio = _
      rw [radio', radio]
      exact (List.foldl_append ..).symm

/-- A dialogue that writes whole lines leaves no line unfinished, and the radio as the commands do
that it carries out. -/
theorem run_radio {α : Type} {s : Bench} (link : Link) (d : Dialogue α) (waiting : s.unfinished = [])
    (lines : ∀ bytes ∈ (d.run link port s).writes, IsLine bytes) :
    (d.run link port s).port.unfinished = [] ∧
      (d.run link port s).port.radio = s.radio.obey (s.obeyed (d.run link port s).writes) := by
  obtain ⟨queue, readFails, same⟩ := alike.run (alikeTo_refl s) link d
  have unread := writeAll_lines waiting lines
  rw [same] at unread
  exact unread

theorem decode_ascii {s : String} (h : ∀ c ∈ s.toList, c.toNat < 0x80) :
    Text.CodePage.decode (asciiBytes s) = some s := by
  have characters : ∀ cs : List Char, (∀ c ∈ cs, c.toNat < 0x80) →
      (cs.map fun c => UInt8.ofNat c.toNat).mapM Text.CodePage.decodeByte = some cs := by
    intro cs ascii
    induction cs with
    | nil => rfl
    | cons c rest ih =>
        have small := ascii c List.mem_cons_self
        have code : (UInt8.ofNat c.toNat).toNat = c.toNat := by
          rw [UInt8.toNat_ofNat']
          omega
        rw [List.map_cons, List.mapM_cons, Text.CodePage.decodeByte_of_ascii (by omega), code,
          Char.ofNat_toNat, ih fun d member => ascii d (List.mem_cons_of_mem c member)]
        rfl
  unfold Text.CodePage.decode asciiBytes
  rw [characters s.toList h]
  exact congrArg some String.ofList_toList

theorem decode_asciiBytes {s : String} (h : IsPrintable s) : commandText (asciiBytes s) = s := by
  unfold commandText
  rw [decode_ascii fun c member => Nat.lt_of_le_of_lt (h c member).2 (by decide)]
  rfl

theorem mem_obeyed {s : Bench} {writes : List (List UInt8)} {command : String}
    (h : command ∈ s.obeyed writes) : ∃ bytes ∈ writes, command = commandText bytes.dropLast := by
  induction writes generalizing s with
  | nil => cases h
  | cons bytes rest ih =>
      rcases List.mem_append.mp h with here | later
      · refine ⟨bytes, List.mem_cons_self, ?_⟩
        have carried : s.obeys bytes = some command := Option.mem_toList.mp here
        unfold obeys at carried
        split at carried
        · cases carried
        · dsimp only at carried
          split at carried
          · cases carried
            rfl
          · cases carried
      · obtain ⟨other, member, same⟩ := ih later
        exact ⟨other, List.mem_cons_of_mem bytes member, same⟩

end Bench

/-- What holds of a radio and is kept by each of some commands holds after all of them. -/
theorem Radio.obey_induction {P : Radio → Prop} {r : Radio} {commands : List String} (h : P r)
    (step : ∀ r, P r → ∀ command ∈ commands, P (r.answer command).2) : P (r.obey commands) := by
  induction commands generalizing r with
  | nil => exact h
  | cons command rest ih =>
      refine ih (step r h command List.mem_cons_self) ?_
      intro r' kept other member
      exact step r' kept other (List.mem_cons_of_mem command member)

end Simulation

namespace Rig

open Simulation

theorem carryOut_port {σ : Type} (link : Link) (port : Port σ) (r : Rig) (request : Request) (s : σ) :
    (r.carryOut link port request s).1.port = ((r.perform request).run link port s).port := by
  rw [carryOut_eq, Outcome.withRig_port]

theorem line_of_carryOut {σ : Type} {link : Link} {port : Port σ} {r : Rig} {request : Request}
    {s : σ} (named : request.NamesText) {bytes : List UInt8}
    (h : bytes ∈ (r.carryOut link port request s).1.writes) :
    ∃ command, request.May command ∧ Wording command.line ∧
      bytes = asciiBytes command.line ++ [13] := by
  obtain ⟨command, may, spelled⟩ := written_of_carryOut h
  have worded := may.wording named
  rw [Command.bytes, encode_line worded.isPrintable] at spelled
  exact ⟨command, may, worded, (Except.ok.inj spelled).symm⟩

/-- A request that is carried out on a bench leaves the radio as some of its commands do, carried out
one after the other. -/
theorem carryOut_radio (link : Link) (r : Rig) {request : Request} {s : Bench}
    (named : request.NamesText) (waiting : s.unfinished = []) :
    (r.carryOut link Bench.port request s).1.port.unfinished = [] ∧
      (r.carryOut link Bench.port request s).1.port.radio =
        s.radio.obey (s.obeyed (r.carryOut link Bench.port request s).1.writes) ∧
      ∀ line ∈ s.obeyed (r.carryOut link Bench.port request s).1.writes,
        ∃ command, request.May command ∧ command.line = line := by
  have lines : ∀ bytes ∈ ((r.perform request).run link Bench.port s).writes, IsLine bytes := by
    intro bytes member
    rw [← carryOut_writes] at member
    obtain ⟨command, may, worded, rfl⟩ := line_of_carryOut named member
    exact ⟨asciiBytes command.line, rfl, not_mem_asciiBytes worded.isPrintable⟩
  obtain ⟨waiting', radio⟩ := Bench.run_radio link (r.perform request) waiting lines
  refine ⟨by rw [carryOut_port, waiting'], by rw [carryOut_port, carryOut_writes, radio], ?_⟩
  intro line member
  obtain ⟨bytes, written, rfl⟩ := Bench.mem_obeyed member
  obtain ⟨command, may, worded, rfl⟩ := line_of_carryOut named written
  refine ⟨command, may, ?_⟩
  rw [List.dropLast_concat, Bench.decode_asciiBytes worded.isPrintable]

end Rig

end Transceiver
