import Transceiver.Proofs.CodePages
import Transceiver.Proofs.SingleLines

/-! Answers on the way. At the far end of a line every command is answered by one line, in order and
after any time; what was not read in time stays on the way, and a later read finds it first. -/
namespace Transceiver

/-- A line that was heard at the far end, and the line it was answered with. -/
structure Answered where
  line : List UInt8
  answer : List UInt8

/-- Lines as they are on the way, each with its end. -/
def ended (turns : List Answered) : List UInt8 := turns.flatMap fun turn => turn.answer ++ [13]

/-- At the far end of the port every line is answered by one line, in order, and nothing is lost. A read
brings as much of what is on the way as it likes, after any time. -/
structure Port.Answering {σ : Type} (port : Port σ) where
  heard : σ → List Answered
  /-- Bytes of answers that were not read yet. -/
  coming : σ → List UInt8
  written : ∀ s line, 13 ∉ line → ∃ answer, 13 ∉ answer ∧
    (port.write (line ++ [13]) s).1 = .ok () ∧
    heard (port.write (line ++ [13]) s).2 = heard s ++ [⟨line, answer⟩] ∧
    coming (port.write (line ++ [13]) s).2 = coming s ++ answer ++ [13]
  brought : ∀ s, ∃ bytes ticks, (port.read s).1 = .arrived bytes ticks ∧
    coming s = bytes ++ coming (port.read s).2 ∧ heard (port.read s).2 = heard s

/-- The command was sent, and no answer was made out of what came: it took too long, and then the
repetition may have been impossible to announce, or it stands for nothing. -/
def Fault.Late (why : Fault) : Prop :=
  (∃ command, why = .radio (.timeout command)) ∨ why = .undecodable ∨ why = .unbounded ∨
    why = .notInteger

theorem ended_append (turns later : List Answered) : ended (turns ++ later) = ended turns ++ ended later :=
  List.flatMap_append

/-- Where the first end of a line is, is where it is. -/
theorem first_end {front front' rest rest' : List UInt8} (h : front ++ 13 :: rest = front' ++ 13 :: rest')
    (clear : 13 ∉ front) (clear' : 13 ∉ front') : front = front' ∧ rest = rest' := by
  rcases List.append_eq_append_iff.mp h with ⟨more, rfl, same⟩ | ⟨more, rfl, same⟩
  · cases more with
    | nil =>
        rw [List.append_nil]
        exact ⟨rfl, (List.cons.inj same).2⟩
    | cons b more =>
        obtain ⟨rfl, -⟩ := List.cons.inj same
        exact absurd (List.mem_append_right front List.mem_cons_self) clear'
  · cases more with
    | nil =>
        rw [List.append_nil]
        exact ⟨rfl, (List.cons.inj same).2.symm⟩
    | cons b more =>
        obtain ⟨rfl, -⟩ := List.cons.inj same
        exact absurd (List.mem_append_right front' List.mem_cons_self) clear

/-- Whatever was read before, what comes up to the next end of a line is the end of one answer. -/
theorem tail_of_ended {turns : List Answered} (single : ∀ turn ∈ turns, 13 ∉ turn.answer)
    {before front rest : List UInt8} (h : ended turns = before ++ (front ++ 13 :: rest))
    (clear : 13 ∉ front) : ∃ turn ∈ turns, front <:+ turn.answer := by
  induction turns generalizing before with
  | nil =>
      have inside : (13 : UInt8) ∈ ended [] := h ▸ by simp
      cases inside
  | cons turn later ih =>
      have whole : turn.answer ++ 13 :: ended later = before ++ (front ++ 13 :: rest) := by
        rw [← h, ended, ended, List.flatMap_cons, List.append_assoc]
        rfl
      -- What was read before ends behind this answer, or within it.
      rcases List.append_eq_append_iff.mp whole with ⟨more, rfl, same⟩ | ⟨more, same, left⟩
      · cases more with
        | nil =>
            have first : [] ++ 13 :: ended later = front ++ 13 :: rest := same
            obtain ⟨rfl, -⟩ := first_end first List.not_mem_nil clear
            exact ⟨turn, List.mem_cons_self, List.nil_suffix⟩
        | cons b more =>
            obtain ⟨-, same⟩ := List.cons.inj same
            obtain ⟨turn', member, tail⟩ := ih
              (fun other member => single other (List.mem_cons_of_mem turn member)) same
            exact ⟨turn', List.mem_cons_of_mem turn member, tail⟩
      · have clear' : 13 ∉ more := fun ending =>
          single turn List.mem_cons_self (same ▸ List.mem_append_right before ending)
        obtain ⟨rfl, -⟩ := first_end left clear clear'
        exact ⟨turn, List.mem_cons_self, before, same.symm⟩

section
variable {σ : Type} {port : Port σ} (radio : port.Answering)

include radio

/-- What is collected was on the way, and what was not read stays there. -/
theorem collect_answering (patience : Int) (command : String) (elapsed : Nat) (text : String) (s : σ) :
    ∃ bytes,
      radio.coming s = bytes ++ radio.coming (port.collect patience command elapsed text s).2 ∧
      radio.heard (port.collect patience command elapsed text s).2 = radio.heard s ∧
      (∀ why, (port.collect patience command elapsed text s).1 = .error why → why.Late) ∧
      ∀ whole, (port.collect patience command elapsed text s).1 = .ok whole →
        ∃ cs, bytes.mapM Text.CodePage.decodeByte = some cs ∧ whole = text ++ .ofList cs ∧
          terminator ∈ whole.toList := by
  fun_induction port.collect patience command elapsed text s with
  | case1 elapsed text s why s' reading =>
      obtain ⟨bytes, ticks, brought, coming, heard⟩ := radio.brought s
      rw [reading] at brought
      cases brought
  | case2 elapsed text s bytes ticks s' reading undecodable =>
      obtain ⟨bytes', ticks', brought, coming, heard⟩ := radio.brought s
      rw [reading] at coming heard
      refine ⟨bytes', coming, heard, ?_, by rintro _ ⟨⟩⟩
      rintro _ ⟨⟩
      exact .inr (.inl rfl)
  | case3 elapsed text s bytes ticks s' reading more decoded late =>
      obtain ⟨bytes', ticks', brought, coming, heard⟩ := radio.brought s
      rw [reading] at coming heard
      refine ⟨bytes', coming, heard, ?_, by rintro _ ⟨⟩⟩
      rintro _ ⟨⟩
      exact .inl ⟨command, rfl⟩
  | case4 elapsed text s bytes ticks s' reading more decoded intime ended =>
      obtain ⟨bytes', ticks', brought, coming, heard⟩ := radio.brought s
      rw [reading] at brought coming heard
      cases brought
      refine ⟨bytes, coming, heard, by rintro _ ⟨⟩, ?_⟩
      rintro _ ⟨⟩
      obtain ⟨cs, spelled, rfl⟩ := Option.map_eq_some_iff.mp decoded
      exact ⟨cs, spelled, rfl, List.contains_iff_mem.mp ended⟩
  | case5 elapsed text s bytes ticks s' reading more decoded intime unended ih =>
      obtain ⟨bytes', ticks', brought, coming, heard⟩ := radio.brought s
      rw [reading] at brought coming heard
      cases brought
      obtain ⟨cs, spelled, rfl⟩ := Option.map_eq_some_iff.mp decoded
      obtain ⟨later, coming', heard', failed, came⟩ := ih
      refine ⟨bytes ++ later, ?_, heard'.trans heard, failed, fun whole result => ?_⟩
      · rw [coming, coming', List.append_assoc]
      · obtain ⟨others, spelled', same, ending⟩ := came whole result
        refine ⟨cs ++ others, ?_, ?_, ending⟩
        · rw [List.mapM_append, spelled, spelled']
          rfl
        · rw [same, String.append_assoc, String.ofList_append]

end

/-- The outcome is a reply, or a refusal with that reply. -/
def Outcome.Replies {σ : Type} (o : Outcome σ String) (reply : String) : Prop :=
  o.result = .ok reply ∨ ∃ command, o.result = .error (.radio (.refused command reply))

/-- What comes of sending a command once or more: the lines that were heard with their answers, and a
reply that is found where the first end of a line was read. -/
structure Sends {σ : Type} {port : Port σ} (radio : port.Answering) (line : List UInt8) (s : σ)
    (o : Outcome σ String) (turns : List Answered) : Prop where
  sent : turns ≠ []
  heard : radio.heard o.port = radio.heard s ++ turns
  writes : o.writes = turns.map fun turn => turn.line ++ [13]
  own : ∀ turn ∈ turns, turn.line = line
  single : ∀ turn ∈ turns, 13 ∉ turn.answer
  kept : ∃ taken, radio.coming s ++ ended turns = taken ++ radio.coming o.port
  settled : (∃ reply, o.Replies reply) ∨ ∃ why, o.result = .error why ∧ why.Late
  replied : ∀ reply, o.Replies reply → ∃ before front rest text,
    radio.coming s ++ ended turns = before ++ (front ++ 13 :: (rest ++ radio.coming o.port)) ∧
      13 ∉ front ∧ Text.CodePage.decode front = some text ∧ reply = Text.trim text ∧
      (turns.length = 1 → before = [])

/-- A command that is sent again after it timed out. What is found then lies behind what was read. -/
theorem Sends.again {σ : Type} {port : Port σ} {radio : port.Answering} {line : List UInt8} {s : σ}
    {o o' : Outcome σ String} {turns later : List Answered} (h : Sends radio line s o turns)
    (h' : Sends radio line o.port o' later) {earlier : List Event}
    (quiet : earlier.filterMap Event.bytes? = o.writes) :
    Sends radio line s (o'.after earlier) (turns ++ later) := by
  obtain ⟨taken, waiting⟩ := h.kept
  constructor
  · exact fun none => h.sent (List.append_eq_nil_iff.mp none).1
  · rw [← List.append_assoc, ← h.heard]
    exact h'.heard
  · rw [List.map_append, ← h.writes, ← h'.writes, ← quiet]
    exact List.filterMap_append
  · exact fun turn member => (List.mem_append.mp member).elim (h.own turn) (h'.own turn)
  · exact fun turn member => (List.mem_append.mp member).elim (h.single turn) (h'.single turn)
  · obtain ⟨taken', waiting'⟩ := h'.kept
    refine ⟨taken ++ taken', ?_⟩
    rw [ended_append, ← List.append_assoc, waiting, List.append_assoc, waiting', List.append_assoc]
    rfl
  · exact h'.settled
  · intro reply came
    obtain ⟨before, front, rest, text, there, clear, decoded, same, -⟩ := h'.replied reply came
    refine ⟨taken ++ before, front, rest, text, ?_, clear, decoded, same, fun few => ?_⟩
    · rw [ended_append, ← List.append_assoc, waiting, List.append_assoc, there, List.append_assoc]
      rfl
    · rw [List.length_append] at few
      have some := List.length_pos_iff.mpr h.sent
      have some' := List.length_pos_iff.mpr h'.sent
      omega

/-- A command whose repetition could not be announced. What was found does not count. -/
theorem Sends.unannounced {σ : Type} {port : Port σ} {radio : port.Answering} {line : List UInt8} {s : σ}
    {o : Outcome σ String} {turns : List Answered} (h : Sends radio line s o turns) {why : Fault}
    (late : why.Late) : Sends radio line s { o with result := .error why } turns := by
  refine ⟨h.sent, h.heard, h.writes, h.own, h.single, h.kept, .inr ⟨why, rfl, late⟩, ?_⟩
  rintro reply (came | ⟨command, refused⟩)
  · cases came
  · cases refused
    rcases late with ⟨_, other⟩ | other | other | other <;> cases other

theorem replies_accepted {σ : Type} {o : Outcome σ String} {command reply : String} :
    Outcome.Replies { o with result := o.result.bind (Link.accepted command) } reply ↔
      o.Replies reply := by
  unfold Outcome.Replies
  cases o.result with
  | error why => exact Iff.rfl
  | ok text =>
      simp only [Except.bind, Link.accepted]
      split
      · simp
      · simp

theorem Sends.accepted {σ : Type} {port : Port σ} {radio : port.Answering} {line : List UInt8} {s : σ}
    {o : Outcome σ String} {turns : List Answered} (h : Sends radio line s o turns)
    (command : String) :
    Sends radio line s { o with result := o.result.bind (Link.accepted command) } turns := by
  refine ⟨h.sent, h.heard, h.writes, h.own, h.single, h.kept, ?_, fun reply replies =>
    h.replied reply (replies_accepted.mp replies)⟩
  rcases h.settled with ⟨reply, replies⟩ | ⟨why, came, late⟩
  · exact .inl ⟨reply, replies_accepted.mpr replies⟩
  · exact .inr ⟨why, by rw [came]; rfl, late⟩

section
variable {σ : Type} {port : Port σ}

/-- A reply is what was made of a text, for nothing that comes too late is a refusal. -/
theorem collected_of_replies {o : Outcome σ String} {collected : Except Fault String}
    (result : o.result = collected.map fun text => (answerOf text).1)
    (late : ∀ why, collected = .error why → why.Late) {reply : String} (h : o.Replies reply) :
    ∃ text, collected = .ok text ∧ reply = (answerOf text).1 := by
  cases collected with
  | error why =>
      have same : o.result = .error why := result
      rcases h with came | ⟨command, refused⟩
      · cases same.symm.trans came
      · cases same.symm.trans refused
        rcases late _ rfl with ⟨_, other⟩ | other | other | other <;> cases other
  | ok text =>
      have same : o.result = .ok (answerOf text).1 := result
      rcases h with came | ⟨command, refused⟩
      · exact ⟨text, rfl, Except.ok.inj (came.symm.trans same)⟩
      · cases same.symm.trans refused

variable (radio : port.Answering) {command : String} {line : List UInt8}
  (spelled : Text.CodePage.encode (command ++ terminator.toString) = .ok (line ++ [13]))
  (unended : 13 ∉ line)

include spelled unended

theorem attempt_answering (patience : Int) (s : σ) :
    ∃ turn, Sends radio line s (port.attempt patience command s) [turn] := by
  have writes := attempt_writes port patience command s
  obtain ⟨answer, single, sent, heard, coming⟩ := radio.written s line unended
  obtain ⟨bytes, left, heard', failed, came⟩ :=
    collect_answering radio patience command 0 "" (port.write (line ++ [13]) s).2
  obtain ⟨after, result⟩ := attempt_sent patience spelled sent
  rw [heard] at heard'
  have waiting : ended [⟨line, answer⟩] = answer ++ [13] := by simp [ended]
  rw [coming, List.append_assoc, ← waiting] at left
  refine ⟨⟨line, answer⟩, ?_⟩
  constructor
  · exact List.cons_ne_nil _ _
  · rw [after, heard']
  · rw [writes, spelled]
    rfl
  · exact fun turn member => congrArg Answered.line (List.mem_singleton.mp member)
  · intro turn member
    rw [List.mem_singleton.mp member]
    exact single
  · exact ⟨bytes, by rw [after, left]⟩
  · rw [result]
    cases collected : (port.collect patience command 0 "" (port.write (line ++ [13]) s).2).1 with
    | error why => exact .inr ⟨why, rfl, failed why collected⟩
    | ok text => exact .inl ⟨_, .inl (by rw [result, collected]; rfl)⟩
  · intro reply came'
    obtain ⟨whole, collected, rfl⟩ := collected_of_replies result failed came'
    obtain ⟨cs, read, rfl, ending⟩ := came whole collected
    rw [String.empty_append] at ending ⊢
    rw [String.toList_ofList] at ending
    obtain ⟨front, rest, text, more, rfl, clear, decoded, unended', whole⟩ :=
      Text.CodePage.decode_ended read ending
    refine ⟨[], front, rest, text, ?_, clear, decoded, ?_, fun _ => rfl⟩
    · rw [left, after]
      simp
    · rw [whole, Simulation.Bench.answerOf_append more unended']

theorem attempts_answering (link : Link) (left repetition : Nat) (s : σ) :
    ∃ turns, Sends radio line s (link.attempts port command repetition left s) turns := by
  induction left generalizing repetition s with
  | zero =>
      obtain ⟨turn, sends⟩ := attempt_answering radio spelled unended link.patience s
      exact ⟨[turn], sends⟩
  | succ left ih =>
      obtain ⟨turn, first⟩ := attempt_answering radio spelled unended link.patience s
      unfold Link.attempts
      dsimp only
      split
      · split
        · rename_i why unannounced
          exact ⟨[turn], first.unannounced (.inr (.inr (Rate.wholeText_fault unannounced)))⟩
        -- The answer that was too late stays on the way, ahead of the next one.
        · obtain ⟨later, again⟩ := ih (repetition + 1) (port.attempt link.patience command s).port
          refine ⟨turn :: later, first.again again ?_⟩
          simp [Outcome.writes, Link.retryNote, Event.bytes?]
      · exact ⟨[turn], first⟩

theorem exchange_answering (link : Link) (s : σ) :
    ∃ turns, Sends radio line s (link.exchange port command s) turns := by
  obtain ⟨turns, sends⟩ :=
    attempts_answering radio spelled unended link link.retries.toNat 1 s
  exact ⟨turns, sends.accepted command⟩

end

namespace Answered

/-- The reply is read off the end of the answer. -/
def Ends (turn : Answered) (reply : String) : Prop :=
  ∃ tail text, tail <:+ turn.answer ∧ Text.CodePage.decode tail = some text ∧ reply = Text.trim text

/-- The reply is the answer. -/
def Reads (turn : Answered) (reply : String) : Prop :=
  ∃ text, Text.CodePage.decode turn.answer = some text ∧ reply = Text.trim text

end Answered

section
variable {σ : Type} {port : Port σ} {radio : port.Answering} {line : List UInt8} {s : σ}
  {o : Outcome σ String} {turns : List Answered}

/-- Whatever is on the way, the reply is the end of an answer to a line that was heard. -/
theorem Sends.ends (h : Sends radio line s o turns) {earlier : List Answered} {before : List UInt8}
    (single : ∀ turn ∈ earlier, 13 ∉ turn.answer) (waiting : ended earlier = before ++ radio.coming s)
    {reply : String} (replies : o.Replies reply) : ∃ turn ∈ earlier ++ turns, turn.Ends reply := by
  obtain ⟨skipped, front, rest, text, there, clear, decoded, same, -⟩ := h.replied reply replies
  have whole : ended (earlier ++ turns) =
      (before ++ skipped) ++ (front ++ 13 :: (rest ++ radio.coming o.port)) := by
    rw [ended_append, waiting, List.append_assoc, there, List.append_assoc]
  obtain ⟨turn, member, tail⟩ := tail_of_ended
    (fun turn member => (List.mem_append.mp member).elim (single turn) (h.single turn)) whole clear
  exact ⟨turn, member, front, text, tail, decoded, same⟩

/-- With nothing on the way, and sent only once, a command is replied to with its own answer, and after
that nothing is on the way again. -/
theorem Sends.reads (h : Sends radio line s o turns) (clean : radio.coming s = [])
    (once : turns.length = 1) {reply : String} (replies : o.Replies reply) :
    radio.coming o.port = [] ∧ ∃ turn ∈ turns, turn.Reads reply := by
  obtain ⟨turn, rfl⟩ := List.length_eq_one_iff.mp once
  obtain ⟨skipped, front, rest, text, there, clear, decoded, same, only⟩ := h.replied reply replies
  obtain rfl := only once
  have whole : turn.answer ++ 13 :: [] = front ++ 13 :: (rest ++ radio.coming o.port) := by
    rw [clean] at there
    simpa [ended] using there
  obtain ⟨rfl, left⟩ := first_end whole (h.single turn List.mem_cons_self) clear
  exact ⟨(List.append_eq_nil_iff.mp left.symm).2, turn, List.mem_cons_self, text, decoded, same⟩

end

end Transceiver
