import Transceiver.Dialogue.Records

/-! Conversations: what a dialogue asks and what it is answered. They are read off the dialogue
alone, so they are the same for every link and port; what happens on a port is one of them. -/
namespace Transceiver

/-- A command and the answer to it, or why there is none. -/
structure Turn where
  command : Command
  answer : Except Fault String

namespace Dialogue

variable {σ α β : Type}

/-- A dialogue may take these turns and end like this. Any answer may come to any command. -/
inductive Conversation : Dialogue α → List Turn → Except Fault α → Prop
  | done (value : α) : Conversation (.done value) [] (.ok value)
  | fail (why : Fault) : Conversation (.fail why) [] (.error why)
  | note {record rest turns result} :
      Conversation rest turns result → Conversation (.note record rest) turns result
  | send {command rest turns result} (answer : Except Fault String) :
      Conversation (rest answer) turns result →
      Conversation (.send command rest) (⟨command, answer⟩ :: turns) result

def turns (link : Link) (port : Port σ) : Dialogue α → σ → List Turn
  | .done _, _ => []
  | .fail _, _ => []
  | .note _ rest, s => rest.turns link port s
  | .send command rest, s =>
    let answered := link.exchange port command.line s
    ⟨command, answered.result⟩ :: (rest answered.result).turns link port answered.port

theorem conversation_run (link : Link) (port : Port σ) (d : Dialogue α) (s : σ) :
    d.Conversation (d.turns link port s) (d.run link port s).result := by
  induction d generalizing s with
  | done value => exact .done value
  | fail why => exact .fail why
  | note record rest ih => exact .note (ih s)
  | send command rest ih => exact .send _ (ih _ _)

@[simp] theorem conversation_done {value : α} {turns : List Turn} {result : Except Fault α} :
    (done value).Conversation turns result ↔ turns = [] ∧ result = .ok value := by
  constructor
  · intro h
    cases h
    exact ⟨rfl, rfl⟩
  · rintro ⟨rfl, rfl⟩
    exact .done value

@[simp] theorem conversation_fail {why : Fault} {turns : List Turn} {result : Except Fault α} :
    (fail why).Conversation turns result ↔ turns = [] ∧ result = .error why := by
  constructor
  · intro h
    cases h
    exact ⟨rfl, rfl⟩
  · rintro ⟨rfl, rfl⟩
    exact .fail why

@[simp] theorem conversation_note {record : LogRecord} {rest : Dialogue α} {turns : List Turn}
    {result : Except Fault α} :
    (note record rest).Conversation turns result ↔ rest.Conversation turns result := by
  constructor
  · intro h
    cases h with
    | note later => exact later
  · exact .note

theorem conversation_send {command : Command} {rest : Except Fault String → Dialogue α}
    {turns : List Turn} {result : Except Fault α} :
    (send command rest).Conversation turns result ↔
      ∃ answer later, turns = ⟨command, answer⟩ :: later ∧
        (rest answer).Conversation later result := by
  constructor
  · intro h
    cases h with
    | send answer later => exact ⟨answer, _, rfl, later⟩
  · rintro ⟨answer, later, rfl, h⟩
    exact .send answer h

@[simp] theorem conversation_ofExcept {e : Except Fault α} {turns : List Turn}
    {result : Except Fault α} :
    (ofExcept e).Conversation turns result ↔ turns = [] ∧ result = e := by
  cases e with
  | ok value => exact conversation_done
  | error why => exact conversation_fail

/-- What follows on a dialogue is said after it, and only if it comes to a value. -/
theorem Conversation.split {d : Dialogue α} {next : α → Dialogue β} {turns : List Turn}
    {result : Except Fault β} (h : (d >>= next).Conversation turns result) :
    (∃ why, result = .error why ∧ d.Conversation turns (.error why)) ∨
      ∃ value earlier later, turns = earlier ++ later ∧ d.Conversation earlier (.ok value) ∧
        (next value).Conversation later result := by
  induction d generalizing turns with
  | done value => exact .inr ⟨value, [], turns, rfl, .done value, h⟩
  | fail why =>
      obtain ⟨rfl, rfl⟩ := conversation_fail.mp h
      exact .inl ⟨why, rfl, .fail why⟩
  | note record rest ih =>
      rcases ih (conversation_note.mp h) with
        ⟨why, failed, first⟩ | ⟨value, earlier, later, both, first, second⟩
      · exact .inl ⟨why, failed, .note first⟩
      · exact .inr ⟨value, earlier, later, both, .note first, second⟩
  | send command rest ih =>
      obtain ⟨answer, tail, rfl, said⟩ := conversation_send.mp h
      rcases ih answer said with ⟨why, failed, first⟩ | ⟨value, earlier, later, rfl, first, second⟩
      · exact .inl ⟨why, failed, .send answer first⟩
      · exact .inr ⟨value, _ :: earlier, later, rfl, .send answer first, second⟩

theorem Conversation.bind {d : Dialogue α} {next : α → Dialogue β} {earlier later : List Turn}
    {value : α} {result : Except Fault β} (first : d.Conversation earlier (.ok value))
    (second : (next value).Conversation later result) :
    (d >>= next).Conversation (earlier ++ later) result := by
  induction d generalizing earlier with
  | done value =>
      obtain ⟨rfl, same⟩ := conversation_done.mp first
      cases same
      exact second
  | fail why => cases (conversation_fail.mp first).2
  | note record rest ih => exact .note (ih (conversation_note.mp first))
  | send command rest ih =>
      obtain ⟨answer, tail, rfl, said⟩ := conversation_send.mp first
      exact .send answer (ih answer said)

theorem Conversation.of_bind_pure {d : Dialogue α} {f : α → β} {turns : List Turn}
    {result : Except Fault β} (h : (d >>= fun value => pure (f value)).Conversation turns result) :
    ∃ before, d.Conversation turns before ∧ result = before.map f := by
  rcases h.split with ⟨why, rfl, failed⟩ | ⟨value, earlier, later, rfl, came, rest⟩
  · exact ⟨.error why, failed, rfl⟩
  · obtain ⟨rfl, rfl⟩ := conversation_done.mp rest
    exact ⟨.ok value, by rwa [List.append_nil], rfl⟩

/-- What is said where a failure is handled: nothing more, or what the handler says after it. -/
theorem Conversation.rescue {d : Dialogue α} {handler : Fault → Dialogue α} {turns : List Turn}
    {result : Except Fault α} (h : (tryCatch d handler).Conversation turns result) :
    d.Conversation turns result ∨
      ∃ why earlier later, turns = earlier ++ later ∧ d.Conversation earlier (.error why) ∧
        (handler why).Conversation later result := by
  induction d generalizing turns with
  | done value => exact .inl h
  | fail why => exact .inr ⟨why, [], turns, rfl, .fail why, h⟩
  | note record rest ih =>
      rcases ih (conversation_note.mp h) with first | ⟨why, earlier, later, both, first, second⟩
      · exact .inl (.note first)
      · exact .inr ⟨why, earlier, later, both, .note first, second⟩
  | send command rest ih =>
      obtain ⟨answer, tail, rfl, said⟩ := conversation_send.mp h
      rcases ih answer said with first | ⟨why, earlier, later, rfl, first, second⟩
      · exact .inl (.send answer first)
      · exact .inr ⟨why, _ :: earlier, later, rfl, .send answer first, second⟩

/-- What is settled beforehand makes no difference to what follows. -/
theorem settled_eq {e : Except Fault α} {value : α} {next : α → Dialogue β} (known : e = .ok value) :
    (ofExcept e >>= next) = next value := by
  subst known
  rfl

/-- A command whose answer is all that counts. -/
def inquiry (command : Command) (meaning : String → Except Fault α) : Dialogue α :=
  .send command fun answer => ofExcept (answer.bind meaning)

theorem conversation_inquiry {command : Command} {meaning : String → Except Fault α}
    {turns : List Turn} {result : Except Fault α} :
    (inquiry command meaning).Conversation turns result ↔
      ∃ answer, turns = [⟨command, answer⟩] ∧ result = answer.bind meaning := by
  constructor
  · intro h
    obtain ⟨answer, later, rfl, said⟩ := conversation_send.mp h
    obtain ⟨rfl, rfl⟩ := conversation_ofExcept.mp said
    exact ⟨answer, rfl, rfl⟩
  · rintro ⟨answer, rfl, rfl⟩
    exact .send answer (conversation_ofExcept.mpr ⟨rfl, rfl⟩)

theorem conversation_inquiry_ok {command : Command} {meaning : String → Except Fault α}
    {turns : List Turn} {value : α} :
    (inquiry command meaning).Conversation turns (.ok value) ↔
      ∃ reply, turns = [⟨command, .ok reply⟩] ∧ meaning reply = .ok value := by
  rw [conversation_inquiry]
  constructor
  · rintro ⟨answer, rfl, came⟩
    cases answer with
    | error why => cases came
    | ok reply => exact ⟨reply, rfl, came.symm⟩
  · rintro ⟨reply, rfl, came⟩
    exact ⟨.ok reply, rfl, came.symm⟩

/-- Where a reply is made sense of right away, nothing else comes of a command. -/
theorem ask_bind_eq (command : Command) (meaning : String → Except Fault α) :
    (ask command >>= fun reply => ofExcept (meaning reply)) = inquiry command meaning := by
  unfold inquiry ask
  refine congrArg (Dialogue.send _) (funext fun answer => ?_)
  cases answer <;> rfl

/-- What is made of a reply once its record is read. -/
theorem inquiry_bind (command : Command) (meaning : String → Except Fault α) {next : α → Dialogue β}
    {own : α → Except Fault β} (settles : ∀ value, next value = ofExcept (own value)) :
    (inquiry command meaning >>= next) = inquiry command fun reply => meaning reply >>= own := by
  refine congrArg (Dialogue.send _) (funext fun answer => ?_)
  cases answer with
  | error why => rfl
  | ok reply =>
      change (ofExcept (meaning reply)).bind next = ofExcept (meaning reply >>= own)
      cases meaning reply with
      | error why => rfl
      | ok value => exact settles value

/-- A record about the key that was asked for. Any other is refused. -/
def compared {κ : Type} [DecidableEq κ] (key : α → κ) (asked : κ) (other : κ → RadioFault)
    (record : α) : Except Fault α :=
  if key record = asked then .ok record else .error (.radio (other (key record)))

theorem ask_compared_eq {κ : Type} [DecidableEq κ] (command : Command) (meaning : String → Except Fault α)
    (key : α → κ) (asked : κ) (other : κ → RadioFault) :
    (do
      let record ← meaning (← ask command)
      if key record ≠ asked then throw (Fault.radio (other (key record)))
      return record : Dialogue α) =
      inquiry command fun reply => meaning reply >>= compared key asked other := by
  have settles : ∀ record, (do
      if key record ≠ asked then throw (Fault.radio (other (key record)))
      return record : Dialogue α) = ofExcept (compared key asked other record) := by
    intro record
    unfold compared
    by_cases own : key record = asked
    · rw [if_pos own, if_neg (not_not_intro own)]
      rfl
    · rw [if_neg own, if_pos own]
      rfl
  rw [← inquiry_bind _ _ settles, ← ask_bind_eq]
  exact (LawfulMonad.bind_assoc _ _ _).symm

/-- The record in a reply, if it is about the channel that was asked for. -/
def ownRecord (channel : Fin 1000) (reply : String) : Except Fault MemoryRecord :=
  match MemoryRecord.parse reply with
  | .error why => .error why
  | .ok record =>
    if record.channel = channel then .ok record
    else .error (.radio (.otherChannel channel record.channel))

theorem ownRecord_eq_ok {channel : Fin 1000} {reply : String} {record : MemoryRecord} :
    ownRecord channel reply = .ok record ↔
      MemoryRecord.parse reply = .ok record ∧ record.channel = channel := by
  unfold ownRecord
  cases MemoryRecord.parse reply with
  | error why => simp
  | ok found =>
      by_cases own : found.channel = channel
      · simp only [own, if_true, Except.ok.injEq]
        constructor
        · rintro rfl
          exact ⟨rfl, own⟩
        · exact And.left
      · simp only [own, if_false, reduceCtorEq, Except.ok.injEq, false_iff, not_and]
        rintro rfl
        exact own

theorem ownRecord_eq (channel : Fin 1000) (reply : String) :
    ownRecord channel reply =
      MemoryRecord.parse reply >>= compared MemoryRecord.channel channel (.otherChannel channel) := by
  unfold ownRecord
  cases MemoryRecord.parse reply <;> rfl

theorem readMemory_eq (channel : Fin 1000) :
    readMemory channel = inquiry (.readMemory channel) (ownRecord channel) := by
  rw [funext (ownRecord_eq channel)]
  exact ask_compared_eq _ _ _ _ _

theorem writeMemory_eq (record : MemoryRecord) :
    writeMemory record = inquiry (.writeMemory record) MemoryRecord.parse :=
  ask_bind_eq (.writeMemory record) MemoryRecord.parse

end Dialogue

end Transceiver
