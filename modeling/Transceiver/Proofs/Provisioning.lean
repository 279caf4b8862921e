import Transceiver.Proofs.Drift
import Transceiver.Proofs.Selecting

/-! Provisioning. While a VFO is selected, nothing is stored but an empty record, right after a query
for the VFO's memory that was refused or brought no record of it. All else that a radio stores stays
as it is. -/
namespace Transceiver

open Dialogue Record Simulation

section
variable {σ : Type}

theorem attempt_unrejected {port : Port σ} {patience : Int} {command : String} {s : σ}
    {fault : RadioFault} (failed : (port.attempt patience command s).result = .error (.radio fault)) :
    fault.kind ≠ .rejected := by
  have came := attempted port patience command s
  generalize port.attempt patience command s = o at came failed
  cases came with
  | unspelled spelled => cases failed
  | @unwritten bytes why s' spelled sent =>
      cases why <;> cases failed
      rintro ⟨⟩
  | unanswered spelled sent collected =>
      rcases collect_fault ((congrArg Prod.fst collected).trans failed) with
        same | ⟨reason, same⟩ | same <;> cases same <;> rintro ⟨⟩
  | answered spelled sent collected => cases failed

/-- An exchange is rejected by a refusal that arrived, and by nothing else. -/
theorem exchange_rejected {link : Link} {port : Port σ} {command : String} {s : σ}
    {fault : RadioFault} (failed : (link.exchange port command s).result = .error (.radio fault))
    (rejected : fault.kind = .rejected) :
    ∃ last reply, (port.attempt link.patience command last).result = .ok reply ∧
      isRefusal reply = true ∧ fault = .refused command reply := by
  rcases exchange_failed failed with
    ⟨last, unanswered | ⟨reply, answered, refusal, same⟩⟩ | unannounced
  · exact absurd rejected (attempt_unrejected unanswered)
  · exact ⟨last, reply, answered, refusal, Fault.radio.inj same⟩
  · rcases Rate.wholeText_fault unannounced with other | other <;> cases other

end

namespace Turn

/-- If the turn is rejected, then by a refusal. -/
def Straight (turn : Turn) : Prop :=
  ∀ fault, turn.answer = .error (.radio fault) → fault.kind = .rejected →
    ∃ reply, isRefusal reply = true ∧ fault = .refused turn.command.line reply

/-- The turn asks for the memory of a channel and is refused, or brings what is no record of it. -/
inductive Unread (channel : Fin 1000) : Turn → Prop
  | refused {reply} : isRefusal reply = true →
      Unread channel ⟨.readMemory channel,
        .error (.radio (.refused (Command.readMemory channel).line reply))⟩
  | senseless {reply fault} : ownRecord channel reply = .error (.radio fault) →
      Unread channel ⟨.readMemory channel, .ok reply⟩

theorem Straight.unread {channel : Fin 1000} {answer : Except Fault String} {fault : RadioFault}
    (straight : Straight ⟨.readMemory channel, answer⟩)
    (came : answer.bind (ownRecord channel) = .error (.radio fault)) (rejected : fault.kind = .rejected) :
    Unread channel ⟨.readMemory channel, answer⟩ := by
  cases answer with
  | ok reply => exact .senseless came
  | error why =>
      cases came
      obtain ⟨reply, refusal, same⟩ := straight fault rfl rejected
      rw [same]
      exact .refused refusal

end Turn

namespace Dialogue

variable {σ α : Type} {link : Link} {port : Port σ}

theorem exchanged_of_mem {d : Dialogue α} {s : σ} {turn : Turn} (member : turn ∈ d.turns link port s) :
    ∃ found, turn.answer = (link.exchange port turn.command.line found).result := by
  induction d generalizing s with
  | done value => cases member
  | fail why => cases member
  | note record rest ih => exact ih member
  | send command rest ih =>
      rcases List.mem_cons.mp member with rfl | later
      · exact ⟨s, rfl⟩
      · exact ih _ later

theorem straight_turns (d : Dialogue α) (s : σ) : ∀ turn ∈ d.turns link port s, turn.Straight := by
  intro turn member fault failed rejected
  obtain ⟨found, exchanged⟩ := exchanged_of_mem member
  obtain ⟨last, reply, -, refusal, same⟩ := exchange_rejected (exchanged.symm.trans failed) rejected
  exact ⟨reply, refusal, same⟩

/-- With less than no patience nothing arrives that could be taken for an empty channel. -/
theorem read_of_impatient (hasty : link.patience < 0) {d : Dialogue α} {s : σ} {turn : Turn}
    (member : turn ∈ d.turns link port s) (channel : Fin 1000) : ¬ turn.Unread channel := by
  intro unread
  obtain ⟨found, exchanged⟩ := exchanged_of_mem member
  cases unread with
  | @refused reply refusal =>
      obtain ⟨last, reply, answered, -⟩ := exchange_rejected exchanged.symm rfl
      exact attempt_impatient port hasty _ last reply answered
  | senseless other => exact exchange_impatient hasty port _ found _ exchanged.symm

end Dialogue

/-- In these turns nothing is stored, or nothing but an empty record in the VFO's channel, right after
a query for its memory that was not read. -/
inductive Provisions (vfo : Value) : List Turn → Prop
  | nothing {turns : List Turn} : (∀ turn ∈ turns, ¬ turn.Stores) → Provisions vfo turns
  | empty {band : Band} {query : Turn} {answer} {earlier later : List Turn} : Selects vfo band →
      query.Unread band.channel → (∀ turn ∈ earlier ++ later, ¬ turn.Stores) →
      Provisions vfo (earlier ++ query :: ⟨.writeMemory (.empty band.channel), answer⟩ :: later)

namespace Provisions

variable {vfo : Value}

theorem around {before turns after : List Turn} (h : Provisions vfo turns)
    (first : ∀ turn ∈ before, ¬ turn.Stores) (last : ∀ turn ∈ after, ¬ turn.Stores) :
    Provisions vfo (before ++ turns ++ after) := by
  cases h with
  | nothing silent =>
      refine .nothing fun turn member => ?_
      rcases List.mem_append.mp member with front | back
      · rcases List.mem_append.mp front with here | there
        · exact first turn here
        · exact silent turn there
      · exact last turn back
  | @empty band query answer earlier later selects unread silent =>
      have shape : before ++ (earlier ++ query :: ⟨.writeMemory (.empty band.channel), answer⟩ :: later) ++
          after = (before ++ earlier) ++ query ::
            ⟨.writeMemory (.empty band.channel), answer⟩ :: (later ++ after) := by
        simp
      rw [shape]
      refine .empty selects unread fun turn member => ?_
      simp only [List.mem_append] at member
      rcases member with (here | there) | (there | here)
      · exact first turn here
      · exact silent turn (List.mem_append_left later there)
      · exact silent turn (List.mem_append_right earlier there)
      · exact last turn here

/-- A turn that stores something stores an empty record, and a query was not read. -/
theorem stores {turns : List Turn} (h : Provisions vfo turns) {turn : Turn} (member : turn ∈ turns)
    (stores : turn.Stores) : ∃ band, Selects vfo band ∧
      turn.command = .writeMemory (.empty band.channel) ∧ ∃ query ∈ turns, query.Unread band.channel := by
  cases h with
  | nothing silent => exact absurd stores (silent turn member)
  | @empty band query answer earlier later selects unread silent =>
      refine ⟨band, selects, ?_, query, by simp, unread⟩
      simp only [List.mem_append, List.mem_cons] at member
      rcases member with here | rfl | rfl | there
      · exact absurd stores (silent turn (List.mem_append_left later here))
      · obtain ⟨record, same⟩ := stores
        cases unread <;> cases same
      · rfl
      · exact absurd stores (silent turn (List.mem_append_right earlier there))

end Provisions

namespace Dialogue

theorem silent_of_asks {α : Type} {d : Dialogue α} {turns : List Turn} {result : Except Fault α}
    (asks : d.Asks (fun command => ¬ ∃ record, command = .writeMemory record) fun _ => True)
    (said : d.Conversation turns result) : ∀ turn ∈ turns, ¬ turn.Stores :=
  (asks.conversation said).1

theorem Conversation.discardedRead {channel : Fin 1000} {turns : List Turn}
    {result : Except Fault Unit} (h : (Functor.discard (readMemory channel)).Conversation turns result) :
    ∃ answer, turns = [⟨.readMemory channel, answer⟩] ∧
      result = (answer.bind (ownRecord channel)).map fun _ => () := by
  obtain ⟨before, read, rfl⟩ := Conversation.of_bind_pure h
  rw [readMemory_eq, conversation_inquiry] at read
  obtain ⟨answer, one, rfl⟩ := read
  exact ⟨answer, one, rfl⟩

/-- What is not accepted without a word to the radio ends the conversation. -/
theorem Conversation.granted {α β : Type} {e : Except Fault α} {next : α → Dialogue β}
    {turns : List Turn} {result : Except Fault β}
    (h : (Dialogue.ofExcept e >>= next).Conversation turns result) :
    turns = [] ∨ ∃ value, e = .ok value ∧ (next value).Conversation turns result := by
  cases e with
  | error why => exact .inl (conversation_fail.mp h).1
  | ok value => exact .inr ⟨value, rfl, h⟩

end Dialogue

namespace Rig

theorem provisions_provision {vfo : Value} {band : Band} (selects : Selects vfo band)
    {turns : List Turn} {result : Except Fault Unit}
    (said : (provision band.channel).Conversation turns result)
    (straight : ∀ turn ∈ turns, turn.Straight) : Provisions vfo turns := by
  have silent : ∀ answer, Provisions vfo [⟨.readMemory band.channel, answer⟩] := by
    refine fun answer => .nothing ?_
    rintro turn member ⟨record, stores⟩
    rw [List.mem_singleton.mp member] at stores
    cases stores
  rcases Conversation.rescue said with only | ⟨why, earlier, later, rfl, asked, handled⟩
  · obtain ⟨answer, rfl, -⟩ := Conversation.discardedRead only
    exact silent answer
  · obtain ⟨answer, rfl, failed⟩ := Conversation.discardedRead asked
    cases came : answer.bind (ownRecord band.channel) with
    | ok record =>
        rw [came] at failed
        cases failed
    | error why' =>
        rw [came] at failed
        cases failed
        have passed : (fail why : Dialogue Unit).Conversation later result →
            Provisions vfo ([⟨.readMemory band.channel, answer⟩] ++ later) := by
          intro failing
          obtain ⟨rfl, -⟩ := conversation_fail.mp failing
          exact silent answer
        cases why with
        | radio fault =>
            dsimp only at handled
            split at handled
            · rename_i rejected
              obtain ⟨before, stored, -⟩ := Conversation.of_bind_pure (conversation_note.mp handled)
              have written : (writeMemory (.empty band.channel)).Conversation later before := stored
              rw [writeMemory_eq, conversation_inquiry] at written
              obtain ⟨echo, rfl, -⟩ := written
              have unread := (straight _ List.mem_cons_self).unread came rejected
              have stores : Provisions vfo ([] ++ ⟨.readMemory band.channel, answer⟩ ::
                  ⟨.writeMemory (.empty band.channel), echo⟩ :: []) :=
                .empty selects unread fun turn member => absurd member List.not_mem_nil
              exact stores
            · exact passed handled
        | _ => exact passed handled

theorem provisions_selectBand {vfo : Value} {band : Band} (selects : Selects vfo band)
    {turns : List Turn} {result : Except Fault Unit}
    (said : (selectBand band).Conversation turns result)
    (straight : ∀ turn ∈ turns, turn.Straight) : Provisions vfo turns := by
  have tuning : (discard (writeTuning ⟨band, .memory⟩)).Asks
      (fun command => ¬ ∃ record, command = .writeMemory record) fun _ => True :=
    Asks.discard (asks_parsed (by rintro ⟨record, ⟨⟩⟩))
  have placing : (discard (writeSelection ⟨band, band.channel⟩) >>= fun _ =>
      discard (writeControl ⟨band, band⟩)).Asks
        (fun command => ¬ ∃ record, command = .writeMemory record) fun _ => True :=
    Asks.seq (Asks.discard (asks_parsed (by rintro ⟨record, ⟨⟩⟩))) fun _ =>
      Asks.discard (asks_parsed (by rintro ⟨record, ⟨⟩⟩))
  rcases Conversation.split said with ⟨why, -, tuned⟩ | ⟨_, earlier, rest, rfl, tuned, said⟩
  · exact .nothing (silent_of_asks tuning tuned)
  · have first := silent_of_asks tuning tuned
    rcases said.split with ⟨why, -, provided⟩ | ⟨_, middle, later, rfl, provided, placed⟩
    · have provisions := provisions_provision selects provided fun turn member =>
        straight turn (List.mem_append_right earlier member)
      have around : Provisions vfo (earlier ++ rest ++ []) :=
        provisions.around first fun turn member => absurd member List.not_mem_nil
      rwa [List.append_nil] at around
    · have provisions := provisions_provision selects provided fun turn member =>
        straight turn (List.mem_append_right earlier (List.mem_append_left later member))
      rw [← List.append_assoc]
      exact provisions.around first (silent_of_asks placing placed)

theorem provisions_perform {r : Rig} {vfo : Value} {turns : List Turn}
    {result : Except Fault (Answer × Rig)}
    (said : (r.perform (.selectVfo vfo)).Conversation turns result)
    (straight : ∀ turn ∈ turns, turn.Straight) : Provisions vfo turns := by
  rw [perform_selectVfo] at said
  obtain ⟨before, selecting, -⟩ := Conversation.of_bind_pure said
  unfold Rig.selecting at selecting
  have silent : Provisions vfo [] := .nothing fun turn member => absurd member List.not_mem_nil
  rcases selecting.granted with rfl | ⟨written, -, selecting⟩
  · exact silent
  rcases Conversation.granted (conversation_note.mp selecting) with rfl | ⟨session, -, selecting⟩
  · exact silent
  · rcases selecting.granted with rfl | ⟨choice, chosen, selecting⟩
    · exact silent
    · cases choice with
      | named band =>
          obtain ⟨before, selected, -⟩ := Conversation.of_bind_pure selecting
          exact provisions_selectBand (SelectionChoice.ofValue_eq_named chosen) selected straight
      | memory =>
          have tuning : (currentBand >>= fun band => discard (writeTuning ⟨band, .memory⟩) >>=
              fun _ => pure r).Asks
                (fun command => ¬ ∃ record, command = .writeMemory record) fun _ => True := by
            refine Asks.seq (asks_currentBand (by rintro ⟨record, ⟨⟩⟩)) fun band => ?_
            exact Asks.seq (Asks.discard (asks_parsed (by rintro ⟨record, ⟨⟩⟩))) fun _ => trivial
          exact .nothing (silent_of_asks tuning selecting)

end Rig

/-- The command leaves the memories of any radio as they are. -/
def Command.Spares (command : Command) : Prop :=
  ∀ r : Radio, (r.answer command.line).2.memories = r.memories

namespace Simulation.Radio

theorem answerNamed_spares (r : Radio) {name : String} (args : List String) (memory : name ≠ "ME") :
    Leads (fun r' => r'.memories = r.memories) (r.answerNamed name args) := by
  by_cases named : name = "MN"
  · subst named
    exact fun reply r' h => (r.answerName_leads args reply r' h).1
  · exact fun reply r' h => (r.answerNamed_memories args memory named reply r' h).1

end Simulation.Radio

namespace Command

theorem spares_lineText {command : Command} (name : String) {fields : List String}
    (line : command.line = lineText name fields) (bare : ' ' ∉ name.toList) (other : name ≠ "ME") :
    command.Spares := by
  intro r
  rw [line, r.answer_named fields bare]
  exact (r.answerNamed_spares _ other).getD rfl

theorem spares_bare {command : Command} (name : String) (line : command.line = name)
    (bare : ' ' ∉ name.toList) (other : name ≠ "ME") : command.Spares := by
  intro r
  rw [line, r.answer_bare bare]
  exact (r.answerNamed_spares _ other).getD rfl

theorem IsQuery.spares {command : Command} (h : command.IsQuery) : command.Spares := by
  cases h with
  | control => exact spares_bare "BC" rfl (by decide) (by decide)
  | memory channel =>
      intro r
      rw [r.answerMemory_query]
      cases r.memories.get? channel.val <;> rfl
  | selection band => exact spares_lineText "MR" rfl (by decide) (by decide)
  | name channel => exact spares_lineText "MN" rfl (by decide) (by decide)
  | busy band => exact spares_lineText "BY" rfl (by decide) (by decide)

end Command

/-- Whatever a request sends, only commands that store a record change the memories. -/
theorem Request.May.spares {request : Request} {command : Command} (may : request.May command) :
    command.Spares ∨ ∃ record, command = .writeMemory record := by
  cases may with
  | ask query => exact .inl query.spares
  | storeChannel free own => exact .inr ⟨_, rfl⟩
  | nameChannel free checked => exact .inl (Command.spares_lineText "MN" rfl (by decide) (by decide))
  | tuneVfo selects => exact .inl (Command.spares_lineText "VM" rfl (by decide) (by decide))
  | provisionVfo selects => exact .inr ⟨_, rfl⟩
  | placeVfo selects => exact .inl (Command.spares_lineText "MR" rfl (by decide) (by decide))
  | controlVfo selects => exact .inl (Command.spares_lineText "BC" rfl (by decide) (by decide))
  | tuneMemory band => exact .inl (Command.spares_lineText "VM" rfl (by decide) (by decide))
  | controlSplit band => exact .inl (Command.spares_lineText "BC" rfl (by decide) (by decide))
  | change same own => exact .inr ⟨_, rfl⟩
  | placeMemory band free => exact .inl (Command.spares_lineText "MR" rfl (by decide) (by decide))
  | transmit on => exact .inl (Command.spares_bare "TX" rfl (by decide) (by decide))
  | receive off => exact .inl (Command.spares_bare "RX" rfl (by decide) (by decide))
  | fill record => exact .inr ⟨_, rfl⟩

namespace Rig

theorem provisions_turns {σ : Type} (link : Link) (port : Port σ) (r : Rig) (vfo : Value) (s : σ) :
    Provisions vfo ((r.perform (.selectVfo vfo)).turns link port s) :=
  provisions_perform (conversation_run link port _ s) (straight_turns _ s)

/-- What a radio obeys on a bench is the line of a turn. -/
theorem turn_of_obeyed {link : Link} {r : Rig} {request : Request} {s : Bench}
    (named : request.NamesText) {line : String}
    (h : line ∈ s.obeyed (r.carryOut link Bench.port request s).1.writes) :
    ∃ turn ∈ (r.perform request).turns link Bench.port s,
      request.May turn.command ∧ turn.command.line = line := by
  obtain ⟨bytes, written, rfl⟩ := Bench.mem_obeyed h
  rw [carryOut_writes] at written
  obtain ⟨turn, member, spelled⟩ :=
    (transmitted_run link Bench.port (r.perform request) s).mem_bytes written
  have said := conversation_run link Bench.port (r.perform request) s
  have may := ((r.asks_perform request).conversation said).1 turn member
  have worded := (may.wording named).isPrintable
  rw [Command.bytes, encode_line worded] at spelled
  cases spelled
  refine ⟨turn, member, may, ?_⟩
  rw [List.dropLast_concat, Bench.decode_asciiBytes worded]

/-- Selecting a VFO keeps every stored text, unless a query for the VFO's memory was not read. -/
theorem kept_or_unread {link : Link} {r : Rig} {vfo : Value} {s : Bench} (waiting : s.unfinished = [])
    {key : Int} {payload : String} (held : s.radio.memories.get? key = some payload) :
    (r.carryOut link Bench.port (.selectVfo vfo) s).1.port.radio.memories.get? key = some payload ∨
      ∃ band, Selects vfo band ∧ key = band.channel.val ∧
        ∃ query ∈ (r.perform (.selectVfo vfo)).turns link Bench.port s, query.Unread band.channel := by
  have named : (Request.selectVfo vfo).NamesText := trivial
  obtain ⟨-, radio, -⟩ := carryOut_radio link r named waiting
  rw [radio]
  refine Radio.obey_induction (P := fun r' : Radio => r'.memories.get? key = some payload ∨
    ∃ band, Selects vfo band ∧ key = band.channel.val ∧
      ∃ query ∈ (r.perform (.selectVfo vfo)).turns link Bench.port s, query.Unread band.channel)
    (.inl held) ?_
  intro r' kept line member
  rcases kept with kept | unread
  · obtain ⟨turn, taken, may, rfl⟩ := turn_of_obeyed named member
    rcases may.spares with spares | stores
    · exact .inl ((congrArg (Table.get? · key) (spares r')).trans kept)
    · obtain ⟨band, selects, same, query⟩ := (provisions_turns link Bench.port r vfo s).stores taken stores
      rw [same, Radio.answer_writeMemory]
      by_cases own : key = band.channel.val
      · exact .inr ⟨band, selects, own, query⟩
      · left
        change (r'.memories.put band.channel.val _).get? key = some payload
        rw [Table.get?_put, if_neg fun same => own same.symm, kept]
  · exact .inr unread

theorem memories_of_quiet {link : Link} {r : Rig} {vfo : Value} {s : Bench} (quiet : s.Quiet)
    (selectable : ∀ band, Selects vfo band → s.radio.Selectable band) {key : Int} {payload : String}
    (held : s.radio.memories.get? key = some payload) :
    (r.carryOut link Bench.port (.selectVfo vfo) s).1.port.radio.memories.get? key = some payload := by
  rcases kept_or_unread quiet.waiting held with kept | ⟨band, selects, rfl, query, member, unread⟩
  · exact kept
  · by_cases patient : 0 ≤ link.patience
    · rw [carryOut_port]
      cases opened : r.session with
      | none =>
          have failing : r.openSession = .error .notOpen := by
            rw [openSession, opened]
          have named : vfo.written = .ok vfo := by
            rcases selects with rfl | ⟨rfl, -⟩ <;> rfl
          have shape : r.selecting vfo = .note ⟨Source.rig, Level.debug, "set_vfo " ++ vfo.shown⟩
              (.fail (.radio .notOpen)) := by
            unfold selecting
            rw [failing, named]
            rfl
          have closed : (r.selecting vfo).Talks s.radio (.error (.radio .notOpen)) s.radio := by
            rw [shape]
            exact .note (.fail _ _)
          have ended : (r.perform (.selectVfo vfo)).Talks s.radio (.error (.radio .notOpen)) s.radio := by
            rw [perform_selectVfo]
            exact Talks.bind_error closed
          obtain ⟨-, radio, -⟩ := ended.run patient quiet rfl
          rw [radio, held]
      | some session =>
          obtain ⟨-, radio, -⟩ :=
            (speaks_selectVfo opened selects (selectable band selects)).run patient quiet rfl
          rw [radio, Radio.select, Radio.provisioned, held]
          exact held
    · exact absurd unread (read_of_impatient (Int.not_le.mp patient) member band.channel)

/-- Selecting a VFO stores nothing, or an empty record in the VFO's channel right after a query for
its memory that was refused or brought no record of it, whatever the port brings. A simulated radio
keeps every stored text, but for that of a VFO's channel that was not read; on a quiet bench, with the
VFO's channel empty or holding a record of its own, it keeps them all. -/
theorem stores_only_over_unread (r : Rig) (vfo : Value) :
    (∀ {σ : Type} (link : Link) (port : Port σ) (s : σ),
      Provisions vfo ((r.perform (.selectVfo vfo)).turns link port s) ∧
        Transmitted link ((r.perform (.selectVfo vfo)).turns link port s)
          (r.carryOut link port (.selectVfo vfo) s).1.writes) ∧
    (∀ (link : Link) (s : Bench), s.unfinished = [] →
      ∀ key payload, s.radio.memories.get? key = some payload →
        (r.carryOut link Bench.port (.selectVfo vfo) s).1.port.radio.memories.get? key =
            some payload ∨
          ∃ band, Selects vfo band ∧ key = band.channel.val ∧
            ∃ query ∈ (r.perform (.selectVfo vfo)).turns link Bench.port s,
              query.Unread band.channel) ∧
    ∀ (link : Link) (s : Bench), s.Quiet → (∀ band, Selects vfo band → s.radio.Selectable band) →
      ∀ key payload, s.radio.memories.get? key = some payload →
        (r.carryOut link Bench.port (.selectVfo vfo) s).1.port.radio.memories.get? key =
          some payload := by
  refine ⟨?_, ?_, ?_⟩
  · intro σ link port s
    refine ⟨provisions_turns link port r vfo s, ?_⟩
    rw [carryOut_writes]
    exact transmitted_run link port (r.perform (.selectVfo vfo)) s
  · intro link s waiting key payload held
    exact kept_or_unread waiting held
  · intro link s quiet selectable key payload held
    exact memories_of_quiet quiet selectable held

theorem stores_only_over_unread_stored :
    ((closed .warn).opened.carryOut ⟨8, 3, 3⟩ Bench.port (.selectVfo (.text "VFOA"))
      (Bench.ofRadio (Radio.initial.store .a (.empty 998)))).1.port.radio.memories.get? 998 =
        some (MemoryRecord.empty 998).payload := by
  have selectable : ∀ band, Selects (.text "VFOA") band →
      (Bench.ofRadio (Radio.initial.store .a (.empty 998))).radio.Selectable band := by
    intro band selects
    cases band with
    | a => exact .inr ⟨.empty 998, Radio.holds_store _ rfl⟩
    | b => exact .inl rfl
  have held : (Radio.initial.store .a (.empty 998)).memories.get? 998 =
      some (MemoryRecord.empty 998).payload := by
    exact Table.get?_put_self _ _ _
  exact (stores_only_over_unread (closed .warn).opened (.text "VFOA")).2.2 ⟨8, 3, 3⟩ _
    (Bench.quiet_ofRadio _) selectable 998 _ held

theorem talks_scribbled {r : Radio}
    (held : r.memories.get? (Band.channel .a).val = some "abcd") :
    (readMemory (Band.channel .a)).Talks r (.error (.radio (.fieldCount "ME" 1 16 "ME abcd"))) r := by
  have worded : IsPrintable (Command.readMemory (Band.channel .a)).line :=
    (Wording.memory (digits_channel _)).isPrintable
  have meaning : ownRecord (Band.channel .a) ("ME" ++ " " ++ "abcd") =
      .error (.radio (.fieldCount "ME" 1 16 "ME abcd")) := rfl
  have talks : (inquiry (.readMemory (Band.channel .a)) (ownRecord (Band.channel .a))).Talks r
      (ownRecord (Band.channel .a) ("ME" ++ " " ++ "abcd")) r :=
    talks_reply worded (Radio.answer_readMemory held) (by decide) (by decide) (by decide) (by decide)
  rwa [meaning, ← readMemory_eq] at talks

/-- A radio that holds a text in the first VFO's channel that is no record. -/
def scribbled : Radio := { Radio.initial with memories := Table.empty.put 998 "abcd" }

/-- What a VFO's channel holds is overwritten although the radio did not refuse to tell it. -/
theorem scribble_overwritten :
    scribbled.memories.get? 998 = some "abcd" ∧
      scribbled.answer (Command.readMemory 998).line = ("ME abcd", scribbled) ∧
      isRefusal "ME abcd" = false ∧
      (closed .warn).opened.Achieves ⟨8, 3, 3⟩ (.selectVfo (.text "VFOA")) (Bench.ofRadio scribbled)
        [.writeTuning ⟨.a, .memory⟩, .readMemory 998, .writeMemory (.empty 998),
          .writeSelection ⟨.a, 998⟩, .writeControl ⟨.a, .a⟩]
        .nothing (closed .warn).opened ((scribbled.store .a (.empty 998)).select .a) ∧
      ((scribbled.store .a (.empty 998)).select .a).memories.get? 998 ≠ some "abcd" := by
  have held : scribbled.memories.get? (Band.channel .a).val = some "abcd" := rfl
  have patient : 0 ≤ (⟨8, 3, 3⟩ : Link).patience := by decide
  have tuned : ({ scribbled with tuning := scribbled.tuning.set .a 1 } : Radio).memories.get?
      (Band.channel .a).val = some "abcd" := rfl
  have stored : (scribbled.store .a (.empty 998)).memories.get? (Band.channel .a).val =
      some (MemoryRecord.empty 998).payload := by
    rw [Radio.store, Table.get?_put_self]
  have provision : (provision (Band.channel .a)).Speaks
      { scribbled with tuning := scribbled.tuning.set .a 1 }
      [.readMemory 998, .writeMemory (.empty 998)] (.ok ())
      { scribbled.store .a (.empty 998) with
        tuning := (scribbled.store .a (.empty 998)).tuning.set .a 1 } :=
    Radio.speaks_provision_rejected (talks_scribbled tuned) rfl
  have selected := Radio.speaks_selectBand_provisioned provision stored
  have selects : Selects (.text "VFOA") .a := .inl rfl
  have speaks := speaks_selectVfo_selected (r := (closed .warn).opened) rfl selects selected
  refine ⟨rfl, Radio.answer_readMemory held, rfl,
    achieves_of_speaks patient (Bench.quiet_ofRadio scribbled) speaks, ?_⟩
  have kept : ((scribbled.store .a (.empty 998)).select .a).memories.get? 998 =
      some (MemoryRecord.empty 998).payload := stored
  rw [kept]
  decide

end Rig

end Transceiver
