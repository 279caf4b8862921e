import Transceiver.Proofs.Asking
import Transceiver.Proofs.Change
import Transceiver.Proofs.Transmission

/-! Changing a setting of a VFO reads a memory record and writes it back with the fields of the
setting replaced. Nothing is written that was not read directly before, and nothing is written
anywhere else. -/
namespace Transceiver

theorem Band.channel_reserved (band : Band) : band.channel = 998 ∨ band.channel = 999 := by
  cases band
  · exact .inl rfl
  · exact .inr rfl

namespace Turn

/-- The turn asks for the memory of a channel and is answered with the record of that channel. -/
def Reports (turn : Turn) (record : MemoryRecord) : Prop :=
  turn.command = .readMemory record.channel ∧
    ∃ reply, turn.answer = .ok reply ∧ MemoryRecord.parse reply = .ok record

def Stores (turn : Turn) : Prop := ∃ record, turn.command = .writeMemory record

end Turn

namespace Dialogue

/-- Either only the reading took place, or it came to a record and what was written is that record
with the update laid over it. -/
theorem Conversation.changeMemory {channel : Fin 1000} {u : MemoryUpdate} {turns : List Turn}
    {result : Except Fault MemoryRecord}
    (h : (changeMemory channel u).Conversation turns result) :
    (∃ answer, turns = [⟨.readMemory channel, answer⟩]) ∨
      ∃ query write old new, turns = [query, write] ∧ query.Reports old ∧
        write.command = .writeMemory new ∧ (old.toDraft.overlay u).check = .ok new := by
  rcases Conversation.split h with ⟨why, -, asked⟩ | ⟨old, earlier, later, rfl, asked, rest⟩
  · rw [readMemory_eq, conversation_inquiry] at asked
    obtain ⟨answer, rfl, -⟩ := asked
    exact .inl ⟨answer, rfl⟩
  · rw [readMemory_eq, conversation_inquiry_ok] at asked
    obtain ⟨reply, rfl, came⟩ := asked
    rcases Conversation.split rest with
      ⟨why, -, checked⟩ | ⟨new, before, after, rfl, checked, written⟩
    · obtain ⟨rfl, -⟩ := conversation_ofExcept.mp checked
      exact .inl ⟨.ok reply, rfl⟩
    · obtain ⟨rfl, fits⟩ := conversation_ofExcept.mp checked
      rw [writeMemory_eq, conversation_inquiry] at written
      obtain ⟨echo, rfl, -⟩ := written
      obtain ⟨parsed, own⟩ := ownRecord_eq_ok.mp came
      exact .inr ⟨_, _, old, new, rfl, ⟨by rw [own], reply, rfl, parsed⟩, rfl,
        mapError_eq_ok.mp fits.symm⟩

end Dialogue

namespace Rig

open Dialogue

def turns {σ : Type} (link : Link) (port : Port σ) (r : Rig) (request : Request) (s : σ) :
    List Turn :=
  (r.perform request).turns link port s

theorem carryOut_writes {σ : Type} (link : Link) (port : Port σ) (r : Rig) (request : Request)
    (s : σ) :
    (r.carryOut link port request s).1.writes = ((r.perform request).run link port s).writes := by
  rw [carryOut_eq, Outcome.writes, Outcome.withRig_history]
  rfl

theorem asks_currentBand {May : Command → Prop} (may : May .readControl) :
    currentBand.Asks May fun _ => True :=
  Asks.bind (asks_parsed may) fun _ _ => trivial

theorem asks_currentBandOrFirst {May : Command → Prop} (may : May .readControl) :
    currentBandOrFirst.Asks May fun _ => True := by
  refine Asks.rescue (asks_currentBand may) fun why => ?_
  cases why <;> trivial

/-- Only the band control is ever asked for, and only the channels of the VFOs come of it. -/
theorem asks_channelOf {May : Command → Prop} (may : May .readControl) (vfo : Value) :
    (channelOf vfo).Asks May fun channel => channel = 998 ∨ channel = 999 := by
  refine Asks.bind (Asks.ofExcept fun _ _ => trivial) fun choice _ => ?_
  cases choice with
  | named band => exact band.channel_reserved
  | current => exact Asks.bind (asks_currentBandOrFirst may) fun band _ => band.channel_reserved

/-- The band control may be asked for first; then the memory of the VFO's channel is changed. -/
theorem Conversation.changeVfo {vfo : Value} {u : MemoryUpdate} {turns : List Turn}
    {result : Except Fault Unit} (h : (changeVfo vfo u).Conversation turns result) :
    ∃ earlier later, turns = earlier ++ later ∧ (∀ turn ∈ earlier, turn.command = .readControl) ∧
      (later = [] ∨ ∃ channel result', (changeMemory channel u).Conversation later result') := by
  have lookup : (channelOf vfo).Asks (· = .readControl)
      fun channel => channel = 998 ∨ channel = 999 := by
    refine asks_channelOf ?_ vfo
    rfl
  rcases Conversation.split h with ⟨why, -, failed⟩ | ⟨channel, earlier, later, rfl, came, rest⟩
  · exact ⟨turns, [], (List.append_nil turns).symm, (lookup.conversation failed).1, .inl rfl⟩
  · obtain ⟨result', changed, -⟩ := Conversation.of_bind_pure rest
    exact ⟨earlier, later, rfl, (lookup.conversation came).1, .inr ⟨channel, result', changed⟩⟩

theorem not_stores_of_control {turns : List Turn} (h : ∀ turn ∈ turns, turn.command = .readControl) :
    ∀ turn ∈ turns, ¬ turn.Stores := by
  rintro turn member ⟨record, same⟩
  rw [h turn member] at same
  cases same

/-- A change of a VFO either stores nothing, or stores the edited record right after the old one was
reported. -/
theorem Conversation.change {r : Rig} {vfo : Value} {change : Change} {turns : List Turn}
    {result : Except Fault (Answer × Rig)}
    (h : (r.perform (change.request vfo)).Conversation turns result) :
    ∃ earlier later, turns = earlier ++ later ∧ (∀ turn ∈ earlier, turn.command = .readControl) ∧
      (later = [] ∨ (∃ channel answer, later = [⟨.readMemory channel, answer⟩]) ∨
        ∃ query write old new, later = [query, write] ∧ query.Reports old ∧
          write.command = .writeMemory new ∧ change.Edits old new) := by
  rw [Change.perform_request] at h
  rcases h.split with ⟨why, -, refused⟩ | ⟨⟨target, u⟩, before, turns, rfl, accepted, rest⟩
  · obtain ⟨rfl, -⟩ := conversation_ofExcept.mp refused
    exact ⟨[], [], rfl, fun turn member => absurd member List.not_mem_nil, .inl rfl⟩
  · obtain ⟨rfl, prepared⟩ := conversation_ofExcept.mp accepted
    have given := (Change.prepared_eq_ok.mp prepared.symm).2
    obtain ⟨result', changed, -⟩ := Conversation.of_bind_pure rest
    obtain ⟨earlier, later, rfl, controls, none | ⟨channel, result'', said⟩⟩ :=
      Conversation.changeVfo changed
    · exact ⟨earlier, later, rfl, controls, .inl none⟩
    · refine ⟨earlier, later, rfl, controls, .inr ?_⟩
      rcases said.changeMemory with
        ⟨answer, rfl⟩ | ⟨query, write, old, new, rfl, reports, stores, fits⟩
      · exact .inl ⟨channel, answer, rfl⟩
      · exact .inr ⟨query, write, old, new, rfl, reports, stores, Change.edits_of_check given fits⟩

/-- A setter of a VFO writes at most one memory record. The turn right before asked for that very
channel and was answered with its record, and what is written is this record edited by the change;
before these two turns, at most the band control is read. If the memory is asked for and not
reported, for whatever reason, no record is written at all. On the wire stand the lines of these
turns and nothing else, each once for every attempt. -/
theorem change_stores_what_it_read {σ : Type} (link : Link) (port : Port σ) (r : Rig) (vfo : Value)
    (change : Change) (s : σ) :
    ((∀ turn ∈ r.turns link port (change.request vfo) s, ¬ turn.Stores) ∨
      ∃ earlier query write old new,
        r.turns link port (change.request vfo) s = earlier ++ [query, write] ∧
        (∀ turn ∈ earlier, turn.command = .readControl) ∧ query.Reports old ∧
        write.command = .writeMemory new ∧ change.Edits old new ∧ new.channel = old.channel) ∧
    (∀ query ∈ r.turns link port (change.request vfo) s, ∀ channel,
      query.command = .readMemory channel → (∀ old, ¬ query.Reports old) →
        ∀ turn ∈ r.turns link port (change.request vfo) s, ¬ turn.Stores) ∧
    Transmitted link (r.turns link port (change.request vfo) s)
      (r.carryOut link port (change.request vfo) s).1.writes := by
  have said := conversation_run link port (r.perform (change.request vfo)) s
  obtain ⟨earlier, later, both, controls, shape⟩ := Conversation.change said
  change r.turns link port (change.request vfo) s = earlier ++ later at both
  have silent := not_stores_of_control controls
  rw [carryOut_writes, both]
  have queried : ∀ channel answer, ∀ turn ∈ earlier ++ [⟨.readMemory channel, answer⟩],
      ¬ turn.Stores := by
    rintro channel answer turn member ⟨record, same⟩
    rcases List.mem_append.mp member with here | there
    · exact silent turn here ⟨record, same⟩
    · rw [List.mem_singleton.mp there] at same
      cases same
  refine ⟨?_, ?_, both ▸ transmitted_run link port (r.perform (change.request vfo)) s⟩
  · rcases shape with
      rfl | ⟨channel, answer, rfl⟩ | ⟨query, write, old, new, rfl, reports, stores, edits⟩
    · exact .inl (by rwa [List.append_nil])
    · exact .inl (queried channel answer)
    · exact .inr ⟨earlier, query, write, old, new, rfl, controls, reports, stores, edits,
        edits.channel_eq⟩
  · intro asked member channel asks unreported
    rcases shape with
      rfl | ⟨channel', answer, rfl⟩ | ⟨query, write, old, new, rfl, reports, stores, -⟩
    · rwa [List.append_nil]
    · exact queried channel' answer
    · rcases List.mem_append.mp member with here | there
      · rw [controls asked here] at asks
        cases asks
      · rcases List.mem_cons.mp there with rfl | last
        · exact absurd reports (unreported old)
        · rw [List.mem_singleton.mp last, stores] at asks
          cases asks

end Rig

end Transceiver
