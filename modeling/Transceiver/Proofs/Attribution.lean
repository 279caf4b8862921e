import Transceiver.Proofs.Sessions
import Transceiver.Proofs.ToldNames

/-! What an answer is about. A query names a channel or a band, and so does the record that it is
answered with. Memories and busy states are compared with what was asked for. All other records are
taken for it whatever they are about. -/
namespace Transceiver

open Dialogue Record

/-- The channel or band that a record is about. -/
def AnyRecord.key? : AnyRecord → Option Nat
  | .memory record => some record.channel
  | .vfo record => some record.band.index
  | .control _ => none
  | .tuning record => some record.band.index
  | .selection record => some record.band.index
  | .name record => some record.channel
  | .busy record => some record.band.index

namespace RecordKind

/-- A valid query about a channel or a band, and the command that it is sent as. -/
inductive Query : RecordKind → Value → Nat → Command → Prop
  | memory {v} {n : Fin 1000} : v.isReal = true → v.below? 1000 = some n →
      Query .memory v n (.readMemory n)
  | name {v} {n : Fin 1000} : v.isReal = true → v.below? 1000 = some n → Query .name v n (.readName n)
  | vfo {v band} : v.isReal = true → v.below? 2 = some band.index → Query .vfo v band.index (.readVfo band)
  | tuning {v band} : v.isReal = true → v.below? 2 = some band.index →
      Query .tuning v band.index (.readTuning band)
  | selection {v band} : v.isReal = true → v.below? 2 = some band.index →
      Query .selection v band.index (.readSelection band)
  | busy {v band} : v.isReal = true → v.below? 2 = some band.index →
      Query .busy v band.index (.readBusy band)

/-- The kinds whose records are compared with what was asked for. -/
def compares : RecordKind → Bool
  | .memory | .busy => true
  | _ => false

/-- What comes of a reply to a query about the key. -/
inductive Attributed (kind : RecordKind) (key : Nat) (reply : String) : Except Fault AnyRecord → Prop
  | unread {why} : kind.parse reply = .error why → Attributed kind key reply (.error why)
  | taken {record} : kind.parse reply = .ok record → (kind.compares = true → record.key? = some key) →
      Attributed kind key reply (.ok record)
  | foreign {record fault} : kind.parse reply = .ok record → kind.compares = true →
      record.key? ≠ some key → fault.kind = .rejected → Attributed kind key reply (.error (.radio fault))

/-- What a query owes where the reply holds a record: nothing about another key is taken, and if the
record is about another one, that is refused. -/
def Faithful (key : Nat) (record : AnyRecord) (result : Except Fault AnyRecord) : Prop :=
  (∀ taken, result = .ok taken → taken.key? = some key) ∧
    (record.key? ≠ some key → ∃ fault, result = .error (.radio fault) ∧ fault.kind = .rejected)

end RecordKind

namespace Dialogue

variable {α β : Type}

theorem Conversation.asked {command : Command} {meaning : String → Except Fault α}
    {next : α → Dialogue β} {turns : List Turn} {b : β}
    (h : (inquiry command meaning >>= next).Conversation turns (.ok b)) :
    ∃ reply a later, turns = ⟨command, .ok reply⟩ :: later ∧ meaning reply = .ok a ∧
      (next a).Conversation later (.ok b) := by
  obtain ⟨a, earlier, later, rfl, first, second⟩ := h.split_ok
  obtain ⟨reply, rfl, made⟩ := conversation_inquiry_ok.mp first
  exact ⟨reply, a, later, rfl, made, second⟩

theorem readSelection_eq (band : Band) :
    readSelection band = inquiry (.readSelection band) MemorySelection.parse :=
  ask_bind_eq (.readSelection band) MemorySelection.parse

theorem readBusy_eq (band : Band) :
    readBusy band = inquiry (.readBusy band) fun reply =>
      BusyState.parse reply >>= compared BusyState.band band (.otherBand band) :=
  ask_compared_eq _ _ _ _ _

theorem inquiry_wrap {d : Dialogue α} {command : Command} {meaning : String → Except Fault α}
    {wrap : α → β} (asked : d = inquiry command meaning) :
    (d >>= fun a => pure (wrap a)) = inquiry command fun reply => wrap <$> meaning reply := by
  subst asked
  exact inquiry_bind command meaning fun _ => rfl

end Dialogue

namespace RecordKind

variable {kind : RecordKind} {v : Value} {key : Nat} {command : Command} {reply : String}

theorem attributed_parse (plain : kind.compares = false) : Attributed kind key reply (kind.parse reply) := by
  cases read : kind.parse reply with
  | error why => exact .unread read
  | ok record =>
      refine .taken read fun compares => ?_
      rw [plain] at compares
      cases compares

theorem attributed_compared {α κ : Type} [DecidableEq κ] {key : α → κ} {asked : κ}
    {other : κ → RadioFault} {e : Except Fault α} {wrap : α → AnyRecord} {n : Nat}
    (parsed : kind.parse reply = wrap <$> e) (compares : kind.compares = true)
    (about : ∀ record, (wrap record).key? = some n ↔ key record = asked)
    (refused : ∀ found, (other found).kind = .rejected) :
    Attributed kind n reply (wrap <$> (e >>= compared key asked other)) := by
  cases e with
  | error why => exact .unread parsed
  | ok record =>
      change Attributed kind n reply (wrap <$> compared key asked other record)
      unfold compared
      split
      · rename_i own
        exact .taken parsed fun _ => (about record).mpr own
      · rename_i foreign
        exact .foreign parsed compares (foreign ∘ (about record).mp) (refused _)

theorem attributed_memory (channel : Fin 1000) :
    Attributed .memory channel reply (AnyRecord.memory <$> ownRecord channel reply) := by
  rw [ownRecord_eq]
  refine attributed_compared rfl rfl (fun record => ?_) fun found => rfl
  exact Option.some_inj.trans Fin.ext_iff.symm

theorem attributed_busy (band : Band) :
    Attributed .busy band.index reply
      (AnyRecord.busy <$> (BusyState.parse reply >>= compared BusyState.band band (.otherBand band))) := by
  refine attributed_compared rfl rfl (fun state => ?_) fun found => rfl
  exact Option.some_inj.trans (Fin.ext_iff.symm.trans Band.index_inj)

/-- A query is faithful where keys are compared, and else only as far as the radio is. -/
theorem Attributed.faithful_iff {record : AnyRecord} {result : Except Fault AnyRecord}
    (h : Attributed kind key reply result) (parsed : kind.parse reply = .ok record) :
    Faithful key record result ↔ kind.compares = true ∨ record.key? = some key := by
  cases h with
  | unread failed => cases parsed.symm.trans failed
  | @taken own read about =>
      obtain rfl : own = record := Except.ok.inj (read.symm.trans parsed)
      constructor
      · rintro ⟨taken, -⟩
        exact .inr (taken own rfl)
      · intro h
        have same : own.key? = some key := h.elim about id
        refine ⟨?_, fun other => absurd same other⟩
        rintro _ ⟨⟩
        exact same
  | foreign read compares other rejected =>
      refine ⟨fun _ => .inl compares, fun _ => ⟨?_, fun _ => ⟨_, rfl, rejected⟩⟩⟩
      rintro _ ⟨⟩

/-- A query is one command, and what comes of it is said by the reply. -/
theorem Query.exists_meaning (query : Query kind v key command) :
    ∃ meaning, readAny kind [v] = inquiry command meaning ∧
      ∀ reply, Attributed kind key reply (meaning reply) := by
  cases query with
  | memory real valid =>
      refine ⟨_, ?_, fun reply => attributed_memory _⟩
      exact (settled_eq (namedChannel_eq_ok.mpr ⟨valid, real⟩)).trans
        (inquiry_wrap (readMemory_eq _))
  | name real valid =>
      refine ⟨RecordKind.name.parse, ?_, fun reply => attributed_parse rfl⟩
      exact (settled_eq (namedChannel_eq_ok.mpr ⟨valid, real⟩)).trans
        (inquiry_wrap (readName_eq _))
  | vfo real valid =>
      refine ⟨RecordKind.vfo.parse, ?_, fun reply => attributed_parse rfl⟩
      exact (settled_eq (namedBand_eq_ok.mpr ⟨valid, real⟩)).trans
        (inquiry_wrap (ask_bind_eq _ _))
  | tuning real valid =>
      refine ⟨RecordKind.tuning.parse, ?_, fun reply => attributed_parse rfl⟩
      exact (settled_eq (namedBand_eq_ok.mpr ⟨valid, real⟩)).trans
        (inquiry_wrap (ask_bind_eq _ _))
  | selection real valid =>
      refine ⟨RecordKind.selection.parse, ?_, fun reply => attributed_parse rfl⟩
      exact (settled_eq (namedBand_eq_ok.mpr ⟨valid, real⟩)).trans
        (inquiry_wrap (ask_bind_eq _ _))
  | busy real valid =>
      refine ⟨_, ?_, fun reply => attributed_busy _⟩
      exact (settled_eq (namedBand_eq_ok.mpr ⟨valid, real⟩)).trans
        (inquiry_wrap (readBusy_eq _))

end RecordKind

namespace Rig

variable {turns : List Turn}

/-- The channel that is reported for a VFO is the one in the reply, whichever band that is about. -/
theorem conversation_memory {vfo : Value} {channel : Fin 1000} :
    (memory vfo).Conversation turns (.ok channel) ↔
      ∃ earlier band reply selection, turns = earlier ++ [⟨.readSelection band, .ok reply⟩] ∧
        (bandOf vfo).Conversation earlier (.ok band) ∧ MemorySelection.parse reply = .ok selection ∧
        selection.channel = channel := by
  constructor
  · intro h
    obtain ⟨band, earlier, later, rfl, resolved, rest⟩ := h.split_ok
    rw [readSelection_eq] at rest
    obtain ⟨reply, selection, later, rfl, told, rest⟩ := rest.asked
    obtain ⟨rfl, same⟩ := conversation_done.mp rest
    exact ⟨earlier, band, reply, selection, rfl, resolved, told, (Except.ok.inj same).symm⟩
  · rintro ⟨earlier, band, reply, selection, rfl, resolved, told, rfl⟩
    exact resolved.bind ((conversation_told (readSelection_eq band) told).mpr (.done _))

/-- The same goes for the VFO that is reported as selected. -/
theorem conversation_selectedVfo {vfo : String} :
    selectedVfo.Conversation turns (.ok vfo) ↔
      ∃ earlier band reply selection, turns = earlier ++ [⟨.readSelection band, .ok reply⟩] ∧
        currentBand.Conversation earlier (.ok band) ∧ MemorySelection.parse reply = .ok selection ∧
        ((Band.ofChannel? selection.channel).map Band.vfo).getD "MEM" = vfo := by
  constructor
  · intro h
    obtain ⟨band, earlier, later, rfl, resolved, rest⟩ := h.split_ok
    rw [readSelection_eq] at rest
    obtain ⟨reply, selection, later, rfl, told, rest⟩ := rest.asked
    obtain ⟨rfl, same⟩ := conversation_done.mp (conversation_note.mp rest)
    exact ⟨earlier, band, reply, selection, rfl, resolved, told, (Except.ok.inj same).symm⟩
  · rintro ⟨earlier, band, reply, selection, rfl, resolved, told, rfl⟩
    refine resolved.bind ((conversation_told (readSelection_eq band) told).mpr ?_)
    exact .note (.done _)

/-- A channel is made of a record about its own number, and of whatever name was told. -/
theorem conversation_getChannel_ok {number : Fin 1000} {c : Channel} :
    (getChannel (.ofNat number)).Conversation turns (.ok c) ↔
      ∃ content record shift reply told,
        turns = [⟨.readMemory number, .ok content⟩, ⟨.readName number, .ok reply⟩] ∧
        MemoryRecord.parse content = .ok record ∧ record.channel = number ∧
        Shift.ofRecord record = .ok shift ∧ MemoryName.parse reply = .ok told ∧
        isName told.name = true ∧ Channel.recalled (.ofNat number) record shift told.name = c := by
  constructor
  · intro said
    obtain ⟨n, numbered, h⟩ := Conversation.accepted said
    obtain rfl : n = number := by
      have same := (checkNumber_eq_ok.mp (mapError_eq_ok.mp numbered)).symm
      exact Fin.ext (Int.ofNat_inj.mp (Option.some.inj same))
    rw [readMemory_eq] at h
    obtain ⟨content, record, later, rfl, held, h⟩ := h.asked
    obtain ⟨held, own⟩ := ownRecord_eq_ok.mp held
    obtain ⟨made, -, h⟩ := Conversation.accepted h
    obtain ⟨shift, shifted, h⟩ := Conversation.accepted h
    have shifted := mapError_eq_ok.mp shifted
    rw [readName_eq] at h
    obtain ⟨reply, told, later, rfl, named, h⟩ := h.asked
    obtain ⟨rfl, -⟩ := conversation_ofExcept.mp h
    have result := (conversation_getChannel held own shifted named).mp said
    by_cases valid : isName told.name = true
    · rw [if_pos valid] at result
      exact ⟨content, record, shift, reply, told, rfl, held, own, shifted, named, valid,
        (Except.ok.inj result).symm⟩
    · rw [if_neg valid] at result
      cases result
  · rintro ⟨content, record, shift, reply, told, rfl, held, own, shifted, named, valid, rfl⟩
    exact (conversation_getChannel held own shifted named).mpr (if_pos valid).symm

end Rig

/-- A query about a channel or a band is one command, and what comes of it is said by the reply. A
memory or a busy state is never taken for another one; any other record is taken for the one that was
asked for, so the query is faithful only if the reply is. What is reported of a band's channel, of the
selected VFO and of a channel's name is what the reply says, whatever it is about. -/
theorem queries_attribute {kind : RecordKind} {v : Value} {key : Nat} {command : Command}
    (query : RecordKind.Query kind v key command) :
    (∀ answer, ∃ result, (readAny kind [v]).Conversation [⟨command, answer⟩] result) ∧
      (∀ turns result, (readAny kind [v]).Conversation turns result →
        ∃ answer, turns = [⟨command, answer⟩] ∧ (∀ why, answer = .error why → result = .error why) ∧
          ∀ reply, answer = .ok reply → kind.Attributed key reply result ∧
            ∀ record, kind.parse reply = .ok record →
              (RecordKind.Faithful key record result ↔ kind.compares = true ∨ record.key? = some key)) ∧
      (∀ vfo channel turns, (Rig.memory vfo).Conversation turns (.ok channel) ↔
        ∃ earlier band reply selection, turns = earlier ++ [⟨.readSelection band, .ok reply⟩] ∧
          (Rig.bandOf vfo).Conversation earlier (.ok band) ∧ MemorySelection.parse reply = .ok selection ∧
          selection.channel = channel) ∧
      (∀ vfo turns, Rig.selectedVfo.Conversation turns (.ok vfo) ↔
        ∃ earlier band reply selection, turns = earlier ++ [⟨.readSelection band, .ok reply⟩] ∧
          Rig.currentBand.Conversation earlier (.ok band) ∧ MemorySelection.parse reply = .ok selection ∧
          ((Band.ofChannel? selection.channel).map Band.vfo).getD "MEM" = vfo) ∧
      ∀ (number : Fin 1000) c turns, (Rig.getChannel (.ofNat number)).Conversation turns (.ok c) ↔
        ∃ content record shift reply told,
          turns = [⟨.readMemory number, .ok content⟩, ⟨.readName number, .ok reply⟩] ∧
          MemoryRecord.parse content = .ok record ∧ record.channel = number ∧
          Shift.ofRecord record = .ok shift ∧ MemoryName.parse reply = .ok told ∧
          isName told.name = true ∧ Channel.recalled (.ofNat number) record shift told.name = c := by
  obtain ⟨meaning, asked, attributed⟩ := query.exists_meaning
  refine ⟨fun answer => ?_, fun turns result said => ?_, fun _ _ _ => Rig.conversation_memory,
    fun _ _ => Rig.conversation_selectedVfo, fun _ _ _ => Rig.conversation_getChannel_ok⟩
  · rw [asked]
    exact ⟨_, conversation_inquiry.mpr ⟨answer, rfl, rfl⟩⟩
  · rw [asked] at said
    obtain ⟨answer, rfl, rfl⟩ := conversation_inquiry.mp said
    refine ⟨answer, rfl, ?_, ?_⟩
    · rintro why rfl
      rfl
    · rintro reply rfl
      exact ⟨attributed reply, fun record parsed => (attributed reply).faithful_iff parsed⟩

theorem queries_attribute_busy : RecordKind.Query .busy (.int 0) 0 (.readBusy .a) ∧
    ∃ fault, (readAny .busy [.int 0]).Conversation [⟨.readBusy .a, .ok "BY 1,0"⟩]
      (.error (.radio fault)) ∧ fault.kind = .rejected := by
  have query : RecordKind.Query .busy (.int 0) 0 (.readBusy .a) :=
    @RecordKind.Query.busy (.int 0) .a rfl rfl
  have parsed : RecordKind.busy.parse "BY 1,0" = .ok (.busy ⟨.b, ⟨0, by decide⟩⟩) := by rfl
  obtain ⟨some, only, -⟩ := queries_attribute query
  obtain ⟨result, said⟩ := some (.ok "BY 1,0")
  obtain ⟨answer, same, -, replied⟩ := only _ result said
  cases same
  obtain ⟨-, refused⟩ := ((replied "BY 1,0" rfl).2 _ parsed).mpr (.inl rfl)
  obtain ⟨fault, rfl, rejected⟩ := refused nofun
  exact ⟨query, fault, said, rejected⟩

/-- Asked for the first band, the radio tells of the second, and that is reported for the first. -/
theorem other_band_reported : ∃ selection, MemorySelection.parse "MR 1,005" = .ok selection ∧
    selection.band = .b ∧
    (readAny .selection [.int 0]).Conversation [⟨.readSelection .a, .ok "MR 1,005"⟩]
      (.ok (.selection selection)) ∧
    (Rig.memory (.text "VFOA")).Conversation [⟨.readSelection .a, .ok "MR 1,005"⟩]
      (.ok selection.channel) := by
  have told : MemorySelection.parse "MR 1,005" = .ok ⟨.b, ⟨5, by decide⟩⟩ := by rfl
  refine ⟨_, told, rfl, ?_, ?_⟩
  · refine (conversation_settled (by rfl)).mpr ?_
    exact (conversation_told (readSelection_eq .a) told).mpr (.done _)
  · exact Rig.conversation_memory.mpr ⟨[], .a, "MR 1,005", _, rfl, .done _, told, rfl⟩

end Transceiver
