import Transceiver.Proofs.LossyLine
import Transceiver.Proofs.Provisioning
import Transceiver.Proofs.Storing

/-! One tone at a time. A radio on which no stored record has two tones on has none after any calls of
a rig either, also over a line that loses commands; and a tone or code that was set is the only one on. -/
namespace Transceiver

open Dialogue Record Simulation

theorem Change.Edits.exclusive {change : Change} {old new : MemoryRecord} (h : change.Edits old new)
    (single : old.Exclusive) : new.Exclusive := by
  unfold MemoryRecord.Exclusive at single ⊢
  cases h with
  | frequency whole received snapped => exact single
  | mode named => exact single
  | step listed => exact single
  | shift named => exact single
  | offset whole snapped => exact single
  | noTone no => exact Nat.le_trans (by simp) single
  | noSquelchTone no => exact Nat.le_trans (by simp) single
  | noDcsCode no => exact Nat.le_trans (by simp) single
  | tone yes listed => exact Nat.le_refl 1
  | squelchTone yes listed => exact Nat.le_refl 1
  | dcsCode yes listed => exact Nat.le_refl 1

theorem MemoryRecord.exclusive_empty (channel : Fin 1000) : (MemoryRecord.empty channel).Exclusive :=
  Nat.zero_le 1

theorem accepted_eq_ok {command answer reply : String} :
    Link.accepted command answer = .ok reply ↔ isRefusal answer = false ∧ answer = reply := by
  unfold Link.accepted
  cases isRefusal answer <;> simp

namespace Simulation.Radio

/-- No stored text is told as a record with two tones on. Replies are read without the blanks around
them. -/
def Exclusive (r : Radio) : Prop :=
  ∀ key payload record, r.memories.get? key = some payload →
    MemoryRecord.parse (Text.trim ("ME " ++ payload)) = .ok record → record.Exclusive

theorem trim_payload (record : MemoryRecord) :
    Text.trim ("ME " ++ record.payload) = "ME " ++ record.payload := by
  obtain ⟨solid, more⟩ := isSolid_payload record.parse_payload
  have clear := (clear_reply (show IsSolid "ME" by decide) (by decide) solid more).2
  rwa [← line_front] at clear

theorem Exclusive.keep {r : Radio} (h : r.Exclusive) {record : MemoryRecord}
    (single : record.Exclusive) : (r.keep record).Exclusive := by
  intro key payload read held parsed
  have stored : (r.memories.put record.channel.val record.payload).get? key = some payload := held
  rw [Table.get?_put] at stored
  split at stored
  · cases stored
    rw [trim_payload, record.parse_payload] at parsed
    cases parsed
    exact single
  · exact h key payload read stored parsed

theorem Unbroken.keep {r : Radio} (unbroken : r.Unbroken) (record : MemoryRecord) :
    (r.keep record).Unbroken := by
  refine ⟨fun key payload held => ?_, unbroken.names⟩
  have stored : (r.memories.put record.channel.val record.payload).get? key = some payload := held
  rw [Table.get?_put] at stored
  split at stored
  · cases stored
    exact unended_of_printable (isSolid_payload record.parse_payload).1.isPrintable
  · exact unbroken.memories key payload stored

theorem exclusive_initial : Radio.initial.Exclusive := by
  rintro key payload record ⟨⟩

theorem unbroken_initial : Radio.initial.Unbroken := by
  constructor <;> rintro key text ⟨⟩

theorem Exclusive.serve {r : Radio} (h : r.Exclusive) {command : Command}
    (harmless : command.Spares ∨ ∃ record : MemoryRecord, record.Exclusive ∧
      command = .writeMemory record) : (r.serve command.line).2.Exclusive := by
  rcases r.serve_radio command.line with same | answered
  · rwa [same]
  · rw [answered]
    rcases harmless with spares | ⟨record, single, rfl⟩
    · unfold Exclusive
      rw [spares r]
      exact h
    · rw [r.answer_writeMemory]
      exact h.keep single

/-- An answer that is served is the radio's, without the blanks around it, and is no refusal. -/
theorem serve_eq_ok {r : Radio} {line reply : String} (h : (r.serve line).1 = .ok reply) :
    reply = Text.trim (r.answer line).1 ∧ isRefusal reply = false := by
  unfold serve at h
  cases whole : Text.CodePage.encode (line ++ terminator.toString) with
  | error u =>
      simp only [whole, reduceCtorEq] at h
  | ok bytes =>
      cases replied : Text.CodePage.encode (r.answer line).1 with
      | error u => simp only [whole, replied, reduceCtorEq] at h
      | ok answer =>
          simp only [whole, replied] at h
          obtain ⟨accepted, rfl⟩ := accepted_eq_ok.mp h
          exact ⟨rfl, accepted⟩

/-- A record that a radio reports has at most one tone on. -/
theorem Exclusive.reported {r : Radio} (h : r.Exclusive) {turn : Turn} {old : MemoryRecord}
    (reports : turn.Reports old) (answered : turn.answer = (r.serve turn.command.line).1) :
    old.Exclusive := by
  obtain ⟨asked, reply, came, parsed⟩ := reports
  rw [asked, came] at answered
  obtain ⟨told, accepted⟩ := serve_eq_ok answered.symm
  rw [answerMemory_query] at told
  cases held : r.memories.get? old.channel.val with
  | none =>
      rw [held] at told
      dsimp only at told
      rw [told] at accepted
      exact absurd accepted (by decide)
  | some payload =>
      rw [held] at told
      rw [told] at parsed
      dsimp only at parsed
      rw [← line_front] at parsed
      exact h _ payload old held parsed

theorem Hears.exclusive {r r' : Radio} {turns : List Turn} (h : r.Hears turns r')
    (harmless : ∀ turn ∈ turns, turn.command.Spares ∨ ∃ record : MemoryRecord, record.Exclusive ∧
      turn.command = .writeMemory record) (single : r.Exclusive) : r'.Exclusive := by
  induction h with
  | done r => exact single
  | lost failed later ih =>
      exact ih (fun turn member => harmless turn (List.mem_cons_of_mem _ member)) single
  | served answered later ih =>
      refine ih (fun turn member => harmless turn (List.mem_cons_of_mem _ member)) ?_
      exact single.serve (harmless _ List.mem_cons_self)

/-- What is stored right after a record was reported has at most one tone on, if storing it where the
record has does. -/
theorem Hears.exclusive_edited {r r' : Radio} {query write : Turn} {old new : MemoryRecord}
    (h : r.Hears [query, write] r') (reports : query.Reports old)
    (stores : write.command = .writeMemory new) (edited : old.Exclusive → new.Exclusive)
    (single : r.Exclusive) : r'.Exclusive := by
  obtain ⟨asked, reply, came, -⟩ := id reports
  cases h with
  | lost failed later =>
      rw [came] at failed
      cases failed
  | served answered later =>
      have spared : (r.serve query.command.line).2.Exclusive := by
        refine single.serve (.inl ?_)
        rw [asked]
        exact (Command.IsQuery.memory old.channel).spares
      refine later.exclusive (fun turn member => ?_) spared
      rw [List.mem_singleton.mp member]
      exact .inr ⟨new, edited (single.reported reports answered), stores⟩

end Simulation.Radio

namespace Rig

theorem exclusive_change {r : Rig} {vfo : Value} {change : Change} {turns : List Turn}
    {result : Except Fault (Answer × Rig)} {radio radio' : Radio}
    (said : (r.perform (change.request vfo)).Conversation turns result)
    (hears : radio.Hears turns radio') (single : radio.Exclusive) : radio'.Exclusive := by
  obtain ⟨earlier, later, rfl, controls, shape⟩ := Conversation.change said
  obtain ⟨between, first, second⟩ := hears.append
  have asked : between.Exclusive := by
    refine first.exclusive (fun turn member => .inl ?_) single
    rw [controls turn member]
    exact Command.IsQuery.control.spares
  rcases shape with
    rfl | ⟨channel, answer, rfl⟩ | ⟨query, write, old, new, rfl, reports, stores, edits⟩
  · cases second
    exact asked
  · refine second.exclusive (fun turn member => .inl ?_) asked
    rw [List.mem_singleton.mp member]
    exact (Command.IsQuery.memory channel).spares
  · exact second.exclusive_edited reports stores edits.exclusive asked

/-- Whatever a request comes to, no stored record has two tones on after it if none had before. -/
theorem exclusive_perform {r : Rig} {request : Request}
    (own : ∀ number row, request ≠ .fillMemory number row) {turns : List Turn}
    {result : Except Fault (Answer × Rig)} {radio radio' : Radio}
    (said : (r.perform request).Conversation turns result) (hears : radio.Hears turns radio')
    (single : radio.Exclusive) : radio'.Exclusive := by
  by_cases edits : ∃ vfo change, request = Change.request vfo change
  · obtain ⟨vfo, change, rfl⟩ := edits
    exact exclusive_change said hears single
  · refine hears.exclusive (fun turn member => ?_) single
    have may := ((r.asks_perform request).conversation said).1 turn member
    rcases may.spares with spares | stores
    · exact .inl spares
    · right
      obtain ⟨record, same⟩ := stores
      rw [same] at may
      cases may with
      | storeChannel free channel =>
          have accepted := (asks_doing (asks_setChannel_accepted _)).conversation said
          obtain ⟨number, record', name, -, stored, -, given | given⟩ := accepted.1 turn member
          · exact ⟨record', stored.exclusive, given⟩
          · rw [same] at given
            cases given
      | provisionVfo selects => exact ⟨_, MemoryRecord.exclusive_empty _, same⟩
      | change other reserved => exact absurd ⟨_, _, other⟩ edits
      | fill record => exact absurd rfl (own _ _)
      | ask query => cases query

/-- After any requests, successful or not, no stored record has two tones on if none had before. -/
theorem exclusive_portAfter {link : Link} (patient : 0 ≤ link.patience) {requests : List Request}
    (own : ∀ request ∈ requests, request.Plain ∧ ∀ number row, request ≠ .fillMemory number row)
    (r : Rig) {s : Bench} (idle : s.Idle) (unbroken : s.radio.Unbroken) (single : s.radio.Exclusive) :
    (r.portAfter link Bench.port requests s).radio.Exclusive := by
  induction requests generalizing r s with
  | nil => exact single
  | cons request rest ih =>
      obtain ⟨plain, other⟩ := own request List.mem_cons_self
      obtain ⟨hears, idle', unbroken'⟩ := r.hears_carryOut patient plain idle unbroken
      have said := conversation_run link Bench.port (r.perform request) s
      refine ih (fun later member => own later (List.mem_cons_of_mem request member)) _ idle'
        unbroken' ?_
      exact exclusive_perform other said hears single

end Rig

/-- The tone or code of a setting is on in the record, and no other is. -/
def Setting.Alone (which : Setting) (r : MemoryRecord) : Prop :=
  isOn r.toneOn = decide (which = .tone) ∧ isOn r.ctcssOn = decide (which = .squelchTone) ∧
    isOn r.dcsOn = decide (which = .dcsCode)

theorem Change.Edits.alone {which : Setting} {v : Value} {old new : MemoryRecord}
    (h : (Change.setting which v).Edits old new) (tonal : which ∈ Change.tonal) (yes : v.truth = true) :
    which.Alone new := by
  have on : v.truth ≠ false := by
    rw [yes]
    decide
  cases h with
  | step listed => exact absurd tonal (by decide)
  | shift named => exact absurd tonal (by decide)
  | offset whole snapped => exact absurd tonal (by decide)
  | noTone no => exact absurd no on
  | noSquelchTone no => exact absurd no on
  | noDcsCode no => exact absurd no on
  | tone yes listed => exact ⟨rfl, rfl, rfl⟩
  | squelchTone yes listed => exact ⟨rfl, rfl, rfl⟩
  | dcsCode yes listed => exact ⟨rfl, rfl, rfl⟩

namespace Dialogue

/-- A memory that was changed was reported before and stored after. -/
theorem Conversation.changeMemory_ok {channel : Fin 1000} {u : MemoryUpdate} {turns : List Turn}
    {echoed : MemoryRecord} (h : (Dialogue.changeMemory channel u).Conversation turns (.ok echoed)) :
    ∃ (old new : MemoryRecord) (reply echo : String),
      turns = [⟨.readMemory channel, .ok reply⟩, ⟨.writeMemory new, .ok echo⟩] ∧
      old.channel = channel ∧ (old.toDraft.overlay u).check = .ok new := by
  obtain ⟨old, earlier, later, rfl, asked, rest⟩ := Conversation.split_ok h
  rw [readMemory_eq, conversation_inquiry_ok] at asked
  obtain ⟨reply, rfl, known⟩ := asked
  obtain ⟨new, fits, written⟩ := Conversation.accepted rest
  rw [writeMemory_eq, conversation_inquiry_ok] at written
  obtain ⟨echo, rfl, -⟩ := written
  exact ⟨old, new, reply, echo, rfl, (ownRecord_eq_ok.mp known).2, mapError_eq_ok.mp fits⟩

/-- What is said to a radio that serves each turn comes to what it comes to without a line. -/
theorem Talks.agrees {α : Type} {d : Dialogue α} {r r' r'' : Radio} {result result' : Except Fault α}
    {turns : List Turn} (talks : d.Talks r result r') (said : d.Conversation turns result')
    (serves : r.Serves turns r'') : result' = result ∧ r'' = r' := by
  induction talks generalizing turns with
  | done value r =>
      obtain ⟨rfl, rfl⟩ := conversation_done.mp said
      cases serves
      exact ⟨rfl, rfl⟩
  | fail why r =>
      obtain ⟨rfl, rfl⟩ := conversation_fail.mp said
      cases serves
      exact ⟨rfl, rfl⟩
  | note later ih => exact ih (conversation_note.mp said) serves
  | send worded clear later ih =>
      obtain ⟨answer, rest, rfl, told⟩ := conversation_send.mp said
      have served := Radio.serve_printable worded clear
      obtain ⟨came, left⟩ := serves.cons
      rw [served] at came left
      dsimp only at came left
      rw [came] at told
      exact ih told left

end Dialogue

namespace Rig

/-- The current band is what the radio tells of it; the first band stands in for it. -/
theorem Conversation.currentBandOrFirst {turns : List Turn} {band : Band}
    (h : Rig.currentBandOrFirst.Conversation turns (.ok band)) :
    ∃ answer, turns = [⟨.readControl, answer⟩] ∧ ((∃ reply, answer = .ok reply) ∨ band = .a) := by
  rcases Conversation.rescue h with told | ⟨why, earlier, later, rfl, failed, handled⟩
  · obtain ⟨turn, control, rfl, ⟨asked, reply, came, -⟩, -⟩ := currentBand_of_ok told
    obtain ⟨command, answer⟩ := turn
    cases asked
    exact ⟨answer, rfl, .inl ⟨reply, came⟩⟩
  · obtain ⟨answer, rfl⟩ : ∃ answer, earlier = [⟨.readControl, answer⟩] := by
      obtain ⟨before, asked, -⟩ := Conversation.of_bind_pure failed
      rw [readControl_eq, conversation_inquiry] at asked
      obtain ⟨answer, one, -⟩ := asked
      exact ⟨answer, one⟩
    cases why with
    | radio fault =>
        obtain ⟨rfl, same⟩ := conversation_done.mp (conversation_note.mp handled)
        exact ⟨answer, rfl, .inr (Except.ok.inj same)⟩
    | _ => cases (conversation_fail.mp handled).2

/-- The bands that a VFO may mean where the radio is not always understood: the one that it stands for,
and the first one for a current VFO. -/
def Reaches (choice : VfoChoice) (radio : Radio) (band : Band) : Prop :=
  band = choice.band radio ∨ choice = .current ∧ band = .a

theorem reaches_of_hears {vfo : Value} {channel : Fin 1000} {turns : List Turn} {radio radio' : Radio}
    (said : (channelOf vfo).Conversation turns (.ok channel)) (hears : radio.Hears turns radio') :
    radio' = radio ∧ ∃ choice band, VfoChoice.ofValue vfo = .ok choice ∧ channel = band.channel ∧
      Reaches choice radio band := by
  obtain ⟨choice, chosen, rest⟩ := Conversation.accepted said
  cases choice with
  | named band =>
      obtain ⟨rfl, same⟩ := conversation_done.mp rest
      cases hears
      exact ⟨rfl, _, band, chosen, Except.ok.inj same, .inl rfl⟩
  | current =>
      obtain ⟨band, earlier, later, rfl, asked, ending⟩ := Conversation.split_ok rest
      obtain ⟨rfl, same⟩ := conversation_done.mp ending
      have here : channel = band.channel := Except.ok.inj same
      obtain ⟨answer, rfl, told⟩ := Conversation.currentBandOrFirst asked
      cases hears with
      | lost failed later =>
          cases later
          rcases told with ⟨reply, came⟩ | first
          · rw [came] at failed
            cases failed
          · exact ⟨rfl, _, band, chosen, here, .inr ⟨rfl, first⟩⟩
      | served answered later =>
          cases later
          obtain ⟨current, left⟩ := radio.talks_currentBandOrFirst.agrees asked
            (.turn answered (.done _))
          exact ⟨left, _, band, chosen, here, .inl (Except.ok.inj current)⟩

end Rig

namespace Simulation.Radio

theorem serve_worded {r : Radio} {line : String} (worded : IsPrintable line) :
    (r.serve line).2 = (r.answer line).2 := by
  unfold serve
  simp only [encode_line worded]
  cases Text.CodePage.encode (r.answer line).1 <;> rfl

/-- A record whose storing was answered is stored. -/
theorem Hears.stored {r r' : Radio} {query : Turn} {new : MemoryRecord} {reply echo : String}
    (h : r.Hears [query, ⟨.writeMemory new, .ok echo⟩] r') (came : query.answer = .ok reply) :
    r'.memories.get? new.channel.val = some new.payload := by
  have write : ∀ {r₀ : Radio}, r₀.Hears [⟨.writeMemory new, .ok echo⟩] r' →
      r'.memories.get? new.channel.val = some new.payload := by
    intro r₀ later
    cases later with
    | lost failed => cases failed
    | served answered done =>
        have worded : IsPrintable (Command.writeMemory new).line :=
          (wording_writeMemory new).isPrintable
        rw [done.nothing, serve_worded worded, r₀.answer_writeMemory]
        exact Table.get?_put_self _ _ _
  cases h with
  | lost failed later =>
      rw [came] at failed
      cases failed
  | served answered later => exact write later

end Simulation.Radio

namespace Rig

/-- A tone or code that was set is on in the memory of the VFO, and no other is. -/
theorem alone_of_set {r r' : Rig} {which : Setting} {vfo v : Value} {answer : Answer}
    {turns : List Turn} {radio radio' : Radio}
    (said : (r.perform (.set which vfo v)).Conversation turns (.ok (answer, r')))
    (hears : radio.Hears turns radio') (tonal : which ∈ Change.tonal) (yes : v.truth = true) :
    ∃ choice band record, VfoChoice.ofValue vfo = .ok choice ∧ Reaches choice radio band ∧
      radio'.memories.get? band.channel.val = some record.payload ∧ which.Alone record := by
  have asked : r.perform (.set which vfo v) = _ := Change.perform_request r vfo (.setting which v)
  rw [asked] at said
  obtain ⟨⟨target, u⟩, prepared, rest⟩ := Conversation.accepted said
  obtain ⟨same, accepted⟩ := Change.prepared_eq_ok.mp prepared
  obtain rfl : vfo = target := Except.ok.inj same
  obtain ⟨before, changed, came⟩ := Conversation.of_bind_pure rest
  cases before with
  | error why => cases came
  | ok done =>
      obtain ⟨channel, earlier, later, rfl, found, changed⟩ := Conversation.split_ok changed
      obtain ⟨echoed, changed⟩ := Conversation.discard changed
      obtain ⟨old, new, reply, echo, rfl, own, fits⟩ := changed.changeMemory_ok
      obtain ⟨between, first, second⟩ := hears.append
      obtain ⟨rfl, choice, band, chosen, rfl, reaches⟩ := reaches_of_hears found first
      have here : new.channel = band.channel := by
        rw [(check_overlay.mp fits).1, own]
      have stored := second.stored rfl
      rw [here] at stored
      exact ⟨choice, band, new, chosen, reaches, stored,
        (Change.edits_of_check accepted fits).alone tonal yes⟩

/-- A radio on which no stored record has two tones on has none after any requests either, whatever
commands are lost on the line. A tone or code that was set is the only one on in the VFO's memory,
whatever was on before. -/
theorem one_tone_kept {link : Link} (patient : 0 ≤ link.patience) (r : Rig) {s : Bench} (idle : s.Idle)
    (unbroken : s.radio.Unbroken) :
    (s.radio.Exclusive → ∀ requests : List Request,
      (∀ request ∈ requests, request.Plain ∧ ∀ number row, request ≠ .fillMemory number row) →
        (r.portAfter link Bench.port requests s).radio.Exclusive) ∧
    ∀ which ∈ Change.tonal, ∀ vfo v answer, v.truth = true →
      (r.carryOut link Bench.port (.set which vfo v) s).1.result = .ok answer →
        ∃ choice band record, VfoChoice.ofValue vfo = .ok choice ∧ Reaches choice s.radio band ∧
          (r.carryOut link Bench.port (.set which vfo v) s).1.port.radio.memories.get?
            band.channel.val = some record.payload ∧ which.Alone record := by
  constructor
  · intro single requests own
    exact exclusive_portAfter patient own r idle unbroken single
  · intro which tonal vfo v answer yes succeeded
    have plain : (Request.set which vfo v).Plain := trivial
    obtain ⟨hears, -⟩ := r.hears_carryOut patient plain idle unbroken
    have said := conversation_run link Bench.port (r.perform (.set which vfo v)) s
    rw [carryOut_ok succeeded] at said
    exact alone_of_set said hears tonal yes

/-- A radio with a record of the first VFO, on a line that loses its first query and its second
write. -/
def lossyBench (record : MemoryRecord) : Bench :=
  { Bench.ofRadio (Radio.initial.keep record) with
    faults := [("ME 998", [.silent, .none, .writeError])] }

/-- The record of a first VFO with all three tones on. -/
def allTones : MemoryRecord :=
  { MemoryRecord.empty Band.a.channel with
    toneOn := ⟨1, Nat.one_lt_two⟩
    ctcssOn := ⟨1, Nat.one_lt_two⟩
    dcsOn := ⟨1, Nat.one_lt_two⟩ }

theorem one_tone_kept_lossy :
    ((closed .warn).opened.portAfter ⟨8, 3, 3⟩ Bench.port
        [.set .tone (.text "VFOA") (.int 100), .selectVfo (.text "VFO"),
          .set .dcsCode (.text "VFOA") (.int 23)] (lossyBench (.empty 998))).radio.Exclusive ∧
      ¬ allTones.Exclusive ∧ ∃ record, Setting.dcsCode.Alone record ∧
        ((closed .warn).opened.carryOut ⟨8, 3, 3⟩ Bench.port (.set .dcsCode (.text "VFOA") (.int 23))
          (Bench.ofRadio (Radio.initial.keep allTones))).1.port.radio.memories.get? 998 =
            some record.payload := by
  have patient : 0 ≤ (⟨8, 3, 3⟩ : Link).patience := by decide
  have unbroken : ∀ record, (Radio.initial.keep record).Unbroken := fun record =>
    Radio.Unbroken.keep Radio.unbroken_initial record
  have idle : ∀ record, (Bench.ofRadio (Radio.initial.keep record)).Idle := fun record =>
    (Bench.quiet_ofRadio _).idle
  refine ⟨?_, by decide, ?_⟩
  · refine (one_tone_kept patient (closed .warn).opened (s := lossyBench (.empty 998))
      ⟨rfl, rfl, rfl, rfl⟩ (unbroken _)).1 ?_ _ ?_
    · exact Radio.exclusive_initial.keep (MemoryRecord.exclusive_empty 998)
    · intro request member
      simp only [List.mem_cons, List.not_mem_nil, or_false] at member
      rcases member with rfl | rfl | rfl <;> exact ⟨trivial, nofun⟩
  · have held : (Radio.initial.keep allTones).Holds .a allTones := Radio.holds_store _ rfl
    have edits : (Change.setting .dcsCode (.int 23)).Edits allTones _ :=
      .dcsCode (by decide) (show dcsIndex? (.int 23) = some 0 by decide +kernel)
    have chosen : VfoChoice.ofValue (.text "VFOA") = .ok (.named .a) := rfl
    have talks := talks_change (r := (closed .warn).opened) rfl chosen held edits
    have succeeded := (obtains_of_talks patient (Bench.quiet_ofRadio _) talks).1
    obtain ⟨choice, band, record, meant, reaches, stored, alone⟩ :=
      (one_tone_kept patient (closed .warn).opened (idle allTones) (unbroken allTones)).2 .dcsCode
        (by decide) (.text "VFOA") (.int 23) .nothing (by decide) succeeded
    obtain rfl : VfoChoice.named .a = choice := Except.ok.inj (chosen.symm.trans meant)
    rcases reaches with rfl | ⟨other, -⟩
    · exact ⟨record, alone, stored⟩
    · cases other

/-- A record of the first VFO with two tones on, and a blank after it. -/
def blankEnded : String := "998,0146500000,0,0,0,1,1,0,08,08,000,00600000,0,0000000000,0,0 "

/-- A radio that stores nothing else. -/
def twoToned : Radio := { Radio.initial with memories := ⟨[(998, blankEnded)]⟩ }

theorem eq_blankEnded {key : Int} {payload : String} (held : twoToned.memories.get? key = some payload) :
    payload = blankEnded := by
  have only : (if 998 = key then some blankEnded else none) = some payload := held
  split at only
  · exact (Option.some.inj only).symm
  · cases only

/-- A text that is no record because of a blank at its end is read as one all the same, and is stored
without the blank when another field is changed: two tones are on. -/
theorem two_tones_uncovered :
    twoToned.Unbroken ∧ (Bench.ofRadio twoToned).Quiet ∧
      (∀ key payload record, twoToned.memories.get? key = some payload →
        MemoryRecord.parse ("ME " ++ payload) = .ok record → record.Exclusive) ∧
      ∃ record radio, ¬ record.Exclusive ∧ radio.memories.get? 998 = some record.payload ∧
        MemoryRecord.parse ("ME " ++ record.payload) = .ok record ∧
        (closed .warn).opened.Obtains ⟨8, 3, 3⟩ (.setFrequency (.text "VFOA") (.int 146520000))
          (Bench.ofRadio twoToned) .nothing radio := by
  refine ⟨⟨?_, Radio.unbroken_initial.names⟩, Bench.quiet_ofRadio twoToned, ?_, ?_⟩
  · intro key payload held
    rw [eq_blankEnded held]
    decide
  · intro key payload record held parsed
    rw [eq_blankEnded held] at parsed
    have solid := (isSolid_payload parsed).1 ' ' (by decide)
    exact absurd solid (by decide)
  · obtain ⟨old, known, own, twice⟩ : ∃ old, ownRecord 998 (Text.trim ("ME" ++ " " ++ blankEnded)) =
        .ok old ∧ old.channel = 998 ∧ ¬ old.Exclusive := ⟨_, rfl, by decide⟩
    have told : (readMemory 998).Talks twoToned (.ok old) twoToned := by
      have held : twoToned.memories.get? (998 : Fin 1000).val = some blankEnded := rfl
      have talks : (inquiry (.readMemory 998) (ownRecord 998)).Talks twoToned _ twoToned :=
        Talks.inquiry_trimmed (Wording.memory (digits_channel 998)).isPrintable
          (Radio.answer_readMemory held) (by decide)
      rw [accepted_eq_ok.mpr ⟨by decide, rfl⟩] at talks
      rw [readMemory_eq, ← known]
      exact talks
    obtain ⟨new, u, accepted, fits, single⟩ : ∃ new u,
        (Change.frequency .receiving (.int 146520000)).prepared (closed .warn).opened (.text "VFOA") =
          .ok (.text "VFOA", u) ∧ (old.toDraft.overlay u).check = .ok new ∧ ¬ new.Exclusive := by
      have tuned : (Change.frequency .receiving (.int 146520000)).Edits old
          { old with freq := ⟨146520000, by decide⟩, step := (Frequency.snap 146520000).step } :=
        .frequency rfl (by decide) (by decide)
      obtain ⟨u, accepted, fits⟩ := tuned.check
      exact ⟨_, u, Change.prepared_eq_ok.mpr ⟨rfl, accepted⟩, fits, twice⟩
    have here : new.channel = 998 := by
      rw [(check_overlay.mp fits).1, own]
    have talks : ((closed .warn).opened.perform (.setFrequency (.text "VFOA") (.int 146520000))).Talks
        twoToned (.ok (.nothing, (closed .warn).opened)) (twoToned.keep new) := by
      have first : VfoChoice.ofValue (.text "VFOA") = .ok (.named .a) := rfl
      have changed : (changeVfo (.text "VFOA") u).Talks twoToned (.ok ()) (twoToned.keep new) :=
        Talks.bind (talks_channelOf first twoToned) (Talks.map (Radio.talks_changeMemory_told told fits))
      have asked := Change.perform_request (closed .warn).opened (.text "VFOA")
        (.frequency .receiving (.int 146520000))
      rw [accepted] at asked
      exact asked ▸ Talks.bind (.done _ twoToned) (Talks.map changed)
    refine ⟨new, twoToned.keep new, single, ?_, new.parse_payload,
      obtains_of_talks (by decide) (Bench.quiet_ofRadio twoToned) talks⟩
    have stored : (twoToned.keep new).memories.get? new.channel.val = some new.payload :=
      Table.get?_put_self _ _ _
    have number : ((998 : Fin 1000).val : Int) = 998 := rfl
    rw [here, number] at stored
    exact stored

end Rig

end Transceiver
