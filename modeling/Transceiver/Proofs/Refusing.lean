import Transceiver.Proofs.Failing
import Transceiver.Proofs.ToneExclusion

/-! Arguments are refused first. A request that is refused for an argument has written nothing, and rig
and port are as they were, unless an offset was set or a channel was given a name that the wire cannot
spell. -/
namespace Transceiver

open Dialogue Record Simulation

/-- Where the name of a channel is sent as it is printed, the wire can spell that. -/
def Request.Spellable : Request → Prop
  | .setChannel c => ∀ pieces, checkSentName (c.value .name) = .ok (.pieces pieces) →
      ∃ bytes, Text.CodePage.encode pieces.quoted = .ok bytes
  | _ => True

/-- Each character of the text can be spelled. -/
def IsSpelled (s : String) : Prop := ∀ c ∈ s.toList, (Text.CodePage.encodeChar c).isSome = true

theorem IsPrintable.isSpelled {s : String} (h : IsPrintable s) : IsSpelled s := by
  intro c member
  have range := h c member
  rw [Text.CodePage.encodeChar_of_ascii (by omega)]
  rfl

theorem isSpelled_lineText {name : String} {fields : List String} (front : IsSpelled name)
    (rest : ∀ field ∈ fields, IsSpelled field) : IsSpelled (lineText name fields) := by
  intro c member
  rcases mem_lineText member with here | rfl | rfl | ⟨field, inside, found⟩
  · exact front c here
  · rfl
  · rfl
  · exact rest field inside c found

theorem Command.exists_bytes {command : Command} (h : IsSpelled command.line) :
    ∃ bytes, command.bytes = .ok bytes := by
  refine Text.CodePage.exists_encodeFrom.mpr fun c member => ?_
  rw [String.toList_append] at member
  rcases List.mem_append.mp member with inside | ending
  · exact h c inside
  · rw [List.mem_singleton.mp ending]
    rfl

theorem Command.unspelled_of_mem {command : Command} {c : Char} (inside : c ∈ command.line.toList)
    (foreign : Text.CodePage.encodeChar c = none) : ∃ u, command.bytes = .error u := by
  cases spelled : command.bytes with
  | error u => exact ⟨u, rfl⟩
  | ok bytes =>
      have known := Text.CodePage.exists_encodeFrom.mp ⟨bytes, spelled⟩ c (by
        rw [String.toList_append]
        exact List.mem_append_left _ inside)
      rw [foreign] at known
      cases known

theorem Request.May.spelled {request : Request} {command : Command} (may : request.May command)
    (spellable : request.Spellable) : ∃ bytes, command.bytes = .ok bytes := by
  rcases may.wording_or_name with worded | ⟨c, number, name, rfl, rfl, checked⟩
  · exact Command.exists_bytes worded.isPrintable.isSpelled
  · have spelled : IsSpelled name.text := by
      cases name with
      | storable name => exact IsPrintable.isSpelled fun c member => (isField_name name.property c member).1
      | pieces pieces => exact Text.CodePage.exists_encodeFrom.mp (spellable pieces checked)
    refine Command.exists_bytes (isSpelled_lineText (IsPrintable.isSpelled (by decide)) fun field member => ?_)
    rcases List.mem_cons.mp member with rfl | member
    · exact IsPrintable.isSpelled fun c inside => (isField_digits (digits_channel number) c inside).1
    · rw [List.mem_singleton.mp member]
      exact spelled

section
variable {σ : Type} {link : Link} {port : Port σ}

/-- A command that can be spelled is not refused on its way. -/
theorem attempt_unrefused {patience : Int} {command : String} {s : σ} {bytes : List UInt8}
    (spelled : Text.CodePage.encode (command ++ terminator.toString) = .ok bytes)
    (refusal : ArgumentFault) :
    (port.attempt patience command s).result ≠ .error (.argument refusal) := by
  have came := attempted port patience command s
  generalize port.attempt patience command s = o at came
  cases came with
  | unspelled unspelled =>
      rw [spelled] at unspelled
      cases unspelled
  | @unwritten bytes why s' spelled sent => cases why <;> rintro ⟨⟩
  | unanswered spelled sent collected =>
      intro failed
      rcases collect_fault ((congrArg Prod.fst collected).trans failed) with
        same | ⟨reason, same⟩ | same <;> cases same
  | answered spelled sent collected => rintro ⟨⟩

theorem exchange_unrefused {command : String} {s : σ} {bytes : List UInt8}
    (spelled : Text.CodePage.encode (command ++ terminator.toString) = .ok bytes)
    (refusal : ArgumentFault) :
    (link.exchange port command s).result ≠ .error (.argument refusal) := by
  intro failed
  obtain ⟨last, unanswered | ⟨reply, -, -, same⟩⟩ | unannounced := exchange_failed failed
  · exact attempt_unrefused spelled refusal unanswered
  · cases same
  · rcases Rate.wholeText_fault unannounced with same | same <;> cases same

/-- Where nothing was said, nothing was written and the port is as it was. -/
theorem run_of_unsaid {α : Type} {d : Dialogue α} {s : σ} (unsaid : d.turns link port s = []) :
    (d.run link port s).writes = [] ∧ (d.run link port s).port = s := by
  constructor
  · have sent := transmitted_run link port d s
    rw [unsaid] at sent
    exact sent.nothing
  · induction d with
    | done value => rfl
    | fail why => rfl
    | note record rest ih => exact ih unsaid
    | send command rest ih => cases unsaid

/-- A dialogue ends at a command that cannot be spelled, and nothing of it is written. -/
theorem run_unspelled {α β : Type} {command : Command} {meaning : String → Except Fault α}
    {next : α → Dialogue β} {u : Text.CodePage.Unspellable} (unspelled : command.bytes = .error u)
    (s : σ) :
    (∃ refusal, ((inquiry command meaning >>= next).run link port s).result =
        .error (.argument refusal)) ∧
      ((inquiry command meaning >>= next).run link port s).writes = [] ∧
      ((inquiry command meaning >>= next).run link port s).port = s := by
  obtain ⟨same, silent, refusal, failed⟩ := exchange_unspelled link port unspelled s
  have ended : (inquiry command meaning >>= next).run link port s =
      Outcome.after (link.exchange port command.line s).history
        ⟨.error (.argument refusal), [], (link.exchange port command.line s).port⟩ := by
    rw [run_inquiry, failed]
    rfl
  rw [ended, same]
  refine ⟨⟨refusal, rfl⟩, ?_, rfl⟩
  rw [Outcome.writes_after]
  exact (List.append_nil _).trans silent

end

namespace Rig

variable {σ : Type}

/-- What is refused for an argument is refused before anything is said. -/
theorem unsaid_of_refused {link : Link} {port : Port σ} {r : Rig} {request : Request} {s : σ}
    (spellable : request.Spellable) (own : ∀ number row, request ≠ .fillMemory number row)
    (fixed : ∀ vfo v, request ≠ .set .offset vfo v) {refusal : ArgumentFault}
    (refused : ((r.perform request).run link port s).result = .error (.argument refusal)) :
    (r.perform request).turns link port s = [] := by
  have said := conversation_run link port (r.perform request) s
  rw [refused] at said
  rcases fault_of_conversation own said with ⟨unsaid, -⟩ | late
  · exact unsaid
  · cases late with
    | brought came =>
        obtain ⟨turn, member, answered⟩ := came
        obtain ⟨found, exchanged⟩ := exchanged_of_mem member
        have may := ((r.asks_perform request).conversation said).1 turn member
        obtain ⟨bytes, spelled⟩ := may.spelled spellable
        exact absurd (exchanged.symm.trans answered) (exchange_unrefused spelled refusal)
    | offset same => exact absurd same (fixed _ _)

/-- A request that is refused for an argument has written nothing, and rig and port are as before. What
is written to store a channel is written after its number, each of its values and its name were
accepted. -/
theorem refused_unsent (link : Link) (port : Port σ) (r : Rig) (s : σ) :
    (∀ request : Request, request.Spellable → (∀ number row, request ≠ .fillMemory number row) →
      (∀ vfo v, request ≠ .set .offset vfo v) → ∀ refusal,
        (r.carryOut link port request s).1.result = .error (.argument refusal) →
          (r.carryOut link port request s).1.writes = [] ∧
          (r.carryOut link port request s).1.port = s ∧ (r.carryOut link port request s).2 = r) ∧
    ∀ c : Channel, (r.carryOut link port (.setChannel c) s).1.writes ≠ [] →
      ∃ number record name, Unreserved (c.value .number) number ∧ c.StoredAs record ∧
        checkSentName (c.value .name) = .ok name := by
  constructor
  · intro request spellable own fixed refusal refused
    have unsaid := unsaid_of_refused spellable own fixed (run_of_carryOut_error refused)
    rw [carryOut_writes, carryOut_port]
    exact ⟨(run_of_unsaid unsaid).1, (run_of_unsaid unsaid).2, carryOut_error refused⟩
  · intro c written
    rw [carryOut_writes] at written
    obtain ⟨bytes, member⟩ := List.exists_mem_of_ne_nil _ written
    obtain ⟨turn, said, -⟩ := (transmitted_run link port (r.perform (.setChannel c)) s).mem_bytes member
    have accepted := (asks_doing (asks_setChannel_accepted c)).conversation
      (conversation_run link port (r.perform (.setChannel c)) s)
    obtain ⟨number, record, name, free, stored, named, -⟩ := accepted.1 turn said
    exact ⟨number, record, name, free, stored, named⟩

/-- A channel for the memory of a VFO, with pieces for a name, both given unchecked. -/
def reservedChannel : Channel :=
  (((Channel.blank.store .number (.int 5)).store .name (.text "")).store .number (.int 998)).store .name
    (.list [.text "AB"])

theorem refused_unsent_reserved :
    Channel.build (.int 5) (.text "") [] [("number", .int 998), ("name", .list [.text "AB"])] =
        .ok reservedChannel ∧
      ((closed .warn).opened.carryOut ⟨8, 3, 3⟩ Bench.port (.setChannel reservedChannel)
        .initial).1.result = .error (.argument (.reserved 998 .a)) ∧
      ((closed .warn).opened.carryOut ⟨8, 3, 3⟩ Bench.port (.setChannel reservedChannel)
        .initial).1.writes = [] ∧
      ∃ c record, Channel.build (.int 5) (.text "AB") [] [] = .ok c ∧
        ((closed .warn).opened.carryOut ⟨8, 3, 3⟩ Bench.port (.setChannel c) .initial).1.writes ≠ [] ∧
        c.StoredAs record := by
  have patient : 0 ≤ (⟨8, 3, 3⟩ : Link).patience := by decide
  have spellable : (Request.setChannel reservedChannel).Spellable := by
    intro pieces named
    obtain rfl := pieces_of_checkSentName named
    exact ⟨_, rfl⟩
  obtain ⟨costless, checked⟩ := refused_unsent ⟨8, 3, 3⟩ Bench.port (closed .warn).opened .initial
  obtain ⟨silent, -, -⟩ :=
    costless (.setChannel reservedChannel) spellable (by rintro _ _ ⟨⟩) (by rintro _ _ ⟨⟩) _ rfl
  refine ⟨rfl, rfl, silent, ?_⟩
  have short : isName "AB" = true := by decide
  obtain ⟨record, stored⟩ := Channel.exists_storedAs_make 5 short
  obtain ⟨name, named⟩ : ∃ name : StorableName, Value.text "AB" = .text name.val :=
    ⟨⟨"AB", by decide⟩, rfl⟩
  have own : record.channel = 5 := stored.channel_eq rfl
  have free : Unreserved (.int 5) record.channel := own ▸ ⟨rfl, by decide⟩
  have speaks := speaks_setChannel (closed .warn).opened .initial free stored named
  have written := (achieves_of_speaks patient (Bench.quiet_ofRadio .initial) speaks).writes
  have sent : ((closed .warn).opened.carryOut ⟨8, 3, 3⟩ Bench.port (.setChannel
      ((Channel.blank.store .number (.int 5)).store .name (.text "AB"))) (Bench.ofRadio .initial)).1.writes ≠
        [] := by
    intro unsent
    cases written.symm.trans unsent
  obtain ⟨number, record', other, -, accepted, -⟩ := checked _ sent
  exact ⟨_, record', rfl, sent, accepted⟩

/-- A name that the wire cannot spell is refused after the record of its channel was stored. -/
theorem half_stored {link : Link} (patient : 0 ≤ link.patience) (r : Rig) {s : Bench} (quiet : s.Quiet)
    {c : Channel} {number : Fin 1000} {record : MemoryRecord} {name : SentName}
    {u : Text.CodePage.Unspellable} (free : Unreserved (c.value .number) number)
    (stored : c.StoredAs record) (named : checkSentName (c.value .name) = .ok name)
    (spelt : name.written = .ok name) (unspelled : (Command.writeName number name).bytes = .error u) :
    ∃ refusal, (r.carryOut link Bench.port (.setChannel c) s).1.result = .error (.argument refusal) ∧
      (r.carryOut link Bench.port (.setChannel c) s).1.writes = [(Command.writeMemory record).sent] ∧
      (r.carryOut link Bench.port (.setChannel c) s).1.port.radio = s.radio.keep record := by
  obtain ⟨result, radio, -, writes⟩ := (s.radio.speaks_writeMemory record).run patient quiet rfl
  have said : (r.perform (.setChannel c)).run link Bench.port s = _ :=
    r.perform_setChannel_eq free stored named spelt ▸ run_bind_ok result
  obtain ⟨⟨refusal, refused⟩, silent, kept⟩ :=
    run_unspelled unspelled ((writeMemory record).run link Bench.port s).port
  refine ⟨refusal, ?_, ?_, ?_⟩
  · have failed : ((r.perform (.setChannel c)).run link Bench.port s).result = .error (.argument refusal) := by
      rw [said, Outcome.after, refused]
    rw [carryOut_eq, Outcome.withRig_error failed]
  · rw [carryOut_writes, said, Outcome.writes_after, silent, List.append_nil]
    exact writes
  · rw [carryOut_port, said, Outcome.after, kept]
    exact radio

/-- The letter in the name is no character of the wire, and is found only after the record was stored. -/
theorem half_stored_foreign :
    ∃ c refusal record,
      Channel.build (.int 5) (.text "") [] [("name", .table ["A"] [.text "日"])] = .ok c ∧
      ((closed .warn).opened.carryOut ⟨8, 3, 3⟩ Bench.port (.setChannel c) .initial).1.result =
        .error (.argument refusal) ∧
      ((closed .warn).opened.carryOut ⟨8, 3, 3⟩ Bench.port (.setChannel c) .initial).1.writes =
        [(Command.writeMemory record).sent] ∧
      ((closed .warn).opened.carryOut ⟨8, 3, 3⟩ Bench.port (.setChannel c)
        .initial).1.port.radio.memories.get? 5 = some record.payload := by
  have empty : isName "" = true := by decide
  obtain ⟨record, stored⟩ := Channel.exists_storedAs_make 5 empty
  have own : record.channel = 5 := stored.channel_eq rfl
  have free : Unreserved (.int 5) 5 := ⟨rfl, by decide, by decide⟩
  have renamed := stored.rename (.table ["A"] [.text "日"])
  have patient : 0 ≤ (⟨8, 3, 3⟩ : Link).patience := by decide
  have named : checkSentName (.table ["A"] [.text "日"]) =
      .ok (.pieces (.table ["A"] [.text "日"])) := rfl
  have quoted : '日' ∈ (Text.quoted "日").toList :=
    Text.mem_quoted (Text.isPrintable_of_outside (by decide) (by decide +kernel)) (by decide)
  have printed : '日' ∈ (Value.table ["A"] [.text "日"]).quoted.toList := by
    simp only [Value.quoted, Value.quotedEntries, String.toList_append, List.mem_append]
    exact .inl (.inr (.inl (.inl (.inr quoted))))
  have inside : '日' ∈ (Command.writeName 5 (.pieces (.table ["A"] [.text "日"]))).line.toList := by
    simp only [Command.line, lineText, Text.join, String.toList_append, List.mem_append]
    exact .inr (.inr printed)
  obtain ⟨u, unspelled⟩ := Command.unspelled_of_mem inside (by decide)
  obtain ⟨refusal, refused, writes, radio⟩ := half_stored patient (closed .warn).opened
    (Bench.quiet_ofRadio .initial) free renamed named rfl unspelled
  refine ⟨_, refusal, record, rfl, refused, writes, ?_⟩
  have held : (Radio.initial.keep record).memories.get? record.channel.val = some record.payload :=
    Table.get?_put_self _ _ _
  rw [own] at held
  exact radio ▸ held

end Rig

end Transceiver
