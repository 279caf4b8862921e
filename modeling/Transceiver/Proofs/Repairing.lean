import Transceiver.Proofs.InnerLines
import Transceiver.Proofs.Resuming

/-! Repairing a failed request by making it again. What was done of it the first time is done again and
makes no difference, whether the radio heard a command that stayed unanswered or not. -/
namespace Transceiver

open Dialogue Record Simulation

namespace Simulation

/-- What is served of a line is what is answered to it. -/
theorem Radio.serve_congr {r r' : Radio} {line : String} (same : (r'.answer line).1 = (r.answer line).1) :
    (r'.serve line).1 = (r.serve line).1 := by
  unfold serve
  dsimp only
  rw [same]
  split
  · rfl
  · split <;> rfl

end Simulation

namespace Dialogue

section
variable {channel : Fin 1000} {r r' : Radio}

/-- Asking for a memory leaves the radio as it is. -/
theorem serve_readMemory (r : Radio) (channel : Fin 1000) :
    (r.serve (Command.readMemory channel).line).2 = r := by
  rcases r.serve_radio (Command.readMemory channel).line with same | answered
  · exact same
  · rw [answered, r.answerMemory_query]
    split <;> rfl

theorem held_readMemory (channel : Fin 1000) (r : Radio) :
    (readMemory channel).held r =
      ((r.serve (Command.readMemory channel).line).1.bind (ownRecord channel), r) := by
  rw [readMemory_eq, held_inquiry, serve_readMemory]

theorem Suffers.of_readMemory {result : Except Fault MemoryRecord}
    (h : (readMemory channel).Suffers r result r') : r' = r ∧
      ((readMemory channel).held r = (result, r) ∨ ∃ why : Fault, why.Unrejected ∧ result = .error why) := by
  rw [readMemory_eq] at h
  rcases h.of_inquiry with came | ⟨lost, same | same⟩
  · rw [← readMemory_eq, held_readMemory] at came
    obtain ⟨answer, left⟩ := Prod.mk.inj came
    rw [held_readMemory, answer]
    exact ⟨left.symm, .inl rfl⟩
  · exact ⟨same, .inr lost⟩
  · exact ⟨same.trans (serve_readMemory r channel), .inr lost⟩

theorem channel_of_held {record : MemoryRecord} (h : (readMemory channel).held r = (.ok record, r')) :
    record.channel = channel := by
  rw [held_readMemory] at h
  obtain ⟨line, -, own⟩ := bind_eq_ok.mp (Prod.mk.inj h).1
  exact (ownRecord_eq_ok.mp own).2

theorem truthful_readMemory (channel : Fin 1000) : (readMemory channel).Truthful := by
  rw [readMemory_eq]
  exact .inquiry _ _

theorem truthful_writeMemory (record : MemoryRecord) : (writeMemory record).Truthful := by
  rw [writeMemory_eq]
  exact .inquiry _ _

theorem Suffers.of_writeMemory {record : MemoryRecord} {result : Except Fault MemoryRecord}
    (h : (writeMemory record).Suffers r result r') : r' = r ∨ r' = r.keep record := by
  have came := (r.talks_writeMemory record).held
  rw [writeMemory_eq, held_inquiry] at came
  have left := (Prod.mk.inj came).2
  rw [writeMemory_eq] at h
  rcases h.of_inquiry with same | ⟨-, same | same⟩
  · rw [held_inquiry] at same
    exact .inr ((Prod.mk.inj same).2.symm.trans left)
  · exact .inl same
  · exact .inr (same.trans left)

theorem Suffers.of_stored {record : MemoryRecord} {result : Except Fault Unit}
    (h : (Functor.discard (writeMemory record)).Suffers r result r') : r' = r ∨ r' = r.keep record := by
  rcases h.of_bind with ⟨why, begun, -⟩ | ⟨value, between, begun, ended⟩
  · exact begun.of_writeMemory
  · cases ended
    exact begun.of_writeMemory

theorem talks_kept (r : Radio) {record : MemoryRecord} (own : record.channel = channel) :
    (readMemory channel).Talks (r.keep record) (.ok record) (r.keep record) := by
  have stored : (r.keep record).memories.get? channel.val = some record.payload := by
    rw [Radio.keep, own, Table.get?_put_self]
  exact Radio.talks_readChannel stored (ownRecord_eq_ok.mpr ⟨record.parse_payload, own⟩)

theorem keep_keep (r : Radio) (record : MemoryRecord) : (r.keep record).keep record = r.keep record := by
  simp only [Radio.keep, Table.put_put]

end

/-- A memory that was asked for in vain, and what for. -/
theorem Suffers.of_asked {channel : Fin 1000} {r r' : Radio} {why : Fault}
    (h : (Functor.discard (readMemory channel)).Suffers r (.error why) r') :
    r' = r ∧ ((Functor.discard (readMemory channel)).held r = (.error why, r) ∨ why.Unrejected) := by
  rcases h.of_bind with ⟨why', asked, same⟩ | ⟨record, between, -, ended⟩
  · cases same
    obtain ⟨left, came | ⟨why', unrejected, same⟩⟩ := asked.of_readMemory
    · exact ⟨left, .inl (held_bind_error came)⟩
    · cases same
      exact ⟨left, .inr unrejected⟩
  · cases ended

/-- What is done about a channel whose memory was asked for in vain. -/
def provisioner (channel : Fin 1000) (why : Fault) : Dialogue Unit :=
  match why with
  | .radio fault =>
    if fault.kind = .rejected then do
      say Level.info ("Channel " ++ Number.showNat channel ++ " is empty, creating it")
      Functor.discard (writeMemory (.empty channel))
    else throw why
  | _ => throw why

theorem provision_eq (channel : Fin 1000) :
    Rig.provision channel = tryCatch (Functor.discard (readMemory channel)) (provisioner channel) := rfl

/-- An empty record is stored after a rejection, and nothing is done otherwise. -/
theorem provisioner_cases (channel : Fin 1000) (why : Fault) :
    (why.Unrejected ∧ provisioner channel why = .fail why) ∨
      ¬ why.Unrejected ∧
        ∃ record, provisioner channel why =
          .note record (Functor.discard (writeMemory (.empty channel))) := by
  have stops : (∀ fault, why ≠ .radio fault) → provisioner channel why = .fail why := by
    intro other
    unfold provisioner
    split
    · exact absurd rfl (other _)
    · rfl
  cases why with
  | radio fault =>
      unfold provisioner
      dsimp only
      by_cases rejected : fault.kind = .rejected
      · rw [if_pos rejected]
        exact .inr ⟨fun unrejected => unrejected fault rfl rejected, _, rfl⟩
      · rw [if_neg rejected]
        refine .inl ⟨?_, rfl⟩
        rintro _ ⟨⟩
        exact rejected
  | _ => exact .inl ⟨nofun, stops nofun⟩

theorem truthful_provision (channel : Fin 1000) : (Rig.provision channel).Truthful := by
  refine ⟨fun suffers => ?_⟩
  rw [provision_eq] at suffers ⊢
  rcases suffers.of_rescue with ⟨v, asked, same⟩ | ⟨why, between, asked, handled⟩
  · cases same
    exact held_rescue_ok ((truthful_readMemory channel).discard.came asked)
  · obtain ⟨rfl, came⟩ := asked.of_asked
    rcases provisioner_cases channel why with ⟨-, shape⟩ | ⟨rejected, record, shape⟩
    · rw [shape] at handled
      cases handled
    · have once : (tryCatch (Functor.discard (readMemory channel)) (provisioner channel)).held between =
          (provisioner channel why).held between := held_rescue_error (came.resolve_right rejected)
      rw [shape] at handled
      rw [once, shape, held_note]
      exact (truthful_writeMemory _).discard.came handled.of_note

/-- Whether or not an empty record was stored the first time, the second time leaves one. -/
theorem repeats_provision (channel : Fin 1000) (r : Radio) : (Rig.provision channel).Repeats r := by
  refine ⟨fun {result r'} suffers => ?_⟩
  rw [provision_eq] at suffers ⊢
  rcases suffers.of_rescue with ⟨v, asked, -⟩ | ⟨why, between, asked, handled⟩
  · rcases asked.of_bind with ⟨why, -, same⟩ | ⟨record, between, read, ended⟩
    · cases same
    · cases ended
      rw [read.of_readMemory.1]
  · obtain ⟨rfl, came⟩ := asked.of_asked
    rcases provisioner_cases channel why with ⟨-, shape⟩ | ⟨rejected, record, shape⟩
    · rw [shape] at handled
      cases handled
      rfl
    · have once : (tryCatch (Functor.discard (readMemory channel)) (provisioner channel)).held between =
          (provisioner channel why).held between := held_rescue_error (came.resolve_right rejected)
      rw [shape, held_note] at once
      rw [shape] at handled
      rcases handled.of_note.of_stored with rfl | rfl
      · rfl
      · have stored : (Functor.discard (writeMemory (.empty channel))).held between =
            (.ok (), between.keep (.empty channel)) := (Talks.map (between.talks_writeMemory _)).held
        have again : (tryCatch (Functor.discard (readMemory channel)) (provisioner channel)).held
            (between.keep (.empty channel)) = (.ok (), between.keep (.empty channel)) :=
          held_rescue_ok (Talks.map (talks_kept between rfl)).held
        rw [once, again, stored]

/-- A change that was made is made again without a difference, as it finds what it left. -/
theorem repeats_changeMemory (channel : Fin 1000) (u : MemoryUpdate) (r : Radio) :
    (changeMemory channel u).Repeats r := by
  refine ⟨fun {result r'} suffers => ?_⟩
  rcases suffers.of_bind with ⟨why, read, -⟩ | ⟨old, between, read, changed⟩
  · rw [read.of_readMemory.1]
  · obtain ⟨rfl, -⟩ := read.of_readMemory
    have told := (truthful_readMemory channel).came read
    cases fits : (old.toDraft.overlay u).check with
    | error why =>
        rw [fits] at changed
        cases changed
        rfl
    | ok new =>
        rw [fits] at changed
        have left : r' = between ∨ r' = between.keep new := Suffers.of_writeMemory changed
        rcases left with rfl | rfl
        · rfl
        · have own : new.channel = channel := by
            rw [(check_overlay.mp fits).1, channel_of_held told]
          have again := (Radio.talks_changeMemory_told (talks_kept between own) (overlay_again fits)).held
          rw [keep_keep] at again
          have once : (changeMemory channel u).held between = (.ok new, between.keep new) := by
            refine (held_bind_ok told).trans ?_
            rw [fits]
            exact (between.talks_writeMemory new).held
          rw [again, once]

/-- What a channel holds is told by the memories alone. -/
theorem held_readMemory_congr {channel : Fin 1000} {r r' : Radio} {record : MemoryRecord}
    (same : r'.memories = r.memories) (h : (readMemory channel).held r = (.ok record, r)) :
    (readMemory channel).held r' = (.ok record, r') := by
  have told : (r'.answer (Command.readMemory channel).line).1 =
      (r.answer (Command.readMemory channel).line).1 := by
    rw [r.answerMemory_query, r'.answerMemory_query, same]
    cases r.memories.get? channel.val <;> rfl
  have served := Radio.serve_congr told
  rw [held_readMemory] at h ⊢
  rw [served, (Prod.mk.inj h).1]

theorem stored_of_held {channel : Fin 1000} {r r' : Radio} {record : MemoryRecord}
    (h : (readMemory channel).held r = (.ok record, r')) :
    ∃ payload, r.memories.get? channel.val = some payload := by
  cases stored : r.memories.get? channel.val with
  | some payload => exact ⟨payload, rfl⟩
  | none =>
      rw [(Radio.talks_readMemory_empty stored).held] at h
      cases h

theorem held_provision_ok {channel : Fin 1000} {r r' : Radio}
    (h : (Rig.provision channel).held r = (.ok (), r')) :
    ∃ record, (readMemory channel).held r' = (.ok record, r') := by
  rw [provision_eq] at h
  obtain ⟨answer, asked⟩ : ∃ answer, (readMemory channel).held r = (answer, r) :=
    ⟨_, held_readMemory channel r⟩
  cases answer with
  | ok record =>
      have found : (Functor.discard (readMemory channel)).held r = (.ok (), r) := held_bind_ok asked
      rw [held_rescue_ok found] at h
      obtain rfl := (Prod.mk.inj h).2
      exact ⟨record, asked⟩
  | error why =>
      have missed : (Functor.discard (readMemory channel)).held r = (.error why, r) :=
        held_bind_error asked
      rw [held_rescue_error missed] at h
      rcases provisioner_cases channel why with ⟨-, shape⟩ | ⟨-, record, shape⟩
      · rw [shape] at h
        cases h
      · rw [shape, held_note] at h
        have stored : (Functor.discard (writeMemory (.empty channel))).held r =
            (.ok (), r.keep (.empty channel)) := (Talks.map (r.talks_writeMemory _)).held
        obtain rfl := (Prod.mk.inj (stored.symm.trans h)).2
        exact ⟨_, (talks_kept r rfl).held⟩

end Dialogue

namespace Simulation.Radio

theorem answerSelection_leads (r : Radio) (args : List String) :
    Leads (fun r' => ∃ selection, r' = { r with selection }) (r.answerSelection args) := by
  unfold answerSelection
  refine Leads.bind fun _ _ => Leads.bind fun n _ => ?_
  cases args[1]? with
  | none => exact Leads.bind fun _ _ => Leads.pure ⟨r.selection, rfl⟩
  | some arg =>
      refine Leads.bind fun channel _ => ?_
      dsimp only
      split
      · exact Leads.pure ⟨r.selection, rfl⟩
      · exact Leads.bind fun _ _ => Leads.bind fun _ _ => Leads.pure ⟨_, rfl⟩

/-- Storing a name leaves the memories alone. -/
theorem memories_writeName (r : Radio) (channel : Fin 1000) (name : SentName) :
    (r.answer (Command.writeName channel name).line).2.memories = r.memories := by
  have line : (Command.writeName channel name).line = lineText "MN" [channelDigits channel, name.text] :=
    rfl
  rw [line, r.answer_named _ (by decide)]
  exact Leads.getD (P := fun r' => r'.memories = r.memories)
    (fun reply r' told => (r.answerName_leads _ reply r' told).1) rfl

theorem keep_eq_iff {r : Radio} {record : MemoryRecord} :
    r.keep record = r ↔ r.memories.put record.channel.val record.payload = r.memories :=
  ⟨congrArg Radio.memories, fun same => by rw [keep, same]⟩

/-- Placing a band on a channel changes nothing but the selection. -/
theorem answer_place (r : Radio) (selection : MemorySelection) :
    ∃ placed, (r.answer (Command.writeSelection selection).line).2 = { r with selection := placed } := by
  have line : (Command.writeSelection selection).line = lineText "MR" _ := rfl
  rw [line, r.answer_named _ (by decide)]
  exact (r.answerSelection_leads _).getD ⟨r.selection, rfl⟩

end Simulation.Radio

namespace Rig

theorem repeats_place (band : Band) {r : Radio} {payload : String}
    (held : r.memories.get? band.channel.val = some payload) :
    (Functor.discard (writeSelection ⟨band, band.channel⟩) >>= fun _ =>
      Functor.discard (writeControl ⟨band, band⟩)).Repeats r := by
  have placing : ∀ {r : Radio}, r.memories.get? band.channel.val = some payload →
      (Functor.discard (writeSelection ⟨band, band.channel⟩)).held r =
        (.ok (), { r with selection := r.selection.set band band.channel.val }) :=
    fun held => (Radio.speaks_writeSelection held).talks.held
  refine Repeats.bind (truthful_parsed _ _) (repeats_parsed _ _ r) fun _ r' placed => ?_
  refine ⟨repeats_parsed _ _ r', fun r => r.memories.get? band.channel.val = some payload ∧
    r.selection.set band band.channel.val = r.selection, ?_, ?_, ?_⟩
  · rw [placing held] at placed
    obtain rfl := (Prod.mk.inj placed).2
    exact ⟨held, PerBand.set_set _ _ _⟩
  · rintro r ⟨held, same⟩
    rw [placing held, same]
  · refine Asks.discard (asks_parsed fun r kept => ?_)
    rw [r.answer_writeControl]
    exact kept

/-- What placing a band on the channel of its VFO and giving it control keeps to, provisioning before it
or not. -/
theorem asks_place {P : Radio → Prop} (band : Band)
    (selection : ∀ r placed, P r → P { r with selection := placed })
    (control : ∀ r control transmit, P r → P { r with control, transmit }) :
    (Functor.discard (writeSelection ⟨band, band.channel⟩) >>= fun _ =>
      Functor.discard (writeControl ⟨band, band⟩)).Asks
      (fun command => ∀ r, P r → P (r.answer command.line).2) fun _ => True := by
  refine Asks.seq (Asks.discard (asks_parsed fun r kept => ?_)) fun _ =>
    Asks.discard (asks_parsed fun r kept => ?_)
  · obtain ⟨placed, same⟩ := r.answer_place ⟨band, band.channel⟩
    rw [same]
    exact selection r placed kept
  · rw [r.answer_writeControl]
    exact control r _ _ kept

theorem repeats_selectBand (band : Band) (r : Radio) : (selectBand band).Repeats r := by
  have tuning : ∀ r : Radio, (Functor.discard (writeTuning ⟨band, .memory⟩)).held r =
      (.ok (), { r with tuning := r.tuning.set band 1 }) := fun r => (r.speaks_writeTuning band).talks.held
  refine Repeats.bind (truthful_parsed _ _) (repeats_parsed _ _ r) fun _ r₁ tuned => ⟨?_, ?_⟩
  · refine Repeats.bind (truthful_provision _) (repeats_provision _ r₁) fun _ r₂ provided => ?_
    obtain ⟨record, known⟩ := held_provision_ok provided
    obtain ⟨payload, stored⟩ := stored_of_held known
    refine ⟨repeats_place band stored, fun r => (readMemory band.channel).held r = (.ok record, r),
      known, ?_, ?_⟩
    · exact fun r found => held_rescue_ok (held_bind_ok found)
    · exact asks_place band (fun r _ => held_readMemory_congr rfl) fun r _ _ => held_readMemory_congr rfl
  · refine ⟨fun r => r.tuning.set band 1 = r.tuning, ?_, ?_, ?_⟩
    · rw [tuning] at tuned
      obtain rfl := (Prod.mk.inj tuned).2
      exact PerBand.set_set _ _ _
    · intro r same
      rw [tuning, same]
    · refine Asks.seq (asks_provision (fun r kept => ?_) fun r kept => ?_) fun _ =>
        asks_place band (fun _ _ kept => kept) fun _ _ _ kept => kept
      · rw [r.answerMemory_query]
        split <;> exact kept
      · rw [r.answer_writeMemory]
        exact kept

theorem repeats_setChannel (c : Channel) (r : Radio) : (setChannel c).Repeats r := by
  refine Repeats.given fun number _ => Repeats.given fun draft _ => Repeats.given fun name _ =>
    Repeats.given fun record _ => ?_
  have storing : ∀ r : Radio, (Functor.discard (writeMemory record)).held r = (.ok (), r.keep record) :=
    fun r => (Talks.map (r.talks_writeMemory record)).held
  refine Repeats.bind (truthful_parsed _ _) (repeats_parsed _ _ r) fun _ r' stored => ?_
  refine ⟨Repeats.given fun _ _ => repeats_parsed _ _ r', fun r => r.keep record = r, ?_, ?_, ?_⟩
  · rw [storing] at stored
    obtain rfl := (Prod.mk.inj stored).2
    exact keep_keep r record
  · intro r same
    rw [storing, same]
  · refine Asks.seq (Asks.ofExcept fun _ _ => trivial) fun _ => Asks.discard (asks_parsed fun r kept => ?_)
    refine Radio.keep_eq_iff.mpr ?_
    rw [r.memories_writeName]
    exact Radio.keep_eq_iff.mp kept

/-- A VFO that is named stays one where split directs the change elsewhere. -/
theorem redirect_named {r : Rig} {change : Change} {band : Band} {target : Value}
    (h : change.redirect r (.text band.vfo) = .ok target) : ∃ other : Band, target = .text other.vfo := by
  rcases Change.redirect_eq_ok h with rfl | directed
  · exact ⟨band, rfl⟩
  · exact directed

theorem repeats_change (r : Rig) (change : Change) (band : Band) (radio : Radio) :
    (r.perform (change.request (.text band.vfo))).Repeats radio := by
  rw [Change.perform_request]
  refine Repeats.given fun p prepared => Repeats.map ?_
  obtain ⟨other, same⟩ := redirect_named (Change.prepared_eq_ok.mp prepared).1
  rw [changeVfo, same, channelOf_vfo]
  exact (repeats_changeMemory other.channel p.2 radio).map

/-- The requests that may be made again after they failed: those about a VFO that is named, and storing a
channel. -/
inductive Repeatable : Request → Prop
  | selectVfo {vfo band} : Selects vfo band → Repeatable (.selectVfo vfo)
  | setSplit (on : Value) (band : Band) : Repeatable (.setSplit on (.text band.vfo))
  | change (change : Change) (band : Band) : Repeatable (change.request (.text band.vfo))
  | setMemory (band : Band) (number : Value) : Repeatable (.setMemory (.text band.vfo) number)
  | setChannel {c : Channel} : (c.value .name).Plain → Repeatable (.setChannel c)

theorem Repeatable.plain {request : Request} (h : Repeatable request) : request.Plain := by
  cases h with
  | selectVfo selects => trivial
  | setSplit on band => trivial
  | change change band =>
      cases change with
      | frequency direction hertz => cases direction <;> trivial
      | mode name => trivial
      | setting which v => trivial
  | setMemory band number => trivial
  | setChannel plain => exact plain

theorem repeats_perform (r : Rig) {request : Request} (h : Repeatable request) (radio : Radio) :
    (r.perform request).Repeats radio := by
  cases h with
  | @selectVfo vfo band selects =>
      rw [perform_selectVfo]
      refine Repeats.map (Repeats.given fun written _ => Repeats.note ?_)
      refine Repeats.given fun session _ => Repeats.given fun choice chosen => ?_
      cases choice with
      | named other => exact (repeats_selectBand other radio).map
      | memory =>
          rw [SelectionChoice.ofValue_eq_memory chosen] at selects
          rcases selects with same | ⟨same, -⟩
          · cases band <;> exact absurd (Value.text.inj same) (by decide)
          · exact absurd (Value.text.inj same) (by decide)
  | setSplit on band =>
      rw [perform_setSplit]
      refine Repeats.map (Repeats.given fun session _ => ?_)
      have chosen : transmitChoice (.text band.vfo) = pure band := by
        cases band <;> rfl
      rw [chosen, pure_bind]
      refine Repeats.close (repeats_parsed _ _ radio) fun _ _ _ _ ended => ?_
      split at ended
      · cases ended.of_note
        rfl
      · cases ended
        rfl
  | change change band => exact r.repeats_change change band radio
  | setMemory band number =>
      rw [perform_setMemory]
      refine Repeats.map (Repeats.given fun channel _ => ?_)
      rw [bandOf_vfo]
      exact repeats_parsed _ _ radio
  | setChannel plain =>
      rw [perform_setChannel]
      exact (repeats_setChannel _ radio).map

/-- Making the request again, on a line that is in order by now, comes to what making it once comes to:
the same result or fault, the same rig and the same radio. -/
structure Repairs (link : Link) (r : Rig) (request : Request) (s t : Bench) : Prop where
  result : (r.carryOut link Bench.port request t).1.result =
    (r.carryOut link Bench.port request s).1.result
  rig : (r.carryOut link Bench.port request t).2 = (r.carryOut link Bench.port request s).2
  radio : (r.carryOut link Bench.port request t).1.port.radio =
    (r.carryOut link Bench.port request s).1.port.radio

theorem repairs_of_held {link : Link} {r : Rig} (patient : 0 ≤ link.patience) {request : Request}
    (plain : request.Plain) {s t : Bench} (quiet : s.Quiet) (quiet' : t.Quiet)
    (unbroken : s.radio.Unbroken) (unbroken' : t.radio.Unbroken)
    (same : (r.perform request).held t.radio = (r.perform request).held s.radio) :
    r.Repairs link request s t := by
  have apart : (r.perform request).Asks Command.Apart fun _ => True :=
    (r.asks_perform request).weaken (fun _ may => may.apart plain) fun _ _ => trivial
  obtain ⟨result, radio⟩ := held_run patient apart quiet unbroken
  obtain ⟨result', radio'⟩ := held_run patient apart quiet' unbroken'
  rw [same] at result' radio'
  obtain ⟨came, rig⟩ := carryOut_congr (result'.trans result.symm)
  refine ⟨came, rig, ?_⟩
  rw [carryOut_port, carryOut_port, radio, radio']

/-- Where a request about a named VFO, or one that stores a channel, fails on a line that loses commands
and answers, it is repaired by making it again once the line is in order. -/
theorem repeating_repairs {link : Link} (patient : 0 ≤ link.patience) (r : Rig) {request : Request}
    (repeatable : Repeatable request) {s : Bench} (idle : s.Idle) (unbroken : s.radio.Unbroken)
    (lost : List Bool) {why : Fault}
    (failed : (r.carryOut link Wire.port request ⟨s, lost⟩).1.result = .error why) :
    (r.carryOut link Wire.port request ⟨s, lost⟩).2 = r ∧
      r.Repairs link request s.mended
        (r.carryOut link Wire.port request ⟨s, lost⟩).1.port.bench.mended := by
  refine ⟨carryOut_error failed, ?_⟩
  rw [carryOut_port]
  cases deaf : s.onlyRate.any (!s.rate.same ·) with
  | true =>
      have unchanged := Wire.run_deaf (w := ⟨s, lost⟩) link (r.perform request) deaf idle
      rw [unchanged]
      exact ⟨rfl, rfl, rfl⟩
  | false =>
      have apart : (r.perform request).Asks Command.Apart fun _ => True :=
        (r.asks_perform request).weaken (fun _ may => may.apart repeatable.plain) fun _ _ => trivial
      obtain ⟨suffers, idle', unbroken'⟩ := suffers_run (w := ⟨s, lost⟩) patient apart idle unbroken
      have rates := Wire.run_rates (w := ⟨s, lost⟩) link (r.perform request)
      have heard : ∀ {t : Bench}, t.rates = s.rates → t.onlyRate.any (!t.rate.same ·) = false := by
        intro t same
        obtain ⟨only, rate⟩ := Prod.mk.inj same
        rw [only, rate, deaf]
      have quiet : ∀ {t : Bench}, t.Idle → t.rates = s.rates → t.mended.Quiet := fun idle same =>
        ⟨heard same, idle.unforced, fun _ member => absurd member List.not_mem_nil, idle.healthy,
          idle.waiting, idle.silent⟩
      exact repairs_of_held patient repeatable.plain (quiet idle rfl) (quiet idle' rates) unbroken
        unbroken' ((r.repeats_perform repeatable s.radio).again suffers)

theorem repeating_repairs_unanswered :
    (closed .warn).opened.Repairs ⟨8, 0, 0⟩ (.selectVfo (.text "VFOA"))
      (Bench.mended (Bench.ofRadio .initial))
      ((closed .warn).opened.carryOut ⟨8, 0, 0⟩ Wire.port (.selectVfo (.text "VFOA"))
        ⟨Bench.ofRadio .initial, [true]⟩).1.port.bench.mended := by
  have patient : 0 ≤ (⟨8, 0, 0⟩ : Link).patience := by decide
  have quiet := Bench.quiet_ofRadio .initial
  have unbroken : (Bench.ofRadio .initial).radio.Unbroken := ⟨nofun, nofun⟩
  have selects : Selects (.text "VFOA") .a := .inl rfl
  have worded := (wording_writeTuning ⟨.a, .memory⟩).isPrintable
  have heard := Bench.write_quiet quiet (encode_printable worded) (unended_of_printable worded)
  obtain ⟨why, failed, -⟩ : ∃ why, (Wire.port.attempt 8 (Command.writeTuning ⟨.a, .memory⟩).line
      ⟨Bench.ofRadio .initial, [true]⟩).result = .error why ∧ _ :=
    Wire.attempt_lost (encode_line worded) heard rfl rfl (Bench.quiet_answered quiet _).idle
  have unanswered : (Link.exchange ⟨8, 0, 0⟩ Wire.port (Command.writeTuning ⟨.a, .memory⟩).line
      ⟨Bench.ofRadio .initial, [true]⟩).result = .error why := by
    change (Wire.port.attempt 8 _ _).result.bind _ = _
    rw [failed]
    rfl
  have lost : ((closed .warn).opened.carryOut ⟨8, 0, 0⟩ Wire.port (.selectVfo (.text "VFOA"))
      ⟨Bench.ofRadio .initial, [true]⟩).1.result = .error why := by
    have run : (((closed .warn).opened.perform (.selectVfo (.text "VFOA"))).run ⟨8, 0, 0⟩ Wire.port
        ⟨Bench.ofRadio .initial, [true]⟩).result = .error why := run_unanswered rfl unanswered rfl
    rw [carryOut_eq]
    unfold Outcome.withRig
    rw [run]
  exact (repeating_repairs patient (closed .warn).opened (.selectVfo selects) quiet.idle unbroken [true]
    lost).2

/-- Where nothing is repeated and the answer to the name is lost, storing a channel under a name with
line ends in its printed form fails, and the radio obeyed all those commands. -/
theorem carryOut_lines_unheard {link : Link} (patient : 0 ≤ link.patience) (once : link.retries ≤ 0)
    (r : Rig) {s : Bench} (quiet : s.Quiet) {c : Channel} {number : Fin 1000} {record : MemoryRecord}
    {name : SentName} (free : Unreserved (c.value .number) number) (stored : c.StoredAs record)
    (named : checkSentName (c.value .name) = .ok name) (written : name.written = .ok name)
    {bytes answers : List UInt8} {pieces : List (List UInt8)}
    (spelled : (Command.writeName number name).bytes = .ok bytes)
    (split : bytes.splitOn 13 = pieces ++ [[]])
    (answered : (s.radio.keep record).answersTo (pieces.map Bench.commandText) = some answers) :
    let o := (r.carryOut link Wire.port (.setChannel c) ⟨s, [false, true]⟩).1
    o.result = .error (.radio (.timeout (Command.writeName number name).line)) ∧
      o.port.bench.mended.Quiet ∧
      o.port.bench.radio = (s.radio.keep record).obey (pieces.map Bench.commandText) := by
  have stores : (s.radio.answer (Command.writeMemory record).line).2 = s.radio.keep record :=
    congrArg Prod.snd (s.radio.answer_writeMemory record)
  have talks := s.radio.talks_writeMemory record
  rw [writeMemory_eq] at talks
  obtain ⟨worded, clear, -, -⟩ := talks.served
  obtain ⟨served, left⟩ := Wire.exchange_heard (w := ⟨s, [false, true]⟩) patient quiet.heard quiet.idle
    worded (unended_of_printable clear) (Bench.takeFault_empty quiet.unspoilt _) rfl
  obtain ⟨result, port⟩ := run_naming (t := ⟨s.answered (Command.writeMemory record).line, [true]⟩) r free
    stored named written served left
  generalize (Command.writeMemory record).line = line at stores result port
  rw [← stores] at answered ⊢
  have taken := Bench.takeFault_empty quiet.unspoilt (Bench.commandText bytes.dropLast)
  obtain ⟨late, silent⟩ := Wire.exchange_swallowed (w := ⟨Bench.answered s line, [true]⟩) once spelled
    (Bench.write_lines (s := Bench.answered s line) quiet.heard
      ⟨quiet.unforced, quiet.healthy, quiet.waiting, quiet.silent⟩ taken split answered) rfl
    quiet.silent quiet.healthy
  rw [late] at result
  rw [silent] at port
  dsimp only
  rw [carryOut_eq, Outcome.withRig_error result]
  dsimp only
  rw [port]
  exact ⟨rfl, ⟨quiet.heard, quiet.unforced, fun _ member => absurd member List.not_mem_nil,
    quiet.healthy, quiet.waiting, rfl⟩, rfl⟩

/-- A name that nothing checked, and whose printed form holds two commands. -/
def strayName : Value := .table ["A"] [.thing "\rMR 0,998\rME 998,,,,,,,,,,,,,,,\r"]

def strayChannel : Channel :=
  ((Channel.blank.store .number (.int 5)).store .name (.text "")).store .name strayName

/-- The commands that the radio takes in where that name is stored. -/
def strayLines : List String := ["MN 005,\x7b'A': ", "MR 0,998", "ME 998,,,,,,,,,,,,,,,", "\x7d"]

/-- A fresh radio after they came in, with channel 5 stored. -/
def strayed (payload : String) : Radio :=
  { Radio.initial with
    memories := ⟨[(5, payload), (998, "998,,,,,,,,,,,,,,,")]⟩
    names := ⟨[(5, "\x7b'A': ")]⟩ }

/-- The selection is refused as long as nothing is stored there. -/
theorem obey_strayLines (payload : String) :
    let r : Radio := { Radio.initial with memories := ⟨[(5, payload)]⟩ }
    (∃ answers, r.answersTo strayLines = some answers) ∧ r.obey strayLines = strayed payload := by
  intro r
  have named : r.answer "MN 005,\x7b'A': " = ("MN 005,\x7b'A': ", r.label 5 "\x7b'A': ") := rfl
  have refused : (r.label 5 "\x7b'A': ").answer "MR 0,998" = ("N", r.label 5 "\x7b'A': ") := rfl
  have stored : (r.label 5 "\x7b'A': ").answer "ME 998,,,,,,,,,,,,,,," =
    ("ME 998,,,,,,,,,,,,,,,", strayed payload) := rfl
  have unknown : (strayed payload).answer "\x7d" = ("?", strayed payload) := rfl
  constructor
  · simp only [strayLines, Radio.answersTo, named, refused, stored, unknown]
    exact ⟨_, rfl⟩
  · simp only [strayLines, Radio.obey, List.foldl, named, refused, stored, unknown]

theorem obey_strayLines_again (payload : String) :
    (∃ answers, (strayed payload).answersTo strayLines = some answers) ∧
      (strayed payload).obey strayLines =
        { strayed payload with selection := (strayed payload).selection.set .a Band.a.channel.val } := by
  have named : (strayed payload).answer "MN 005,\x7b'A': " = ("MN 005,\x7b'A': ", strayed payload) := rfl
  have held : (strayed payload).memories.get? Band.a.channel.val = some "998,,,,,,,,,,,,,,," := rfl
  have chosen : (strayed payload).answer "MR 0,998" = ("MR 0,998", _) :=
    @Radio.answer_writeSelection (strayed payload) .a _ held
  have there : (strayed payload).memories.put 998 "998,,,,,,,,,,,,,,," = (strayed payload).memories := by
    simp [strayed, Table.put, Table.insert]
  have stored : ∀ selection, ({ strayed payload with selection } : Radio).answer
      "ME 998,,,,,,,,,,,,,,," = ("ME 998,,,,,,,,,,,,,,,", { strayed payload with selection }) := by
    intro selection
    have put : ({ strayed payload with selection } : Radio).answer "ME 998,,,,,,,,,,,,,,," =
      ("ME 998,,,,,,,,,,,,,,,", { strayed payload with
        selection, memories := (strayed payload).memories.put 998 "998,,,,,,,,,,,,,,," }) := rfl
    rwa [there] at put
  have unknown : ∀ r : Radio, r.answer "\x7d" = ("?", r) := fun _ => rfl
  constructor
  · simp only [strayLines, Radio.answersTo, named, chosen, stored, unknown]
    exact ⟨_, rfl⟩
  · simp only [strayLines, Radio.obey, List.foldl, named, chosen, stored, unknown]

/-- A repetition finds what the lines of the first attempt stored. -/
theorem repetition_strays :
    let r := (closed .warn).opened
    let failed := r.carryOut ⟨8, 0, 0⟩ Wire.port (.setChannel strayChannel)
      ⟨Bench.ofRadio .initial, [false, true]⟩
    Channel.build (.int 5) (.text "") [] [("name", strayName)] = .ok strayChannel ∧
      (∃ command, failed.1.result = .error (.radio (.timeout command))) ∧
      ¬ r.Repairs ⟨8, 0, 0⟩ (.setChannel strayChannel) (Bench.ofRadio .initial).mended
        failed.1.port.bench.mended := by
  intro r failed
  have empty : isName "" = true := by decide
  obtain ⟨record, stored⟩ := Channel.exists_storedAs_make 5 empty
  have own : record.channel = 5 := stored.channel_eq rfl
  have free : Unreserved (.int 5) 5 := ⟨rfl, by decide, by decide⟩
  have renamed : strayChannel.StoredAs record := stored.rename strayName
  have patient : 0 ≤ (⟨8, 0, 0⟩ : Link).patience := by decide
  have quiet := Bench.quiet_ofRadio .initial
  have named : checkSentName (strayChannel.value .name) = .ok (.pieces strayName) := rfl
  obtain ⟨bytes, pieces, spelled, split, lines⟩ : ∃ bytes pieces,
      (Command.writeName 5 (.pieces strayName)).bytes = .ok bytes ∧
        bytes.splitOn 13 = pieces ++ [[]] ∧ pieces.map Bench.commandText = strayLines :=
    ⟨_, [[77, 78, 32, 48, 48, 53, 44, 123, 39, 65, 39, 58, 32], [77, 82, 32, 48, 44, 57, 57, 56],
      [77, 69, 32, 57, 57, 56] ++ List.replicate 15 44, [125]], rfl, rfl, rfl⟩
  have first : Radio.initial.keep record =
      { Radio.initial with memories := ⟨[(5, record.payload)]⟩ } := by
    rw [Radio.keep, own]
    rfl
  have second : (strayed record.payload).keep record = strayed record.payload := by
    rw [Radio.keep, own]
    rfl
  obtain ⟨⟨answers, answered⟩, obeyed⟩ := obey_strayLines record.payload
  obtain ⟨⟨answers', answered'⟩, obeyed'⟩ := obey_strayLines_again record.payload
  rw [← first, ← lines] at answered obeyed
  rw [← second, ← lines] at answered' obeyed'
  obtain ⟨late, quiet', left⟩ := carryOut_lines_unheard patient (Int.le_refl 0) r quiet free renamed named
    rfl spelled split answered
  have left' : failed.1.port.bench.mended.radio = strayed record.payload := left.trans obeyed
  rw [← left'] at answered'
  refine ⟨rfl, ⟨_, late⟩, fun repairs => ?_⟩
  have any : pieces ≠ [] := by
    rintro rfl
    cases lines
  have repeated := (carryOut_lines patient r quiet'.heard quiet'.idle free renamed named rfl rfl spelled
    split any rfl answered').1
  have once := (carryOut_lines patient r (s := (Bench.ofRadio .initial).mended) rfl quiet.idle free
    renamed named rfl rfl spelled split any rfl answered).1
  have same := repairs.radio
  rw [repeated, left', obeyed', once] at same
  have chosen := congrArg (fun r : Radio => r.selection.get .a) (same.trans obeyed)
  dsimp only at chosen
  rw [PerBand.get_set, if_pos rfl] at chosen
  have fresh : (strayed record.payload).selection.get .a = 0 := rfl
  rw [fresh] at chosen
  exact absurd chosen (by decide)

end Rig

end Transceiver
