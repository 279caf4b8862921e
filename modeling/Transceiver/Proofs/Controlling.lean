import Transceiver.Proofs.ReadBack
import Transceiver.Proofs.Serving
import Transceiver.Proofs.Sessions

/-! Who moves the band control. Of all commands that a rig sends only the one that gives a band control
and transmission does, it is the last of its request, and a radio that serves it always confirms. -/
namespace Transceiver

open Dialogue Record Simulation

/-- The command leaves the band control of any radio as it is. -/
def Command.Calm (command : Command) : Prop :=
  ∀ r : Radio, (r.answer command.line).2.control = r.control ∧
    (r.answer command.line).2.transmit = r.transmit

namespace Simulation.Radio

/-- The same bands have control and transmission. -/
def SameControl (r r' : Radio) : Prop := r'.control = r.control ∧ r'.transmit = r.transmit

theorem answerMemory_control (r : Radio) (args : List String) :
    Leads r.SameControl (r.answerMemory args) := by
  unfold answerMemory
  refine Leads.bind fun _ _ => Leads.bind fun channel _ => ?_
  split
  · cases r.memories.get? channel <;> exact Leads.pure (P := r.SameControl) ⟨rfl, rfl⟩
  · split <;> exact Leads.pure (P := r.SameControl) ⟨rfl, rfl⟩

theorem answerName_control (r : Radio) (args : List String) :
    Leads r.SameControl (r.answerName args) := by
  unfold answerName
  refine Leads.bind fun _ _ => Leads.bind fun _ _ => ?_
  cases args[1]? <;> exact Leads.pure (P := r.SameControl) ⟨rfl, rfl⟩

theorem answerTuning_control (r : Radio) (args : List String) :
    Leads r.SameControl (r.answerTuning args) := by
  unfold answerTuning
  refine Leads.bind fun _ _ => Leads.bind fun n _ => ?_
  have replied : ∀ r' : Radio, r.SameControl r' → Leads r.SameControl (do
      let tuning ← Number.written? Number.showInt (r'.tuning.get (← bandOf? n))
      return ("VM " ++ Number.showInt n ++ "," ++ tuning, r')) := fun r' kept =>
    Leads.bind fun _ _ => Leads.bind fun _ _ => Leads.pure kept
  cases args[1]? with
  | none => exact replied r ⟨rfl, rfl⟩
  | some arg => exact Leads.bind fun _ _ => Leads.bind fun _ _ => replied _ ⟨rfl, rfl⟩

theorem answerSelection_control (r : Radio) (args : List String) :
    Leads r.SameControl (r.answerSelection args) := by
  unfold answerSelection
  refine Leads.bind fun _ _ => Leads.bind fun n _ => ?_
  cases args[1]? with
  | none => exact Leads.bind fun _ _ => Leads.pure (P := r.SameControl) ⟨rfl, rfl⟩
  | some arg =>
      refine Leads.bind fun channel _ => ?_
      dsimp only
      split
      · exact Leads.pure (P := r.SameControl) ⟨rfl, rfl⟩
      · exact Leads.bind fun _ _ => Leads.bind fun _ _ =>
          Leads.pure (P := r.SameControl) ⟨rfl, rfl⟩

theorem answerBusy_control (r : Radio) (args : List String) :
    Leads r.SameControl (r.answerBusy args) := by
  unfold answerBusy
  refine Leads.bind fun _ _ => Leads.bind fun _ _ => Leads.bind fun _ _ => Leads.bind fun _ _ => ?_
  exact Leads.pure (P := r.SameControl) ⟨rfl, rfl⟩

theorem answerVfo_control (r : Radio) (args : List String) :
    Leads r.SameControl (r.answerVfo args) := by
  unfold answerVfo
  refine Leads.bind fun _ _ => Leads.bind fun _ _ => Leads.bind fun band _ => ?_
  dsimp only
  split <;> exact Leads.pure (P := r.SameControl) ⟨rfl, rfl⟩

theorem answerNamed_control (r : Radio) {name : String} (args : List String) (other : name ≠ "BC") :
    Leads r.SameControl (r.answerNamed name args) := by
  unfold answerNamed
  split
  · exact Leads.pure (P := r.SameControl) ⟨rfl, rfl⟩
  · exact r.answerMemory_control args
  · exact r.answerName_control args
  · exact absurd rfl other
  · exact r.answerTuning_control args
  · exact r.answerSelection_control args
  · exact r.answerBusy_control args
  · exact r.answerVfo_control args
  · exact Leads.pure (P := r.SameControl) ⟨rfl, rfl⟩
  · exact Leads.pure (P := r.SameControl) ⟨rfl, rfl⟩
  · exact fun _ _ none => by cases none

end Simulation.Radio

namespace Command

theorem calm_lineText {command : Command} (name : String) {fields : List String}
    (line : command.line = lineText name fields) (bare : ' ' ∉ name.toList) (other : name ≠ "BC") :
    command.Calm := by
  intro r
  rw [line, r.answer_named fields bare]
  exact (r.answerNamed_control _ other).getD ⟨rfl, rfl⟩

theorem calm_bare {command : Command} (name : String) (line : command.line = name)
    (bare : ' ' ∉ name.toList) (other : name ≠ "BC") : command.Calm := by
  intro r
  rw [line, r.answer_bare bare]
  exact (r.answerNamed_control _ other).getD ⟨rfl, rfl⟩

theorem calm_readControl : Calm .readControl := by
  intro r
  have told : r.answer (line .readControl) = (r.controlReply.getD "?", r) := r.answer_control
  rw [told]
  exact ⟨rfl, rfl⟩

theorem IsQuery.calm {command : Command} (h : command.IsQuery) : command.Calm := by
  cases h with
  | control => exact calm_readControl
  | memory channel => exact calm_lineText "ME" rfl (by decide) (by decide)
  | selection band => exact calm_lineText "MR" rfl (by decide) (by decide)
  | name channel => exact calm_lineText "MN" rfl (by decide) (by decide)
  | busy band => exact calm_lineText "BY" rfl (by decide) (by decide)

theorem calm_writeTuning (tuning : BandTuning) : Calm (.writeTuning tuning) :=
  calm_lineText "VM" rfl (by decide) (by decide)

theorem calm_writeSelection (selection : MemorySelection) : Calm (.writeSelection selection) :=
  calm_lineText "MR" rfl (by decide) (by decide)

theorem calm_writeMemory (record : MemoryRecord) : Calm (.writeMemory record) :=
  calm_lineText "ME" rfl (by decide) (by decide)

end Command

/-- What a request may send leaves the band control alone, but where it may select a VFO or set split;
then one band is given both. -/
theorem Request.May.calm {request : Request} {command : Command} (may : request.May command) :
    command.Calm ∨ ∃ band, command = .writeControl ⟨band, band⟩ ∧
      ((∃ vfo, request = .selectVfo vfo ∧ Selects vfo band) ∨ ∃ on vfo, request = .setSplit on vfo) := by
  cases may with
  | ask query => exact .inl query.calm
  | storeChannel free own => exact .inl (Command.calm_writeMemory _)
  | nameChannel free checked =>
      exact .inl (Command.calm_lineText "MN" rfl (by decide) (by decide))
  | tuneVfo selects => exact .inl (Command.calm_writeTuning _)
  | provisionVfo selects => exact .inl (Command.calm_writeMemory _)
  | placeVfo selects => exact .inl (Command.calm_writeSelection _)
  | controlVfo selects => exact .inr ⟨_, rfl, .inl ⟨_, rfl, selects⟩⟩
  | tuneMemory band => exact .inl (Command.calm_writeTuning _)
  | controlSplit band => exact .inr ⟨band, rfl, .inr ⟨_, _, rfl⟩⟩
  | change same own => exact .inl (Command.calm_writeMemory _)
  | placeMemory band free => exact .inl (Command.calm_writeSelection _)
  | transmit on => exact .inl (Command.calm_bare "TX" rfl (by decide) (by decide))
  | receive off => exact .inl (Command.calm_bare "RX" rfl (by decide) (by decide))
  | fill record => exact .inl (Command.calm_writeMemory _)

namespace Simulation.Radio

theorem Serves.calm {r r' : Radio} {turns : List Turn} (h : r.Serves turns r')
    (calm : ∀ turn ∈ turns, turn.command.Calm) : r.SameControl r' := by
  induction h with
  | done r => exact ⟨rfl, rfl⟩
  | @turn r turn turns r' answered later ih =>
      obtain ⟨control, transmit⟩ := ih fun other member => calm other (List.mem_cons_of_mem turn member)
      have here : r.SameControl (r.serve turn.command.line).2 := by
        rcases r.serve_radio turn.command.line with same | moved
        · rw [same]
          exact ⟨rfl, rfl⟩
        · rw [moved]
          exact calm turn List.mem_cons_self r
      exact ⟨control.trans here.1, transmit.trans here.2⟩

/-- One band has control and transmission. -/
def Controls (r : Radio) (band : Band) : Prop :=
  r.control = (band.index.val : Int) ∧ r.transmit = (band.index.val : Int)

theorem controlReply_told {r : Radio} {told : BandControl}
    (control : r.control = (told.control.index.val : Int))
    (transmit : r.transmit = (told.transmit.index.val : Int)) :
    r.controlReply = some told.line := by
  obtain ⟨first, second⟩ := told
  unfold controlReply
  rw [control, transmit]
  cases first <;> cases second <;> decide

theorem answer_readControl {r : Radio} {told : BandControl}
    (control : r.control = (told.control.index.val : Int))
    (transmit : r.transmit = (told.transmit.index.val : Int)) :
    r.answer (Command.readControl).line = (told.line, r) := by
  have replied : r.answer (Command.readControl).line = (r.controlReply.getD "?", r) := r.answer_control
  rwa [controlReply_told control transmit] at replied

/-- A command whose fields are numbers of fixed width is answered by its handler. -/
theorem answer_fieldTexts (r : Radio) (name : String) (formats : List Format) (values : List Nat)
    (bare : ' ' ∉ name.toList) (some : fieldTexts formats values ≠ []) :
    r.answer (lineText name (fieldTexts formats values)) =
      (r.answerNamed name (fieldTexts formats values)).getD ("?", r) :=
  r.answer_numbers bare some fun _ => mem_fieldTexts

theorem readInt?_band (band : Band) :
    Number.readInt? (Number.padded 1 band.index) = some (band.index.val : Int) := by
  cases band <;> decide

theorem answer_writeControl (r : Radio) (band : Band) :
    r.answer (Command.writeControl ⟨band, band⟩).line =
      (BandControl.line ⟨band, band⟩,
        { r with control := band.index.val, transmit := band.index.val }) := by
  have asked : r.answer (Command.writeControl ⟨band, band⟩).line =
      (r.answerControl [Number.padded 1 band.index, Number.padded 1 band.index]).getD ("?", r) :=
    r.answer_fieldTexts "BC" BandControl.formats (BandControl.values ⟨band, band⟩) (by decide) nofun
  have told : controlReply { r with control := band.index.val, transmit := band.index.val } =
      some (BandControl.line ⟨band, band⟩) :=
    controlReply_told rfl rfl
  rw [asked]
  simp only [answerControl, List.isEmpty_cons, Bool.false_eq_true, if_false, List.getElem?_cons_zero,
    List.getElem?_cons_succ, Option.bind_eq_bind, Option.bind_some, readInt?_band, told]
  rfl

theorem accepted_control (command : String) (band : Band) :
    Link.accepted command (Text.trim (BandControl.line ⟨band, band⟩)) =
      .ok (BandControl.line ⟨band, band⟩) := by
  have whole : Text.trim (BandControl.line ⟨band, band⟩) = BandControl.line ⟨band, band⟩ := by
    cases band <;> decide
  have plain : isRefusal (BandControl.line ⟨band, band⟩) = false := by
    cases band <;> decide
  rw [whole, Link.accepted, plain]
  rfl

theorem Controls.serve_read {r : Radio} {band : Band} (h : r.Controls band) :
    r.serve (Command.readControl).line = (.ok (BandControl.line ⟨band, band⟩), r) := by
  have told : r.answer (Command.readControl).line = (BandControl.line ⟨band, band⟩, r) :=
    answer_readControl h.1 h.2
  have worded : IsPrintable (Command.readControl).line := Wording.control.isPrintable
  have clear := (wording_writeControl ⟨band, band⟩).isPrintable
  rw [serve_printable worded (by rwa [told]), told]
  dsimp only
  rw [accepted_control]

theorem serve_writeControl (r : Radio) (band : Band) :
    r.serve (Command.writeControl ⟨band, band⟩).line =
      (.ok (BandControl.line ⟨band, band⟩),
        { r with control := band.index.val, transmit := band.index.val }) := by
  have worded : IsPrintable (Command.writeControl ⟨band, band⟩).line :=
    (wording_writeControl ⟨band, band⟩).isPrintable
  have echo := r.answer_writeControl band
  rw [serve_printable worded (by rwa [echo]), echo]
  dsimp only
  rw [accepted_control]

/-- Some band has both control and transmission. -/
def Joined (r : Radio) : Prop := ∃ band, r.Controls band

theorem SameControl.joined {r r' : Radio} (same : r.SameControl r') (h : r.Joined) : r'.Joined := by
  obtain ⟨band, control, transmit⟩ := h
  exact ⟨band, same.1.trans control, same.2.trans transmit⟩

/-- Nothing that a request may send takes transmission from the band that has control. -/
theorem Serves.joined {request : Request} {r r' : Radio} {turns : List Turn} (h : r.Serves turns r')
    (may : ∀ turn ∈ turns, request.May turn.command) (start : r.Joined) : r'.Joined := by
  induction h with
  | done r => exact start
  | @turn r turn turns r' answered later ih =>
      apply ih fun other member => may other (List.mem_cons_of_mem turn member)
      rcases (may turn List.mem_cons_self).calm with calm | ⟨band, gives, -⟩
      · rcases r.serve_radio turn.command.line with same | moved
        · rw [same]
          exact start
        · rw [moved]
          exact SameControl.joined (calm r) start
      · rw [gives, serve_writeControl]
        exact ⟨band, rfl, rfl⟩

/-- A radio that was just given a band control confirms it. -/
theorem Serves.given {r r' : Radio} {asked : List Turn} {turn : Turn} {band : Band}
    (h : r.Serves (asked ++ [turn]) r') (gives : turn.command = .writeControl ⟨band, band⟩) :
    r'.Controls band ∧ turn.Confirms band := by
  obtain ⟨between, -, last⟩ := h.append
  cases last with
  | turn answered done =>
      rw [gives, serve_writeControl] at answered done
      cases done
      exact ⟨⟨rfl, rfl⟩, gives, _, _, answered, BandControl.parse_line ⟨band, band⟩⟩

theorem Serves.told {r r' : Radio} {turn : Turn} {band : Band} {control : BandControl}
    (h : r.Serves [turn] r') (controls : r.Controls band) (tells : turn.Tells control) :
    control = ⟨band, band⟩ := by
  obtain ⟨asks, reply, answer, parsed⟩ := tells
  cases h with
  | turn answered done =>
      rw [asks, controls.serve_read, answer] at answered
      cases answered
      rw [BandControl.parse_line] at parsed
      exact (Except.ok.inj parsed).symm

end Simulation.Radio

/-- Only the last turn of a dialogue may give a band control, and if it is confirmed the dialogue comes
to a value. -/
def Dialogue.Settles {α : Type} (d : Dialogue α) : Prop :=
  ∀ turns result, d.Conversation turns result →
    (∀ turn ∈ turns, turn.command.Calm) ∨
      ∃ asked turn band, turns = asked ++ [turn] ∧
        turn.command = .writeControl ⟨band, band⟩ ∧
        (turn.Confirms band → ∃ value, result = .ok value)

namespace Dialogue.Settles

variable {α β : Type}

theorem ofAsks {d : Dialogue α} {Yields : α → Prop} (h : d.Asks Command.Calm Yields) : d.Settles :=
  fun _ _ said => .inl (h.conversation said).1

theorem bind {d : Dialogue α} {next : α → Dialogue β} (calm : d.Asks Command.Calm fun _ => True)
    (rest : ∀ value, (next value).Settles) : (d >>= next).Settles := by
  intro turns result said
  rcases said.split with ⟨why, rfl, first⟩ | ⟨value, earlier, later, rfl, first, second⟩
  · exact .inl (calm.conversation first).1
  · have quiet := (calm.conversation first).1
    rcases rest value _ _ second with calm' | ⟨asked, turn, band, rfl, gives, settled⟩
    · refine .inl fun turn member => ?_
      rcases List.mem_append.mp member with here | there
      · exact quiet turn here
      · exact calm' turn there
    · exact .inr ⟨earlier ++ asked, turn, band, (List.append_assoc ..).symm, gives, settled⟩

/-- What follows without a word to the radio, and cannot fail, changes nothing about that. -/
theorem followed {d : Dialogue α} {next : α → Dialogue β} (h : d.Settles)
    (silent : ∀ value turns result, (next value).Conversation turns result →
      turns = [] ∧ ∃ v, result = .ok v) : (d >>= next).Settles := by
  intro turns result said
  rcases said.split with ⟨why, rfl, first⟩ | ⟨value, earlier, later, rfl, first, second⟩
  · rcases h _ _ first with calm | ⟨asked, turn, band, rfl, gives, settled⟩
    · exact .inl calm
    · refine .inr ⟨asked, turn, band, rfl, gives, fun confirms => ?_⟩
      obtain ⟨v, same⟩ := settled confirms
      cases same
  · obtain ⟨rfl, v, rfl⟩ := silent value later result second
    rw [List.append_nil]
    rcases h _ _ first with calm | ⟨asked, turn, band, rfl, gives, -⟩
    · exact .inl calm
    · exact .inr ⟨asked, turn, band, rfl, gives, fun _ => ⟨v, rfl⟩⟩

theorem done_silent {value : α} {turns : List Turn} {result : Except Fault α}
    (h : (done value).Conversation turns result) : turns = [] ∧ ∃ v, result = .ok v := by
  obtain ⟨rfl, rfl⟩ := conversation_done.mp h
  exact ⟨rfl, value, rfl⟩

theorem control (band : Band) : (Functor.discard (writeControl ⟨band, band⟩)).Settles := by
  refine followed (fun turns result said => ?_) fun value turns result => done_silent
  rw [writeControl_eq, conversation_inquiry] at said
  obtain ⟨answer, rfl, rfl⟩ := said
  refine .inr ⟨[], _, band, rfl, rfl, ?_⟩
  rintro ⟨-, reply, control, rfl, parsed⟩
  exact ⟨control, parsed⟩

end Dialogue.Settles

namespace Rig

open Dialogue.Settles

theorem settles_selectBand (band : Band) : (selectBand band).Settles := by
  refine .bind (Asks.discard (asks_parsed (Command.calm_writeTuning _))) fun _ => ?_
  refine .bind (asks_provision (Command.IsQuery.memory _).calm (Command.calm_writeMemory _))
    fun _ => ?_
  refine .bind (Asks.discard (asks_parsed (Command.calm_writeSelection _))) fun _ => ?_
  exact control band

theorem calm_of_query {α : Type} {d : Dialogue α} (h : d.Asks Command.IsQuery fun _ => True) :
    d.Asks Command.Calm fun _ => True :=
  h.weaken (fun _ query => query.calm) fun _ _ => trivial

theorem settles_selecting (r : Rig) (vfo : Value) : (r.selecting vfo).Settles := by
  refine .bind (Asks.ofExcept fun _ _ => trivial) fun written => ?_
  refine .bind (Asks.say _ _) fun _ => ?_
  refine .bind (Asks.ofExcept fun _ _ => trivial) fun session => ?_
  refine .bind (Asks.ofExcept fun _ _ => trivial) fun choice => ?_
  cases choice with
  | named band => exact followed (settles_selectBand band) fun _ _ _ => done_silent
  | memory =>
      refine .bind (asks_currentBand Command.calm_readControl) fun band => ?_
      refine .bind (Asks.discard (asks_parsed (Command.calm_writeTuning _))) fun _ => ?_
      intro turns result said
      obtain ⟨rfl, -⟩ := done_silent said
      exact .inl fun turn member => absurd member List.not_mem_nil

theorem settles_splitting (r : Rig) (on vfo : Value) : (r.splitting on vfo).Settles := by
  refine .bind (Asks.ofExcept fun _ _ => trivial) fun session => ?_
  refine .bind (calm_of_query (asks_transmitChoice vfo)) fun band => ?_
  refine followed (control band) fun _ turns result said => ?_
  split at said
  · exact done_silent (conversation_note.mp said)
  · exact done_silent said

theorem settles_perform (r : Rig) (request : Request) : (r.perform request).Settles := by
  have calm : (∀ command, request.May command → command.Calm) → (r.perform request).Settles :=
    fun commands => .ofAsks ((r.asks_perform request).weaken commands fun _ _ => trivial)
  cases request with
  | selectVfo vfo =>
      rw [perform_selectVfo]
      exact followed (r.settles_selecting vfo) fun _ _ _ => done_silent
  | setSplit on vfo =>
      rw [perform_setSplit]
      exact followed (r.settles_splitting on vfo) fun _ _ _ => done_silent
  | _ =>
      refine calm fun command may => ?_
      rcases may.calm with quiet | ⟨_, -, ⟨_, other, -⟩ | ⟨_, _, other⟩⟩
      · exact quiet
      · cases other
      · cases other

/-- A request that fails on the way to a radio has not moved its band control. -/
theorem control_of_error {r : Rig} {request : Request} {turns : List Turn} {why : Fault}
    {radio radio' : Radio} (said : (r.perform request).Conversation turns (.error why))
    (serves : radio.Serves turns radio') : radio.SameControl radio' := by
  rcases r.settles_perform request _ _ said with calm | ⟨asked, turn, band, rfl, gives, settled⟩
  · exact serves.calm calm
  · obtain ⟨v, same⟩ := settled (serves.given gives).2
    cases same

end Rig

end Transceiver
