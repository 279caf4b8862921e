import Transceiver.Proofs.Calls

/-! Sessions over runs. Whatever the radio answers, a session changes in few ways only, each after
the turns that call for it, and a request that fails changes nothing. -/
namespace Transceiver

open Dialogue

namespace Turn

/-- The turn asks for the band control and is told it. -/
def Tells (turn : Turn) (control : BandControl) : Prop :=
  turn.command = .readControl ∧
    ∃ reply, turn.answer = .ok reply ∧ BandControl.parse reply = .ok control

/-- The turn gives a band control and transmission, and the radio answers with a band control. -/
def Confirms (turn : Turn) (band : Band) : Prop :=
  turn.command = .writeControl ⟨band, band⟩ ∧
    ∃ reply control, turn.answer = .ok reply ∧ BandControl.parse reply = .ok control

end Turn

/-- The value names the VFO of a band, or leaves it to the band that the turns say has control. -/
def Transmits (vfo : Value) (band : Band) (turns : List Turn) : Prop :=
  (vfo = .text band.vfo ∧ turns = []) ∨
    ((vfo = .null ∨ vfo = .text "currVFO") ∧
      ∃ turn control, turns = [turn] ∧ turn.Tells control ∧ control.control = band)

/-- The requests that may change the session. -/
def Request.setsSession : Request → Bool
  | .start | .finish | .selectVfo _ | .setSplit _ _ | .split => true
  | _ => false

/-- What a request that succeeds makes of the session, given the turns that it took. -/
inductive Session.Follows (policy : Policy) :
    Request → List Turn → Option Session → Option Session → Prop
  | started {session} : Follows policy .start [] session (some .initial)
  | finished {session} : Follows policy .finish [] session none
  | selected {vfo band asked turn} {s : Session} : Selects vfo band → turn.Confirms band →
      s.split = false →
      Follows policy (.selectVfo vfo) (asked ++ [turn]) (some s) (some ⟨band, band, false⟩)
  | selectedApart {vfo band asked turn} {s : Session} : Selects vfo band → turn.Confirms band →
      s.split = true → Follows policy (.selectVfo vfo) (asked ++ [turn]) (some s) (some s)
  | remembered {asked} {s : Session} :
      Follows policy (.selectVfo (.text "MEM")) asked (some s) (some s)
  | splitOn {on vfo band asked turn} {s : Session} : on.truth = true → Transmits vfo band asked →
      turn.Confirms band →
      Follows policy (.setSplit on vfo) (asked ++ [turn]) (some s) (some ⟨band, band.other, true⟩)
  | splitOff {on vfo band asked turn} {s : Session} : on.truth = false → Transmits vfo band asked →
      turn.Confirms band →
      Follows policy (.setSplit on vfo) (asked ++ [turn]) (some s) (some { s with split := false })
  | agreed {turn control} {s : Session} : turn.Tells control →
      (policy = .warn ∨ control.transmit = s.transmit) →
      Follows policy .split [turn] (some s) (some s)
  | adopted {turn control} {s : Session} : turn.Tells control → policy = .adopt →
      control.transmit ≠ s.transmit →
      Follows policy .split [turn] (some s)
        (some ⟨control.transmit, control.transmit.other, s.split⟩)
  | untouched {request turns session} : request.setsSession = false →
      Follows policy request turns session session

/-- Both VFOs are named as the radio has them, and split keeps them apart. -/
structure Session.Sound (s : Session) : Prop where
  transmit : s.transmit.vfo = "VFOA" ∨ s.transmit.vfo = "VFOB"
  receive : s.receive.vfo = "VFOA" ∨ s.receive.vfo = "VFOB"
  apart : s.split = true → s.receive = s.transmit.other

theorem Band.vfo_named (band : Band) : band.vfo = "VFOA" ∨ band.vfo = "VFOB" := by
  cases band
  · exact .inl rfl
  · exact .inr rfl

namespace Session

theorem sound_of_apart {s : Session} (apart : s.split = true → s.receive = s.transmit.other) :
    s.Sound :=
  ⟨s.transmit.vfo_named, s.receive.vfo_named, apart⟩

theorem Follows.sound {policy : Policy} {request : Request} {turns : List Turn}
    {before after : Option Session} (h : Follows policy request turns before after)
    (sound : ∀ s, before = some s → s.Sound) : ∀ s, after = some s → s.Sound := by
  cases h with
  | started =>
      rintro _ ⟨⟩
      exact sound_of_apart nofun
  | finished => exact nofun
  | selected =>
      rintro _ ⟨⟩
      exact sound_of_apart nofun
  | splitOn =>
      rintro _ ⟨⟩
      exact sound_of_apart fun _ => rfl
  | splitOff =>
      rintro _ ⟨⟩
      exact sound_of_apart nofun
  | adopted =>
      rintro _ ⟨⟩
      exact sound_of_apart fun _ => rfl
  | selectedApart => exact sound
  | remembered => exact sound
  | agreed => exact sound
  | untouched => exact sound

end Session

namespace Dialogue

variable {α : Type}

theorem Conversation.discard {d : Dialogue α} {turns : List Turn}
    (h : (Functor.discard d).Conversation turns (.ok ())) :
    ∃ value, d.Conversation turns (.ok value) := by
  obtain ⟨before, said, same⟩ := Conversation.of_bind_pure h
  cases before with
  | error why => cases same
  | ok value => exact ⟨value, said⟩

/-- A dialogue that comes to a value got there by the values of its parts. -/
theorem Conversation.split_ok {β : Type} {d : Dialogue α} {next : α → Dialogue β}
    {turns : List Turn} {result : β} (h : (d >>= next).Conversation turns (.ok result)) :
    ∃ value earlier later, turns = earlier ++ later ∧ d.Conversation earlier (.ok value) ∧
      (next value).Conversation later (.ok result) := by
  rcases h.split with ⟨why, same, -⟩ | came
  · cases same
  · exact came

/-- What is accepted without a word to the radio. -/
theorem Conversation.accepted {β : Type} {e : Except Fault α} {next : α → Dialogue β}
    {turns : List Turn} {result : β} (h : (ofExcept e >>= next).Conversation turns (.ok result)) :
    ∃ value, e = .ok value ∧ (next value).Conversation turns (.ok result) := by
  cases e with
  | error why => cases (conversation_fail.mp h).2
  | ok value => exact ⟨value, rfl, h⟩

theorem readControl_eq : readControl = inquiry .readControl BandControl.parse :=
  ask_bind_eq .readControl BandControl.parse

theorem writeControl_eq (control : BandControl) :
    writeControl control = inquiry (.writeControl control) BandControl.parse :=
  ask_bind_eq (.writeControl control) BandControl.parse

theorem Conversation.readControl {turns : List Turn} {control : BandControl}
    (h : Dialogue.readControl.Conversation turns (.ok control)) :
    ∃ turn, turns = [turn] ∧ turn.Tells control := by
  rw [readControl_eq, conversation_inquiry_ok] at h
  obtain ⟨reply, rfl, parsed⟩ := h
  exact ⟨_, rfl, rfl, reply, rfl, parsed⟩

theorem Conversation.giveControl {turns : List Turn} {band : Band}
    (h : (Functor.discard (writeControl ⟨band, band⟩)).Conversation turns (.ok ())) :
    ∃ turn, turns = [turn] ∧ turn.Confirms band := by
  obtain ⟨control, h⟩ := h.discard
  rw [writeControl_eq, conversation_inquiry_ok] at h
  obtain ⟨reply, rfl, parsed⟩ := h
  exact ⟨_, rfl, rfl, reply, control, rfl, parsed⟩

end Dialogue

namespace Rig

open Session

variable {r r' : Rig} {turns : List Turn}

theorem openSession_eq_ok {s : Session} : r.openSession = .ok s ↔ r.session = some s := by
  unfold openSession
  cases r.session <;> simp

theorem currentBand_of_ok {band : Band} (h : currentBand.Conversation turns (.ok band)) :
    ∃ turn control, turns = [turn] ∧ turn.Tells control ∧ control.control = band := by
  obtain ⟨control, earlier, later, rfl, asked, rest⟩ := h.split_ok
  obtain ⟨turn, rfl, tells⟩ := asked.readControl
  obtain ⟨rfl, same⟩ := conversation_done.mp rest
  cases same
  exact ⟨turn, control, rfl, tells, rfl⟩

theorem transmits_of_ok {vfo : Value} {band : Band}
    (h : (transmitChoice vfo).Conversation turns (.ok band)) : Transmits vfo band turns := by
  unfold transmitChoice at h
  split at h
  · exact .inr ⟨.inl rfl, currentBand_of_ok h⟩
  · split at h
    · rename_i name current
      exact .inr ⟨.inr (congrArg Value.text current), currentBand_of_ok h⟩
    · split at h
      · rename_i named
        obtain ⟨rfl, same⟩ := conversation_done.mp h
        cases same
        exact .inl ⟨congrArg Value.text (Band.ofVfo?_eq_some.mp named), rfl⟩
      · cases (conversation_fail.mp h).2
  · cases (conversation_fail.mp h).2

/-- Once a VFO is selected, the last thing the radio was told is the control of its band. -/
theorem confirms_of_selectBand {band : Band}
    (h : (selectBand band).Conversation turns (.ok ())) :
    ∃ asked turn, turns = asked ++ [turn] ∧ turn.Confirms band := by
  obtain ⟨-, tuned, rest, rfl, -, afterTuning⟩ := h.split_ok
  obtain ⟨-, provided, rest, rfl, -, afterProvision⟩ := afterTuning.split_ok
  obtain ⟨-, placed, rest, rfl, -, last⟩ := afterProvision.split_ok
  obtain ⟨turn, rfl, confirms⟩ := Conversation.giveControl last
  exact ⟨tuned ++ (provided ++ placed), turn, by simp, confirms⟩

theorem follows_selecting {vfo : Value} (h : (r.selecting vfo).Conversation turns (.ok r')) :
    r'.policy = r.policy ∧ Follows r.policy (.selectVfo vfo) turns r.session r'.session := by
  obtain ⟨written, -, afterNote⟩ := h.accepted
  obtain ⟨s, opened, afterOpening⟩ := Conversation.accepted (conversation_note.mp afterNote)
  obtain ⟨choice, chosen, afterChoice⟩ := afterOpening.accepted
  rw [openSession_eq_ok.mp (mapError_eq_ok.mp opened)]
  cases choice with
  | named band =>
      have selects := SelectionChoice.ofValue_eq_named chosen
      obtain ⟨_, told, rest, rfl, selection, ending⟩ := afterChoice.split_ok
      obtain ⟨rfl, same⟩ := conversation_done.mp ending
      obtain ⟨asked, turn, rfl, confirms⟩ := confirms_of_selectBand selection
      cases same
      refine ⟨rfl, ?_⟩
      cases apart : s.split with
      | false => simpa [select, apart] using Follows.selected selects confirms apart
      | true => simpa [select, apart] using Follows.selectedApart selects confirms apart
  | memory =>
      obtain rfl := SelectionChoice.ofValue_eq_memory chosen
      obtain ⟨band, asked, rest, rfl, -, afterBand⟩ := afterChoice.split_ok
      obtain ⟨-, tuned, rest, rfl, -, ending⟩ := afterBand.split_ok
      obtain ⟨rfl, same⟩ := conversation_done.mp ending
      cases same
      rw [openSession_eq_ok.mp (mapError_eq_ok.mp opened)]
      exact ⟨rfl, .remembered⟩

theorem follows_splitting {on vfo : Value}
    (h : (r.splitting on vfo).Conversation turns (.ok r')) :
    r'.policy = r.policy ∧ Follows r.policy (.setSplit on vfo) turns r.session r'.session := by
  obtain ⟨s, opened, afterOpening⟩ := Conversation.accepted h
  rw [openSession_eq_ok.mp (mapError_eq_ok.mp opened)]
  obtain ⟨band, asked, rest, rfl, choice, afterChoice⟩ := afterOpening.split_ok
  obtain ⟨_, told, rest, rfl, telling, ending⟩ := afterChoice.split_ok
  obtain ⟨turn, rfl, confirms⟩ := Conversation.giveControl telling
  have transmits := transmits_of_ok choice
  split at ending
  · rename_i yes
    obtain ⟨rfl, same⟩ := conversation_done.mp (conversation_note.mp ending)
    cases same
    exact ⟨rfl, .splitOn yes transmits confirms⟩
  · rename_i no
    obtain ⟨rfl, same⟩ := conversation_done.mp ending
    cases same
    exact ⟨rfl, .splitOff (by simpa using no) transmits confirms⟩

theorem follows_reconciling {split : Bool} {band : Band}
    (h : r.reconciling.Conversation turns (.ok (split, band, r'))) :
    r'.policy = r.policy ∧ Follows r.policy .split turns r.session r'.session := by
  obtain ⟨s, opened, afterOpening⟩ := Conversation.accepted h
  have session := openSession_eq_ok.mp (mapError_eq_ok.mp opened)
  obtain ⟨control, asked, rest, rfl, asking, afterAnswer⟩ := afterOpening.split_ok
  obtain ⟨turn, rfl, tells⟩ := asking.readControl
  dsimp only at afterAnswer
  split at afterAnswer
  · rename_i agree
    obtain ⟨rfl, same⟩ := conversation_done.mp afterAnswer
    cases same
    rw [session]
    exact ⟨rfl, .agreed tells (.inr agree)⟩
  · rename_i differ
    have warned := conversation_note.mp afterAnswer
    split at warned
    · rename_i warns
      obtain ⟨rfl, same⟩ := conversation_done.mp warned
      cases same
      rw [session]
      exact ⟨rfl, .agreed tells (.inl warns)⟩
    · rename_i adopts
      obtain ⟨rfl, same⟩ := conversation_done.mp (conversation_note.mp warned)
      cases same
      rw [session]
      exact ⟨rfl, .adopted tells adopts differ⟩

theorem kept_of_answering {d : Rig → Dialogue Value} {answer : Answer}
    (h : ((answering d).dialogue r).Conversation turns (.ok (answer, r'))) : r' = r := by
  rw [dialogue_answering] at h
  obtain ⟨before, -, same⟩ := Conversation.of_bind_pure h
  cases before <;> cases same
  rfl

theorem kept_of_doing {d : Rig → Dialogue Unit} {answer : Answer}
    (h : ((doing d).dialogue r).Conversation turns (.ok (answer, r'))) : r' = r := by
  rw [dialogue_doing] at h
  obtain ⟨before, -, same⟩ := Conversation.of_bind_pure h
  cases before <;> cases same
  rfl

/-- Any other request comes back to the same rig. -/
theorem kept_of_ok {request : Request} (other : request.setsSession = false) {answer : Answer}
    (h : (r.perform request).Conversation turns (.ok (answer, r'))) : r' = r := by
  cases request with
  | start => cases other
  | finish => cases other
  | selectVfo vfo => cases other
  | setSplit on vfo => cases other
  | split => cases other
  | capabilities =>
      cases (conversation_done.mp h).2
      rfl
  | name =>
      cases (conversation_done.mp h).2
      rfl
  | channel number =>
      rw [perform_channel] at h
      obtain ⟨before, -, same⟩ := Conversation.of_bind_pure h
      cases before <;> cases same
      rfl
  | fillMemory number row =>
      rw [perform_fillMemory] at h
      obtain ⟨channel, -, after⟩ := Conversation.accepted h
      obtain ⟨before, -, same⟩ := Conversation.of_bind_pure after
      cases before <;> cases same
      rfl
  | setFrequency | setSplitFrequency | setMode | set | setMemory | setChannel | setTransmit =>
      exact kept_of_doing h
  | session | selectedVfo | frequency | splitFrequency | mode | get | memory | hearsSignal
  | channelOf => exact kept_of_answering h

theorem follows_perform {request : Request} {answer : Answer}
    (h : (r.perform request).Conversation turns (.ok (answer, r'))) :
    r'.policy = r.policy ∧ Follows r.policy request turns r.session r'.session := by
  cases sets : request.setsSession with
  | false =>
      obtain rfl := kept_of_ok sets h
      exact ⟨rfl, .untouched sets⟩
  | true =>
      cases request with
      | start =>
          obtain ⟨rfl, same⟩ := conversation_done.mp h
          cases same
          exact ⟨rfl, .started⟩
      | finish =>
          obtain ⟨rfl, same⟩ := conversation_done.mp h
          cases same
          exact ⟨rfl, .finished⟩
      | selectVfo vfo =>
          rw [perform_selectVfo] at h
          obtain ⟨r'', earlier, later, rfl, said, ending⟩ := Conversation.split_ok h
          obtain ⟨rfl, same⟩ := conversation_done.mp ending
          cases same
          rw [List.append_nil]
          exact follows_selecting said
      | setSplit on vfo =>
          rw [perform_setSplit] at h
          obtain ⟨r'', earlier, later, rfl, said, ending⟩ := Conversation.split_ok h
          obtain ⟨rfl, same⟩ := conversation_done.mp ending
          cases same
          rw [List.append_nil]
          exact follows_splitting said
      | split =>
          rw [perform_split] at h
          obtain ⟨⟨split, band, r''⟩, earlier, later, rfl, said, ending⟩ := Conversation.split_ok h
          obtain ⟨rfl, same⟩ := conversation_done.mp ending
          cases same
          rw [List.append_nil]
          exact follows_reconciling said
      | _ => cases sets

variable {σ : Type}

/-- A request that succeeds changes the session as its turns call for, and one that fails does not
change the rig. -/
theorem carryOut_follows (link : Link) (port : Port σ) (r : Rig) (request : Request) (s : σ) :
    (∀ answer, (r.carryOut link port request s).1.result = .ok answer →
      (r.carryOut link port request s).2.policy = r.policy ∧
        Follows r.policy request (r.turns link port request s) r.session
          (r.carryOut link port request s).2.session) ∧
    ∀ why, (r.carryOut link port request s).1.result = .error why →
      (r.carryOut link port request s).2 = r := by
  refine ⟨fun answer came => ?_, fun why => carryOut_error⟩
  have said := conversation_run link port (r.perform request) s
  rw [carryOut_ok came] at said
  exact follows_perform said

/-- The rig after requests that were carried out one after the other. -/
def rigAfter (link : Link) (port : Port σ) (r : Rig) : List Request → σ → Rig
  | [], _ => r
  | request :: rest, s =>
    let (outcome, r) := r.carryOut link port request s
    r.rigAfter link port rest outcome.port

/-- What a request leaves of a sound session is sound, whether it succeeds or not. -/
theorem carryOut_sound (link : Link) (port : Port σ) {r : Rig} (sound : ∀ s, r.session = some s → s.Sound)
    (request : Request) (s : σ) :
    (r.carryOut link port request s).2.policy = r.policy ∧
      ∀ session, (r.carryOut link port request s).2.session = some session → session.Sound := by
  obtain ⟨succeeds, fails⟩ := carryOut_follows link port r request s
  cases came : (r.carryOut link port request s).1.result with
  | ok answer => exact ⟨(succeeds answer came).1, (succeeds answer came).2.sound sound⟩
  | error why =>
      rw [fails why came]
      exact ⟨rfl, sound⟩

theorem rigAfter_sound (link : Link) (port : Port σ) {r : Rig}
    (sound : ∀ s, r.session = some s → s.Sound) (requests : List Request) (s : σ) :
    (r.rigAfter link port requests s).policy = r.policy ∧
      ∀ session, (r.rigAfter link port requests s).session = some session → session.Sound := by
  induction requests generalizing r s with
  | nil => exact ⟨rfl, sound⟩
  | cons request rest ih =>
      obtain ⟨policy, kept⟩ := carryOut_sound link port sound request s
      obtain ⟨policy', kept'⟩ := ih kept (r.carryOut link port request s).1.port
      exact ⟨policy'.trans policy, kept'⟩

/-- From the opening of a rig on, over any line and whatever was requested so far, the VFOs of an open
session are the radio's two, which split keeps apart. The next request, if it succeeds, changes the
session as its turns call for, and if it fails, leaves it as it was. -/
theorem sessions_follow_requests (link : Link) (port : Port σ) (policy : Policy)
    (requests : List Request) (start : σ) :
    let opened := (closed policy).opened
    let r := opened.rigAfter link port requests start
    let s := opened.portAfter link port requests start
    (∀ session, r.session = some session → session.Sound) ∧
    ∀ request,
      (∀ answer, (r.carryOut link port request s).1.result = .ok answer →
        Follows policy request (r.turns link port request s) r.session
          (r.carryOut link port request s).2.session) ∧
      ∀ why, (r.carryOut link port request s).1.result = .error why →
        (r.carryOut link port request s).2.session = r.session := by
  have fresh : ∀ s, (closed policy).opened.session = some s → s.Sound := by
    rintro _ ⟨⟩
    exact sound_of_apart nofun
  obtain ⟨same, sound⟩ :=
    rigAfter_sound link port fresh requests start
  refine ⟨sound, fun request => ?_⟩
  obtain ⟨succeeds, fails⟩ := carryOut_follows link port _ request
    ((closed policy).opened.portAfter link port requests start)
  refine ⟨fun answer came => ?_, fun why failed => ?_⟩
  · have follows := (succeeds answer came).2
    rwa [same] at follows
  · rw [fails why failed]

end Rig

end Transceiver
