import Transceiver.Proofs.Agreement
import Transceiver.Proofs.Controlling

/-! Selecting a VFO over a quiet line. Where the radio stores a record for the VFO, selecting it
succeeds and leaves the radio on that band; setting split by name succeeds with any radio. -/
namespace Transceiver

open Dialogue Record Simulation

theorem Simulation.PerBand.set_set {α : Type} (p : PerBand α) (band : Band) (v : α) :
    (p.set band v).set band v = p.set band v := by
  cases band <;> rfl

namespace Simulation.Radio

theorem bandOf?_index (band : Band) : bandOf? (band.index.val : Int) = some band := by
  cases band <;> rfl

theorem answer_writeTuning (r : Radio) (band : Band) :
    r.answer (Command.writeTuning ⟨band, .memory⟩).line =
      (BandTuning.line ⟨band, .memory⟩, { r with tuning := r.tuning.set band 1 }) := by
  have asked : r.answer (Command.writeTuning ⟨band, .memory⟩).line =
      (r.answerTuning [Number.padded 1 band.index, Number.padded 1 Tuning.memory.code]).getD
        ("?", r) :=
    r.answer_fieldTexts "VM" BandTuning.formats (BandTuning.values ⟨band, .memory⟩) (by decide) nofun
  have one : Number.readInt? (Number.padded 1 Tuning.memory.code) = some 1 := by decide
  have written : Number.written? Number.showInt 1 = some "1" := by decide
  have echo : "VM " ++ Number.showInt (band.index.val : Int) ++ "," ++ "1" =
      BandTuning.line ⟨band, .memory⟩ := by
    cases band <;> rfl
  rw [asked]
  simp only [answerTuning, List.head?_cons, List.getElem?_cons_zero, List.getElem?_cons_succ,
    Option.bind_eq_bind, Option.bind_some, Option.pure_def, readInt?_band, one, bandOf?_index,
    PerBand.get_set, if_true, written, Option.getD_some, echo]

theorem selectionReply_channel {r : Radio} {band : Band}
    (placed : r.selection.get band = (band.channel.val : Int)) :
    r.selectionReply (band.index.val : Int) = some (MemorySelection.line ⟨band, band.channel⟩) := by
  have written : Number.written? (Number.paddedInt 3) (band.channel.val : Int) =
      some (Number.padded 3 band.channel.val) := by
    cases band <;> decide
  have echo : "MR " ++ Number.showInt (band.index.val : Int) ++ "," ++
      Number.padded 3 band.channel.val = MemorySelection.line ⟨band, band.channel⟩ := by
    cases band <;> rfl
  simp only [selectionReply, bandOf?_index, Option.bind_eq_bind, Option.bind_some, placed, written,
    Option.pure_def, echo]

theorem answer_writeSelection {r : Radio} {band : Band} {payload : String}
    (held : r.memories.get? band.channel.val = some payload) :
    r.answer (Command.writeSelection ⟨band, band.channel⟩).line =
      (MemorySelection.line ⟨band, band.channel⟩,
        { r with selection := r.selection.set band band.channel.val }) := by
  have asked : r.answer (Command.writeSelection ⟨band, band.channel⟩).line =
      (r.answerSelection [Number.padded 1 band.index, Number.padded 3 band.channel.val]).getD
        ("?", r) :=
    r.answer_fieldTexts "MR" MemorySelection.formats (MemorySelection.values ⟨band, band.channel⟩)
      (by decide) nofun
  have placed : ({ r with selection := r.selection.set band band.channel.val } : Radio).selection.get
      band = (band.channel.val : Int) := by
    rw [PerBand.get_set, if_pos rfl]
  rw [asked]
  simp only [answerSelection, List.head?_cons, List.getElem?_cons_zero, List.getElem?_cons_succ,
    Option.bind_eq_bind, Option.bind_some, Option.pure_def, readInt?_band, readInt?_channel, held,
    Option.isNone_some, Bool.false_eq_true, if_false, bandOf?_index,
    selectionReply_channel placed, Option.getD_some]

theorem answer_readSelection {r : Radio} {band : Band}
    (placed : r.selection.get band = (band.channel.val : Int)) :
    r.answer (Command.readSelection band).line = (MemorySelection.line ⟨band, band.channel⟩, r) := by
  have asked : r.answer (Command.readSelection band).line =
      (r.answerSelection [Number.padded 1 band.index]).getD ("?", r) :=
    r.answer_numbers (by decide) (by simp) fun _ => one_number
  rw [asked]
  simp only [answerSelection, List.head?_cons, List.getElem?_cons_succ, List.getElem?_nil,
    Option.bind_eq_bind, Option.bind_some, Option.pure_def, readInt?_band,
    selectionReply_channel placed, Option.getD_some]

/-- A command that the radio echoes is read back. -/
theorem speaks_echo {α : Type} {command : Command} {parse : String → Except Fault α} {value : α}
    {r r' : Radio} (name text : String) (worded : IsPrintable command.line)
    (echo : r.answer command.line = (name ++ " " ++ text, r')) (front : IsSolid name)
    (some : name ≠ "") (rest : IsSolid text) (more : text ≠ "")
    (read : parse (name ++ " " ++ text) = .ok value) :
    (Functor.discard (inquiry command parse)).Speaks r [command] (.ok ()) r' := by
  have talks : (inquiry command parse).Talks r (parse (name ++ " " ++ text)) r' :=
    talks_reply worded echo front some rest more
  rw [read] at talks
  exact Speaks.map (Speaks.inquiry talks)

/-- The radio after a VFO was selected. -/
def select (r : Radio) (band : Band) : Radio :=
  { r with
    tuning := r.tuning.set band 1
    selection := r.selection.set band band.channel.val
    control := band.index.val
    transmit := band.index.val }

theorem speaks_writeControl (r : Radio) (band : Band) :
    (Functor.discard (writeControl ⟨band, band⟩)).Speaks r [.writeControl ⟨band, band⟩] (.ok ())
      { r with control := band.index.val, transmit := band.index.val } := by
  rw [writeControl_eq]
  refine speaks_echo "BC"
    (Text.join "," (fieldTexts BandControl.formats (BandControl.values ⟨band, band⟩)))
    (wording_writeControl _).isPrintable (r.answer_writeControl band) (by decide) (by decide) ?_ ?_
    (BandControl.parse_line ⟨band, band⟩)
  · cases band <;> decide
  · cases band <;> decide

theorem speaks_writeTuning (r : Radio) (band : Band) :
    (Functor.discard (writeTuning ⟨band, .memory⟩)).Speaks r [.writeTuning ⟨band, .memory⟩] (.ok ())
      { r with tuning := r.tuning.set band 1 } := by
  have asked : writeTuning ⟨band, .memory⟩ =
      inquiry (.writeTuning ⟨band, .memory⟩) BandTuning.parse := ask_bind_eq _ _
  rw [asked]
  refine speaks_echo "VM"
    (Text.join "," (fieldTexts BandTuning.formats (BandTuning.values ⟨band, .memory⟩)))
    (wording_writeTuning _).isPrintable (r.answer_writeTuning band) (by decide) (by decide) ?_ ?_
    (BandTuning.parse_line ⟨band, .memory⟩)
  · cases band <;> decide
  · cases band <;> decide

theorem isSolid_selection (band : Band) :
    IsSolid (Text.join "," (fieldTexts MemorySelection.formats
      (MemorySelection.values ⟨band, band.channel⟩))) := by
  cases band <;> decide

theorem speaks_writeSelection {r : Radio} {band : Band} {payload : String}
    (held : r.memories.get? band.channel.val = some payload) :
    (Functor.discard (writeSelection ⟨band, band.channel⟩)).Speaks r
      [.writeSelection ⟨band, band.channel⟩] (.ok ())
      { r with selection := r.selection.set band band.channel.val } := by
  have asked : writeSelection ⟨band, band.channel⟩ =
      inquiry (.writeSelection ⟨band, band.channel⟩) MemorySelection.parse := ask_bind_eq _ _
  rw [asked]
  exact speaks_echo "MR"
    (Text.join "," (fieldTexts MemorySelection.formats
      (MemorySelection.values ⟨band, band.channel⟩)))
    (wording_writeSelection _).isPrintable (answer_writeSelection held) (by decide) (by decide)
    (isSolid_selection band) (by cases band <;> decide)
    (MemorySelection.parse_line ⟨band, band.channel⟩)

/-- The channel of a band is empty or holds a record of its own. -/
def Selectable (r : Radio) (band : Band) : Prop :=
  r.memories.get? band.channel.val = none ∨ ∃ record, r.Holds band record

/-- The radio with an empty record in the channel of a band, if that held nothing. -/
def provisioned (r : Radio) (band : Band) : Radio :=
  match r.memories.get? band.channel.val with
  | none => r.store band (.empty band.channel)
  | some _ => r

/-- The commands that see to it that a band's channel holds a record. -/
def provisioning (r : Radio) (band : Band) : List Command :=
  match r.memories.get? band.channel.val with
  | none => [.readMemory band.channel, .writeMemory (.empty band.channel)]
  | some _ => [.readMemory band.channel]

theorem provisioned_of_holds {r : Radio} {band : Band} {record : MemoryRecord}
    (held : r.Holds band record) : r.provisioned band = r := by
  obtain ⟨payload, stored, known⟩ := held
  rw [provisioned, stored]

theorem holds_provisioned {r : Radio} {band : Band} (h : r.Selectable band) :
    ∃ record, (r.provisioned band).Holds band record := by
  rcases h with empty | ⟨record, held⟩
  · have created : r.provisioned band = r.store band (.empty band.channel) := by
      rw [provisioned, empty]
    exact ⟨.empty band.channel, created ▸ r.holds_store rfl⟩
  · exact ⟨record, (provisioned_of_holds held).symm ▸ held⟩

/-- Where the query for its memory is rejected, a band's channel is given an empty record. -/
theorem speaks_provision_rejected {r : Radio} {band : Band} {fault : RadioFault}
    (asked : (readMemory band.channel).Talks r (.error (.radio fault)) r)
    (rejected : fault.kind = .rejected) :
    (Rig.provision band.channel).Speaks r
      [.readMemory band.channel, .writeMemory (.empty band.channel)] (.ok ())
      (r.store band (.empty band.channel)) := by
  have created := r.speaks_writeMemory (.empty band.channel)
  rw [r.keep_eq_store rfl] at created
  refine Speaks.rescue_error (Speaks.bind_error (speaks_readMemory asked)) ?_
  dsimp only
  rw [if_pos rejected]
  exact .note (Speaks.map created)

theorem speaks_provision {r : Radio} {band : Band} (h : r.Selectable band) :
    (Rig.provision band.channel).Speaks r (r.provisioning band) (.ok ()) (r.provisioned band) := by
  rcases h with empty | ⟨record, payload, stored, known⟩
  · rw [provisioning, provisioned, empty]
    exact speaks_provision_rejected (talks_readMemory_empty empty) rfl
  · rw [provisioning, provisioned, stored]
    exact Speaks.rescue_ok (Speaks.map (speaks_readMemory (talks_readChannel stored known)))

/-- A band is selected once its channel holds something, with whatever commands that takes. -/
theorem speaks_selectBand_provisioned {r r' : Radio} {band : Band} {commands : List Command}
    {payload : String}
    (provision : (Rig.provision band.channel).Speaks { r with tuning := r.tuning.set band 1 } commands
      (.ok ()) { r' with tuning := r'.tuning.set band 1 })
    (stored : r'.memories.get? band.channel.val = some payload) :
    (Rig.selectBand band).Speaks r
      (.writeTuning ⟨band, .memory⟩ :: commands ++
        [.writeSelection ⟨band, band.channel⟩, .writeControl ⟨band, band⟩])
      (.ok ()) (r'.select band) := by
  have shape : (.writeTuning ⟨band, .memory⟩ :: commands ++
      [.writeSelection ⟨band, band.channel⟩, .writeControl ⟨band, band⟩] : List Command) =
        [.writeTuning ⟨band, .memory⟩] ++ (commands ++
          ([.writeSelection ⟨band, band.channel⟩] ++ [.writeControl ⟨band, band⟩])) := rfl
  rw [shape]
  refine Speaks.bind (r.speaks_writeTuning band) (Speaks.bind provision ?_)
  exact Speaks.bind (speaks_writeSelection stored) (speaks_writeControl _ band)

/-- The commands that a VFO is selected with. -/
def selecting (r : Radio) (band : Band) : List Command :=
  .writeTuning ⟨band, .memory⟩ :: r.provisioning band ++
    [.writeSelection ⟨band, band.channel⟩, .writeControl ⟨band, band⟩]

theorem speaks_selectBand {r : Radio} {band : Band} (h : r.Selectable band) :
    (Rig.selectBand band).Speaks r (r.selecting band) (.ok ()) ((r.provisioned band).select band) := by
  obtain ⟨record, payload, stored, known⟩ := holds_provisioned h
  have tuned : ({ r with tuning := r.tuning.set band 1 } : Radio).provisioned band =
      { r.provisioned band with tuning := (r.provisioned band).tuning.set band 1 } := by
    unfold provisioned
    dsimp only
    cases r.memories.get? band.channel.val <;> rfl
  have provision : (Rig.provision band.channel).Speaks { r with tuning := r.tuning.set band 1 }
      (r.provisioning band) (.ok ())
      { r.provisioned band with tuning := (r.provisioned band).tuning.set band 1 } :=
    tuned ▸ speaks_provision h
  exact speaks_selectBand_provisioned provision stored

theorem select_select (r : Radio) (band : Band) : (r.select band).select band = r.select band := by
  simp only [select, PerBand.set_set]

theorem controls_select (r : Radio) (band : Band) : (r.select band).Controls band := ⟨rfl, rfl⟩

theorem controlBand_of_controls {r : Radio} {band : Band} (h : r.Controls band) :
    r.controlBand = band := by
  obtain ⟨control, transmit⟩ := h
  unfold controlBand
  rw [control, transmit]
  cases band <;> rfl

theorem speaks_readControl {r : Radio} {told : BandControl}
    (control : r.control = (told.control.index.val : Int))
    (transmit : r.transmit = (told.transmit.index.val : Int)) :
    readControl.Speaks r [.readControl] (.ok told) r := by
  have talks : (inquiry .readControl BandControl.parse).Talks r (BandControl.parse told.line) r := by
    obtain ⟨first, second⟩ := told
    exact talks_reply Wording.control.isPrintable (answer_readControl control transmit) (by decide)
      (by decide) (by cases first <;> cases second <;> decide)
      (by cases first <;> cases second <;> decide)
  rw [BandControl.parse_line] at talks
  rw [readControl_eq]
  exact Speaks.inquiry talks

theorem talks_currentBand {r : Radio} {band : Band} (h : r.Controls band) :
    Rig.currentBand.Talks r (.ok band) r :=
  have asked : readControl.Talks r (.ok ⟨band, band⟩) r := (speaks_readControl h.1 h.2).talks
  Talks.map asked

theorem talks_readSelection {r : Radio} {band : Band}
    (placed : r.selection.get band = (band.channel.val : Int)) :
    (readSelection band).Talks r (.ok ⟨band, band.channel⟩) r := by
  have asked : readSelection band = inquiry (.readSelection band) MemorySelection.parse :=
    ask_bind_eq _ _
  have talks : (inquiry (.readSelection band) MemorySelection.parse).Talks r
      (MemorySelection.parse (MemorySelection.line ⟨band, band.channel⟩)) r :=
    talks_reply (Wording.selection (mem_bandTexts band)).isPrintable (answer_readSelection placed)
      (by decide) (by decide) (isSolid_selection band) (by cases band <;> decide)
  rwa [asked, ← MemorySelection.parse_line ⟨band, band.channel⟩]

end Simulation.Radio

namespace Rig

theorem speaks_selectVfo_selected {r : Rig} {session : Session} (opened : r.session = some session)
    {vfo : Value} {band : Band} (selects : Selects vfo band) {radio radio' : Radio}
    {commands : List Command} (selected : (selectBand band).Speaks radio commands (.ok ()) radio') :
    (r.perform (.selectVfo vfo)).Speaks radio commands
      (.ok (.nothing, { r with session := some (session.select band) })) radio' := by
  have chosen : SelectionChoice.ofValue vfo = .ok (.named band) := by
    rcases selects with rfl | ⟨rfl, rfl⟩
    · cases band <;> rfl
    · rfl
  have named : vfo.written = .ok vfo := by
    rcases selects with rfl | ⟨rfl, -⟩ <;> rfl
  have shape : r.selecting vfo =
      .note ⟨Source.rig, Level.debug, "set_vfo " ++ vfo.shown⟩
        (selectBand band >>= fun _ => pure { r with session := some (session.select band) }) := by
    unfold selecting
    rw [openSession_eq_ok.mpr opened, chosen, named]
    rfl
  rw [perform_selectVfo]
  refine Speaks.map ?_
  rw [shape]
  exact .note (Speaks.map selected)

theorem speaks_selectVfo {r : Rig} {session : Session} (opened : r.session = some session) {vfo : Value}
    {band : Band} (selects : Selects vfo band) {radio : Radio} (selectable : radio.Selectable band) :
    (r.perform (.selectVfo vfo)).Speaks radio (radio.selecting band)
      (.ok (.nothing, { r with session := some (session.select band) }))
      ((radio.provisioned band).select band) :=
  speaks_selectVfo_selected opened selects (Radio.speaks_selectBand selectable)

theorem talks_selectVfo {r : Rig} {session : Session} (opened : r.session = some session) {radio : Radio}
    {band : Band} {record : MemoryRecord} (held : radio.Holds band record) :
    (r.perform (.selectVfo (.text band.vfo))).Talks radio
      (.ok (.nothing, { r with session := some (session.select band) })) (radio.select band) := by
  have speaks := speaks_selectVfo opened (.inl rfl) (.inr ⟨record, held⟩)
  rw [Radio.provisioned_of_holds held] at speaks
  exact speaks.talks

theorem talks_selectedVfo {r : Radio} {band : Band} (controls : r.Controls band)
    (placed : r.selection.get band = (band.channel.val : Int)) :
    selectedVfo.Talks r (.ok band.vfo) r := by
  have named : ((Band.ofChannel? band.channel).map Band.vfo).getD "MEM" = band.vfo := by
    rw [Band.ofChannel?_channel]
    rfl
  refine Talks.bind (Radio.talks_currentBand controls) (Talks.bind (Radio.talks_readSelection placed) ?_)
  rw [← named]
  exact .note (.done _ _)

/-- The values that a rig takes for the VFO of the band in control. -/
def currentVfos : List Value := [.null, .text "currVFO", .text "MEM"]

/-- On a quiet bench whose radio has nothing in the VFO's channel or a record of its own, selecting
the VFO succeeds. The radio is provisioned where it has to be and put on that band, and the session
moves to it unless split keeps it apart. The rig then tells of that VFO, takes it for the current one,
and selecting it once more changes nothing. -/
theorem select_then_query {link : Link} (patient : 0 ≤ link.patience) {r : Rig} {session : Session}
    (opened : r.session = some session) {vfo : Value} {band : Band} (selects : Selects vfo band)
    {s : Bench} (quiet : s.Quiet) (selectable : s.radio.Selectable band) :
    r.Achieves link (.selectVfo vfo) s (s.radio.selecting band) .nothing
        { r with session := some (session.select band) } ((s.radio.provisioned band).select band) ∧
      ∀ t : Bench, t.Quiet → t.radio = (s.radio.provisioned band).select band →
        Obtains link { r with session := some (session.select band) } .selectedVfo t
            (.value (.text band.vfo)) t.radio ∧
          (∀ current ∈ currentVfos,
            Obtains link { r with session := some (session.select band) } (.channelOf current) t
              (.value (.ofNat band.channel)) t.radio) ∧
          Obtains link { r with session := some (session.select band) } (.selectVfo vfo) t
            .nothing t.radio := by
  refine ⟨achieves_of_speaks patient quiet (speaks_selectVfo opened selects selectable), ?_⟩
  intro t quiet' left
  have controls : t.radio.Controls band := by
    rw [left]
    exact Radio.controls_select _ band
  have placed : t.radio.selection.get band = (band.channel.val : Int) := by
    rw [left, Radio.select, PerBand.get_set, if_pos rfl]
  refine ⟨?_, ?_, ?_⟩
  · refine obtains_of_talks patient quiet' ?_
    rw [perform_selectedVfo]
    exact Talks.map (talks_selectedVfo controls placed)
  · intro current member
    have chosen : VfoChoice.ofValue current = .ok .current := by
      simp only [currentVfos, List.mem_cons, List.not_mem_nil, or_false] at member
      rcases member with rfl | rfl | rfl <;> rfl
    have resolved := talks_channelOf chosen t.radio
    rw [VfoChoice.band, Radio.controlBand_of_controls controls] at resolved
    refine obtains_of_talks patient quiet' ?_
    rw [perform_channelOf]
    exact Talks.map resolved
  · -- What was provisioned is there now, so the second time only the selection is made again.
    obtain ⟨record, payload, stored, known⟩ := Radio.holds_provisioned selectable
    have held : t.radio.Holds band record := by
      rw [left]
      exact ⟨payload, stored, known⟩
    have again : (session.select band).select band = session.select band := by
      cases apart : session.split <;> simp [Session.select, apart]
    have speaks := speaks_selectVfo (r := { r with session := some (session.select band) }) rfl
      selects (.inr ⟨record, held⟩)
    rw [Radio.provisioned_of_holds held, again] at speaks
    have same : t.radio.select band = t.radio := by
      rw [left, Radio.select_select]
    rw [same] at speaks
    exact obtains_of_talks patient quiet' speaks.talks

theorem select_then_query_empty :
    (closed .warn).opened.Achieves ⟨8, 3, 3⟩ (.selectVfo (.text "VFO")) (Bench.ofRadio .initial)
      [.writeTuning ⟨.a, .memory⟩, .readMemory 998, .writeMemory (.empty 998),
        .writeSelection ⟨.a, 998⟩, .writeControl ⟨.a, .a⟩]
      .nothing (closed .warn).opened ((Radio.initial.store .a (.empty 998)).select .a) := by
  have patient : 0 ≤ (⟨8, 3, 3⟩ : Link).patience := by decide
  have selects : Selects (.text "VFO") .a := .inr ⟨rfl, rfl⟩
  have selectable : (Bench.ofRadio .initial).radio.Selectable .a := .inl rfl
  exact (select_then_query patient (r := (closed .warn).opened) rfl selects
    (Bench.quiet_ofRadio .initial) selectable).1

/-- Whatever decides the transmitting VFO, setting split gives that band control and transmission. -/
theorem talks_setSplit_chosen {r : Rig} {session : Session} (opened : r.session = some session)
    {radio : Radio} (on : Value) {vfo : Value} {band : Band}
    (chosen : (transmitChoice vfo).Talks radio (.ok band) radio) :
    (r.perform (.setSplit on vfo)).Talks radio
      (.ok (.nothing, { r with
        session := some (if on.truth then .splitOn band else session.splitOff) }))
      { radio with control := band.index.val, transmit := band.index.val } := by
  rw [perform_setSplit]
  refine Talks.map ?_
  unfold splitting
  rw [openSession_eq_ok.mpr opened]
  refine Talks.bind (.done session radio) (Talks.bind chosen ?_)
  refine Talks.bind (radio.speaks_writeControl band).talks ?_
  split
  · exact .note (.done _ _)
  · exact .done _ _

theorem talks_setSplit {r : Rig} {session : Session} (opened : r.session = some session) (radio : Radio)
    (on : Value) (band : Band) :
    (r.perform (.setSplit on (.text band.vfo))).Talks radio
      (.ok (.nothing, { r with
        session := some (if on.truth then .splitOn band else session.splitOff) }))
      { radio with control := band.index.val, transmit := band.index.val } := by
  have named : transmitChoice (.text band.vfo) = pure band := by
    cases band <;> rfl
  refine talks_setSplit_chosen opened on ?_
  rw [named]
  exact .done band radio

end Rig

end Transceiver
