import Transceiver.Proofs.Aliasing
import Transceiver.Proofs.Unwritable
import Transceiver.Proofs.ToolRuns

/-! Tuning a VFO from the command line: the VFO is selected, a text is read as its new frequency, and
what it is tuned to then is printed. -/
namespace Transceiver.CommandLine

open Dialogue Frequency Simulation

section Arguments

variable {α : Type} (known : List (Switch α))

theorem classify_plain {text : String} (undashed : Text.startsWith "-" text = false) :
    classify known text = .ok (.plain text) := by
  unfold classify
  rw [undashed]
  rfl

theorem classify_named {known : List (Switch α)} {text : String} {s : Switch α}
    (dashed : Text.startsWith "-" text = true) (named : named? known text = some s) :
    classify known text = .ok (.option s text none) := by
  unfold classify
  rw [dashed, named]
  rfl

theorem tokens_cons {text : String} {token : Token α} {rest : List String} {more : List (Token α)}
    (unmarked : text ≠ "--") (first : classify known text = .ok token)
    (later : tokens known rest = .ok more) : tokens known (text :: rest) = .ok (token :: more) := by
  unfold tokens
  rw [if_neg unmarked, first, later]
  rfl

variable {s : Switch α} {name value : String} {p p' : Progress α}

theorem applyAll_one {v : Value} (applied : p.apply s v = .ok p') : applyAll p [(s, v)] = .ok p' := by
  rw [applyAll, applied]
  rfl

/-- An option and the value that comes next to it. -/
theorem follow_valued (takes : s.takesValue = true) (applied : p.apply s (.text value) = .ok p')
    (rest : List (Token α)) :
    follow known p (.option s name none :: .plain value :: rest) = follow known p' rest := by
  have pending : clusterOf known s name none = .ok ⟨[], some s⟩ := by
    unfold clusterOf Cluster.ofSwitch
    rw [takes]
    rfl
  have done : applyAll p ([] ++ [(s, .text value)]) = .ok p' := applyAll_one applied
  rw [follow, pending]
  exact congrArg (· >>= fun p => follow known p rest) done

theorem follow_flagged (bare : s.takesValue = false) (applied : p.apply s noValue = .ok p')
    (rest : List (Token α)) : follow known p (.option s name none :: rest) = follow known p' rest := by
  have settled : clusterOf known s name none = .ok ⟨[(s, noValue)], none⟩ := by
    unfold clusterOf Cluster.ofSwitch
    rw [bare]
    rfl
  rw [follow, settled]
  exact congrArg (· >>= fun p => follow known p rest) (applyAll_one applied)

end Arguments

/-- The arguments that select a VFO, tune it, and ask for its frequency. -/
def tuningArguments (band : Band) (text : String) : List String :=
  ["--set-vfo", band.vfo, "--set-freq", text, "--get-freq"]

/-- What they ask for. -/
def tuningOptions (band : Band) (text : String) : Options :=
  { Options.initial "/dev/ttyUSB0" 9600 "warn" with
    selectVfo := some band.vfo
    setFrequency := some text
    showFrequency := true }

/-- The options that the arguments name. -/
def selectSwitch : Switch Options :=
  { names := ["--set-vfo"], effect := readVfo fun name o => { o with selectVfo := some name } }

def tuneSwitch : Switch Options :=
  { names := ["--set-freq"], effect := read fun v o => { o with setFrequency := v.text? } }

def askSwitch : Switch Options :=
  { names := ["--get-freq"], effect := .flag fun o => { o with showFrequency := true } }

theorem tokens_tuning (band : Band) {text : String} (undashed : Text.startsWith "-" text = false) :
    tokens switches (tuningArguments band text) =
      .ok [.option selectSwitch "--set-vfo" none, .plain band.vfo,
        .option tuneSwitch "--set-freq" none, .plain text, .option askSwitch "--get-freq" none] := by
  have unmarked : text ≠ "--" := by
    rintro rfl
    cases undashed
  have vfo : Text.startsWith "-" band.vfo = false ∧ band.vfo ≠ "--" := by
    cases band <;> decide
  have select : classify switches "--set-vfo" = .ok (.option selectSwitch "--set-vfo" none) :=
    classify_named (by decide) rfl
  have tune : classify switches "--set-freq" = .ok (.option tuneSwitch "--set-freq" none) :=
    classify_named (by decide) rfl
  have ask : classify switches "--get-freq" = .ok (.option askSwitch "--get-freq" none) :=
    classify_named (by decide) rfl
  refine tokens_cons _ (by decide) select (tokens_cons _ vfo.2 (classify_plain _ vfo.1) ?_)
  refine tokens_cons _ (by decide) tune (tokens_cons _ unmarked (classify_plain _ undashed) ?_)
  exact tokens_cons _ (by decide) ask rfl

theorem understand_tuning (band : Band) {text : String} (undashed : Text.startsWith "-" text = false) :
    understand switches (.initial "/dev/ttyUSB0" 9600 "warn") (tuningArguments band text) =
      .ok (tuningOptions band text) := by
  have selected : (⟨.initial "/dev/ttyUSB0" 9600 "warn", [], []⟩ : Progress Options).apply selectSwitch
      (.text band.vfo) = .ok ⟨{ Options.initial "/dev/ttyUSB0" 9600 "warn" with
        selectVfo := some band.vfo }, [], ["--set-vfo"]⟩ := by
    cases band <;> rfl
  have followed : follow switches ⟨.initial "/dev/ttyUSB0" 9600 "warn", [], []⟩
      [.option selectSwitch "--set-vfo" none, .plain band.vfo, .option tuneSwitch "--set-freq" none,
        .plain text, .option askSwitch "--get-freq" none] =
        .ok ⟨tuningOptions band text, [], ["--set-vfo", "--set-freq", "--get-freq"]⟩ := by
    rw [follow_valued switches rfl selected, follow_valued switches rfl rfl,
      follow_flagged switches rfl rfl]
    rfl
  exact bind_eq_ok.mpr ⟨_, tokens_tuning band undashed, bind_eq_ok.mpr ⟨_, followed, rfl⟩⟩

theorem usual_tuning (band : Band) (text : String) : (tuningOptions band text).Usual :=
  ⟨rfl, rfl, rfl, rfl, rfl, rfl⟩

def selectTask (band : Band) : Task := ⟨.ok (.selectVfo (.text band.vfo)), silent⟩

def tuneTask (text : String) : Task := ⟨frequencyRequest (.text "currVFO") text, silent⟩

def askTask : Task := ⟨.ok (.frequency (.text "currVFO")), printValue formatValue⟩

theorem tasks_tuning (band : Band) {text : String} (some : text ≠ "") :
    tasks (tuningOptions band text) = [selectTask band, tuneTask text, askTask] := by
  have vfo : given (Option.some band.vfo) = Option.some band.vfo := by
    cases band <;> rfl
  have text : given (Option.some text) = Option.some text := by
    simp [given, some]
  unfold tasks tuningOptions
  dsimp only
  rw [vfo, text]
  rfl

/-- The rig once the VFO is selected. -/
def selectedRig (band : Band) : Rig := ⟨.warn, some (Session.initial.select band)⟩

theorem yields_selected {radio radio' : Radio} {band : Band} (selectable : radio.Selectable band)
    {rest : List Task} {result : Except Fault Unit} {output : String}
    (later : Yields (selectedRig band) ((radio.provisioned band).select band) rest result output radio') :
    Yields (Rig.closed .warn).opened radio (selectTask band :: rest) result output radio' := by
  have selected := Rig.speaks_selectVfo (r := (Rig.closed .warn).opened) rfl (.inl rfl) selectable
  have asked : (selectTask band).request = .ok (.selectVfo (.text band.vfo)) := rfl
  have printed : (selectTask band).print .nothing = .ok "" := rfl
  have yields := Yields.next asked selected.talks printed later
  rwa [String.empty_append] at yields

/-- Every frequency that a record holds can be written. -/
theorem formatValue_ofNat (freq : Fin 10000000000) :
    formatValue (.ofNat freq) = .ok (format freq.val) := by
  have mega : ((freq.val : Nat) : Int).fdiv 1000000 = (freq.val / 1000000 : Nat) := by
    rw [Int.fdiv_eq_ediv_of_nonneg _ (by decide)]
    rfl
  have below : freq.val / 1000000 < Nat.pow 10 4 := Nat.div_lt_of_lt_mul freq.isLt
  have short : isWritable (freq.val : Int) = true := by
    unfold isWritable
    rw [mega]
    exact Number.isWritable_of_lt (by decide) (by decide) below
  exact if_pos short

theorem chosen_current : VfoChoice.ofValue (.text "currVFO") = .ok .current := by rfl

theorem tuneTask_request {text : String} {hertz : Int} (told : Frequency.read text = .ok hertz) :
    (tuneTask text).request = .ok (.setFrequency (.text "currVFO") (.int hertz)) := by
  unfold tuneTask frequencyRequest
  dsimp only
  rw [told]

section Current

variable {radio : Radio} {band : Band} (controls : radio.Controls band)

include controls

theorem band_of_current (v : Value) :
    (Change.frequency .receiving v).band (Session.initial.select band) .current radio = band :=
  Radio.controlBand_of_controls controls

theorem talks_tune {v : Value} {old new : MemoryRecord} (held : radio.Holds band old)
    (edits : (Change.frequency .receiving v).Edits old new) :
    ((selectedRig band).perform (.setFrequency (.text "currVFO") v)).Talks radio
      (.ok (.nothing, selectedRig band)) (radio.store band new) := by
  have about := band_of_current controls v
  have held' : radio.Holds ((Change.frequency .receiving v).band (Session.initial.select band) .current
      radio) old := about.symm ▸ held
  have talks := Rig.talks_change (r := selectedRig band) rfl chosen_current held' edits
  rwa [about] at talks

theorem talks_ask {record : MemoryRecord} (held : radio.Holds band record) :
    ((selectedRig band).perform (.frequency (.text "currVFO"))).Talks radio
      (.ok (.value (.ofNat record.freq), selectedRig band)) radio := by
  have about := band_of_current controls .null
  have held' : radio.Holds ((Change.frequency .receiving .null).band (Session.initial.select band)
      .current radio) record := about.symm ▸ held
  exact Rig.talks_query (r := selectedRig band) rfl chosen_current held' rfl

theorem yields_tuned {text : String} {hertz : Int} (told : Frequency.read text = .ok hertz)
    {old new : MemoryRecord} (held : radio.Holds band old)
    (edits : (Change.frequency .receiving (.int hertz)).Edits old new) :
    Yields (selectedRig band) radio [tuneTask text, askTask] (.ok ()) (format new.freq.val ++ "\n")
      (radio.store band new) := by
  have own : new.channel = band.channel := edits.channel_eq.trans held.channel_eq
  have asked : (radio.store band new).Controls band := controls
  have printed : askTask.print (.value (.ofNat new.freq)) = .ok (format new.freq.val ++ "\n") := by
    change (formatValue (.ofNat new.freq) >>= fun line => pure (line ++ "\n")) = _
    rw [formatValue_ofNat]
    rfl
  have silently : (tuneTask text).print .nothing = .ok "" := rfl
  have yields := Yields.next (tuneTask_request told) (talks_tune controls held edits) silently
    (.next rfl (talks_ask asked (radio.holds_store own)) printed (.done _ _))
  rwa [String.empty_append, String.append_empty] at yields

end Current

theorem yields_unread {text : String} (unread : ∀ hertz, Frequency.read text ≠ .ok hertz) (rig : Rig)
    (radio : Radio) (rest : List Task) :
    Yields rig radio (tuneTask text :: rest) (.error (.argument (.frequencyText text))) "" radio := by
  have refused : (tuneTask text).request = .error (.frequencyText text) := by
    unfold tuneTask frequencyRequest
    dsimp only
    cases told : Frequency.read text with
    | ok hertz => exact absurd told (unread hertz)
    | error why => rfl
  exact .refused refused

theorem yields_unreceived {text : String} {hertz : Int} (told : Frequency.read text = .ok hertz)
    (unreceived : receivable hertz = false) (band : Band) (radio : Radio) (rest : List Task) :
    Yields (selectedRig band) radio (tuneTask text :: rest) (.error (.ofArgument (.unreceivable hertz)))
      "" radio := by
  have redirected : (Change.frequency .receiving (.int hertz)).redirect (selectedRig band)
      (.text "currVFO") = .ok (.text "currVFO") := rfl
  have performed := Change.perform_refused redirected (Change.update_unreceivable _ unreceived)
  exact .failed (tuneTask_request told) (performed ▸ .fail _ _)

theorem endingOf_unreceivable (hertz : Int) :
    endingOf (.error (.ofArgument (.unreceivable hertz))) =
      if isWritable hertz then .ok 1 else .error (.rig .notInteger) := by
  have told : Fault.ofArgument (.unreceivable hertz) =
      if isWritable hertz then .argument (.unreceivable hertz) else .notInteger := rfl
  rw [told]
  cases isWritable hertz <;> rfl

section Run

variable {host host' : Files.Host} {folder : String} (placed : host.userFolder .null = (.ok folder, host'))
  {text : String} (some : text ≠ "") (undashed : Text.startsWith "-" text = false) {s : Bench}
  (quiet : s.Quiet) {band : Band} (selectable : s.radio.Selectable band) (book : Logbook)

include placed some undashed quiet selectable

/-- After the VFO is selected, a run to tune it comes to what the rest of its tasks come to. -/
theorem tuning_shows {result : Except Fault Unit} {output : String} {radio : Radio}
    (later : Yields (selectedRig band) ((s.radio.provisioned band).select band) [tuneTask text, askTask]
      result output radio) :
    Shows (run ⟨Bench.port, none⟩ none host book (tuningArguments band text) s) (endingOf result) output
      radio := by
  refine run_shows placed (understand_tuning band undashed) (usual_tuning band text) quiet ?_ book
  rw [tasks_tuning band some]
  exact yields_selected selectable later

theorem tuning_unreceived {hertz : Int} (told : Frequency.read text = .ok hertz)
    (unreceived : receivable hertz = false) :
    Shows (run ⟨Bench.port, none⟩ none host book (tuningArguments band text) s)
      (if isWritable hertz then .ok 1 else .error (.rig .notInteger)) ""
      ((s.radio.provisioned band).select band) := by
  rw [← endingOf_unreceivable]
  exact tuning_shows placed some undashed quiet selectable book
    (yields_unreceived told unreceived band _ [askTask])

/-- Tuning a VFO from the command line, over a quiet line to a radio that has nothing in the VFO's
channel or a record of its own. If the text is read as a frequency that can be received, the closest
storable one is printed and stored, with its step, in place of those of the old record. If not, nothing
is printed and the radio is only put on the VFO. The run then ends with an exit status of one, unless the
frequency is too long for the message about it. -/
theorem tuning_prints_and_stores :
    (∀ hertz, Frequency.read text = .ok hertz → receivable hertz = true →
      ∃ old new : MemoryRecord, (s.radio.provisioned band).Holds band old ∧
        new = { old with freq := new.freq, step := (snap hertz).step } ∧
        (new.freq.val : Int) = (snap hertz).hertz ∧
        (((s.radio.provisioned band).select band).store band new).Holds band new ∧
        Shows (run ⟨Bench.port, none⟩ none host book (tuningArguments band text) s) (.ok 0)
          (format (snap hertz).hertz ++ "\n")
          (((s.radio.provisioned band).select band).store band new)) ∧
    ((∀ hertz, Frequency.read text = .ok hertz → receivable hertz = false) →
      ∃ ending,
        Shows (run ⟨Bench.port, none⟩ none host book (tuningArguments band text) s) ending ""
          ((s.radio.provisioned band).select band) ∧
        ((∀ hertz, Frequency.read text = .ok hertz → isWritable hertz = true) → ending = .ok 1) ∧
        ∀ hertz, Frequency.read text = .ok hertz → isWritable hertz = false →
          ending = .error (.rig .notInteger)) := by
  constructor
  · intro hertz told received
    obtain ⟨old, held⟩ := Radio.holds_provisioned selectable
    obtain ⟨freq, snapped⟩ := snap_fits received
    have edits : (Change.frequency .receiving (.int hertz)).Edits old
        { old with freq, step := (snap hertz).step } := .frequency rfl received snapped
    refine ⟨old, { old with freq, step := (snap hertz).step }, held, rfl, snapped,
      Radio.holds_store _ held.channel_eq, ?_⟩
    rw [← snapped]
    exact tuning_shows placed some undashed quiet selectable book
      (yields_tuned (Radio.controls_select _ band) told held edits)
  · intro unreceived
    cases told : Frequency.read text with
    | error why =>
        have unread : ∀ hertz, Frequency.read text ≠ .ok hertz := by
          rw [told]
          rintro hertz ⟨⟩
        refine ⟨.ok 1, ?_, fun _ => rfl, ?_⟩
        · exact tuning_shows placed some undashed quiet selectable book
            (yields_unread unread _ _ [askTask])
        · rintro hertz ⟨⟩
    | ok hertz =>
        refine ⟨_, tuning_unreceived placed some undashed quiet selectable book told
          (unreceived hertz told), ?_, ?_⟩
        · intro writable
          rw [if_pos (writable hertz rfl)]
        · rintro _ ⟨⟩ unwritable
          rw [unwritable]
          rfl

end Run

/-- A run in a fresh home, with a radio that holds nothing. -/
def firstRun (text : String) : Report Bench :=
  run ⟨Bench.port, none⟩ none (Files.Host.ofLocation ["home"]) ⟨Level.warning, true, "", none, []⟩
    (tuningArguments .a text) (Bench.ofRadio .initial)

theorem firstRun_placed : ∃ host',
    (Files.Host.ofLocation ["home"]).userFolder .null = (.ok "/home/.tmv71rig", host') := ⟨_, by rfl⟩

theorem tuning_prints_and_stores_empty :
    (firstRun " 446.123 MHz").ending = .ok 0 ∧ (firstRun " 446.123 MHz").output = "446.125000\n" := by
  obtain ⟨host', placed⟩ := firstRun_placed
  have some : " 446.123 MHz" ≠ "" := by decide
  have undashed : Text.startsWith "-" " 446.123 MHz" = false := by decide
  have told : Frequency.read " 446.123 MHz" = .ok 446123000 := by rfl
  have received : receivable 446123000 = true := by decide
  have selectable : (Bench.ofRadio .initial).radio.Selectable .a := .inl rfl
  obtain ⟨old, new, -, -, -, -, shows⟩ := (tuning_prints_and_stores placed some undashed
    (Bench.quiet_ofRadio .initial) selectable _).1 _ told received
  exact ⟨shows.ending, shows.output⟩

/-- A negative number with as many digits as there may be, and a fraction below zero. -/
def overlongText : String := " -" ++ String.ofList (List.replicate Number.maxDigits '9') ++ ".-1"

theorem read_overlongText : ∃ hertz, Frequency.read overlongText = .ok hertz ∧
    receivable hertz = false ∧ isWritable hertz = false := by
  have digits : ∀ c ∈ List.replicate Number.maxDigits '9', c.isDigit = true := by
    intro c member
    rw [List.eq_of_mem_replicate member]
    rfl
  have some : List.replicate Number.maxDigits '9' ≠ [] := by
    rw [Ne, List.replicate_eq_nil_iff]
    decide
  have short : (List.replicate Number.maxDigits '9').length ≤ Number.maxDigits :=
    Nat.le_of_eq List.length_replicate
  refine ⟨_, read_minus some digits short, ?_, isWritable_nines (by decide) (Nat.le_refl _)⟩
  refine Bool.eq_false_iff.mpr fun received => ?_
  have bounds := receivable_bounds received
  omega

/-- A text that is read as a frequency far below what can be received ends the run with a fault. -/
theorem tuning_overlong :
    overlongText ≠ "" ∧ Text.startsWith "-" overlongText = false ∧
      (∃ hertz, Frequency.read overlongText = .ok hertz ∧ receivable hertz = false) ∧
      (firstRun overlongText).ending = .error (.rig .notInteger) := by
  obtain ⟨host', placed⟩ := firstRun_placed
  obtain ⟨hertz, told, unreceived, unwritable⟩ := read_overlongText
  have spelled : overlongText.toList =
      ' ' :: '-' :: (List.replicate Number.maxDigits '9' ++ ['.', '-', '1']) := by
    simp [overlongText]
  have some : overlongText ≠ "" := by
    intro empty
    rw [empty] at spelled
    exact absurd spelled (List.cons_ne_nil _ _).symm
  have undashed : Text.startsWith "-" overlongText = false := by
    rw [Text.startsWith, spelled]
    rfl
  have selectable : (Bench.ofRadio .initial).radio.Selectable .a := .inl rfl
  have shows := tuning_unreceived placed some undashed (Bench.quiet_ofRadio .initial) selectable
    ⟨Level.warning, true, "", none, []⟩ told unreceived
  rw [unwritable] at shows
  exact ⟨some, undashed, ⟨hertz, told, unreceived⟩, shows.ending⟩

end Transceiver.CommandLine
