import Transceiver.Proofs.Misreading
import Transceiver.Proofs.Storing

/-! What the operations of a rig fail with. A request that is refused for its arguments is refused
before anything is sent; once something was sent, what goes wrong is the line's fault or the radio's,
but for an offset that no record has room for, a channel that no attributes fit, and a name that is too
long to be written. -/
namespace Transceiver

namespace Dialogue

/-- Before anything is sent the dialogue fails with `Early` faults only, and after that with `Late`
ones only, whichever of the answers that may come it is given. -/
def Faults {α : Type} (Came : Except Fault String → Prop) (Early Late : Fault → Prop) :
    Dialogue α → Prop
  | .done _ => True
  | .fail why => Early why
  | .note _ rest => rest.Faults Came Early Late
  | .send _ rest => ∀ answer, Came answer → (rest answer).Faults Came Late Late

namespace Faults

variable {α β : Type} {Came : Except Fault String → Prop} {Early Late : Fault → Prop}

/-- A conversation fails early if nothing was sent in it, and late if something was. -/
theorem conversation {d : Dialogue α} (h : d.Faults Came Early Late) {turns : List Turn}
    {result : Except Fault α} (said : d.Conversation turns result)
    (came : ∀ turn ∈ turns, Came turn.answer) {why : Fault} (failed : result = .error why) :
    turns = [] ∧ Early why ∨ turns ≠ [] ∧ Late why := by
  induction said generalizing Early with
  | done value => cases failed
  | fail why =>
      cases failed
      exact .inl ⟨rfl, h⟩
  | note later ih => exact ih h came failed
  | @send command rest turns result answer later ih =>
      right
      refine ⟨List.cons_ne_nil _ _, ?_⟩
      have after := h answer (came _ List.mem_cons_self)
      rcases ih after (fun turn member => came turn (List.mem_cons_of_mem _ member)) failed with
        ⟨-, late⟩ | ⟨-, late⟩
      · exact late
      · exact late

theorem bind {d : Dialogue α} {next : α → Dialogue β} (h : d.Faults Came Early Late)
    (early : ∀ value, (next value).Faults Came Early Late)
    (late : ∀ value, (next value).Faults Came Late Late) : (d >>= next).Faults Came Early Late := by
  induction d generalizing Early with
  | done value => exact early value
  | fail why => exact h
  | note record rest ih => exact ih h early
  | send command rest ih => exact fun answer came => ih answer (h answer came) late

theorem seq {d : Dialogue α} {next : α → Dialogue β} (h : d.Faults Came Early Late)
    (rest : ∀ value Early', (next value).Faults Came Early' Late) :
    (d >>= next).Faults Came Early Late :=
  bind h (fun value => rest value _) fun value => rest value _

/-- What is settled beforehand takes no words. -/
theorem settled {e : Except Fault α} {next : α → Dialogue β}
    (failed : ∀ why, e = .error why → Early why)
    (rest : ∀ value, e = .ok value → (next value).Faults Came Early Late) :
    (Dialogue.ofExcept e >>= next).Faults Came Early Late := by
  cases e with
  | ok value => exact rest value rfl
  | error why => exact failed why rfl

theorem lifted_then {ε : Type} {e : Except ε α} {f : ε → Fault} {next : α → Dialogue β}
    (allowed : ∀ cause, e = .error cause → Early (f cause))
    (rest : ∀ value, e = .ok value → (next value).Faults Came Early Late) :
    (Dialogue.ofExcept (e.mapError f) >>= next).Faults Came Early Late := by
  refine settled (fun why failed => ?_) fun value found => rest value (mapError_eq_ok.mp found)
  obtain ⟨cause, refused, rfl⟩ := mapError_eq_error.mp failed
  exact allowed cause refused

theorem lifted {ε : Type} {e : Except ε α} {f : ε → Fault}
    (allowed : ∀ cause, e = .error cause → Early (f cause)) :
    (Dialogue.ofExcept (e.mapError f)).Faults Came Early Late := by
  have ending : (Dialogue.ofExcept (e.mapError f) >>= .done).Faults Came Early Late :=
    lifted_then allowed fun _ _ => trivial
  exact bind_done (Dialogue.ofExcept (e.mapError f)) ▸ ending

theorem discard {d : Dialogue α} (h : d.Faults Came Early Late) :
    (Functor.discard d).Faults Came Early Late :=
  seq h fun _ _ => trivial

theorem rescue {Early' Late' : Fault → Prop} {d : Dialogue α} {handler : Fault → Dialogue α}
    (h : d.Faults Came Early' Late')
    (early : ∀ why, Early' why → (handler why).Faults Came Early Late)
    (late : ∀ why, Late' why → (handler why).Faults Came Late Late) :
    (tryCatch d handler).Faults Came Early Late := by
  induction d generalizing Early Early' with
  | done value => trivial
  | fail why => exact early why h
  | note record rest ih => exact ih h early
  | send command rest ih => exact fun answer came => ih answer (h answer came) late

/-- What follows on an answer is said after something was sent. -/
theorem asked {command : Command} {meaning : String → Except Fault α} {next : α → Dialogue β}
    (brought : ∀ why, Came (.error why) → Late why)
    (reads : ∀ reply, Came (.ok reply) → ∀ why, meaning reply = .error why → Late why)
    (rest : ∀ value, (next value).Faults Came Late Late) :
    (inquiry command meaning >>= next).Faults Came Early Late := by
  intro answer came
  cases answer with
  | error why => exact brought why came
  | ok reply => exact settled (reads reply came) fun value _ => rest value

theorem inquiry {command : Command} {meaning : String → Except Fault α}
    (brought : ∀ why, Came (.error why) → Late why)
    (reads : ∀ reply, Came (.ok reply) → ∀ why, meaning reply = .error why → Late why) :
    (Dialogue.inquiry command meaning).Faults Came Early Late := by
  have sent : (Dialogue.inquiry command meaning >>= .done).Faults Came Early Late :=
    asked brought reads fun _ => trivial
  exact bind_done (Dialogue.inquiry command meaning) ▸ sent

end Faults

end Dialogue

namespace Request

/-- VFOs, modes and shifts are texts or nothing, or at least values that can be looked up, and channels
are made by checked assignments. Numbers are of any kind. -/
def Typed : Request → Prop
  | .selectVfo vfo | .setFrequency vfo _ | .frequency vfo | .setSplitFrequency vfo _
  | .splitFrequency vfo | .mode vfo | .get _ vfo | .setMemory vfo _ | .memory vfo
  | .hearsSignal vfo | .channelOf vfo => vfo.isKey = true
  | .setSplit _ transmit => transmit.isKey = true
  | .setMode vfo named => vfo.isKey = true ∧ named.isKey = true
  | .set which vfo v => vfo.isKey = true ∧ (which = .shift → v.isKey = true)
  | .setChannel c => c.Validated
  | _ => True

/-- What a message about the request may name is not too long to be written. -/
def Writable : Request → Prop
  | .selectVfo vfo | .frequency vfo | .splitFrequency vfo | .mode vfo | .get _ vfo | .setMemory vfo _
  | .memory vfo | .hearsSignal vfo | .channelOf vfo => vfo.isWritable = true
  | .setFrequency vfo hertz | .setSplitFrequency vfo hertz =>
    vfo.isWritable = true ∧ ∀ n, hertz.int? = some n → Frequency.isWritable n = true
  | .setSplit _ transmit => transmit.isWritable = true
  | .setMode vfo named => vfo.isWritable = true ∧ named.isWritable = true
  | .set _ vfo v => vfo.isWritable = true ∧ v.isWritable = true
  | _ => True

/-- The reverse flag of a channel to store is no complex number. -/
def Real : Request → Prop
  | .setChannel c => (c.value .reverse).isReal = true
  | _ => True

/-- What a request may fail with before anything is sent. -/
inductive Early (request : Request) : Fault → Prop
  | argument (why : ArgumentFault) : Early request (.argument why)
  | radio (fault : RadioFault) : Early request (.radio fault)
  | unsuitable {why} : ¬ request.Typed → Early request why
  | unwritten : ¬ request.Writable → Early request .notInteger
  | unreal : ¬ request.Real → Early request .mistyped

/-- What a request may fail with once something was sent, given the answers that came. -/
inductive Late (request : Request) (Came : Except Fault String → Prop) : Fault → Prop
  | radio (fault : RadioFault) : Late request Came (.radio fault)
  | brought {why} : Came (.error why) → Late request Came why
  | overlong {reply} : Came (.ok reply) → Overlong reply → Late request Came .notInteger
  | offset {vfo v why} : request = .set .offset vfo v → Late request Came (.argument why)
  | unassigned {number why} : request = .channel number → Late request Came (.attribute why)
  | unwritten : ¬ request.Typed → Late request Came .notInteger

theorem Late.misread {request : Request} {Came : Except Fault String → Prop} {reply : String}
    {why : Fault} (came : Came (.ok reply)) (misread : Misread reply why) :
    request.Late Came why := by
  cases misread with
  | radio fault => exact .radio fault
  | overlong long => exact .overlong came long

/-- A value that the request gives as a name. -/
structure Names (request : Request) (v : Value) : Prop where
  keyed : request.Typed → v.isKey = true
  written : request.Writable → v.isWritable = true

theorem names_vfo (request : Request) (band : Band) : request.Names (.text band.vfo) :=
  ⟨fun _ => rfl, fun _ => rfl⟩

/-- An argument is refused, or the message about it cannot be written. -/
theorem early_argument {request : Request} {refusal : ArgumentFault}
    (written : request.Writable → refusal.isWritable = true) : request.Early (.ofArgument refusal) := by
  unfold Fault.ofArgument
  by_cases short : refusal.isWritable = true
  · rw [if_pos short]
    exact .argument refusal
  · rw [if_neg short]
    exact .unwritten fun writable => short (written writable)

/-- A value that is no name is refused, or it is of an unsuitable kind. -/
theorem early_unnamed {request : Request} {v : Value} (names : request.Names v) {refusal : ArgumentFault}
    (about : refusal.isWritable = v.isWritable) :
    request.Early (if v.isKey then .ofArgument refusal else .mistyped) := by
  by_cases key : v.isKey = true
  · rw [if_pos key]
    exact early_argument fun writable => about.trans (names.written writable)
  · exact .unsuitable fun typed => key (names.keyed typed)

theorem early_choice {request : Request} {vfo : Value} (names : request.Names vfo) :
    ∀ why, VfoChoice.ofValue vfo = .error why → request.Early why := by
  intro why failed
  unfold VfoChoice.ofValue at failed
  split at failed
  · cases failed
  · split at failed
    · cases failed
    · split at failed <;> cases failed
      exact .argument _
  · cases failed
    exact early_unnamed names rfl

theorem early_selection {request : Request} {vfo : Value} (names : request.Names vfo) :
    ∀ why, Rig.SelectionChoice.ofValue vfo = .error why → request.Early why := by
  intro why failed
  unfold Rig.SelectionChoice.ofValue at failed
  split at failed
  · split at failed
    · cases failed
    · split at failed
      · cases failed
      · split at failed <;> cases failed
        exact .argument _
  · cases failed
    exact early_unnamed names rfl

end Request

namespace Channel

/-- Where the settings do not fit, there is a reason, and it can be written. -/
def Explained {α : Type} (e : Except (Option Unstorable) α) : Prop :=
  ∀ reason, e = .error reason → ∃ why, reason = some why ∧ why.isWritable = true

section
variable {α β : Type} {e : Except (Option Unstorable) α}

theorem Explained.bind {next : α → Except (Option Unstorable) β} (h : Explained e)
    (rest : ∀ value, Explained (next value)) : Explained (e >>= next) := by
  intro reason failed
  rcases bind_eq_error.mp failed with here | ⟨value, -, there⟩
  · exact h reason here
  · exact rest value reason there

theorem explained_codeOf {n : Nat} {code? : String → Option (Fin n)} (name : String) :
    Explained (codeOf code? (.text name)) := by
  intro reason failed
  unfold codeOf at failed
  split at failed <;> cases failed
  exact ⟨_, rfl, rfl⟩

theorem explained_placeOf {n : Nat} {place? : Value → Option (Fin n)} {v : Value} :
    Explained (placeOf place? v) := by
  intro reason failed
  unfold placeOf at failed
  split at failed <;> cases failed
  exact ⟨_, rfl, rfl⟩

theorem explained_placeInUse {n : Nat} {place? : Value → Option (Fin (n + 1))} {v : Value} :
    Explained (placeInUse place? v) := by
  unfold placeInUse
  split
  · exact explained_placeOf
  · rintro reason ⟨⟩

end

theorem InOrder.explained_codes {c : Channel} (h : c.InOrder) : Explained c.codes := by
  obtain ⟨mode, -, moded⟩ := Attribute.isOneOf_eq (h.accepted .mode)
  obtain ⟨sign, -, shifted⟩ := Attribute.isOneOf_eq (h.accepted .duplex)
  refine Explained.bind (moded ▸ explained_codeOf mode) fun _ => ?_
  refine Explained.bind explained_placeOf fun _ => ?_
  refine Explained.bind (shifted ▸ explained_codeOf sign) fun _ => ?_
  refine Explained.bind explained_placeInUse fun _ => ?_
  refine Explained.bind explained_placeInUse fun _ => ?_
  refine Explained.bind explained_placeInUse fun _ => ?_
  rintro reason ⟨⟩

/-- A channel with accepted values is refused by name, if it has no place in the memory, and otherwise
only for a complex number as its reverse flag. -/
theorem InOrder.fault_of_toDraft {c : Channel} (h : c.InOrder) {why : Fault}
    (failed : c.toDraft = .error why) :
    (∃ refusal, why = .argument refusal) ∨ why = .mistyped ∧ (c.value .reverse).isReal = false := by
  obtain ⟨number, numbered, below⟩ := Attribute.isCount_eq (h.accepted .number)
  obtain ⟨flag, turned⟩ := Option.isSome_iff_exists.mp (h.accepted .reverse)
  unfold toDraft storableCodes at failed
  cases coded : c.codes with
  | ok codes =>
      rw [coded] at failed
      cases real : (c.value .reverse).isReal with
      | true =>
          rw [flagValue_of_below? turned real] at failed
          cases failed
      | false =>
          refine .inr ⟨?_, rfl⟩
          cases complex : c.value .reverse with
          | complex re im =>
              rw [complex] at failed
              cases failed
              rfl
          | _ =>
              rw [complex] at real
              cases real
  | error reason =>
      obtain ⟨unstorable, rfl, written⟩ := h.explained_codes reason coded
      have below' : number < 1000 := by omega
      have short : Number.isWritable (number : Int) = true :=
        Number.isWritable_of_lt (by decide) (by decide) (show number < Nat.pow 10 3 from below')
      have writable : (ArgumentFault.channelSettings number unstorable).isWritable = true :=
        (Bool.and_eq_true _ _).mpr ⟨short, written⟩
      rw [coded, numbered] at failed
      refine .inl ⟨.channelSettings number unstorable, ?_⟩
      cases failed
      exact if_pos writable

end Channel

section
variable {request : Request} {Came : Except Fault String → Prop} {Early : Fault → Prop}

open Record

namespace Dialogue

theorem faults_inquiry {α : Type} {command : Command} {meaning : String → Except Fault α}
    (reads : ∀ reply, Reads reply (meaning reply)) :
    (inquiry command meaning).Faults Came Early (request.Late Came) :=
  Faults.inquiry (fun _ came => .brought came) fun reply came why failed =>
    .misread came (reads reply why failed)

theorem faults_parsed {α : Type} {command : Command} {parse : String → Except Fault α}
    (reads : ∀ reply, Reads reply (parse reply)) :
    (ask command >>= fun reply => ofExcept (parse reply)).Faults Came Early (request.Late Came) := by
  rw [ask_bind_eq]
  exact faults_inquiry reads

theorem faults_readMemory (channel : Fin 1000) :
    (readMemory channel).Faults Came Early (request.Late Came) := by
  rw [readMemory_eq]
  exact faults_inquiry fun reply => reads_ownRecord reply channel

theorem faults_writeMemory (record : MemoryRecord) :
    (writeMemory record).Faults Came Early (request.Late Came) :=
  faults_parsed MemoryRecord.reads_parse

theorem faults_readControl : readControl.Faults Came Early (request.Late Came) :=
  faults_parsed BandControl.reads_parse

theorem faults_writeControl (control : BandControl) :
    (writeControl control).Faults Came Early (request.Late Came) :=
  faults_parsed BandControl.reads_parse

theorem faults_writeTuning (tuning : BandTuning) :
    (writeTuning tuning).Faults Came Early (request.Late Came) :=
  faults_parsed BandTuning.reads_parse

theorem faults_readSelection (band : Band) :
    (readSelection band).Faults Came Early (request.Late Came) :=
  faults_parsed MemorySelection.reads_parse

theorem faults_writeSelection (selection : MemorySelection) :
    (writeSelection selection).Faults Came Early (request.Late Came) :=
  faults_parsed MemorySelection.reads_parse

theorem faults_readName (channel : Fin 1000) :
    (readName channel).Faults Came Early (request.Late Came) :=
  faults_parsed MemoryName.reads_parse

theorem faults_writeName (channel : Fin 1000) (name : SentName) :
    (writeName channel name).Faults Came Early (request.Late Came) :=
  faults_parsed MemoryName.reads_parse

theorem faults_readBusy (band : Band) : (readBusy band).Faults Came Early (request.Late Came) := by
  intro answer came
  cases answer with
  | error why => exact .brought came
  | ok reply =>
      refine Faults.settled (e := BusyState.parse reply)
        (fun why failed => .misread came (BusyState.reads_parse reply why failed)) fun state _ => ?_
      split
      · exact .radio _
      · trivial

theorem faults_setTransmit (on : Value) :
    (Rig.setTransmit on).Faults Came Early (request.Late Came) := by
  have sent : ∀ {command : Command} {line : String},
      (ask command >>= fun reply => ofExcept ((expectLine line reply).mapError .radio)).Faults Came Early
        (request.Late Came) := fun {_ line} => faults_parsed fun reply => reads_expectLine reply line
  unfold Rig.setTransmit
  split <;> exact sent

theorem faults_currentBand : Rig.currentBand.Faults Came Early (request.Late Came) :=
  Faults.seq faults_readControl fun _ _ => trivial

/-- The first band stands in for the current one where the radio is not understood. -/
theorem faults_currentBandOrFirst :
    Rig.currentBandOrFirst.Faults Came Early (request.Late Came) := by
  have asked : Rig.currentBand.Faults Came (fun _ => False) (request.Late Came) := faults_currentBand
  refine Faults.rescue asked (fun why early => early.elim) fun why late => ?_
  cases why with
  | radio fault => trivial
  | _ => exact late

theorem faults_provision (channel : Fin 1000) :
    (Rig.provision channel).Faults Came Early (request.Late Came) := by
  have asked : (Functor.discard (readMemory channel)).Faults Came (fun _ => False) (request.Late Came) :=
    Faults.discard (faults_readMemory channel)
  refine Faults.rescue asked (fun why early => early.elim) fun why late => ?_
  cases why with
  | radio fault =>
      dsimp only
      split
      · exact Faults.discard (faults_writeMemory _)
      · exact late
  | _ => exact late

theorem faults_selectBand (band : Band) :
    (Rig.selectBand band).Faults Came Early (request.Late Came) := by
  refine Faults.seq (Faults.discard (faults_writeTuning _)) fun _ _ => ?_
  refine Faults.seq (faults_provision _) fun _ _ => ?_
  refine Faults.seq (Faults.discard (faults_writeSelection _)) fun _ _ => ?_
  exact Faults.discard (faults_writeControl _)

theorem faults_selectedVfo : Rig.selectedVfo.Faults Came Early (request.Late Came) := by
  refine Faults.seq faults_currentBand fun band _ => ?_
  exact Faults.seq (faults_readSelection band) fun _ _ => trivial

/-- A reading that may fail before anything is sent only for the VFO that it is about. -/
theorem faults_channelOf {vfo : Value} (names : request.Names vfo) :
    (Rig.channelOf vfo).Faults Came request.Early (request.Late Came) := by
  refine Faults.settled (Request.early_choice names) fun choice _ => ?_
  cases choice with
  | named band => trivial
  | current => exact Faults.seq faults_currentBandOrFirst fun _ _ => trivial

theorem faults_bandOf {vfo : Value} (names : request.Names vfo) :
    (Rig.bandOf vfo).Faults Came request.Early (request.Late Came) := by
  refine Faults.settled (Request.early_choice names) fun choice _ => ?_
  cases choice with
  | named band => trivial
  | current => exact faults_currentBand

theorem faults_readVfoMemory {vfo : Value} (names : request.Names vfo) :
    (Rig.readVfoMemory vfo).Faults Came request.Early (request.Late Came) :=
  Faults.seq (faults_channelOf names) fun channel _ => faults_readMemory channel

/-- An update is laid over the record that was read and refused then only if the record has no room
for it. -/
theorem faults_changeMemory (channel : Fin 1000) {u : MemoryUpdate}
    (fits : ∀ (old : MemoryRecord) (why : ArgumentFault),
      (old.toDraft.overlay u).check = .error why → request.Late Came (.ofArgument why)) :
    (changeMemory channel u).Faults Came Early (request.Late Came) := by
  unfold changeMemory
  rw [readMemory_eq]
  refine Faults.asked (fun _ came => .brought came)
    (fun reply came why failed => .misread came (reads_ownRecord reply channel why failed)) fun old => ?_
  refine Faults.settled (fun why failed => ?_) fun new _ => faults_writeMemory new
  obtain ⟨refusal, refused, rfl⟩ := mapError_eq_error.mp failed
  exact fits old refusal refused

end Dialogue

namespace Change

/-- The new value is refused, which is said as far as it can be written. -/
theorem early_update {change : Change} {vfo : Value} :
    ∀ why, change.update = .error why → (change.request vfo).Early why := by
  intro why failed
  cases change with
  | frequency direction hertz =>
      change frequencyUpdate hertz = _ at failed
      unfold frequencyUpdate at failed
      split at failed
      · cases failed
        exact .argument .notHertz
      · rename_i n whole
        split at failed
        · cases failed
        · cases failed
          refine Request.early_argument fun writable => ?_
          cases direction <;> exact writable.2 n whole
  | mode name =>
      have names : ((Change.mode name).request vfo).Names name :=
        ⟨fun typed => typed.2, fun writable => writable.2⟩
      unfold update modeUpdate at failed
      dsimp only at failed
      split at failed <;> cases failed
      exact Request.early_unnamed names rfl
  | setting which v =>
      rcases Setting.update_eq_error failed with rfl | ⟨rfl, keyless, rfl⟩
      · exact Request.early_argument fun writable => (which.isWritable_refusal v).trans writable.2
      · refine .unsuitable fun typed => ?_
        rw [typed.2 rfl] at keyless
        cases keyless

theorem early_redirect {r : Rig} {vfo : Value} {change : Change} :
    ∀ why, change.redirect r vfo = .error why → (change.request vfo).Early why := by
  intro why failed
  obtain ⟨fault, rfl⟩ : ∃ fault, why = .radio fault := by
    cases change with
    | frequency direction hertz =>
        cases direction <;>
          obtain ⟨fault, -, rfl⟩ := mapError_eq_error.mp failed <;> exact ⟨fault, rfl⟩
    | mode name =>
        obtain ⟨fault, -, rfl⟩ := mapError_eq_error.mp failed
        exact ⟨fault, rfl⟩
    | setting which v => cases failed
  exact .radio fault

theorem redirect_or_update {r : Rig} {vfo : Value} {change : Change} {why : Fault}
    (failed : change.prepared r vfo = .error why) :
    change.redirect r vfo = .error why ∨ change.update = .error why := by
  cases change with
  | mode name =>
      rcases bind_eq_error.mp failed with updated | ⟨u, -, later⟩
      · exact .inr updated
      · rcases bind_eq_error.mp later with redirected | ⟨target, -, last⟩
        · exact .inl redirected
        · cases last
  | _ =>
      rcases bind_eq_error.mp failed with redirected | ⟨target, -, later⟩
      · exact .inl redirected
      · rcases bind_eq_error.mp later with updated | ⟨u, -, last⟩
        · exact .inr updated
        · cases last

/-- Split puts the name of another VFO in the place of the one that is given. -/
theorem names_redirect {request : Request} {r : Rig} {vfo target : Value} {change : Change}
    (redirected : change.redirect r vfo = .ok target) (names : request.Names vfo) :
    request.Names target := by
  rcases redirect_eq_ok redirected with rfl | ⟨band, rfl⟩
  · exact names
  · exact Request.names_vfo request band

theorem names_request (change : Change) (vfo : Value) : (change.request vfo).Names vfo := by
  cases change with
  | frequency direction hertz => cases direction <;> exact ⟨id, fun writable => writable.1⟩
  | mode name => exact ⟨fun typed => typed.1, fun writable => writable.1⟩
  | setting which v => exact ⟨fun typed => typed.1, fun writable => writable.1⟩

end Change

namespace Rig

open Dialogue

theorem writable_of_checkUnreserved {v : Value} {refusal : ArgumentFault}
    (failed : checkUnreserved v = .error refusal) : refusal.isWritable = true := by
  unfold checkUnreserved checkNumber at failed
  rcases bind_eq_error.mp failed with beyond | ⟨number, -, owned⟩
  · split at beyond <;> cases beyond
    rfl
  · split at owned <;> cases owned
    rfl

theorem faults_change (r : Rig) (vfo : Value) (change : Change) :
    (r.perform (change.request vfo)).Faults Came (change.request vfo).Early
      ((change.request vfo).Late Came) := by
  rw [Change.perform_request]
  refine Faults.settled (fun why failed => ?_) fun p prepared => ?_
  · rcases Change.redirect_or_update failed with redirected | updated
    · exact Change.early_redirect why redirected
    · exact Change.early_update why updated
  · obtain ⟨target, u⟩ := p
    obtain ⟨redirected, updated⟩ := Change.prepared_eq_ok.mp prepared
    have names := Change.names_redirect redirected (change.names_request vfo)
    refine Faults.seq (Faults.seq (faults_channelOf names) fun channel _ => ?_) fun _ _ => trivial
    refine Faults.discard (faults_changeMemory channel fun old why unfit => ?_)
    obtain ⟨⟨v, rfl⟩, rfl⟩ := Change.offset_of_unfit updated unfit
    exact .offset rfl

theorem faults_selecting (r : Rig) (vfo : Value) :
    (r.selecting vfo).Faults Came (Request.selectVfo vfo).Early ((Request.selectVfo vfo).Late Came) := by
  have names : (Request.selectVfo vfo).Names vfo := ⟨id, id⟩
  refine Faults.settled (fun why failed => ?_) fun _ _ => ?_
  · unfold Value.written at failed
    split at failed <;> cases failed
    exact .unwritten fun writable => by contradiction
  refine Faults.lifted_then (fun fault _ => .radio fault) fun session _ => ?_
  refine Faults.settled (Request.early_selection names) fun choice _ => ?_
  cases choice with
  | named band => exact Faults.seq (faults_selectBand band) fun _ _ => trivial
  | memory =>
      refine Faults.seq faults_currentBand fun band _ => ?_
      exact Faults.seq (Faults.discard (faults_writeTuning _)) fun _ _ => trivial

theorem faults_transmitChoice {vfo : Value} (names : request.Names vfo) :
    (transmitChoice vfo).Faults Came request.Early (request.Late Came) := by
  unfold transmitChoice
  split
  · exact faults_currentBand
  · split
    · exact faults_currentBand
    · split
      · trivial
      · exact .argument _
  · exact Request.early_unnamed names rfl

theorem faults_splitting (r : Rig) (on transmit : Value) :
    (r.splitting on transmit).Faults Came (Request.setSplit on transmit).Early
      ((Request.setSplit on transmit).Late Came) := by
  refine Faults.lifted_then (fun fault _ => .radio fault) fun session _ => ?_
  refine Faults.seq (faults_transmitChoice ⟨id, id⟩) fun band _ => ?_
  refine Faults.seq (Faults.discard (faults_writeControl _)) fun _ _ => ?_
  split <;> trivial

theorem faults_reconciling (r : Rig) :
    r.reconciling.Faults Came request.Early (request.Late Came) := by
  refine Faults.lifted_then (fun fault _ => .radio fault) fun session _ => ?_
  refine Faults.seq faults_readControl fun control _ => ?_
  dsimp only
  split
  · trivial
  · cases r.policy <;> trivial

theorem faults_setMemory (vfo number : Value) :
    (setMemory vfo number).Faults Came (Request.setMemory vfo number).Early
      ((Request.setMemory vfo number).Late Came) := by
  refine Faults.lifted_then (fun refusal failed => Request.early_argument fun _ =>
    writable_of_checkUnreserved failed) fun channel _ => ?_
  refine Faults.seq (faults_bandOf ⟨id, id⟩) fun band _ => ?_
  exact Faults.discard (faults_writeSelection _)

theorem faults_memory {vfo : Value} (names : request.Names vfo) :
    (memory vfo).Faults Came request.Early (request.Late Came) := by
  refine Faults.seq (faults_bandOf names) fun band _ => ?_
  exact Faults.seq (faults_readSelection band) fun _ _ => trivial

/-- What an attribute of a channel does not take is a number that is listed, or a text. -/
theorem writable_of_make {number : Value} {n : Fin 1000} (listed : checkNumber number = .ok n)
    {why : AttributeFault} (failed : Channel.make number (.text "") = .error why) :
    why.isWritable = true := by
  have short : number.isWritable = true := by
    unfold checkNumber at listed
    split at listed <;> cases listed
    rename_i given
    have whole := Value.intBelow?_eq_some.mp given
    cases number with
    | int m =>
        cases whole
        exact Number.isWritable_of_lt (by decide) (by decide) (show n.val < Nat.pow 10 3 from n.isLt)
    | bool b => rfl
    | _ => cases whole
  unfold Channel.make at failed
  rcases bind_eq_error.mp failed with numbered | ⟨c, -, named⟩
  · unfold Channel.assign at numbered
    split at numbered <;> cases numbered
    exact short
  · unfold Channel.assign at named
    split at named <;> cases named
    rfl

theorem faults_getChannel (number : Value) :
    (getChannel number).Faults Came (Request.channel number).Early
      ((Request.channel number).Late Came) := by
  refine Faults.lifted_then (fun refusal failed => ?_) fun n listed => ?_
  · unfold checkNumber at failed
    split at failed <;> cases failed
    exact .argument .number
  rw [readMemory_eq]
  refine Faults.asked (fun _ came => .brought came)
    (fun reply came why failed => .misread came (reads_ownRecord reply n why failed)) fun record => ?_
  refine Faults.lifted_then (fun why failed => ?_) fun numbered _ => ?_
  · rw [Fault.ofAttribute, if_pos (writable_of_make listed failed)]
    exact .unassigned rfl
  refine Faults.lifted_then (fun fault _ => .radio fault) fun shift _ => ?_
  have named : ∀ name : MemoryName, (Dialogue.ofExcept (((numbered.withRecord record shift).assign .name
      (.text name.name)).mapError Fault.ofAttribute)).Faults Came ((Request.channel number).Late Came)
        ((Request.channel number).Late Came) := fun name => Faults.lifted fun why failed => by
    unfold Channel.assign at failed
    split at failed <;> cases failed
    exact .unassigned rfl
  exact Faults.bind (faults_readName n) named named

/-- A channel that its attributes accept is refused for its place in the memory only, or for a reverse
flag that is a complex number. -/
theorem faults_setChannel (c : Channel) :
    (setChannel c).Faults Came (Request.setChannel c).Early ((Request.setChannel c).Late Came) := by
  refine Faults.lifted_then (fun refusal failed => Request.early_argument fun _ =>
    writable_of_checkUnreserved failed) fun number _ => ?_
  by_cases validated : c.Validated
  · have order := validated.inOrder
    obtain ⟨name, named⟩ := Channel.Attribute.exists_name (order.accepted .name)
    refine Faults.settled (fun why failed => ?_) fun draft drafted => ?_
    · rcases order.fault_of_toDraft failed with ⟨refusal, rfl⟩ | ⟨rfl, complex⟩
      · exact .argument refusal
      · exact .unreal fun real => by
          cases complex.symm.trans real
    · rw [named, checkSentName_text]
      refine Faults.lifted_then (fun refusal failed => ?_) fun record _ => ?_
      · obtain ⟨record, fits⟩ := order.exists_check drafted
        cases failed.symm.trans fits
      refine Faults.seq (Faults.discard (faults_writeMemory _)) fun _ _ => ?_
      exact Faults.discard (faults_writeName _ _)
  · have refused : ∀ why, (Request.setChannel c).Early why := fun _ => .unsuitable validated
    refine Faults.settled (fun why _ => refused why) fun draft _ => ?_
    refine Faults.settled (fun why _ => refused why) fun name _ => ?_
    refine Faults.lifted_then (fun _ _ => refused _) fun record _ => ?_
    refine Faults.bind (Faults.discard (faults_writeMemory _)) (fun _ => ?_) fun _ => ?_
    · refine Faults.settled (fun why _ => refused why) fun written _ => ?_
      exact Faults.discard (faults_writeName _ _)
    · refine Faults.settled (fun why failed => ?_) fun written _ => Faults.discard (faults_writeName _ _)
      rw [SentName.fault_of_written failed]
      exact .unwritten validated

theorem faults_hearsSignal {vfo : Value} (names : request.Names vfo) :
    (hearsSignal vfo).Faults Came request.Early (request.Late Came) := by
  refine Faults.seq (faults_bandOf names) fun band _ => ?_
  exact Faults.seq (faults_readBusy band) fun _ _ => trivial

theorem faults_get (setting : Setting) {vfo : Value} (names : request.Names vfo) :
    (get setting vfo).Faults Came request.Early (request.Late Came) :=
  Faults.bind (faults_readVfoMemory names) (fun _ => Faults.lifted fun fault _ => .radio fault) fun _ =>
    Faults.lifted fun fault _ => .radio fault

theorem faults_redirected {α : Type} {target : Except RadioFault Value} {f : MemoryRecord → α}
    (names : ∀ vfo, target = .ok vfo → request.Names vfo) :
    (Dialogue.ofExcept (target.mapError .radio) >>= fun vfo =>
      readVfoMemory vfo >>= fun record => pure (f record)).Faults Came request.Early
        (request.Late Came) :=
  Faults.lifted_then (fun fault _ => .radio fault) fun vfo found =>
    Faults.seq (faults_readVfoMemory (names vfo found)) fun _ _ => trivial

theorem faults_answering {d : Rig → Dialogue Value} {r : Rig} {Late : Fault → Prop}
    (h : (d r).Faults Came Early Late) : ((answering d).dialogue r).Faults Came Early Late := by
  rw [dialogue_answering]
  exact Faults.seq h fun _ _ => trivial

theorem faults_doing {d : Rig → Dialogue Unit} {r : Rig} {Late : Fault → Prop}
    (h : (d r).Faults Came Early Late) : ((doing d).dialogue r).Faults Came Early Late := by
  rw [dialogue_doing]
  exact Faults.seq h fun _ _ => trivial

theorem names_receivingVfo {r : Rig} {vfo target : Value} (redirected : r.receivingVfo vfo = .ok target)
    (names : request.Names vfo) : request.Names target := by
  have found : (Change.mode vfo).redirect r vfo = .ok target := mapError_eq_ok.mpr redirected
  exact Change.names_redirect found names

theorem names_transmittingVfo {r : Rig} {vfo target : Value}
    (redirected : r.transmittingVfo vfo = .ok target) (names : request.Names vfo) :
    request.Names target := by
  have found : (Change.frequency .transmitting vfo).redirect r vfo = .ok target :=
    mapError_eq_ok.mpr redirected
  exact Change.names_redirect found names

theorem faults_perform (r : Rig) {request : Request}
    (own : ∀ number row, request ≠ .fillMemory number row) :
    (r.perform request).Faults Came request.Early (request.Late Came) := by
  cases request with
  | start => trivial
  | finish => trivial
  | session =>
      exact faults_answering (Faults.lifted_then (fun fault _ => .radio fault) fun _ _ => trivial)
  | capabilities => trivial
  | name => trivial
  | selectVfo vfo =>
      rw [perform_selectVfo]
      exact Faults.seq (r.faults_selecting vfo) fun _ _ => trivial
  | selectedVfo => exact faults_answering (Faults.seq faults_selectedVfo fun _ _ => trivial)
  | setSplit on transmit =>
      rw [perform_setSplit]
      exact Faults.seq (r.faults_splitting on transmit) fun _ _ => trivial
  | split =>
      rw [perform_split]
      exact Faults.seq r.faults_reconciling fun _ _ => trivial
  | setFrequency vfo hertz => exact r.faults_change vfo (.frequency .receiving hertz)
  | frequency vfo =>
      exact faults_answering (Faults.seq (faults_redirected fun _ redirected =>
        names_receivingVfo redirected ⟨id, id⟩) fun _ _ => trivial)
  | setSplitFrequency vfo hertz => exact r.faults_change vfo (.frequency .transmitting hertz)
  | splitFrequency vfo =>
      exact faults_answering (Faults.seq (faults_redirected fun _ redirected =>
        names_transmittingVfo redirected ⟨id, id⟩) fun _ _ => trivial)
  | setMode vfo mode => exact r.faults_change vfo (.mode mode)
  | mode vfo =>
      exact faults_answering (Faults.seq (faults_redirected fun _ redirected =>
        names_receivingVfo redirected ⟨id, id⟩) fun _ _ => trivial)
  | set which vfo v => exact r.faults_change vfo (.setting which v)
  | get which vfo => exact faults_answering (faults_get which ⟨id, id⟩)
  | setMemory vfo number => exact faults_doing (faults_setMemory vfo number)
  | memory vfo => exact faults_answering (Faults.seq (faults_memory ⟨id, id⟩) fun _ _ => trivial)
  | setChannel c => exact faults_doing (faults_setChannel c)
  | channel number =>
      rw [perform_channel]
      exact Faults.seq (faults_getChannel number) fun _ _ => trivial
  | setTransmit on => exact faults_doing (faults_setTransmit on)
  | hearsSignal vfo =>
      exact faults_answering (Faults.seq (faults_hearsSignal ⟨id, id⟩) fun _ _ => trivial)
  | channelOf vfo =>
      exact faults_answering (Faults.seq (faults_channelOf ⟨id, id⟩) fun _ _ => trivial)
  | fillMemory number row => exact absurd rfl (own number row)

/-- Where a request fails, it fails before anything was sent, or with what may go wrong after that. -/
theorem fault_of_conversation {r : Rig} {request : Request}
    (own : ∀ number row, request ≠ .fillMemory number row) {turns : List Turn} {why : Fault}
    (said : (r.perform request).Conversation turns (.error why)) :
    turns = [] ∧ request.Early why ∨
      request.Late (fun answer => ∃ turn ∈ turns, turn.answer = answer) why := by
  have faults : (r.perform request).Faults (fun answer => ∃ turn ∈ turns, turn.answer = answer) _ _ :=
    r.faults_perform own
  rcases faults.conversation said (fun turn member => ⟨turn, member, rfl⟩) rfl with early | ⟨-, late⟩
  · exact .inl early
  · exact .inr late

end Rig

end

end Transceiver
