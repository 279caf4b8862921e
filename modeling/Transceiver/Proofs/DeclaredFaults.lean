import Transceiver.Proofs.Drift
import Transceiver.Proofs.Failing
import Transceiver.Proofs.Hearing
import Transceiver.Simulation.Script

/-! Lines on which only characters come in. Whatever a radio says on such a line, and wherever the line
breaks, a request ends in an answer, in a refused argument or in a fault of the radio. -/
namespace Transceiver

open Record Dialogue

/-- A refused argument or a fault of the radio, which callers are told to expect. -/
def Fault.Declared : Fault → Prop
  | .argument _ | .radio _ => True
  | _ => False

/-- The byte stands for a character. -/
def Text.CodePage.IsKnown (b : UInt8) : Prop := (decodeByte b).isSome = true

theorem Text.CodePage.exists_decode {bytes : List UInt8} (known : ∀ b ∈ bytes, IsKnown b) :
    ∃ text, decode bytes = some text := by
  have characters : ∃ cs, bytes.mapM decodeByte = some cs := by
    induction bytes with
    | nil => exact ⟨[], rfl⟩
    | cons b rest ih =>
        obtain ⟨c, here⟩ := Option.isSome_iff_exists.mp (known b List.mem_cons_self)
        obtain ⟨cs, later⟩ := ih fun other member => known other (List.mem_cons_of_mem b member)
        exact ⟨c :: cs, by rw [List.mapM_cons, here, later]; rfl⟩
  obtain ⟨cs, same⟩ := characters
  exact ⟨.ofList cs, by rw [decode, same]; rfl⟩

section
variable {σ : Type}

/-- In states of a kind, which the port does not leave, reads bring characters only, or fail, and
writes succeed or fail. -/
structure Port.Legible (port : Port σ) (P : σ → Prop) : Prop where
  read : ∀ {s}, P s → P (port.read s).2
  write : ∀ {s} (bytes : List UInt8), P s → P (port.write bytes s).2
  brings : ∀ {s bytes ticks}, P s → (port.read s).1 = .arrived bytes ticks →
    ∀ b ∈ bytes, Text.CodePage.IsKnown b
  takes : ∀ {s} (bytes : List UInt8), P s → (port.write bytes s).1 ≠ .error .unspellable

namespace Port.Legible

variable {link : Link} {port : Port σ} {P : σ → Prop} (legible : port.Legible P) {s : σ}

include legible

theorem alike : port.Alike fun s _ => P s := ⟨legible.read, fun bytes h => legible.write bytes h⟩

theorem collect_declared {patience : Int} {command : String} {elapsed : Nat} {text : String}
    {why : Fault} (h : P s)
    (failed : (port.collect patience command elapsed text s).1 = .error why) : why.Declared := by
  fun_induction port.collect patience command elapsed text s with
  | case1 elapsed text s reason s' reading =>
      cases failed
      trivial
  | case2 elapsed text s bytes ticks s' reading undecodable =>
      obtain ⟨more, decoded⟩ :=
        Text.CodePage.exists_decode (legible.brings h (congrArg Prod.fst reading))
      cases undecodable.symm.trans decoded
  | case3 elapsed text s bytes ticks s' reading more decoded late =>
      cases failed
      trivial
  | case4 elapsed text s bytes ticks s' reading more decoded intime ended => cases failed
  | case5 elapsed text s bytes ticks s' reading more decoded intime unended ih =>
      have after := legible.read h
      rw [reading] at after
      exact ih after failed

theorem attempt_declared {patience : Int} {command : String} {why : Fault} (h : P s)
    (failed : (port.attempt patience command s).result = .error why) : why.Declared := by
  have came := attempted port patience command s
  generalize port.attempt patience command s = o at came failed
  cases came with
  | unspelled spelled =>
      cases failed
      trivial
  | @unwritten bytes reason s' spelled sent =>
      cases failed
      cases reason with
      | failed reason => trivial
      | unspellable => exact absurd (congrArg Prod.fst sent) (legible.takes bytes h)
  | @unanswered bytes s' reason s'' spelled sent collected =>
      cases failed
      have after := legible.write bytes h
      rw [sent] at after
      exact legible.collect_declared after (congrArg Prod.fst collected)
  | answered spelled sent collected => cases failed

theorem attempts_declared {command : String} {repetition left : Nat} {why : Fault} (h : P s)
    (announced : left ≠ 0 → link.announced.Writable)
    (failed : (link.attempts port command repetition left s).result = .error why) : why.Declared := by
  induction left generalizing repetition s with
  | zero => exact legible.attempt_declared h failed
  | succ left ih =>
      have after : P (port.attempt link.patience command s).port :=
        legible.alike.attempt (t := s) h link.patience command
      unfold Link.attempts at failed
      dsimp only at failed
      split at failed
      · obtain ⟨retries, written⟩ := announced (Nat.succ_ne_zero left)
        rw [written] at failed
        exact ih after (fun _ => announced (Nat.succ_ne_zero left)) failed
      · exact legible.attempt_declared h failed

theorem exchange_declared (announced : 0 < link.retries → link.announced.Writable) {command : String}
    {why : Fault} (h : P s)
    (failed : (link.exchange port command s).result = .error why) : why.Declared := by
  change (link.attempts port command 1 link.retries.toNat s).result.bind (Link.accepted command) = _
    at failed
  rcases bind_eq_error.mp failed with unanswered | ⟨reply, -, refused⟩
  · exact legible.attempts_declared h (fun some => announced (by omega)) unanswered
  · unfold Link.accepted at refused
    split at refused
    · cases refused
      trivial
    · cases refused

/-- Where an exchange of a dialogue fails, it fails with a declared fault. -/
theorem turns_declared (announced : 0 < link.retries → link.announced.Writable) {α : Type}
    {d : Dialogue α} (h : P s) :
    ∀ turn ∈ d.turns link port s, ∀ why, turn.answer = .error why → why.Declared := by
  induction d generalizing s with
  | done value => exact fun turn member => absurd member List.not_mem_nil
  | fail why => exact fun turn member => absurd member List.not_mem_nil
  | note record rest ih => exact ih h
  | send command rest ih =>
      have after : P (link.exchange port command.line s).port :=
        legible.alike.attempts (t := s) h link command.line 1 link.retries.toNat
      intro turn member
      rcases List.mem_cons.mp member with rfl | later
      · exact fun why failed => legible.exchange_declared announced h failed
      · exact ih _ after turn later

end Port.Legible

namespace Simulation.Script

/-- All bytes of the script that are still to come stand for characters. -/
structure Legible (s : Script) : Prop where
  rest : ∀ b ∈ s.rest, Text.CodePage.IsKnown b
  arrivals : ∀ bytes ticks, Arrival.data bytes ticks ∈ s.arrivals →
    ∀ b ∈ bytes, Text.CodePage.IsKnown b

theorem Legible.later {s : Script} (h : s.Legible) {arrival : Arrival} {later : List Arrival}
    (coming : s.arrivals = arrival :: later) : ∀ bytes ticks, Arrival.data bytes ticks ∈ later →
      ∀ b ∈ bytes, Text.CodePage.IsKnown b :=
  fun bytes ticks member => h.arrivals bytes ticks (coming ▸ List.mem_cons_of_mem arrival member)

theorem Legible.next {s : Script} (h : s.Legible) {bytes : List UInt8} {ticks : Nat}
    {later : List Arrival} (coming : s.arrivals = .data bytes ticks :: later) :
    ∀ b ∈ bytes, Text.CodePage.IsKnown b :=
  h.arrivals bytes ticks (coming ▸ List.mem_cons_self)

theorem legible_read {s : Script} (h : s.Legible) :
    s.read.2.Legible ∧ ∀ bytes ticks, s.read.1 = .arrived bytes ticks →
      ∀ b ∈ bytes, Text.CodePage.IsKnown b := by
  unfold read
  split
  · split
    · exact ⟨h, by rintro _ _ ⟨⟩ b ⟨⟩⟩
    · rename_i why later coming
      exact ⟨⟨h.rest, h.later coming⟩, by rintro _ _ ⟨⟩⟩
    · rename_i bytes ticks later coming
      refine ⟨⟨fun b member => h.next coming b (List.mem_of_mem_drop member), h.later coming⟩, ?_⟩
      rintro _ _ ⟨⟩ b member
      exact h.next coming b (List.mem_of_mem_take member)
  · refine ⟨⟨fun b member => h.rest b (List.mem_of_mem_drop member), h.arrivals⟩, ?_⟩
    rintro _ _ ⟨⟩ b member
    exact h.rest b (List.mem_of_mem_take member)

theorem legible_port : port.Legible Legible where
  read h := (legible_read h).1
  write _ h := ⟨h.rest, h.arrivals⟩
  brings h came := (legible_read h).2 _ _ came
  takes bytes _ := by
    dsimp only [port, write]
    split <;> rintro ⟨⟩

/-- An answer with an accent in it, and a line that breaks when it is first written to. -/
def broken : Script := ofArrivals [.data [0x4D, 0xE9, 13] 0, .failure "unplugged"] [(0, "unplugged")]

theorem legible_broken : broken.Legible where
  rest := fun b member => absurd member List.not_mem_nil
  arrivals := by
    intro bytes ticks member b inside
    rcases List.mem_cons.mp member with same | later
    · cases same
      have known : [0x4D, 0xE9, 13].all (fun b => (Text.CodePage.decodeByte b).isSome) = true := by decide
      exact List.all_eq_true.mp known b inside
    · cases List.mem_singleton.mp later

end Simulation.Script

end

/-- The names of the VFOs by the numbers of their bands, and their channels by these names. -/
def Band.vfos : List String := all.map vfo

def Band.vfoChannels : List (String × Fin 1000) := all.map fun band => (band.vfo, band.channel)

/-- Each number of a memory that a table is asked for has an entry there, and that is what is made of
it; only a shift may have none, and is then a fault of the radio. -/
structure MemoryRecord.Listed (record : MemoryRecord) (values : List Nat) : Prop where
  step : ∃ n entry, values[2]? = some n ∧ tuningSteps.toList[n]? = some entry ∧
    Setting.step.reading record = .ok (.float entry)
  shift : ∃ n : Nat, values[3]? = some n ∧
    Shift.ofRecord record = (Shift.all[n]?).elim (.error (.unknownShift n)) .ok
  tone : ∃ n entry, values[8]? = some n ∧ tones.toList[n]? = some entry ∧
    (isOn record.toneOn = true → Setting.tone.reading record = .ok (.float entry))
  squelchTone : ∃ n entry, values[9]? = some n ∧ tones.toList[n]? = some entry ∧
    (isOn record.ctcssOn = true → Setting.squelchTone.reading record = .ok (.float entry))
  dcsCode : ∃ n entry, values[10]? = some n ∧ dcsCodes.toList[n]? = some entry ∧
    (isOn record.dcsOn = true → Setting.dcsCode.reading record = .ok (.ofNat entry))
  mode : ∃ n, values[12]? = some n ∧ Mode.all[n]? = some (Mode.ofRecord record)

/-- Both bands have a VFO, and this has a channel. -/
structure BandControl.Listed (r : BandControl) (values : List Nat) : Prop where
  control : ∃ n vfo, values[0]? = some n ∧ Band.vfos[n]? = some vfo ∧
    Band.vfoChannels.lookup vfo = some r.control.channel
  transmit : ∃ n vfo, values[1]? = some n ∧ Band.vfos[n]? = some vfo ∧
    Band.vfoChannels.lookup vfo = some r.transmit.channel

theorem getElem?_toList_get {α : Type} {n : Nat} (v : Vector α n) (i : Fin n) :
    v.toList[i.val]? = some (v.get i) := by
  simp [Vector.get]

theorem Shift.ofCode?_eq_getElem? (n : Fin 10) : Shift.ofCode? n = Shift.all[n.val]? := by
  decide +revert

theorem MemoryRecord.listed (record : MemoryRecord) : record.Listed record.values where
  step := ⟨_, _, rfl, getElem?_toList_get _ _, rfl⟩
  shift := by
    refine ⟨_, rfl, ?_⟩
    unfold Shift.ofRecord
    rw [Shift.ofCode?_eq_getElem?]
    cases Shift.all[record.shift.val]? <;> rfl
  tone := ⟨_, _, rfl, getElem?_toList_get _ _, fun on => congrArg Except.ok (if_pos on)⟩
  squelchTone := ⟨_, _, rfl, getElem?_toList_get _ _, fun on => congrArg Except.ok (if_pos on)⟩
  dcsCode := ⟨_, _, rfl, getElem?_toList_get _ _, fun on => congrArg Except.ok (if_pos on)⟩
  mode := by
    have each : ∀ code : Fin 3, Mode.all[code.val]? = some (Mode.ofCode code) := by decide
    exact ⟨_, rfl, each record.mode⟩

theorem BandControl.listed (r : BandControl) : r.Listed r.values := by
  have each : ∀ band : Band, ∃ vfo, Band.vfos[band.index.val]? = some vfo ∧
      Band.vfoChannels.lookup vfo = some band.channel := by
    rintro (_ | _) <;> exact ⟨_, rfl, rfl⟩
  obtain ⟨vfo, named, stands⟩ := each r.control
  obtain ⟨vfo', named', stands'⟩ := each r.transmit
  exact ⟨⟨_, vfo, rfl, named, stands⟩, ⟨_, vfo', rfl, named', stands'⟩⟩

/-- What is read from a reply is listed by the numbers that the reply spells. -/
theorem MemoryRecord.listed_of_parse {reply : String} {record : MemoryRecord}
    (parsed : parse reply = .ok record) :
    ∃ values, IsLine "ME" formats reply values ∧ record.Listed values := by
  have same := MemoryRecord.parse_values reply
  rw [parsed] at same
  exact ⟨record.values, ((readLine_eq_ok (by decide)).mp same.symm).1, record.listed⟩

theorem BandControl.listed_of_parse {reply : String} {control : BandControl}
    (parsed : parse reply = .ok control) :
    ∃ values, IsLine "BC" formats reply values ∧ control.Listed values := by
  have same := BandControl.parse_values reply
  rw [parsed] at same
  exact ⟨control.values, ((readLine_eq_ok (by decide)).mp same.symm).1, control.listed⟩

namespace Rig

open Simulation

section
variable {σ : Type}

/-- A request for something of a suitable kind fails with a declared fault only, unless a reply holds a
number of too many digits: that is where what messages name can be written, so that no number that is
given has too many digits either, nor the number of retries, and where no complex number is given for a
flag. Each number that a table is asked for has an entry there, or is a declared fault. -/
theorem fails_as_declared {link : Link} (announced : 0 < link.retries → link.announced.Writable)
    {port : Port σ} {P : σ → Prop} (legible : port.Legible P) (r : Rig) {request : Request}
    (typed : request.Typed) (writable : request.Writable) (real : request.Real)
    (apart : ∀ number, request ≠ .channel number)
    (own : ∀ number row, request ≠ .fillMemory number row) {s : σ} (start : P s) :
    (∀ why, (r.carryOut link port request s).1.result = .error why →
      why.Declared ∨ why = .notInteger ∧
        ∃ turn ∈ (r.perform request).turns link port s, ∃ reply,
          turn.answer = .ok reply ∧ Overlong reply) ∧
    (∀ reply record, MemoryRecord.parse reply = .ok record →
      ∃ values, IsLine "ME" MemoryRecord.formats reply values ∧ record.Listed values) ∧
    ∀ reply control, BandControl.parse reply = .ok control →
      ∃ values, IsLine "BC" BandControl.formats reply values ∧ control.Listed values := by
  refine ⟨fun why failed => ?_, fun _ _ => MemoryRecord.listed_of_parse,
    fun _ _ => BandControl.listed_of_parse⟩
  have said := conversation_run link port (r.perform request) s
  rw [run_of_carryOut_error failed] at said
  rcases fault_of_conversation own said with ⟨-, early⟩ | late
  · cases early with
    | argument refusal => exact .inl trivial
    | radio fault => exact .inl trivial
    | unsuitable mistyped => exact absurd typed mistyped
    | unwritten overlong => exact absurd writable overlong
    | unreal complex => exact absurd real complex
  · cases late with
    | radio fault => exact .inl trivial
    | brought came =>
        obtain ⟨turn, member, failed⟩ := came
        exact .inl (legible.turns_declared announced start turn member _ failed)
    | overlong came long =>
        obtain ⟨turn, member, answered⟩ := came
        exact .inr ⟨rfl, turn, member, _, answered, long⟩
    | offset asked => exact .inl trivial
    | unassigned asked => exact absurd asked (apart _)
    | unwritten mistyped => exact absurd typed mistyped

theorem fails_as_declared_broken :
    Script.port.Legible Script.Legible ∧ Script.broken.Legible ∧
      (Request.setFrequency (.text "VFOA") (.int 146520000)).Typed ∧
      ∃ why, ((closed .warn).opened.carryOut ⟨8, 3, 3⟩ Script.port
          (.setFrequency (.text "VFOA") (.int 146520000)) Script.broken).1.result = .error why ∧
        (why.Declared ∨ why = .notInteger ∧
          ∃ turn ∈ ((closed .warn).opened.perform (.setFrequency (.text "VFOA") (.int 146520000))).turns
            ⟨8, 3, 3⟩ Script.port Script.broken, ∃ reply, turn.answer = .ok reply ∧ Overlong reply) := by
  refine ⟨Script.legible_port, Script.legible_broken, rfl, .radio (.writeFailed "unplugged"), rfl, ?_⟩
  have typed : (Request.setFrequency (.text "VFOA") (.int 146520000)).Typed := rfl
  have writable : (Request.setFrequency (.text "VFOA") (.int 146520000)).Writable := by
    refine ⟨rfl, ?_⟩
    rintro n ⟨⟩
    rfl
  exact (fails_as_declared (fun _ => ⟨"3", rfl⟩) Script.legible_port (closed .warn).opened typed writable
    trivial (by rintro _ ⟨⟩) (by rintro _ _ ⟨⟩) Script.legible_broken).1 _ rfl

end

/-- A frequency that cannot be received is refused before anything is said, with a message about it if
that can be written. -/
theorem carryOut_unreceivable {σ : Type} (link : Link) (port : Port σ) (policy : Policy) {hertz : Int}
    (unreceived : Frequency.receivable hertz = false) (s : σ) :
    (closed policy).opened.carryOut link port (.setFrequency (.text "VFOA") (.int hertz)) s =
      (⟨.error (.ofArgument (.unreceivable hertz)), [], s⟩, (closed policy).opened) := by
  have redirected : (Change.frequency .receiving (.int hertz)).redirect (closed policy).opened
      (.text "VFOA") = .ok (.text "VFOA") := rfl
  have performed : (closed policy).opened.perform (.setFrequency (.text "VFOA") (.int hertz)) =
      .fail (.ofArgument (.unreceivable hertz)) :=
    Change.perform_refused redirected (Change.update_unreceivable _ unreceived)
  rw [carryOut_eq, performed]
  rfl

/-- An integer of 4307 digits as a frequency, and one and no imaginary part as a flag, are refused
with faults that nobody is told to expect. -/
theorem overlong_frequency_undeclared :
    let hertz : Int := (Nat.pow 10 Number.maxDigits * 1000000 : Nat)
    (Request.setFrequency (.text "VFOA") (.int hertz)).Typed ∧
      ((closed .warn).opened.carryOut ⟨8, 3, 3⟩ Bench.port (.setFrequency (.text "VFOA") (.int hertz))
        (Bench.ofRadio .initial)).1.result = .error .notInteger ∧ ¬ Fault.notInteger.Declared ∧
      ∃ c : Channel, Channel.build (.int 5) (.text "HOME")
          [("reverse", .complex (.finite 1) (.finite 0))] [] = .ok c ∧
        (Request.setChannel c).Typed ∧
        ((closed .warn).opened.carryOut ⟨8, 3, 3⟩ Bench.port (.setChannel c)
          (Bench.ofRadio .initial)).1.result = .error .mistyped ∧ ¬ Fault.mistyped.Declared := by
  have long : Number.isWritable (Nat.pow 10 Number.maxDigits : Nat) = false :=
    Number.isWritable_power (by decide) (Nat.le_refl _)
  generalize Nat.pow 10 Number.maxDigits = mega at long ⊢
  intro hertz
  have large : 10000 ≤ mega := Nat.le_trans (by decide : 10000 ≤ Nat.pow 10 4)
    (Number.pow_le_of_unwritable (by decide) (by decide) long)
  have unreceived : Frequency.receivable hertz = false := Bool.eq_false_iff.mpr fun received => by
    have bounds := Frequency.receivable_bounds received
    omega
  have same : hertz.fdiv 1000000 = mega := by
    rw [show hertz = (mega : Int) * 1000000 from Int.natCast_mul mega 1000000]
    exact Int.mul_fdiv_cancel _ (by decide)
  have unwritten : (ArgumentFault.unreceivable hertz).isWritable = false := by
    change Number.isWritable (hertz.fdiv 1000000) = false
    rw [same, long]
  have refused : Fault.ofArgument (.unreceivable hertz) = .notInteger := by
    rw [Fault.ofArgument, unwritten]
    rfl
  refine ⟨rfl, ?_, id, ?_⟩
  · rw [carryOut_unreceivable _ _ _ unreceived, refused]
  · have built : Channel.build (.int 5) (.text "HOME") [("reverse", .complex (.finite 1) (.finite 0))] [] =
        .ok (((Channel.blank.store .number (.int 5)).store .name (.text "HOME")).store .reverse
          (.complex (.finite 1) (.finite 0))) := by rfl
    have validated : Channel.Validated _ := ⟨_, _, _, built, by decide⟩
    have free : Unreserved (.int 5) 5 := ⟨rfl, by decide⟩
    have none : Channel.HasPlace toneIndex? (.int 0) := .inl (by decide)
    refine ⟨_, built, validated, ?_, id⟩
    rw [carryOut_setChannel_unreal _ _ _ validated.inOrder free none none rfl _]

end Rig

end Transceiver
