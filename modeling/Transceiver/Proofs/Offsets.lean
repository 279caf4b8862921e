import Transceiver.Proofs.Aliasing
import Transceiver.Proofs.Snapping
import Transceiver.Rig.Call

/-! Repeater offsets. A rig holds an offset against the range of its field and then puts it on a grid,
so the topmost offsets of the range are moved out of the field. -/
namespace Transceiver

open Dialogue Frequency Record Simulation

namespace Rig

theorem offset_of_range {v : Value} {n : Int} (whole : v.int? = some n) (natural : 0 ≤ n)
    (below : n < 100000000) :
    ∃ m : Fin 100000000, v.intBelow? 100000000 = some m ∧ (m.val : Int) = n := by
  have same : (n.toNat : Int) = n := Int.toNat_of_nonneg natural
  refine ⟨⟨n.toNat, by omega⟩, Value.intBelow?_eq_some.mpr ?_, same⟩
  rw [whole]
  exact congrArg some same.symm

section
variable {link : Link} (patient : 0 ≤ link.patience) (r : Rig) {vfo : Value} {s : Bench} {band : Band}
variable (leads : LeadsTo vfo s.radio band) {old : MemoryRecord} (held : s.radio.Holds band old)

include patient leads held

theorem obtains_offset (quiet : s.Quiet) {v : Value} {n : Int} (whole : v.int? = some n)
    (natural : 0 ≤ n) (below : n < 99997500) :
    ∃ offset : Fin 100000000, (offset.val : Int) = (snap n).hertz ∧
      r.Obtains link (.set .offset vfo v) s .nothing (s.radio.store band { old with offset }) := by
  obtain ⟨choice, chosen, rfl⟩ := leads
  obtain ⟨m, listed, rfl⟩ := offset_of_range whole natural (by omega)
  obtain ⟨offset, snapped⟩ := snap_below natural below
  have edits : (Change.setting .offset v).Edits old { old with offset } := .offset listed snapped
  have talks := talks_change_redirected (r := r) rfl chosen held edits
  exact ⟨offset, snapped, obtains_of_talks patient quiet talks⟩

theorem obtains_told_offset (quiet : s.Quiet) :
    r.Obtains link (.get .offset vfo) s (.value (.int old.offset.val)) s.radio := by
  obtain ⟨choice, chosen, rfl⟩ := leads
  have told : (Change.setting .offset .null).reading old = .ok (.int old.offset.val) := rfl
  exact obtains_of_talks patient quiet (talks_query_redirected rfl chosen held told)

/-- An offset that the grid moves out of its field is refused, and the radio has been asked by then. -/
theorem offset_lifted (quiet : s.Quiet) {v : Value} {n : Int} (whole : v.int? = some n)
    (high : 99997500 ≤ n) (below : n < 100000000) :
    (r.carryOut link Bench.port (.set .offset vfo v) s).1.result =
        .error (.argument (.field "offset" (.int 100000000) "ME")) ∧
      (r.carryOut link Bench.port (.set .offset vfo v) s).2 = r ∧
      (r.carryOut link Bench.port (.set .offset vfo v) s).1.port.radio = s.radio ∧
      (r.carryOut link Bench.port (.set .offset vfo v) s).1.port.Quiet := by
  obtain ⟨choice, chosen, rfl⟩ := leads
  obtain ⟨m, listed, rfl⟩ := offset_of_range whole (by omega) below
  have accepted : (Change.setting .offset v).update = .ok { offset := some (.int 100000000) } := by
    refine Setting.offsetUpdate_eq_ok.mpr ⟨m, listed, ?_⟩
    rw [snap_beyond high below]
  have prepared : (Change.setting .offset v).prepared r vfo = .ok (vfo, _) :=
    Change.prepared_eq_ok.mpr ⟨rfl, accepted⟩
  have refused := talks_changeVfo_refused chosen held (offset_unfit old (Int.le_refl _))
  have talks : (r.perform ((Change.setting .offset v).request vfo)).Talks s.radio
      (.error (.argument (.field "offset" (.int 100000000) "ME"))) s.radio := by
    rw [Change.perform_request, prepared]
    exact refused.bind_error
  exact carryOut_of_talks patient talks quiet rfl

end

/-- What is no integer in the range of the field is refused without a word. -/
theorem offset_refused {σ : Type} (link : Link) (port : Port σ) (r : Rig) (vfo : Value) {v : Value}
    (outside : ∀ n, v.int? = some n → n < 0 ∨ 100000000 ≤ n) (s : σ) :
    r.carryOut link port (.set .offset vfo v) s = (⟨.error (.ofArgument (.offset v)), [], s⟩, r) := by
  have unlisted : v.intBelow? 100000000 = none := by
    refine Option.eq_none_iff_forall_ne_some.mpr fun m listed => ?_
    have range := outside m.val (Value.intBelow?_eq_some.mp listed)
    omega
  have refused : (Change.setting .offset v).update = .error (.ofArgument (.offset v)) := by
    change Setting.offsetUpdate v = _
    rw [Setting.offsetUpdate, unlisted]
  have performed : r.perform (.set .offset vfo v) = .fail (.ofArgument (.offset v)) :=
    Change.perform_refused rfl refused
  rw [carryOut_eq, performed]
  rfl

/-- Over a quiet line to a radio that holds a record for the VFO, an offset below 99 997 500 is stored
on its grid, nothing else of the record or the radio is changed, and the VFO is then asked for it with
that answer. From there up to the end of the range of the field the grid moves the offset out of the
field: it is refused after the radio was asked, and the radio is left as it is. An argument that is no
integer of the range is refused without a word, as long as the message about it can be written, which
takes integers that are not too long and no row. -/
theorem offset_stored_below_the_last_step {link : Link} (patient : 0 ≤ link.patience) (r : Rig)
    {vfo : Value} {s : Bench} (quiet : s.Quiet) {band : Band} (leads : LeadsTo vfo s.radio band)
    {old : MemoryRecord} (held : s.radio.Holds band old) :
    (∀ v n, v.int? = some n → 0 ≤ n → n < 99997500 →
      ∃ offset : Fin 100000000, (offset.val : Int) = (snap n).hertz ∧
        r.Obtains link (.set .offset vfo v) s .nothing (s.radio.store band { old with offset }) ∧
        (s.radio.store band { old with offset }).Holds band { old with offset } ∧
        ∀ asked (t : Bench), t.Quiet → t.radio = s.radio.store band { old with offset } →
          LeadsTo asked t.radio band →
          r.Obtains link (.get .offset asked) t (.value (.int (snap n).hertz)) t.radio) ∧
      (∀ v n, v.int? = some n → 99997500 ≤ n → n < 100000000 →
        (r.carryOut link Bench.port (.set .offset vfo v) s).1.result =
            .error (.argument (.field "offset" (.int 100000000) "ME")) ∧
          (r.carryOut link Bench.port (.set .offset vfo v) s).2 = r ∧
          (r.carryOut link Bench.port (.set .offset vfo v) s).1.port.radio = s.radio ∧
          (r.carryOut link Bench.port (.set .offset vfo v) s).1.port.Quiet) ∧
      (∀ v, (∀ n, v.int? = some n → n < 0 ∨ 100000000 ≤ n) →
        ∀ {σ : Type} (link : Link) (port : Port σ) (s : σ),
          r.carryOut link port (.set .offset vfo v) s =
            (⟨.error (if v.isWritable then .argument (.offset v) else .notInteger), [], s⟩, r)) ∧
      ∀ named row, Request.ofCall "set_rptr_offs" [named, .row row] = .error .mistyped := by
  refine ⟨fun v n whole natural below => ?_,
    fun v n whole high below => offset_lifted patient r leads held quiet whole high below,
    fun v outside _ link port s => offset_refused link port r vfo outside s, fun named row => rfl⟩
  obtain ⟨offset, snapped, obtains⟩ := obtains_offset patient r leads held quiet whole natural below
  have stored : (s.radio.store band { old with offset }).Holds band { old with offset } :=
    s.radio.holds_store held.channel_eq
  refine ⟨offset, snapped, obtains, stored, ?_⟩
  intro asked t quiet' left leads'
  rw [← snapped]
  exact obtains_told_offset patient r leads' (left ▸ stored) quiet'

/-- A radio with an empty record for the first VFO. -/
def emptyFirst : Bench := Bench.ofRadio (Radio.initial.store .a (.empty Band.a.channel))

theorem holds_emptyFirst : emptyFirst.radio.Holds .a (.empty Band.a.channel) := Radio.holds_store _ rfl

theorem offset_stored_emptyFirst :
    ∃ offset : Fin 100000000, offset.val = 5000000 ∧
      (Rig.closed .warn).Obtains ⟨8, 3, 3⟩ (.set .offset (.text "VFOA") (.int 5001000)) emptyFirst
        .nothing (emptyFirst.radio.store .a { MemoryRecord.empty Band.a.channel with offset }) := by
  have patient : 0 ≤ (⟨8, 3, 3⟩ : Link).patience := by decide
  obtain ⟨below, -⟩ := offset_stored_below_the_last_step patient (Rig.closed .warn)
    (Bench.quiet_ofRadio _) (leadsTo_vfo emptyFirst.radio .a) holds_emptyFirst
  obtain ⟨offset, snapped, obtains, -⟩ := below (.int 5001000) 5001000 rfl (by decide) (by decide)
  have grid : (snap 5001000).hertz = 5000000 := by decide
  exact ⟨offset, by omega, obtains⟩

/-- An integer in the range of the field, whose place on the grid is not, is not stored. -/
theorem offset_not_stored_emptyFirst :
    (Value.int 99999999).int? = some 99999999 ∧ (snap 99999999).hertz = 100000000 ∧
      ((Rig.closed .warn).opened.carryOut ⟨8, 3, 3⟩ Bench.port
        (.set .offset (.text "VFOA") (.int 99999999)) emptyFirst).1.result =
        .error (.argument (.field "offset" (.int 100000000) "ME")) ∧
      ((Rig.closed .warn).opened.carryOut ⟨8, 3, 3⟩ Bench.port
        (.set .offset (.text "VFOA") (.int 99999999)) emptyFirst).1.port.radio = emptyFirst.radio := by
  have patient : 0 ≤ (⟨8, 3, 3⟩ : Link).patience := by decide
  obtain ⟨refused, -, kept, -⟩ := offset_lifted patient (Rig.closed .warn).opened
    (leadsTo_vfo emptyFirst.radio .a) holds_emptyFirst (Bench.quiet_ofRadio _)
    (v := .int 99999999) rfl (by decide) (by decide)
  exact ⟨rfl, by decide, refused, kept⟩

end Rig

end Transceiver
