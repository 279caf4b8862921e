import Transceiver.Proofs.Agreement

/-! Snapped frequencies in a rig: what is stored of a frequency that a rig accepts, and the tuning step
that the rig tells for it. -/
namespace Transceiver

open Dialogue Frequency Number Simulation

/-- A name that a host uses for a VFO leads to a band of the radio. -/
def LeadsTo (vfo : Value) (radio : Radio) (band : Band) : Prop :=
  ∃ choice, VfoChoice.ofValue vfo = .ok choice ∧ choice.band radio = band

theorem leadsTo_vfo (radio : Radio) (band : Band) : LeadsTo (.text band.vfo) radio band :=
  ⟨.named band, by cases band <;> rfl, rfl⟩

namespace Rig

/-- A rig in a session is about to change a VFO, over a quiet line to a radio that holds a record for
the band that the change is about. -/
structure Ready (link : Link) (r : Rig) (vfo : Value) (change : Change) (s : Bench) (band : Band)
    (old : MemoryRecord) : Prop where
  patient : 0 ≤ link.patience
  quiet : s.Quiet
  about : ∃ session choice, r.session = some session ∧ VfoChoice.ofValue vfo = .ok choice ∧
    change.band session choice s.radio = band
  held : s.radio.Holds band old

variable {link : Link} {r : Rig} {s : Bench} {band : Band} {old : MemoryRecord}

theorem obtains_change {vfo : Value} {change : Change} (ready : r.Ready link vfo change s band old)
    {new : MemoryRecord} (edits : change.Edits old new) :
    r.Obtains link (change.request vfo) s .nothing (s.radio.store band new) ∧
      (s.radio.store band new).Holds band new := by
  obtain ⟨patient, quiet, ⟨session, choice, opened, chosen, rfl⟩, held⟩ := ready
  refine ⟨obtains_of_talks patient quiet (talks_change opened chosen held edits), ?_⟩
  exact s.radio.holds_store (edits.channel_eq.trans held.channel_eq)

/-- Asked for the step of a VFO, a rig in a session tells the one that the record's code stands for. -/
theorem obtains_step (patient : 0 ≤ link.patience) (opened : r.session ≠ none) (quiet : s.Quiet)
    {vfo : Value} (leads : LeadsTo vfo s.radio band) (held : s.radio.Holds band old) :
    r.Obtains link (.get .step vfo) s (.value (.float (tuningSteps.get old.step))) s.radio := by
  obtain ⟨session, opened⟩ := Option.ne_none_iff_exists'.mp opened
  obtain ⟨choice, chosen, rfl⟩ := leads
  have told : (Change.setting .step .null).reading old = .ok (.float (tuningSteps.get old.step)) := rfl
  exact obtains_of_talks patient quiet (talks_query opened chosen held told)

end Rig

/-- A frequency that a rig accepts has an update that can be laid over any record, and the record then
has the snapped frequency and its step. -/
theorem frequency_fits {direction : Direction} {hertz : Value} {u : MemoryUpdate}
    (accepted : (Change.frequency direction hertz).update = .ok u) {n : Int} (whole : hertz.int? = some n) :
    receivable n = true ∧ ∃ freq, (freq.val : Int) = (snap n).hertz ∧
      ∀ old : MemoryRecord,
        (old.toDraft.overlay u).check = .ok { old with freq, step := (snap n).step } := by
  obtain ⟨m, whole', received, -⟩ := frequencyUpdate_eq_ok.mp accepted
  obtain rfl : n = m := Option.some.inj (whole.symm.trans whole')
  obtain ⟨freq, snapped⟩ := snap_fits received
  refine ⟨received, freq, snapped, fun old => ?_⟩
  have edits : (Change.frequency direction hertz).Edits old _ := .frequency whole received snapped
  obtain ⟨u', accepted', fits⟩ := edits.check
  obtain rfl : u = u' := Except.ok.inj (accepted.symm.trans accepted')
  exact fits

/-- Rounding twice is rounding once, rounding turns no order round, and what lies in a range stays in it.
So a frequency that a rig accepts fits into any record, within each range that it came from, and over a
quiet line the radio stores it so. -/
theorem snap_keeps_order_and_ranges (hertz : Int) :
    snap (snap hertz).hertz = snap hertz ∧
    (∀ upper, hertz ≤ upper → (snap hertz).hertz ≤ (snap upper).hertz) ∧
    (∀ range ∈ receiveRanges, Covers range hertz → Covers range (snap hertz).hertz) ∧
    ∀ direction v u, v.int? = some hertz → (Change.frequency direction v).update = .ok u →
      ∃ freq : Fin 10000000000, (freq.val : Int) = (snap hertz).hertz ∧
        (∃ range ∈ receiveRanges, Covers range hertz ∧ Covers range freq.val) ∧
        (∀ old : MemoryRecord,
          (old.toDraft.overlay u).check = .ok { old with freq, step := (snap hertz).step }) ∧
        ∀ link (r : Rig) vfo s band old, r.Ready link vfo (.frequency direction v) s band old →
          r.Obtains link ((Change.frequency direction v).request vfo) s .nothing
            (s.radio.store band { old with freq, step := (snap hertz).step }) := by
  refine ⟨snap_snap hertz, fun _ => snap_mono, fun _ member => covers_snap member, ?_⟩
  intro direction v u whole accepted
  obtain ⟨received, freq, snapped, fits⟩ := frequency_fits accepted whole
  obtain ⟨range, member, covered⟩ := receivable_iff.mp received
  refine ⟨freq, snapped, ⟨range, member, covered, snapped ▸ covers_snap member covered⟩, fits, ?_⟩
  intro link r vfo s band old ready
  exact (Rig.obtains_change ready (.frequency whole received snapped)).1

namespace Frequency

/-- A frequency is a whole multiple of a step, which is given in kilohertz. -/
def OnStep (hertz : Int) (step : Binary64) : Prop :=
  ∃ kilohertz, step = .finite kilohertz ∧ ∃ n : Int, (hertz : Rat) = n * (1000 * kilohertz)

theorem onStep_finite (unit : Int) {hertz : Int} {kilohertz : Rat} (whole : 1000 * kilohertz = unit) :
    OnStep hertz (.finite kilohertz) ↔ unit ∣ hertz := by
  constructor
  · rintro ⟨_, same, n, multiple⟩
    cases same
    rw [whole, ← Rat.intCast_mul, Rat.intCast_inj] at multiple
    exact ⟨n, by rw [multiple, Int.mul_comm]⟩
  · rintro ⟨n, rfl⟩
    refine ⟨kilohertz, rfl, n, ?_⟩
    rw [whole, ← Rat.intCast_mul, Int.mul_comm]

theorem onStep_five (hertz : Int) : OnStep hertz (tuningSteps.get fiveStep) ↔ 5000 ∣ hertz := by
  have step : tuningSteps.get fiveStep = .finite 5 := by decide +kernel
  rw [step, onStep_finite 5000 (by decide +kernel)]

theorem onStep_six (hertz : Int) : OnStep hertz (tuningSteps.get sixStep) ↔ 6250 ∣ hertz := by
  have step : tuningSteps.get sixStep = .finite (25 / 4) := by decide +kernel
  rw [step, onStep_finite 6250 (by decide +kernel)]

/-- The code of the coarse grid stands for a step of 12.5 kHz. -/
theorem onStep_coarse (hertz : Int) : OnStep hertz (tuningSteps.get coarseStep) ↔ 12500 ∣ hertz := by
  have step : tuningSteps.get coarseStep = .finite (25 / 2) := by decide +kernel
  rw [step, onStep_finite 12500 (by decide +kernel)]

/-- Below the threshold the code tells the grid that the frequency is on. From there up the frequency
is on a grid of 10 kHz and the code tells one of 12.5 kHz, so only every fifth frequency is on it. -/
theorem onStep_snap (hertz : Int) :
    OnStep (snap hertz).hertz (tuningSteps.get (snap hertz).step) ↔
      hertz < 469997500 ∨ 50000 ∣ (snap hertz).hertz := by
  by_cases low : hertz < 469997500
  · obtain ⟨⟨closest, step, -⟩, -⟩ := snap_fine low
    refine iff_of_true ?_ (.inl low)
    rw [step]
    split
    · rename_i five
      exact (onStep_five _).mpr five
    · rename_i other
      exact (onStep_six _).mpr (closest.mem.resolve_left other)
  · obtain ⟨closest, step, -⟩ := snap_coarse (Int.not_lt.mp low)
    have coarse := closest.mem
    unfold IsCoarse at coarse
    rw [step, onStep_coarse]
    omega

end Frequency

namespace Rig

/-- A snapped frequency is a whole multiple of its step exactly if it is below the threshold or a
multiple of 50 kHz. So it is of a stored frequency and the step that the rig then tells for its VFO. -/
theorem snapped_on_told_step (hertz : Int) :
    (OnStep (snap hertz).hertz (tuningSteps.get (snap hertz).step) ↔
      hertz < 469997500 ∨ 50000 ∣ (snap hertz).hertz) ∧
    ∀ link (r : Rig) vfo direction v s band old, v.int? = some hertz → receivable hertz = true →
      r.Ready link vfo (.frequency direction v) s band old →
      ∃ new, (new.freq.val : Int) = (snap hertz).hertz ∧
        r.Obtains link ((Change.frequency direction v).request vfo) s .nothing
          (s.radio.store band new) ∧
        ∀ asked (t : Bench), t.Quiet → t.radio = s.radio.store band new →
          LeadsTo asked t.radio band →
          r.Obtains link (.get .step asked) t
            (.value (.float (tuningSteps.get (snap hertz).step))) t.radio := by
  refine ⟨onStep_snap hertz, ?_⟩
  intro link r vfo direction v s band old whole received ready
  obtain ⟨freq, snapped⟩ := snap_fits received
  have edits : (Change.frequency direction v).Edits old _ := .frequency whole received snapped
  obtain ⟨obtains, stored⟩ := obtains_change ready edits
  refine ⟨_, snapped, obtains, ?_⟩
  intro asked t quiet left leads
  obtain ⟨session, -, opened, -⟩ := ready.about
  exact obtains_step ready.patient (by rw [opened]; nofun) quiet leads (left ▸ stored)

end Rig

/-- The 10 kHz grid has a frequency that is no multiple of the step it is stored with. -/
theorem Frequency.coarse_off_step :
    ¬ OnStep (snap 470010000).hertz (tuningSteps.get (snap 470010000).step) := by
  rw [onStep_snap]
  decide

theorem Rig.snapped_on_told_step_coarse :
    ∃ new : MemoryRecord, new.freq.val = 470010000 ∧
      ∀ t : Bench, t.Quiet → t.radio = (Radio.initial.store .a (.empty 998)).store .a new →
        (Rig.closed .warn).opened.Obtains ⟨8, 3, 3⟩ (.get .step (.text "VFOA")) t
          (.value (.float (.finite (25 / 2)))) t.radio := by
  have ready : (Rig.closed .warn).opened.Ready ⟨8, 3, 3⟩ (.text "VFOA")
      (.frequency .receiving (.int 470010000)) (Bench.ofRadio (Radio.initial.store .a (.empty 998))) .a
      (.empty 998) :=
    ⟨by decide, Bench.quiet_ofRadio _, ⟨.initial, .named .a, rfl, rfl, rfl⟩, Radio.holds_store _ rfl⟩
  obtain ⟨new, snapped, -, told⟩ := (snapped_on_told_step 470010000).2 _ _ _ _ _ _ _ _ rfl (by decide) ready
  have step : tuningSteps.get (snap 470010000).step = .finite (25 / 2) := by decide +kernel
  have freq : (snap 470010000).hertz = 470010000 := by decide
  rw [step] at told
  refine ⟨new, by omega, fun t quiet left => told _ t quiet left (leadsTo_vfo t.radio .a)⟩

end Transceiver
