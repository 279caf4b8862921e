import Transceiver.Frequency.Grid

/-! Frequencies on their grids. Rounding to a grid is told by what it comes to: a point that no other
point is closer to. That it turns no order round and leaves its own points alone follows from this
alone; the rest is which grid is meant on either side of the threshold. -/
namespace Transceiver.Frequency

/-- A point of a set that no other point of it is closer to. -/
structure Closest (points : Int → Prop) (hertz point : Int) : Prop where
  mem : points point
  least : ∀ other, points other → (point - hertz).natAbs ≤ (other - hertz).natAbs

namespace Closest

variable {points : Int → Prop} {hertz other p q : Int}

/-- Were the order turned round, the lower frequency would lie above the middle between the two
points and the higher one below it. -/
theorem mono (lower : Closest points hertz p) (upper : Closest points other q) (less : hertz < other) :
    p ≤ q := by
  have left := lower.least q upper.mem
  have right := upper.least p lower.mem
  omega

theorem eq_self (h : Closest points hertz p) (member : points hertz) : p = hertz := by
  have near := h.least hertz member
  omega

end Closest

theorem nearest_eq {hertz grid half : Int} (positive : 0 < half) (even : grid = 2 * half) :
    nearest hertz grid = (hertz + half) / grid * grid := by
  have middle : grid.fdiv 2 = half := by
    rw [Int.fdiv_eq_ediv_of_nonneg _ (by decide)]
    omega
  rw [nearest, middle, Int.fdiv_eq_ediv_of_nonneg _ (by omega)]

theorem dvd_nearest (hertz grid : Int) : grid ∣ nearest hertz grid := ⟨_, Int.mul_comm _ _⟩

/-- A rounded frequency is half a step away at most, and upwards if it is as much as that. -/
theorem nearest_within {hertz grid half : Int} (positive : 0 < half) (even : grid = 2 * half) :
    nearest hertz grid - half ≤ hertz ∧ hertz < nearest hertz grid + half := by
  have below := Int.ediv_mul_le (hertz + half) (show grid ≠ 0 by omega)
  have above := Int.lt_ediv_add_one_mul_self (hertz + half) (show 0 < grid by omega)
  rw [nearest_eq positive even]
  rw [Int.add_mul] at above
  omega

theorem le_of_dvd_of_ne {grid p q : Int} (hp : grid ∣ p) (hq : grid ∣ q) (apart : p ≠ q) :
    grid.natAbs ≤ (p - q).natAbs := by
  have divides := Int.natAbs_dvd_natAbs.mpr (Int.dvd_sub hp hq)
  exact Nat.le_of_dvd (by omega) divides

/-- Of all points of a grid the nearest is closest, and the upper one of two that are. -/
theorem nearest_closest {hertz grid half : Int} (positive : 0 < half) (even : grid = 2 * half) :
    Closest (grid ∣ ·) hertz (nearest hertz grid) ∧
      ∀ p, grid ∣ p → (p - hertz).natAbs = (nearest hertz grid - hertz).natAbs →
        p ≤ nearest hertz grid := by
  have within : nearest hertz grid - half ≤ hertz ∧ hertz < nearest hertz grid + half :=
    nearest_within positive even
  have apart : ∀ p, grid ∣ p → p ≠ nearest hertz grid → grid.natAbs ≤ (p - nearest hertz grid).natAbs :=
    fun p member => le_of_dvd_of_ne member (dvd_nearest hertz grid)
  refine ⟨⟨dvd_nearest hertz grid, ?_⟩, ?_⟩
  · intro p member
    by_cases same : p = nearest hertz grid
    · exact Nat.le_of_eq (by rw [same])
    · have far := apart p member same
      omega
  · intro p member tie
    by_cases same : p = nearest hertz grid
    · exact Int.le_of_eq same
    · have far := apart p member same
      omega

/-- A frequency that can be stored below the threshold: one on the grid of 5 or of 6.25 kHz. -/
def IsFine (hertz : Int) : Prop := 5000 ∣ hertz ∨ 6250 ∣ hertz

/-- A frequency that can be stored from the threshold up. -/
def IsCoarse (hertz : Int) : Prop := 10000 ∣ hertz

theorem nearest_five (hertz : Int) :
    Closest (5000 ∣ ·) hertz (nearest hertz 5000) ∧
      ∀ p, 5000 ∣ p → (p - hertz).natAbs = (nearest hertz 5000 - hertz).natAbs →
        p ≤ nearest hertz 5000 :=
  nearest_closest (show (0 : Int) < 2500 by decide) rfl

theorem nearest_six (hertz : Int) : Closest (6250 ∣ ·) hertz (nearest hertz 6250) :=
  (nearest_closest (show (0 : Int) < 3125 by decide) rfl).1

theorem nearest_coarse (hertz : Int) : Closest IsCoarse hertz (nearest hertz 10000) :=
  (nearest_closest (show (0 : Int) < 5000 by decide) rfl).1

/-- What rounding to the fine grids comes to. The step tells the grid, where 5 kHz is meant if the
point is on both. Of several points that are closest, one on the grid of 5 kHz is taken, and of two
such points the upper one. -/
structure FinelySnapped (hertz : Int) (snapped : Snapped) : Prop where
  closest : Closest IsFine hertz snapped.hertz
  step : snapped.step = if 5000 ∣ snapped.hertz then fiveStep else sixStep
  ties : ∀ p, 5000 ∣ p → (p - hertz).natAbs = (snapped.hertz - hertz).natAbs →
    5000 ∣ snapped.hertz ∧ p ≤ snapped.hertz

theorem snapFine_spec (hertz : Int) : FinelySnapped hertz (snapFine hertz) := by
  obtain ⟨five, upper⟩ := nearest_five hertz
  have six := nearest_six hertz
  unfold snapFine
  dsimp only
  by_cases closer : (nearest hertz 6250 - hertz).natAbs < (nearest hertz 5000 - hertz).natAbs
  · have off : ∀ p, 5000 ∣ p → (nearest hertz 6250 - hertz).natAbs < (p - hertz).natAbs :=
      fun p member => Nat.lt_of_lt_of_le closer (five.least p member)
    rw [if_pos closer]
    refine ⟨⟨.inr six.mem, ?_⟩, ?_, ?_⟩
    · rintro p (member | member)
      · exact Nat.le_of_lt (off p member)
      · exact six.least p member
    · exact (if_neg fun member => Nat.lt_irrefl _ (off _ member)).symm
    · intro p member tie
      exact absurd tie (Nat.ne_of_gt (off p member))
  · rw [if_neg closer]
    refine ⟨⟨.inl five.mem, ?_⟩, (if_pos five.mem).symm, fun p member tie => ⟨five.mem, upper p member tie⟩⟩
    rintro p (member | member)
    · exact five.least p member
    · exact Nat.le_trans (Nat.le_of_not_lt closer) (six.least p member)

/-- Of the fine grids' points the last one before the threshold is 5 kHz below it, so the threshold is
closer, or as close and higher, from the middle between the two on. -/
theorem snapFine_reaches (hertz : Int) :
    coarseThreshold ≤ (snapFine hertz).hertz ↔ 469997500 ≤ hertz := by
  obtain ⟨closest, -, ties⟩ := snapFine_spec hertz
  have last := closest.least 469995000 (.inl (by decide))
  have first := closest.least 470000000 (.inl (by decide))
  have upper := ties 470000000 (by decide)
  have fine := closest.mem
  unfold IsFine at fine
  unfold coarseThreshold
  omega

theorem snap_eq_fine {hertz : Int} (h : hertz < 469997500) : snap hertz = snapFine hertz := by
  have below : ¬ coarseThreshold ≤ (snapFine hertz).hertz := by
    rw [snapFine_reaches]
    omega
  exact if_neg below

theorem snap_eq_coarse {hertz : Int} (h : 469997500 ≤ hertz) :
    snap hertz = ⟨nearest hertz 10000, coarseStep⟩ :=
  if_pos ((snapFine_reaches hertz).mpr h)

theorem snap_fine {hertz : Int} (h : hertz < 469997500) :
    FinelySnapped hertz (snap hertz) ∧ (snap hertz).hertz < 470000000 := by
  rw [snap_eq_fine h]
  refine ⟨snapFine_spec hertz, ?_⟩
  have below := (not_congr (snapFine_reaches hertz)).mpr (by omega)
  unfold coarseThreshold at below
  omega

theorem snap_coarse {hertz : Int} (h : 469997500 ≤ hertz) :
    Closest IsCoarse hertz (snap hertz).hertz ∧ (snap hertz).step = coarseStep ∧
      470000000 ≤ (snap hertz).hertz := by
  rw [snap_eq_coarse h]
  have closest := nearest_coarse hertz
  refine ⟨closest, rfl, ?_⟩
  have threshold := closest.least 470000000 (show (10000 : Int) ∣ 470000000 by decide)
  have coarse := closest.mem
  unfold IsCoarse at coarse
  dsimp only
  omega

/-- Below the threshold, less half a step, the snapped frequency is the closest one on the grid of 5 or
of 6.25 kHz, with the step that tells the grid. Of points that are equally close one on the grid of
5 kHz is taken, and the upper one of two such. From there up it is the closest one on the grid of
10 kHz. -/
theorem snap_is_closest (hertz : Int) :
    (hertz < 469997500 →
      (snap hertz).hertz < 470000000 ∧
      (5000 ∣ (snap hertz).hertz ∨ 6250 ∣ (snap hertz).hertz) ∧
      (∀ p, 5000 ∣ p ∨ 6250 ∣ p → ((snap hertz).hertz - hertz).natAbs ≤ (p - hertz).natAbs) ∧
      ((snap hertz).step.val = 0 ↔ 5000 ∣ (snap hertz).hertz) ∧
      ((snap hertz).step.val = 0 ∨ (snap hertz).step.val = 1) ∧
      ∀ p, 5000 ∣ p → (p - hertz).natAbs = ((snap hertz).hertz - hertz).natAbs →
        5000 ∣ (snap hertz).hertz ∧ p ≤ (snap hertz).hertz) ∧
    (469997500 ≤ hertz →
      470000000 ≤ (snap hertz).hertz ∧ (snap hertz).step.val = 4 ∧ 10000 ∣ (snap hertz).hertz ∧
      ∀ p, 10000 ∣ p → ((snap hertz).hertz - hertz).natAbs ≤ (p - hertz).natAbs) := by
  constructor
  · intro low
    obtain ⟨⟨closest, step, ties⟩, below⟩ := snap_fine low
    refine ⟨below, closest.mem, closest.least, ?_, ?_, ties⟩
    · rw [step]
      split
      · rename_i member
        exact ⟨fun _ => member, fun _ => rfl⟩
      · rename_i member
        exact ⟨nofun, fun on => absurd on member⟩
    · rw [step]
      split
      · exact .inl rfl
      · exact .inr rfl
  · intro high
    obtain ⟨closest, step, above⟩ := snap_coarse high
    refine ⟨above, ?_, closest.mem, closest.least⟩
    rw [step]
    rfl

theorem Snapped.eq_of_fields {a b : Snapped} (hertz : a.hertz = b.hertz) (step : a.step = b.step) :
    a = b := by
  cases a
  cases b
  cases hertz
  cases step
  rfl

/-- A snapped frequency is one that rounding leaves alone. -/
theorem snap_snap (hertz : Int) : snap (snap hertz).hertz = snap hertz := by
  by_cases low : hertz < 469997500
  · obtain ⟨⟨closest, step, -⟩, below⟩ := snap_fine low
    have low' : (snap hertz).hertz < 469997500 := by
      have fine := closest.mem
      unfold IsFine at fine
      omega
    obtain ⟨⟨again, step', -⟩, -⟩ := snap_fine low'
    have same := again.eq_self closest.mem
    exact Snapped.eq_of_fields same (by rw [step', same, step])
  · obtain ⟨closest, step, above⟩ := snap_coarse (Int.not_lt.mp low)
    have high : 469997500 ≤ (snap hertz).hertz := by omega
    obtain ⟨again, step', -⟩ := snap_coarse high
    exact Snapped.eq_of_fields (again.eq_self closest.mem) (by rw [step', step])

theorem snap_mono {lower upper : Int} (h : lower ≤ upper) : (snap lower).hertz ≤ (snap upper).hertz := by
  by_cases same : lower = upper
  · exact Int.le_of_eq (by rw [same])
  · by_cases low : upper < 469997500
    · exact (snap_fine (by omega)).1.closest.mono (snap_fine low).1.closest (by omega)
    · by_cases high : 469997500 ≤ lower
      · exact (snap_coarse high).1.mono (snap_coarse (by omega)).1 (by omega)
      · have below := (snap_fine (Int.not_le.mp high)).2
        have above := (snap_coarse (Int.not_lt.mp low)).2.2
        omega

/-- A range goes from its first frequency to its second, both included. -/
def Covers (range : Nat × Nat) (hertz : Int) : Prop := range.1 ≤ hertz ∧ hertz ≤ range.2

theorem receivable_iff {hertz : Int} :
    receivable hertz = true ↔ ∃ range ∈ receiveRanges, Covers range hertz := by
  simp only [receivable, List.any_eq_true, Bool.and_eq_true, decide_eq_true_eq, Covers]

theorem ranges_within : ∀ range ∈ receiveRanges, 118000000 ≤ range.1 ∧ range.2 ≤ 1300000000 := by
  decide

theorem receivable_bounds {hertz : Int} (h : receivable hertz = true) :
    118000000 ≤ hertz ∧ hertz ≤ 1300000000 := by
  obtain ⟨range, member, above, below⟩ := receivable_iff.mp h
  have within := ranges_within range member
  omega

/-- Both ends of a range can be stored as they are. -/
theorem snap_ends {range : Nat × Nat} (member : range ∈ receiveRanges) :
    (snap range.1).hertz = range.1 ∧ (snap range.2).hertz = range.2 := by
  revert range
  decide

/-- Between two frequencies that can be stored as they are, rounding does not leave the range. -/
theorem covers_snap {range : Nat × Nat} (member : range ∈ receiveRanges) {hertz : Int}
    (covered : Covers range hertz) : Covers range (snap hertz).hertz := by
  obtain ⟨bottom, top⟩ := snap_ends member
  have above := snap_mono covered.1
  have below := snap_mono covered.2
  exact ⟨bottom ▸ above, top ▸ below⟩

theorem snap_natural {hertz : Int} (low : 0 ≤ hertz) : 0 ≤ (snap hertz).hertz := by
  have zero : (snap 0).hertz = 0 := by decide
  exact zero ▸ snap_mono low

/-- A frequency that can be received is stored in its field. -/
theorem snap_fits {hertz : Int} (h : receivable hertz = true) :
    ∃ freq : Fin 10000000000, (freq.val : Int) = (snap hertz).hertz := by
  obtain ⟨range, member, covered⟩ := receivable_iff.mp h
  obtain ⟨above, below⟩ := covers_snap member covered
  have narrow := ranges_within range member
  exact ⟨⟨(snap hertz).hertz.toNat, by omega⟩, Int.toNat_of_nonneg (by omega)⟩

/-- An offset below this one is moved to the grid within its field. -/
theorem snap_below {hertz : Int} (low : 0 ≤ hertz) (below : hertz < 99997500) :
    ∃ offset : Fin 100000000, (offset.val : Int) = (snap hertz).hertz := by
  have last : (snap 99997499).hertz = 99995000 := by decide
  have natural := snap_natural low
  have upper : (snap hertz).hertz ≤ (snap 99997499).hertz := snap_mono (by omega)
  exact ⟨⟨(snap hertz).hertz.toNat, by omega⟩, Int.toNat_of_nonneg natural⟩

/-- From there up to the end of the field an offset is moved to the first number past it. -/
theorem snap_beyond {hertz : Int} (high : 99997500 ≤ hertz) (below : hertz < 100000000) :
    (snap hertz).hertz = 100000000 := by
  have first : (snap 99997500).hertz = 100000000 := by decide
  have last : (snap 99999999).hertz = 100000000 := by decide
  have lower : (snap 99997500).hertz ≤ (snap hertz).hertz := snap_mono high
  have upper : (snap hertz).hertz ≤ (snap 99999999).hertz := snap_mono (by omega)
  omega

end Transceiver.Frequency
