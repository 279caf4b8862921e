import Transceiver.Directory

/-! Kinds are defined and registered in any order, and some registrations fail. The two tables of the
directory stay each other's inverse all the while, and what is registered stays registered. -/
namespace Transceiver.Directory

/-- What is done with a directory: a kind is defined, whatever it is derived from, or a kind is to be
registered. -/
inductive Action where
  | define (k : RigKind)
  | register (kind : Nat)

def step (d : Directory) : Action → Directory
  | .define k => d.define k
  | .register kind => (d.enter kind).2

def after : Directory → List Action → Directory
  | d, [] => d
  | d, action :: rest => (d.step action).after rest

variable {d d' : Directory} {kind : Nat} {k : RigKind}

theorem enter_unknown (unknown : d.kinds[kind]? = none) :
    d.enter kind = (.error (.unknownKind kind), d) := by
  simp only [enter, unknown]

theorem enter_taken {holder : Nat} (known : d.kinds[kind]? = some k)
    (taken : d.kindOf? k.identifier = some holder) :
    d.enter kind = (.error (.taken k.identifier), d) := by
  simp [enter, known, taken]

theorem enter_free (known : d.kinds[kind]? = some k) (free : d.kindOf? k.identifier = none) :
    d.enter kind = (.ok (), d.file k.identifier kind) := by
  simp [enter, known, free]

/-- What one action can come to: a kind is added, a kind with a free identifier is filed, or
nothing changes. -/
inductive Moves (d : Directory) : Directory → Prop
  | define (k : RigKind) : d.Moves (d.define k)
  | file {kind : Nat} {k : RigKind} : d.kinds[kind]? = some k → d.kindOf? k.identifier = none →
      d.Moves (d.file k.identifier kind)
  | stay : d.Moves d

theorem moves_enter (d : Directory) (kind : Nat) : d.Moves (d.enter kind).2 := by
  cases known : d.kinds[kind]? with
  | none =>
      rw [enter_unknown known]
      exact .stay
  | some k =>
      cases found : d.kindOf? k.identifier with
      | none =>
          rw [enter_free known found]
          exact .file known found
      | some holder =>
          rw [enter_taken known found]
          exact .stay

theorem moves_step (d : Directory) (action : Action) : d.Moves (d.step action) := by
  cases action with
  | define k => exact .define k
  | register kind => exact d.moves_enter kind

@[simp] theorem kinds_enter (d : Directory) (kind : Nat) : (d.enter kind).2.kinds = d.kinds := by
  cases known : d.kinds[kind]? with
  | none => rw [enter_unknown known]
  | some k =>
      cases found : d.kindOf? k.identifier with
      | none => rw [enter_free known found, kinds_file]
      | some holder => rw [enter_taken known found]

/-- The two tables are each other's inverse, and a kind stands in them with its own identifier. -/
structure Consistent (d : Directory) : Prop where
  inverse : ∀ identifier kind, d.kindOf? identifier = some kind ↔ d.identifierOf? kind = some identifier
  own : ∀ kind identifier, d.identifierOf? kind = some identifier →
    ∃ k, d.kinds[kind]? = some k ∧ k.identifier = identifier

namespace Consistent

theorem define (h : d.Consistent) (k : RigKind) : (d.define k).Consistent := by
  refine ⟨h.inverse, fun kind identifier given => ?_⟩
  obtain ⟨k', known, named⟩ := h.own kind identifier given
  have inside : kind < d.kinds.length := (List.getElem?_eq_some_iff.mp known).1
  exact ⟨k', (List.getElem?_append_left inside).trans known, named⟩

/-- A registered kind stands in its own way: its identifier is taken by itself. -/
theorem registered_taken (h : d.Consistent) (known : d.kinds[kind]? = some k)
    (registered : (d.identifierOf? kind).isSome) : d.kindOf? k.identifier = some kind := by
  obtain ⟨identifier, given⟩ := Option.isSome_iff_exists.mp registered
  obtain ⟨k', known', named⟩ := h.own kind identifier given
  obtain rfl : k = k' := Option.some.inj (known.symm.trans known')
  rw [named]
  exact (h.inverse identifier kind).mpr given

theorem file (h : d.Consistent) (known : d.kinds[kind]? = some k)
    (free : d.kindOf? k.identifier = none) : (d.file k.identifier kind).Consistent := by
  have unregistered : d.identifierOf? kind = none := by
    cases given : d.identifierOf? kind with
    | none => rfl
    | some identifier =>
        rw [h.registered_taken known (by rw [given]; rfl)] at free
        cases free
  constructor
  · intro identifier other
    rw [kindOf?_file, identifierOf?_file]
    by_cases same : identifier = k.identifier
    · by_cases itself : other = kind
      · simp only [same, itself, if_true]
      · have neither : d.identifierOf? other ≠ some k.identifier := by
          rw [Ne, ← h.inverse, free]
          exact nofun
        simp only [same, itself, if_true, if_false, Option.some.injEq, neither, iff_false]
        exact fun equal => itself equal.symm
    · by_cases itself : other = kind
      · have neither : d.kindOf? identifier ≠ some kind := by
          rw [Ne, h.inverse, unregistered]
          exact nofun
        simp only [same, itself, if_true, if_false, Option.some.injEq, neither, false_iff]
        exact fun equal => same equal.symm
      · simp only [same, itself, if_false]
        exact h.inverse identifier other
  · intro other identifier given
    rw [identifierOf?_file] at given
    by_cases itself : other = kind
    · rw [if_pos itself] at given
      exact ⟨k, itself ▸ known, Option.some.inj given⟩
    · rw [if_neg itself] at given
      exact h.own other identifier given

theorem move (h : d.Consistent) (moves : d.Moves d') : d'.Consistent := by
  cases moves with
  | define k => exact h.define k
  | file known free => exact h.file known free
  | stay => exact h

theorem after (h : d.Consistent) (history : List Action) : (d.after history).Consistent := by
  induction history generalizing d with
  | nil => exact h
  | cons action rest ih => exact ih (h.move (d.moves_step action))

end Consistent

theorem Moves.keeps (moves : d.Moves d') {identifier : String}
    (found : d.kindOf? identifier = some kind) : d'.kindOf? identifier = some kind := by
  cases moves with
  | define k => exact found
  | @file other k known free =>
      have apart : identifier ≠ k.identifier := by
        rintro rfl
        rw [free] at found
        cases found
      rw [kindOf?_file, if_neg apart]
      exact found
  | stay => exact found

end Transceiver.Directory
