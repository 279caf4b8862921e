import Transceiver.Proofs.Permission

/-! Runs of a rig: requests carried out one after the other on one link and port, failed ones
included. Each call finds the rig and the port as the one before left them. -/
namespace Transceiver

/-- A request that was carried out, the port it found, and what came of it. -/
structure Call (σ : Type) where
  request : Request
  before : σ
  outcome : Outcome σ Answer

namespace Rig

variable {σ : Type}

def calls (link : Link) (port : Port σ) (r : Rig) : List Request → σ → List (Call σ)
  | [], _ => []
  | request :: rest, s =>
    let (outcome, r) := r.carryOut link port request s
    ⟨request, s, outcome⟩ :: r.calls link port rest outcome.port

def portAfter (link : Link) (port : Port σ) (r : Rig) : List Request → σ → σ
  | [], s => s
  | request :: rest, s =>
    let (outcome, r) := r.carryOut link port request s
    r.portAfter link port rest outcome.port

theorem mem_calls {link : Link} {port : Port σ} {r : Rig} {requests : List Request} {s : σ}
    {call : Call σ} (h : call ∈ r.calls link port requests s) :
    call.request ∈ requests ∧
      ∃ r' : Rig, call.outcome = (r'.carryOut link port call.request call.before).1 := by
  induction requests generalizing r s with
  | nil => cases h
  | cons request rest ih =>
      rcases List.mem_cons.mp h with rfl | later
      · exact ⟨List.mem_cons_self, r, rfl⟩
      · obtain ⟨member, carried⟩ := ih later
        exact ⟨List.mem_cons_of_mem request member, carried⟩

/-- What is written while a request is carried out is the line of a command that it may send. -/
theorem written_of_carryOut {link : Link} {port : Port σ} {r : Rig} {request : Request} {s : σ}
    {bytes : List UInt8} (h : bytes ∈ (r.carryOut link port request s).1.writes) :
    ∃ command, request.May command ∧ command.bytes = .ok bytes := by
  rw [carryOut_writes] at h
  obtain ⟨turn, member, spelled⟩ :=
    (transmitted_run link port (r.perform request) s).mem_bytes h
  have said := Dialogue.conversation_run link port (r.perform request) s
  exact ⟨turn.command, ((r.asks_perform request).conversation said).1 turn member, spelled⟩

end Rig

end Transceiver
