import Transceiver.Proofs.Talking

/-! Two lines side by side. Where a port does not let the host see a difference between two states, a
dialogue goes the same way from both. A quiet bench shows a host its radio and nothing else. -/
namespace Transceiver

section
variable {σ α : Type}

/-- From related states the port brings the same, and the states stay related. -/
structure Port.Conceals (port : Port σ) (R : σ → σ → Prop) : Prop where
  read : ∀ {s t}, R s t → (port.read s).1 = (port.read t).1 ∧ R (port.read s).2 (port.read t).2
  write : ∀ {s t} (bytes : List UInt8), R s t →
    (port.write bytes s).1 = (port.write bytes t).1 ∧ R (port.write bytes s).2 (port.write bytes t).2

/-- The same came of both, in the same way, and the states are related. -/
structure Outcome.Matches (R : σ → σ → Prop) (o o' : Outcome σ α) : Prop where
  result : o.result = o'.result
  history : o.history = o'.history
  port : R o.port o'.port

theorem Outcome.Matches.after {R : σ → σ → Prop} {o o' : Outcome σ α} (h : o.Matches R o')
    {earlier earlier' : List Event} (same : earlier = earlier') :
    (o.after earlier).Matches R (o'.after earlier') := by
  subst same
  exact ⟨h.result, congrArg (earlier ++ ·) h.history, h.port⟩

namespace Port.Conceals

variable {port : Port σ} {R : σ → σ → Prop} (conceals : port.Conceals R) {s t : σ}

include conceals

theorem reads {s' : σ} {reading : Reading} (h : R s t) (read : port.read s = (reading, s')) :
    ∃ t', port.read t = (reading, t') ∧ R s' t' := by
  obtain ⟨same, after⟩ := conceals.read h
  rw [read] at same after
  exact ⟨(port.read t).2, Prod.ext same.symm rfl, after⟩

theorem writes {s' : σ} {bytes : List UInt8} {result : Except WriteFault Unit} (h : R s t)
    (written : port.write bytes s = (result, s')) :
    ∃ t', port.write bytes t = (result, t') ∧ R s' t' := by
  obtain ⟨same, after⟩ := conceals.write bytes h
  rw [written] at same after
  exact ⟨(port.write bytes t).2, Prod.ext same.symm rfl, after⟩

theorem collects {patience : Int} {command : String} {elapsed : Nat} {text : String} {s' : σ}
    {result : Except Fault String} (h : R s t)
    (collected : port.collect patience command elapsed text s = (result, s')) :
    ∃ t', port.collect patience command elapsed text t = (result, t') ∧ R s' t' := by
  fun_induction port.collect patience command elapsed text s generalizing t with
  | case1 elapsed text s why s' reading =>
      cases collected
      obtain ⟨t', brought, after⟩ := conceals.reads h reading
      exact ⟨t', collect_failed brought .., after⟩
  | case2 elapsed text s bytes ticks s' reading undecodable =>
      cases collected
      obtain ⟨t', brought, after⟩ := conceals.reads h reading
      exact ⟨t', collect_undecodable brought undecodable .., after⟩
  | case3 elapsed text s bytes ticks s' reading more decoded late =>
      cases collected
      obtain ⟨t', brought, after⟩ := conceals.reads h reading
      exact ⟨t', by rw [collect_arrived brought decoded, if_pos late], after⟩
  | case4 elapsed text s bytes ticks s' reading more decoded intime ended =>
      cases collected
      obtain ⟨t', brought, after⟩ := conceals.reads h reading
      exact ⟨t', by rw [collect_arrived brought decoded, if_neg intime, if_pos ended], after⟩
  | case5 elapsed text s bytes ticks s' reading more decoded intime unended ih =>
      obtain ⟨t', brought, after⟩ := conceals.reads h reading
      obtain ⟨t'', onward, after'⟩ := ih after collected
      exact ⟨t'', by rw [collect_arrived brought decoded, if_neg intime, if_neg unended, onward], after'⟩

theorem attempt (h : R s t) (patience : Int) (command : String) :
    (port.attempt patience command s).Matches R (port.attempt patience command t) := by
  unfold Port.attempt
  cases whole : Text.CodePage.encode (command ++ terminator.toString) with
  | error u =>
      simp only [whole]
      exact ⟨rfl, rfl, h⟩
  | ok bytes =>
      obtain ⟨result, s', written⟩ : ∃ result s', port.write bytes s = (result, s') := ⟨_, _, rfl⟩
      obtain ⟨t', written', after⟩ := conceals.writes h written
      cases result with
      | error why =>
          simp only [whole, written, written']
          exact ⟨rfl, rfl, after⟩
      | ok sent =>
          obtain ⟨collected, s'', came⟩ : ∃ collected s'',
              port.collect patience command 0 "" s' = (collected, s'') := ⟨_, _, rfl⟩
          obtain ⟨t'', came', after'⟩ := conceals.collects after came
          simp only [whole, written, written', came, came']
          cases collected <;> exact ⟨rfl, rfl, after'⟩

theorem attempts (h : R s t) (link : Link) (command : String) (repetition left : Nat) :
    (link.attempts port command repetition left s).Matches R
      (link.attempts port command repetition left t) := by
  have first := fun {s t : σ} (h : R s t) => conceals.attempt h link.patience command
  induction left generalizing repetition s t with
  | zero => exact first h
  | succ left ih =>
      have here := first h
      unfold Link.attempts
      dsimp only
      rw [here.result]
      split
      · split
        · exact ⟨rfl, here.history, here.port⟩
        · refine (ih here.port (repetition + 1)).after ?_
          rw [here.history]
      · exact here

theorem exchange (h : R s t) (link : Link) (command : String) :
    (link.exchange port command s).Matches R (link.exchange port command t) := by
  have last := conceals.attempts h link command 1 link.retries.toNat
  exact ⟨congrArg (·.bind (Link.accepted command)) last.result, last.history, last.port⟩

/-- What a port conceals makes no difference to a dialogue. -/
theorem run (h : R s t) (link : Link) (d : Dialogue α) :
    (d.run link port s).Matches R (d.run link port t) := by
  induction d generalizing s t with
  | done value => exact ⟨rfl, rfl, h⟩
  | fail why => exact ⟨rfl, rfl, h⟩
  | note record rest ih => exact (ih h).after rfl
  | send command rest ih =>
      have here := conceals.exchange h link command.line
      unfold Dialogue.run
      dsimp only
      rw [here.result]
      exact (ih _ here.port).after here.history

end Port.Conceals

end

namespace Simulation.Bench

/-- Benches that are heard and spoilt by no fault, and that differ in nothing that shows in what they
bring. -/
structure Level (s t : Bench) : Prop where
  heard : s.onlyRate.any (!s.rate.same ·) = false ∧ t.onlyRate.any (!t.rate.same ·) = false
  unspoilt : (∀ entry ∈ s.faults, entry.2 = []) ∧ ∀ entry ∈ t.faults, entry.2 = []
  same : ∃ faults onlyRate rate commands, t = { s with faults, onlyRate, rate, commands }

namespace Level

variable {s t : Bench} (level : s.Level t)

include level

theorem radio : s.radio = t.radio := by
  obtain ⟨-, -, faults, onlyRate, rate, commands, rfl⟩ := level
  rfl

theorem read : s.read.1 = t.read.1 ∧ s.read.2.Level t.read.2 := by
  obtain ⟨heard, unspoilt, faults, onlyRate, rate, commands, rfl⟩ := level
  unfold Bench.read
  dsimp only
  split
  · exact ⟨rfl, heard, unspoilt, _, _, _, _, rfl⟩
  · exact ⟨rfl, heard, unspoilt, _, _, _, _, rfl⟩

theorem queueReply (reply : String) :
    (s.queueReply reply).1 = (t.queueReply reply).1 ∧
      (s.queueReply reply).2.Level (t.queueReply reply).2 := by
  obtain ⟨heard, unspoilt, faults, onlyRate, rate, commands, rfl⟩ := level
  unfold Bench.queueReply
  cases Text.CodePage.encode reply with
  | ok bytes => exact ⟨rfl, heard, unspoilt, _, _, _, _, rfl⟩
  | error u => exact ⟨rfl, heard, unspoilt, _, _, _, _, rfl⟩

theorem takeCommand (command : String) :
    (s.takeCommand command).1 = (t.takeCommand command).1 ∧
      (s.takeCommand command).2.Level (t.takeCommand command).2 := by
  obtain ⟨heard, unspoilt, faults, onlyRate, rate, commands, rfl⟩ := level
  unfold Bench.takeCommand
  dsimp only [record]
  cases s.replies.lookup command with
  | some reply =>
      dsimp only
      refine queueReply ?_ reply
      exact ⟨heard, unspoilt, _, _, _, _, rfl⟩
  | none =>
      dsimp only
      refine queueReply ?_ _
      exact ⟨heard, unspoilt, _, _, _, _, rfl⟩

theorem takePieces (pieces : List (List UInt8)) :
    (Bench.takePieces pieces s).1 = (Bench.takePieces pieces t).1 ∧
      (Bench.takePieces pieces s).2.Level (Bench.takePieces pieces t).2 := by
  induction pieces generalizing s t with
  | nil => exact ⟨rfl, level⟩
  | cons piece rest ih =>
      cases rest with
      | nil =>
          obtain ⟨heard, unspoilt, faults, onlyRate, rate, commands, rfl⟩ := level
          exact ⟨rfl, heard, unspoilt, _, _, _, _, rfl⟩
      | cons next rest =>
          obtain ⟨result, after⟩ := level.takeCommand (commandText piece)
          unfold Bench.takePieces
          cases taken : s.takeCommand (commandText piece) with
          | mk answered s' =>
              cases taken' : t.takeCommand (commandText piece) with
              | mk answered' t' =>
                  rw [taken, taken'] at result after
                  dsimp only at result after
                  subst result
                  cases answered with
                  | ok done => exact ih after
                  | error why =>
                      obtain ⟨heard, unspoilt, faults, onlyRate, rate, commands, rfl⟩ := after
                      exact ⟨rfl, heard, unspoilt, _, _, _, _, rfl⟩

theorem write (bytes : List UInt8) :
    (s.write bytes).1 = (t.write bytes).1 ∧ (s.write bytes).2.Level (t.write bytes).2 := by
  have taken : ∀ {u : Bench}, u.onlyRate.any (!u.rate.same ·) = false →
      (∀ entry ∈ u.faults, entry.2 = []) → u.write bytes = u.takeBytes bytes := by
    intro u heard unspoilt
    unfold Bench.write
    simp only [heard, Bool.false_eq_true, if_false, takeFault_empty unspoilt]
  rw [taken level.heard.1 level.unspoilt.1, taken level.heard.2 level.unspoilt.2]
  have waiting : t.unfinished = s.unfinished := by
    obtain ⟨-, -, faults, onlyRate, rate, commands, rfl⟩ := level
    rfl
  unfold takeBytes
  rw [waiting]
  exact level.takePieces _

end Level

theorem conceals : port.Conceals Level := ⟨Level.read, fun bytes level => level.write bytes⟩

end Simulation.Bench

end Transceiver
