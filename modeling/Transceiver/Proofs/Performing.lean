import Transceiver.Rig.Request

/-! What the work of a request comes to. A request changes the rig last, if at all: nothing that could
fail follows the change. So one that fails leaves the rig as it was, and its dialogue may be looked at
with the rig as a part of the result. -/
namespace Transceiver

variable {σ α β : Type}

namespace Work

/-- The dialogue of work, which ends with the rig that is left. A fault ends it without one. -/
def dialogue : Work α → Rig → Dialogue (α × Rig)
  | .done value, r => .done (value, r)
  | .fail why, _ => .fail why
  | .note record rest, r => .note record (rest.dialogue r)
  | .send command rest, r => .send command fun answer => (rest answer).dialogue r
  | .look rest, r => (rest r).dialogue r
  | .change r rest, _ => rest.dialogue r

/-- Work that neither fails nor says anything to the radio. -/
def IsSure : Work α → Prop
  | .done _ => True
  | .fail _ => False
  | .note _ rest => rest.IsSure
  | .send _ _ => False
  | .look rest => ∀ r, (rest r).IsSure
  | .change _ rest => rest.IsSure

/-- Work in which nothing that could fail follows a change of the rig. -/
def ChangesLast : Work α → Prop
  | .done _ => True
  | .fail _ => True
  | .note _ rest => rest.ChangesLast
  | .send _ rest => ∀ answer, (rest answer).ChangesLast
  | .look rest => ∀ r, (rest r).ChangesLast
  | .change _ rest => rest.IsSure

theorem dialogue_bind (w : Work α) (next : α → Work β) (r : Rig) :
    (w >>= next).dialogue r = w.dialogue r >>= fun found => (next found.1).dialogue found.2 := by
  induction w generalizing r with
  | done => rfl
  | fail => rfl
  | note record rest ih => exact congrArg (Dialogue.note record) (ih r)
  | send command rest ih => exact congrArg (Dialogue.send command) (funext fun answer => ih answer r)
  | look rest ih => exact ih r r
  | change r' rest ih => exact ih r'

theorem dialogue_ofDialogue (d : Dialogue α) (r : Rig) :
    (ofDialogue d).dialogue r = d >>= fun value => pure (value, r) := by
  induction d with
  | done => rfl
  | fail => rfl
  | note record rest ih => exact congrArg (Dialogue.note record) ih
  | send command rest ih => exact congrArg (Dialogue.send command) (funext ih)

/-- A dialogue at the beginning of work leaves the rig alone. -/
theorem dialogue_lift_bind {d : Dialogue α} {next : α → Work β} {rest : α → Dialogue (β × Rig)} {r : Rig}
    (same : ∀ value, (next value).dialogue r = rest value) :
    (ofDialogue d >>= next).dialogue r = d >>= rest := by
  rw [dialogue_bind, dialogue_ofDialogue, LawfulMonad.bind_assoc]
  exact congrArg (d >>= ·) (funext same)

theorem IsSure.changesLast {w : Work α} (sure : w.IsSure) : w.ChangesLast := by
  induction w with
  | done => trivial
  | fail => trivial
  | note record rest ih => exact ih sure
  | send command rest => exact sure.elim
  | look rest ih => exact fun r => ih r (sure r)
  | change r rest => exact sure

theorem IsSure.bind {w : Work α} {next : α → Work β} (sure : w.IsSure) (then_ : ∀ a, (next a).IsSure) :
    (w >>= next).IsSure := by
  induction w with
  | done value => exact then_ value
  | fail => exact sure
  | note record rest ih => exact ih sure
  | send command rest => exact sure
  | look rest ih => exact fun r => ih r (sure r)
  | change r rest ih => exact ih sure

/-- What comes after a change of the rig has to be sure. -/
theorem ChangesLast.bind_sure {w : Work α} {next : α → Work β} (last : w.ChangesLast)
    (sure : ∀ a, (next a).IsSure) : (w >>= next).ChangesLast := by
  induction w with
  | done value => exact (sure value).changesLast
  | fail => trivial
  | note record rest ih => exact ih last
  | send command rest ih => exact fun answer => ih answer (last answer)
  | look rest ih => exact fun r => ih r (last r)
  | change r rest => exact IsSure.bind (w := rest) last sure

/-- A dialogue changes nothing, so that anything may follow it. -/
theorem changesLast_lift_bind (d : Dialogue α) {next : α → Work β} (last : ∀ a, (next a).ChangesLast) :
    (ofDialogue d >>= next).ChangesLast := by
  induction d with
  | done value => exact last value
  | fail => trivial
  | note record rest ih => exact ih
  | send command rest ih => exact ih

theorem changesLast_rig_bind {next : Rig → Work β} (last : ∀ r, (next r).ChangesLast) :
    (rig >>= next).ChangesLast := last

theorem changesLast_ofDialogue (d : Dialogue α) : (ofDialogue d).ChangesLast := by
  induction d with
  | done => trivial
  | fail => trivial
  | note record rest ih => exact ih
  | send command rest ih => exact ih

end Work

/-- An outcome and the rig that it ends with. Where it is a fault there is no such rig, and the given
one is taken. -/
def Outcome.withRig (o : Outcome σ (α × Rig)) (r : Rig) : Outcome σ α × Rig :=
  match o.result with
  | .ok (value, r) => ({ o with result := .ok value }, r)
  | .error why => ({ o with result := .error why }, r)

theorem Outcome.withRig_ok {o : Outcome σ (α × Rig)} {value : α} {r' : Rig}
    (came : o.result = .ok (value, r')) (r : Rig) : o.withRig r = ({ o with result := .ok value }, r') := by
  unfold withRig
  rw [came]

theorem Outcome.withRig_error {o : Outcome σ (α × Rig)} {why : Fault} (failed : o.result = .error why)
    (r : Rig) : o.withRig r = ({ o with result := .error why }, r) := by
  unfold withRig
  rw [failed]

@[simp] theorem Outcome.withRig_history (o : Outcome σ (α × Rig)) (r : Rig) :
    (o.withRig r).1.history = o.history := by
  unfold withRig
  split <;> rfl

@[simp] theorem Outcome.withRig_port (o : Outcome σ (α × Rig)) (r : Rig) :
    (o.withRig r).1.port = o.port := by
  unfold withRig
  split <;> rfl

theorem Outcome.withRig_after (o : Outcome σ (α × Rig)) (earlier : List Event) (r : Rig) :
    (o.after earlier).withRig r = ((o.withRig r).1.after earlier, (o.withRig r).2) := by
  rcases o with ⟨_ | _, _, _⟩ <;> rfl

namespace Work

variable {link : Link} {port : Port σ}

/-- Sure work always ends with the rig of its dialogue. -/
theorem IsSure.run {w : Work α} (sure : w.IsSure) (r other : Rig) (s : σ) :
    w.run link port r s = ((w.dialogue r).run link port s).withRig other := by
  induction w generalizing r s with
  | done => rfl
  | fail => exact sure.elim
  | note record rest ih =>
      rw [Work.run, ih sure]
      exact (Outcome.withRig_after _ _ other).symm
  | send command rest => exact sure.elim
  | look rest ih => exact ih r (sure r) r s
  | change r' rest ih => exact ih sure r' s

/-- Work that changes the rig last ends with the rig of its dialogue, or with a fault and the rig that
it began with. -/
theorem ChangesLast.run {w : Work α} (last : w.ChangesLast) (r : Rig) (s : σ) :
    w.run link port r s = ((w.dialogue r).run link port s).withRig r := by
  induction w generalizing s with
  | done => rfl
  | fail => rfl
  | note record rest ih =>
      rw [Work.run, ih last]
      exact (Outcome.withRig_after _ _ r).symm
  | send command rest ih =>
      rw [Work.run, ih _ (last _)]
      exact (Outcome.withRig_after _ _ r).symm
  | look rest ih => exact ih r (last r) s
  | change r' rest => exact IsSure.run last r' r s

end Work

namespace Rig

open Work Dialogue

/-- The dialogue of a request, which ends with the answer and the rig that is left. -/
def perform (r : Rig) (request : Request) : Dialogue (Answer × Rig) := (work request).dialogue r

theorem dialogue_answering (d : Rig → Dialogue Value) (r : Rig) :
    (answering d).dialogue r = do return (.value (← d r), r) :=
  dialogue_lift_bind fun _ => rfl

theorem dialogue_doing (d : Rig → Dialogue Unit) (r : Rig) :
    (doing d).dialogue r = do
      d r
      return (.nothing, r) :=
  dialogue_lift_bind fun _ => rfl

theorem dialogue_changing {w : Work Unit} {r : Rig} {d : Dialogue Rig}
    (same : w.dialogue r = do return ((), ← d)) :
    (changing w).dialogue r = do return (.nothing, ← d) := by
  refine (dialogue_bind w _ r).trans ?_
  rw [same, LawfulMonad.bind_assoc]
  rfl

/-- What is said to select a VFO, and the rig that it leads to. -/
def selecting (r : Rig) (vfo : Value) : Dialogue Rig := do
  say Level.debug ("set_vfo " ++ (← vfo.written).shown)
  let s ← r.openSession
  match ← SelectionChoice.ofValue vfo with
  | .named band =>
    selectBand band
    return { r with session := some (s.select band) }
  | .memory =>
    let band ← currentBand
    discard (writeTuning ⟨band, .memory⟩)
    return r

/-- What is said to turn split on or off, and the rig that it leads to. -/
def splitting (r : Rig) (split transmit : Value) : Dialogue Rig := do
  let s ← r.openSession
  let band ← transmitChoice transmit
  discard (writeControl ⟨band, band⟩)
  if split.truth then
    say Level.debug ("Split on, TX " ++ band.vfo ++ " RX " ++ band.other.vfo)
    return { r with session := some (.splitOn band) }
  else return { r with session := some s.splitOff }

/-- What is said to tell the split state, and the rig that it leads to. -/
def reconciling (r : Rig) : Dialogue (Bool × Band × Rig) := do
  let s ← r.openSession
  let band := (← readControl).transmit
  if band = s.transmit then return (s.split, s.transmit, r)
  say Level.warning ("The PTT band has been changed on the radio to " ++ band.vfo ++
    ", but the TX VFO is " ++ s.transmit.vfo)
  match r.policy with
  | .warn => return (s.split, s.transmit, r)
  | .adopt =>
    say Level.info ("Using " ++ band.vfo ++ " as the TX VFO")
    return (s.split, band, { r with session := some (s.adopt band) })

theorem dialogue_selectVfo (vfo : Value) (r : Rig) :
    (selectVfo vfo).dialogue r = do return ((), ← r.selecting vfo) := by
  unfold selecting
  simp only [LawfulMonad.bind_assoc]
  refine dialogue_lift_bind fun _ => dialogue_lift_bind fun _ => ?_
  refine dialogue_lift_bind fun s => dialogue_lift_bind fun choice => ?_
  cases choice with
  | named band =>
      simp only [LawfulMonad.bind_assoc]
      exact dialogue_lift_bind fun _ => rfl
  | memory =>
      simp only [LawfulMonad.bind_assoc]
      exact dialogue_lift_bind fun band => dialogue_ofDialogue _ r

theorem dialogue_setSplit (split transmit : Value) (r : Rig) :
    (setSplit split transmit).dialogue r = do return ((), ← r.splitting split transmit) := by
  unfold splitting
  simp only [LawfulMonad.bind_assoc]
  refine dialogue_lift_bind fun s => dialogue_lift_bind fun band => dialogue_lift_bind fun _ => ?_
  by_cases on : split.truth = true
  · simp only [on, if_true, LawfulMonad.bind_assoc]
    rfl
  · simp only [on, if_false, Bool.false_eq_true]
    rfl

theorem dialogue_readSplit (r : Rig) :
    readSplit.dialogue r = do
      let (split, band, r) ← r.reconciling
      return ((split, band), r) := by
  unfold reconciling
  simp only [LawfulMonad.bind_assoc]
  refine dialogue_lift_bind fun s => dialogue_lift_bind fun control => ?_
  by_cases agree : control.transmit = s.transmit
  · simp only [agree, if_true]
    rfl
  · simp only [agree, if_false, LawfulMonad.bind_assoc]
    refine congrArg (Dialogue.note _) ?_
    rcases r with ⟨_ | _, session⟩ <;> rfl

theorem changesLast_selectVfo (vfo : Value) : (selectVfo vfo).ChangesLast := by
  refine changesLast_lift_bind _ fun _ => changesLast_lift_bind _ fun _ => fun r => ?_
  refine changesLast_lift_bind _ fun s => changesLast_lift_bind _ fun choice => ?_
  cases choice with
  | named band => exact changesLast_lift_bind _ fun _ _ => trivial
  | memory => exact changesLast_lift_bind _ fun band => changesLast_ofDialogue _

theorem changesLast_setSplit (split transmit : Value) : (setSplit split transmit).ChangesLast := by
  refine fun r => changesLast_lift_bind _ fun s => changesLast_lift_bind _ fun band => ?_
  refine changesLast_lift_bind _ fun _ => ?_
  split
  · exact fun _ => trivial
  · exact fun _ => trivial

theorem changesLast_readSplit : readSplit.ChangesLast := by
  refine fun r => changesLast_lift_bind _ fun s => changesLast_lift_bind _ fun control => ?_
  dsimp only
  split
  · trivial
  · refine changesLast_lift_bind _ fun _ => changesLast_rig_bind fun r => ?_
    split
    · trivial
    · exact fun _ => trivial

/-- No request goes on with a command or can fail once it has changed the session. -/
theorem changesLast_work (request : Request) : (work request).ChangesLast := by
  cases request with
  | start | finish => exact fun _ => trivial
  | capabilities | name => trivial
  | selectVfo vfo => exact (changesLast_selectVfo vfo).bind_sure fun _ => trivial
  | setSplit split transmit => exact (changesLast_setSplit split transmit).bind_sure fun _ => trivial
  | split => exact changesLast_readSplit.bind_sure fun _ => trivial
  | channel => exact changesLast_lift_bind _ fun _ => trivial
  | fillMemory =>
      exact changesLast_lift_bind _ fun _ => changesLast_lift_bind _ fun _ => trivial
  | session | selectedVfo | frequency | splitFrequency | mode | get | memory | hearsSignal
  | channelOf => exact fun _ => changesLast_lift_bind _ fun _ => trivial
  | setFrequency | setSplitFrequency | setMode | set | setMemory | setChannel | setTransmit =>
      exact fun _ => changesLast_lift_bind _ fun _ => trivial

/-- A request comes to what its dialogue comes to, and leaves the rig as it was where that fails. -/
theorem carryOut_eq (link : Link) (port : Port σ) (r : Rig) (request : Request) (s : σ) :
    r.carryOut link port request s = ((r.perform request).run link port s).withRig r :=
  (changesLast_work request).run r s

variable {link : Link} {port : Port σ} {r : Rig} {request : Request} {s : σ}

theorem carryOut_ok {answer : Answer}
    (h : (r.carryOut link port request s).1.result = .ok answer) :
    ((r.perform request).run link port s).result =
      .ok (answer, (r.carryOut link port request s).2) := by
  rw [carryOut_eq] at h ⊢
  cases came : ((r.perform request).run link port s).result with
  | ok found =>
      rw [Outcome.withRig_ok came] at h ⊢
      cases h
      rfl
  | error why =>
      rw [Outcome.withRig_error came] at h
      cases h

/-- A request that fails leaves the rig as it was, whatever it came to before. -/
theorem carryOut_error {why : Fault} (h : (r.carryOut link port request s).1.result = .error why) :
    (r.carryOut link port request s).2 = r := by
  rw [carryOut_eq] at h ⊢
  cases came : ((r.perform request).run link port s).result with
  | ok found =>
      rw [Outcome.withRig_ok came] at h
      cases h
  | error other => rw [Outcome.withRig_error came]

/-- What a request comes to is what its dialogue comes to. -/
theorem carryOut_congr {τ : Type} {port' : Port τ} {request' : Request} {t : τ}
    (same : ((r.perform request).run link port s).result =
      ((r.perform request').run link port' t).result) :
    (r.carryOut link port request s).1.result = (r.carryOut link port' request' t).1.result ∧
      (r.carryOut link port request s).2 = (r.carryOut link port' request' t).2 := by
  rw [carryOut_eq, carryOut_eq]
  cases came : ((r.perform request').run link port' t).result with
  | ok found =>
      rw [Outcome.withRig_ok came, Outcome.withRig_ok (same.trans came)]
      exact ⟨rfl, rfl⟩
  | error why =>
      rw [Outcome.withRig_error came, Outcome.withRig_error (same.trans came)]
      exact ⟨rfl, rfl⟩

theorem perform_selectVfo (r : Rig) (vfo : Value) :
    r.perform (.selectVfo vfo) = do return (.nothing, ← r.selecting vfo) :=
  dialogue_changing (dialogue_selectVfo vfo r)

theorem perform_setSplit (r : Rig) (split transmit : Value) :
    r.perform (.setSplit split transmit) = do return (.nothing, ← r.splitting split transmit) :=
  dialogue_changing (dialogue_setSplit split transmit r)

theorem perform_split (r : Rig) :
    r.perform .split = do
      let (split, band, r) ← r.reconciling
      return (.value (.list [.bool split, .text band.vfo]), r) := by
  refine (dialogue_bind _ _ r).trans ?_
  rw [dialogue_readSplit, LawfulMonad.bind_assoc]
  rfl

theorem perform_selectedVfo (r : Rig) :
    r.perform .selectedVfo = do return (.value (.text (← selectedVfo)), r) := by
  refine (dialogue_answering _ r).trans ?_
  rw [LawfulMonad.bind_assoc]
  rfl

theorem perform_channelOf (r : Rig) (vfo : Value) :
    r.perform (.channelOf vfo) = do return (.value (.ofNat (← channelOf vfo)), r) := by
  refine (dialogue_answering _ r).trans ?_
  rw [LawfulMonad.bind_assoc]
  rfl

theorem perform_setMemory (r : Rig) (vfo number : Value) :
    r.perform (.setMemory vfo number) = do
      setMemory vfo number
      return (.nothing, r) :=
  dialogue_doing _ r

theorem perform_setChannel (r : Rig) (c : Channel) :
    r.perform (.setChannel c) = do
      setChannel c
      return (.nothing, r) :=
  dialogue_doing _ r

theorem perform_channel (r : Rig) (number : Value) :
    r.perform (.channel number) = do return (.channel (← getChannel number), r) :=
  dialogue_lift_bind fun _ => rfl

theorem perform_fillMemory (r : Rig) (number : Value) (row : Option Row) :
    r.perform (.fillMemory number row) = do
      let channel ← Record.namedChannel number
      return (.memory (← Dialogue.fillMemory channel row), r) :=
  dialogue_lift_bind fun _ => dialogue_lift_bind fun _ => rfl

end Rig

end Transceiver
