import Transceiver.Proofs.Drift
import Transceiver.Proofs.Quoting
import Transceiver.Proofs.Selecting

/-! Parting. The session remembers which band transmits and the radio knows it; three kinds of requests
move one of the two alone. Until one of them succeeds the two match, and no drift is noted. -/
namespace Transceiver

open Dialogue Record Simulation

namespace Simulation.Radio

/-- The radio transmits on the band of an open session. -/
def Matches (radio : Radio) (session : Option Session) : Prop :=
  ∀ s, session = some s → radio.transmit = (s.transmit.index.val : Int)

theorem SameControl.matches {radio radio' : Radio} {session : Option Session}
    (same : radio.SameControl radio') (h : radio.Matches session) : radio'.Matches session := by
  intro s opened
  rw [← h s opened]
  exact same.2

theorem Matches.transmit_eq {radio : Radio} {s : Session} (h : radio.Matches (some s)) {band : Band}
    (controls : radio.Controls band) : s.transmit = band := by
  apply Band.index_inj.mp
  apply Fin.ext
  exact Int.ofNat_inj.mp ((h s rfl).symm.trans controls.2)

theorem Controls.matches {radio : Radio} {s : Session} (h : radio.Controls s.transmit) :
    radio.Matches (some s) := by
  rintro _ ⟨⟩
  exact h.2

end Simulation.Radio

/-- Requests that move the session or the radio alone: selecting another VFO while split is on, turning
split off with another VFO to transmit, and starting a session while the radio is on another band. -/
inductive Request.Parts (session : Option Session) (radio : Radio) : Request → Prop
  | apart {s : Session} {vfo band} : session = some s → s.split = true → Selects vfo band →
      band ≠ s.transmit → Parts session radio (.selectVfo vfo)
  | off {s : Session} {on band} : session = some s → on.truth = false → band ≠ s.transmit →
      Parts session radio (.setSplit on (.text band.vfo))
  | again : radio.transmit ≠ 0 → Parts session radio .start

theorem Request.May.calm_of {request : Request} {command : Command} (may : request.May command)
    (other : request.setsSession = false ∨ request = .selectVfo (.text "MEM")) : command.Calm := by
  rcases may.calm with calm | ⟨band, -, ⟨vfo, rfl, selects⟩ | ⟨on, vfo, rfl⟩⟩
  · exact calm
  · rcases other with kept | memory
    · cases kept
    · cases memory
      rcases selects with named | ⟨mode, -⟩
      · cases band <;> exact absurd (Value.text.inj named) (by decide)
      · exact absurd (Value.text.inj mode) (by decide)
  · rcases other with kept | memory
    · cases kept
    · cases memory

namespace Rig

/-- What a request that succeeds makes of a session and a radio that match, unless it parts them. -/
theorem matches_of_follows {policy : Policy} {request : Request} {turns : List Turn}
    {before after : Option Session} {radio radio' : Radio}
    (h : Session.Follows policy request turns before after) (serves : radio.Serves turns radio')
    (may : ∀ turn ∈ turns, request.May turn.command) (joined : radio.Joined)
    (together : radio.Matches before) (unparted : ¬ request.Parts before radio) :
    radio'.Matches after := by
  obtain ⟨band, controls⟩ := joined
  have calm : (request.setsSession = false ∨ request = .selectVfo (.text "MEM")) →
      radio.SameControl radio' := fun other =>
    serves.calm fun turn member => (may turn member).calm_of other
  have asking : ∀ {turn control}, turns = [turn] → Turn.Tells turn control →
      radio.SameControl radio' := by
    rintro turn control rfl tells
    refine serves.calm fun other member => ?_
    rw [List.mem_singleton.mp member, tells.1]
    exact Command.calm_readControl
  cases h with
  | started =>
      cases serves
      rintro _ ⟨⟩
      exact Decidable.not_not.mp fun moved => unparted (.again moved)
  | finished => nofun
  | selected selects confirms apart => exact (serves.given confirms.1).1.matches
  | @selectedApart vfo chosen asked turn s selects confirms apart =>
      obtain rfl : s.transmit = chosen :=
        (Decidable.not_not.mp fun other => unparted (.apart rfl apart selects other)).symm
      exact (serves.given confirms.1).1.matches
  | remembered => exact (calm (.inr rfl)).matches together
  | splitOn yes transmits confirms => exact (serves.given confirms.1).1.matches
  | @splitOff on vfo chosen asked turn s no transmits confirms =>
      have same : s.transmit = chosen := by
        rcases transmits with ⟨rfl, -⟩ | ⟨-, asking, control, rfl, tells, rfl⟩
        · exact (Decidable.not_not.mp fun other => unparted (.off rfl no other)).symm
        · obtain ⟨between, first, -⟩ := serves.append
          rw [first.told controls tells]
          exact together.transmit_eq controls
      apply Radio.Controls.matches
      change radio'.Controls s.transmit
      rw [same]
      exact (serves.given confirms.1).1
  | agreed tells kept => exact (asking rfl tells).matches together
  -- The radio tells the band that the session has, so there is none to adopt.
  | @adopted turn control s tells adopts differ =>
      rw [serves.told controls tells] at differ
      exact absurd (together.transmit_eq controls).symm differ
  | untouched other => exact (calm (.inl other)).matches together

/-- Some request of a run succeeds and parts the session and the radio. -/
def Parted (link : Link) (r : Rig) : List Request → Bench → Prop
  | [], _ => False
  | request :: rest, s =>
    let (outcome, r') := r.carryOut link Bench.port request s
    (request.Parts r.session s.radio ∧ ∃ answer, outcome.result = .ok answer) ∨
      r'.Parted link rest outcome.port

section
variable {link : Link} {r : Rig}

theorem unparted_of_none {requests : List Request}
    (together : ∀ request ∈ requests, ∀ session radio, ¬ request.Parts session radio) (r : Rig)
    (s : Bench) : ¬ r.Parted link requests s := by
  induction requests generalizing r s with
  | nil => exact id
  | cons request rest ih =>
      rintro (⟨parts, -⟩ | later)
      · exact together request List.mem_cons_self _ _ parts
      · exact ih (fun other member => together other (List.mem_cons_of_mem request member)) _ _ later

/-- Over a quiet line a request is carried out with the radio itself. -/
theorem serves_carryOut (patient : 0 ≤ link.patience) {request : Request} (plain : request.Plain)
    {s : Bench} (quiet : s.Quiet) (clear : s.radio.Clear) :
    s.radio.Serves (r.turns link Bench.port request s)
        (r.carryOut link Bench.port request s).1.port.radio ∧
      (r.carryOut link Bench.port request s).1.port.Quiet ∧
      (r.carryOut link Bench.port request s).1.port.radio.Clear := by
  rw [carryOut_port]
  exact serves_run patient
    ((r.asks_perform request).weaken (fun _ may => may.unended plain) fun _ _ => trivial) quiet clear

theorem joined_carryOut (patient : 0 ≤ link.patience) {request : Request} (plain : request.Plain)
    {s : Bench} (quiet : s.Quiet) (clear : s.radio.Clear) (joined : s.radio.Joined) :
    (r.carryOut link Bench.port request s).1.port.radio.Joined := by
  obtain ⟨serves, -, -⟩ := serves_carryOut (r := r) patient plain quiet clear
  have said := conversation_run link Bench.port (r.perform request) s
  exact serves.joined ((r.asks_perform request).conversation said).1 joined

/-- A request leaves a session and a radio that match as they are, or moves both. -/
theorem matches_carryOut (patient : 0 ≤ link.patience) {request : Request} (plain : request.Plain)
    {s : Bench} (quiet : s.Quiet) (clear : s.radio.Clear) (joined : s.radio.Joined)
    (together : s.radio.Matches r.session)
    (unparted : ¬ (request.Parts r.session s.radio ∧
      ∃ answer, (r.carryOut link Bench.port request s).1.result = .ok answer)) :
    (r.carryOut link Bench.port request s).1.port.radio.Matches
      (r.carryOut link Bench.port request s).2.session := by
  obtain ⟨serves, -, -⟩ := serves_carryOut (r := r) patient plain quiet clear
  obtain ⟨succeeds, fails⟩ := carryOut_follows link Bench.port r request s
  have said := conversation_run link Bench.port (r.perform request) s
  cases came : (r.carryOut link Bench.port request s).1.result with
  | ok answer =>
      have may := ((r.asks_perform request).conversation said).1
      refine matches_of_follows (succeeds answer came).2 serves may joined together fun parts => ?_
      exact unparted ⟨parts, answer, came⟩
  | error why =>
      rw [run_of_carryOut_error came] at said
      rw [fails why came]
      exact (control_of_error said serves).matches together

theorem quiet_portAfter (patient : 0 ≤ link.patience) {requests : List Request}
    (plain : ∀ request ∈ requests, request.Plain) {s : Bench} (quiet : s.Quiet)
    (clear : s.radio.Clear) :
    (r.portAfter link Bench.port requests s).Quiet ∧
      (r.portAfter link Bench.port requests s).radio.Clear := by
  induction requests generalizing r s with
  | nil => exact ⟨quiet, clear⟩
  | cons request rest ih =>
      obtain ⟨-, quiet', clear'⟩ :=
        serves_carryOut (r := r) patient (plain request List.mem_cons_self) quiet clear
      exact ih (fun other member => plain other (List.mem_cons_of_mem request member)) quiet' clear'

/-- However a rig was used, one band of the radio has both control and transmission. -/
theorem joined_portAfter (patient : 0 ≤ link.patience) {requests : List Request}
    (plain : ∀ request ∈ requests, request.Plain) {s : Bench} (quiet : s.Quiet)
    (clear : s.radio.Clear) (joined : s.radio.Joined) :
    (r.portAfter link Bench.port requests s).radio.Joined := by
  induction requests generalizing r s with
  | nil => exact joined
  | cons request rest ih =>
      have own := plain request List.mem_cons_self
      obtain ⟨-, quiet', clear'⟩ := serves_carryOut (r := r) patient own quiet clear
      exact ih (fun other member => plain other (List.mem_cons_of_mem request member)) quiet' clear'
        (joined_carryOut patient own quiet clear joined)

theorem matches_run (patient : 0 ≤ link.patience) {requests : List Request}
    (plain : ∀ request ∈ requests, request.Plain) {s : Bench} (quiet : s.Quiet)
    (clear : s.radio.Clear) (joined : s.radio.Joined) (together : s.radio.Matches r.session)
    (unparted : ¬ r.Parted link requests s) :
    (r.portAfter link Bench.port requests s).radio.Matches
      (r.rigAfter link Bench.port requests s).session := by
  induction requests generalizing r s with
  | nil => exact together
  | cons request rest ih =>
      have own := plain request List.mem_cons_self
      obtain ⟨-, quiet', clear'⟩ := serves_carryOut (r := r) patient own quiet clear
      have together' := matches_carryOut patient own quiet clear joined together fun parts =>
        unparted (.inl parts)
      exact ih (fun other member => plain other (List.mem_cons_of_mem request member)) quiet' clear'
        (joined_carryOut patient own quiet clear joined) together' fun parts => unparted (.inr parts)

theorem told_of_bands (patient : 0 ≤ link.patience) {s : Bench} (quiet : s.Quiet) {told : BandControl}
    (control : s.radio.control = (told.control.index.val : Int))
    (transmit : s.radio.transmit = (told.transmit.index.val : Int)) :
    (link.exchange Bench.port "BC" s).result.bind BandControl.parse = .ok told := by
  obtain ⟨result, -⟩ := (Radio.speaks_readControl control transmit).run patient quiet rfl
  rwa [readControl_eq, run_inquiry_result] at result

theorem told_of_controls (patient : 0 ≤ link.patience) {s : Bench} (quiet : s.Quiet) {band : Band}
    (controls : s.radio.Controls band) :
    (link.exchange Bench.port "BC" s).result.bind BandControl.parse = .ok ⟨band, band⟩ :=
  told_of_bands patient quiet controls.1 controls.2

theorem undrifted_of_matches (patient : 0 ≤ link.patience) {s : Bench} (quiet : s.Quiet)
    (joined : s.radio.Joined) (together : s.radio.Matches r.session) (reported expected : Band) :
    driftNote reported expected ∉ (r.carryOut link Bench.port .split s).1.log := by
  obtain ⟨band, controls⟩ := joined
  refine undrifted_of_told (fun session control opened told => ?_) reported expected
  rw [told_of_controls patient quiet controls] at told
  rw [← Except.ok.inj told]
  rw [opened] at together
  exact (together.transmit_eq controls).symm

theorem drifted_of_controls (patient : 0 ≤ link.patience) {s : Bench} (quiet : s.Quiet) {band : Band}
    (controls : s.radio.Controls band) {session : Session} (opened : r.session = some session)
    (apart : band ≠ session.transmit) :
    driftNote band session.transmit ∈ (r.carryOut link Bench.port .split s).1.log := by
  rw [carryOut_split_log link Bench.port opened, told_of_controls patient quiet controls]
  dsimp only [splitLog]
  rw [if_neg apart]
  exact List.mem_append_right _ List.mem_cons_self

end

/-- A rig is opened over a quiet line to a radio that is on the first band. From then on, and from
every moment on at which the radio transmits on the band of the session, no drift is noted until a
request parts the two: selecting the other VFO while split is on, turning split off with the other VFO
to transmit, or starting a session again while the radio is on the second band. All the while one band
of the radio has both control and transmission. -/
theorem undrifted_until_parted (link : Link) (policy : Policy) {start : Bench} (quiet : start.Quiet)
    (clear : start.radio.Clear) (first : start.radio.control = 0 ∧ start.radio.transmit = 0)
    (earlier later : List Request) (plain : ∀ request ∈ earlier ++ later, request.Plain) :
    let opened := (closed policy).opened
    let r := opened.rigAfter link Bench.port earlier start
    let s := opened.portAfter link Bench.port earlier start
    (earlier = [] ∨ s.radio.Matches r.session) → ¬ r.Parted link later s →
      let r' := r.rigAfter link Bench.port later s
      let s' := r.portAfter link Bench.port later s
      (0 ≤ link.patience → s'.radio.Joined ∧ s'.radio.Matches r'.session) ∧
        ∀ reported expected,
          driftNote reported expected ∉ (r'.carryOut link Bench.port .split s').1.log := by
  intro opened r s joined unparted
  have plainEarlier : ∀ request ∈ earlier, request.Plain := fun request member =>
    plain request (List.mem_append_left later member)
  have plainLater : ∀ request ∈ later, request.Plain := fun request member =>
    plain request (List.mem_append_right earlier member)
  have together : s.radio.Matches r.session := by
    rcases joined with rfl | together
    · rintro _ ⟨⟩
      exact first.2
    · exact together
  by_cases patient : 0 ≤ link.patience
  · obtain ⟨quiet', clear'⟩ := quiet_portAfter (r := opened) patient plainEarlier quiet clear
    obtain ⟨quiet'', -⟩ := quiet_portAfter (r := r) patient plainLater quiet' clear'
    have one : s.radio.Joined :=
      joined_portAfter (r := opened) patient plainEarlier quiet clear ⟨.a, first⟩
    have still := matches_run patient plainLater quiet' clear' one together unparted
    have one' := joined_portAfter (r := r) patient plainLater quiet' clear' one
    exact ⟨fun _ => ⟨one', still⟩, undrifted_of_matches patient quiet'' one' still⟩
  · refine ⟨fun patient' => absurd patient' patient, fun reported expected => ?_⟩
    refine undrifted_of_told (fun session control _ told => ?_) reported expected
    obtain ⟨reply, came, -⟩ := bind_eq_ok.mp told
    exact absurd came (exchange_impatient (by omega) _ _ _ reply)

theorem undrifted_after_splitting :
    let link : Link := ⟨8, 3, 3⟩
    let requests : List Request := [.setSplit (.bool true) (.text "VFOB"), .selectedVfo]
    let r := (closed .adopt).opened.rigAfter link Bench.port requests .initial
    let s := (closed .adopt).opened.portAfter link Bench.port requests .initial
    (s.radio.Joined ∧ s.radio.Matches r.session) ∧
      driftNote .b .a ∉ (r.carryOut link Bench.port .split s).1.log := by
  intro link requests r s
  have clear : Radio.initial.Clear := by
    refine ⟨nofun, nofun, fun band => ?_⟩
    cases band <;> decide
  have plain : ∀ request ∈ requests, request.Plain := by
    simp [requests, Request.Plain]
  have together : ∀ request ∈ requests, ∀ session radio, ¬ request.Parts session radio := by
    intro request member session radio parts
    cases parts with
    | apart opened split selects other => simp [requests] at member
    | off opened no other =>
        simp only [requests, List.mem_cons, Request.setSplit.injEq, reduceCtorEq, List.not_mem_nil,
          or_self, or_false] at member
        rw [member.1] at no
        cases no
    | again moved => simp [requests] at member
  have result := undrifted_until_parted link .adopt (Bench.quiet_ofRadio .initial) clear ⟨rfl, rfl⟩ []
    requests plain (.inl rfl) (unparted_of_none together _ _)
  exact ⟨result.1 (by decide), result.2 .b .a⟩

/-- Requests that succeed one after the other, each held with the radio as the one before left it. -/
inductive TalksThrough : Rig → Radio → List Request → Rig → Radio → Prop
  | done (r radio) : TalksThrough r radio [] r radio
  | request {r r' r'' : Rig} {radio radio' radio'' request rest answer} :
      (r.perform request).Talks radio (.ok (answer, r')) radio' →
      TalksThrough r' radio' rest r'' radio'' → TalksThrough r radio (request :: rest) r'' radio''

theorem TalksThrough.run {link : Link} (patient : 0 ≤ link.patience) {r r' : Rig}
    {radio radio' : Radio} {requests : List Request} (h : TalksThrough r radio requests r' radio')
    {s : Bench} (quiet : s.Quiet) (same : s.radio = radio) :
    r.rigAfter link Bench.port requests s = r' ∧
      (r.portAfter link Bench.port requests s).radio = radio' ∧
      (r.portAfter link Bench.port requests s).Quiet := by
  induction h generalizing s with
  | done r radio => exact ⟨rfl, same, quiet⟩
  | @request r r' r'' radio radio' radio'' request rest answer talks later ih =>
      obtain ⟨result, left, quiet'⟩ := talks.run patient quiet same
      have next : (r.carryOut link Bench.port request s).2 = r' := by
        rw [carryOut_eq]
        unfold Outcome.withRig
        rw [result]
      rw [← carryOut_port] at left quiet'
      have after := ih quiet' left
      unfold rigAfter portAfter
      dsimp only
      rw [next]
      exact after

/-- Drift is noted after requests that left the radio on another band than the session. -/
theorem drifted_of_talksThrough {link : Link} (patient : 0 ≤ link.patience) {r r' : Rig}
    {radio radio' : Radio} {requests : List Request} (h : TalksThrough r radio requests r' radio')
    {band : Band} (controls : radio'.Controls band) (session : Session)
    (opened : r'.session = some session) (apart : band ≠ session.transmit) :
    driftNote band session.transmit ∈
      ((r.rigAfter link Bench.port requests (.ofRadio radio)).carryOut link Bench.port .split
        (r.portAfter link Bench.port requests (.ofRadio radio))).1.log := by
  obtain ⟨rig, left, quiet⟩ := h.run patient (Bench.quiet_ofRadio radio) rfl
  rw [rig]
  exact drifted_of_controls patient quiet (left ▸ controls) opened apart

theorem talks_start (r : Rig) (radio : Radio) :
    (r.perform .start).Talks radio (.ok (.nothing, r.opened)) radio :=
  .done _ _

/-- Each of the three kinds of requests alone leads to drift that nobody else caused. -/
theorem drift_of_own_making :
    let link : Link := ⟨8, 3, 3⟩
    let opened := (closed .warn).opened
    let drifts := fun (radio : Radio) (requests : List Request) (reported expected : Band) =>
      driftNote reported expected ∈
        ((opened.rigAfter link Bench.port requests (.ofRadio radio)).carryOut link Bench.port .split
          (opened.portAfter link Bench.port requests (.ofRadio radio))).1.log
    drifts (Radio.initial.store .b (.empty 999))
        [.setSplit (.bool true) (.text "VFOA"), .selectVfo (.text "VFOB")] .b .a ∧
      drifts .initial [.setSplit (.bool false) (.text "VFOB")] .b .a ∧
      drifts .initial [.setSplit (.bool true) (.text "VFOB"), .start] .b .a := by
  intro link opened drifts
  have patient : 0 ≤ link.patience := by decide
  refine ⟨?_, ?_, ?_⟩
  · have held : (Radio.initial.store .b (.empty 999)).Holds .b (.empty 999) :=
      Radio.holds_store _ rfl
    have through := TalksThrough.request (talks_setSplit (r := opened) rfl
        (Radio.initial.store .b (.empty 999)) (.bool true) .a)
      (.request (talks_selectVfo rfl held) (.done _ _))
    exact drifted_of_talksThrough patient through ⟨rfl, rfl⟩ (.splitOn .a) rfl (by decide)
  · have through := TalksThrough.request
      (talks_setSplit (r := opened) rfl .initial (.bool false) .b) (.done _ _)
    exact drifted_of_talksThrough patient through ⟨rfl, rfl⟩ Session.initial.splitOff rfl
      (by decide)
  · have through := TalksThrough.request
      (talks_setSplit (r := opened) rfl .initial (.bool true) .b) (.request (talks_start _ _) (.done _ _))
    exact drifted_of_talksThrough patient through ⟨rfl, rfl⟩ .initial rfl (by decide)

end Rig

end Transceiver
