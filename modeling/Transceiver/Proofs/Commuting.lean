import Transceiver.Proofs.Agreement
import Transceiver.Proofs.Sessions

/-! Changes that commute. Two changes of VFOs that are stored in different channels, or that give
different fields, leave the same radio in either order. -/
namespace Transceiver

open Dialogue Record Simulation

/-- No field is given by both. -/
def MemoryUpdate.Apart (u v : MemoryUpdate) : Prop :=
  ∀ pair ∈ u.fields.zip v.fields, pair.1 = none ∨ pair.2 = none

/-- Of two values of which only one is given, the order does not matter. -/
theorem Overlaid.swap {given given' : Option Value} {old first both first' both' : Nat}
    (apart : given = none ∨ given' = none) (h : Overlaid given old first)
    (h' : Overlaid given' first both) (other : Overlaid given' old first')
    (other' : Overlaid given first' both') : both = both' := by
  rcases apart with rfl | rfl
  · obtain rfl := overlaid_none.mp h
    obtain rfl := overlaid_none.mp other'
    exact h'.unique other
  · obtain rfl := overlaid_none.mp h'
    obtain rfl := overlaid_none.mp other
    exact h.unique other'

theorem OverlaidAll.of_nil {given : List (Option Value)} {new : List Nat}
    (h : OverlaidAll given [] new) : new = [] := by
  cases given <;> cases new <;> first | rfl | cases h

theorem OverlaidAll.of_cons {given : List (Option Value)} {old : Nat} {olds new : List Nat}
    (h : OverlaidAll given (old :: olds) new) : ∃ value others n news, given = value :: others ∧
      new = n :: news ∧ Overlaid value old n ∧ OverlaidAll others olds news := by
  cases given with
  | nil => cases h
  | cons value others =>
      cases new with
      | nil => cases h
      | cons n news => exact ⟨value, others, n, news, rfl, rfl, h.1, h.2⟩

theorem OverlaidAll.swap {given given' : List (Option Value)} {old first both first' both' : List Nat}
    (apart : ∀ pair ∈ given.zip given', pair.1 = none ∨ pair.2 = none)
    (h : OverlaidAll given old first) (h' : OverlaidAll given' first both)
    (other : OverlaidAll given' old first') (other' : OverlaidAll given first' both') :
    both = both' := by
  induction old generalizing given given' first both first' both' with
  | nil =>
      obtain rfl := h.of_nil
      obtain rfl := other.of_nil
      rw [h'.of_nil, other'.of_nil]
  | cons old olds ih =>
      obtain ⟨value, others, n, news, rfl, rfl, here, there⟩ := h.of_cons
      obtain ⟨value', others', n', news', rfl, rfl, here', there'⟩ := other.of_cons
      obtain ⟨_, _, m, ms, ⟨⟩, rfl, last, rest⟩ := h'.of_cons
      obtain ⟨_, _, m', ms', ⟨⟩, rfl, last', rest'⟩ := other'.of_cons
      obtain ⟨first, later⟩ := List.forall_mem_cons.mp apart
      rw [Overlaid.swap first here last here' last', ih later there rest there' rest']

/-- Updates that give different fields can be laid over a record in either order. -/
theorem overlay_swap {u v : MemoryUpdate} (apart : u.Apart v)
    {old first both first' both' : MemoryRecord} (h : (old.toDraft.overlay u).check = .ok first)
    (h' : (first.toDraft.overlay v).check = .ok both)
    (other : (old.toDraft.overlay v).check = .ok first')
    (other' : (first'.toDraft.overlay u).check = .ok both') : both = both' := by
  obtain ⟨own, fields⟩ := check_overlay_iff.mp h
  obtain ⟨own', fields'⟩ := check_overlay_iff.mp h'
  obtain ⟨same, others⟩ := check_overlay_iff.mp other
  obtain ⟨same', others'⟩ := check_overlay_iff.mp other'
  have channel : both.channel = both'.channel := by rw [own', own, same', same]
  have front : ∀ r : MemoryRecord, r.values = r.channel.val :: r.values.tail := fun _ => rfl
  refine MemoryRecord.eq_of_values ?_
  rw [front both, front both', channel, fields.swap apart fields' others others']

namespace Simulation

theorem Table.insert_swap {key other : Int} (apart : key ≠ other) (text more : String)
    (entries : List (Int × String)) :
    insert other more (insert key text entries) = insert key text (insert other more entries) := by
  induction entries with
  | nil =>
      by_cases less : key < other
      · have greater : ¬ other < key := by omega
        simp [insert, less, greater, apart.symm]
      · have greater : other < key := by omega
        simp [insert, less, greater, apart]
  | cons entry rest ih =>
      obtain ⟨k, old⟩ := entry
      grind [insert]

theorem Table.put_swap (t : Table) {key other : Int} (apart : key ≠ other) (text more : String) :
    (t.put key text).put other more = (t.put other more).put key text :=
  congrArg Table.mk (Table.insert_swap apart text more t.entries)

theorem Band.channel_ne {band other : Band} (apart : band ≠ other) :
    (band.channel.val : Int) ≠ other.channel.val := by
  cases band <;> cases other <;> first | exact absurd rfl apart | decide

namespace Radio

theorem store_swap (r : Radio) {band other : Band} (apart : band ≠ other) (record record' : MemoryRecord) :
    (r.store band record).store other record' = (r.store other record').store band record := by
  simp only [store, Table.put_swap _ (Band.channel_ne apart)]

theorem Holds.store_other {r : Radio} {band other : Band} {old : MemoryRecord} (held : r.Holds other old)
    (apart : band ≠ other) (record : MemoryRecord) : (r.store band record).Holds other old := by
  obtain ⟨payload, stored, known⟩ := held
  refine ⟨payload, ?_, known⟩
  rw [store, Table.get?_put, if_neg (Band.channel_ne apart), stored]

end Radio

end Simulation

namespace Change

/-- The change does not set an offset that the grid moves out of its field. -/
def Fits : Change → Prop
  | .setting .offset v => ∀ n, v.int? = some n → n < 99997500
  | _ => True

/-- The change is made to such a VFO, once split has directed it, and has an update that fits. -/
structure Accepted (r : Rig) (change : Change) (vfo : Value) (choice : VfoChoice) (u : MemoryUpdate) :
    Prop where
  chosen : ∃ target, change.redirect r vfo = .ok target ∧ VfoChoice.ofValue target = .ok choice
  update : change.update = .ok u
  fits : change.Fits

/-- A frequency comes with its step, and the mode is a field of its own. -/
theorem apart_frequency_mode {direction : Direction} {hertz name : Value} {u v : MemoryUpdate}
    (frequency : (frequency direction hertz).update = .ok u) (mode : (mode name).update = .ok v) :
    u.Apart v := by
  obtain ⟨n, -, -, rfl⟩ := frequencyUpdate_eq_ok.mp frequency
  obtain ⟨m, -, rfl⟩ := modeUpdate_eq_ok.mp mode
  simp [MemoryUpdate.Apart, MemoryUpdate.fields]

namespace Accepted

variable {r : Rig} {change : Change} {vfo : Value} {choice : VfoChoice} {u : MemoryUpdate}
  (h : change.Accepted r vfo choice u)

include h

theorem exists_check (old : MemoryRecord) : ∃ new, (old.toDraft.overlay u).check = .ok new := by
  obtain ⟨new, edits⟩ := exists_edits h.update old fun v n same whole => by
    have below := h.fits
    rw [same] at below
    exact Frequency.snap_below (Int.natCast_nonneg n.val) (below n (Value.intBelow?_eq_some.mp whole))
  obtain ⟨u', update, fits⟩ := edits.check
  rw [h.update, Except.ok.injEq] at update
  exact ⟨new, update ▸ fits⟩

theorem talks {radio : Radio} {old new : MemoryRecord} (held : radio.Holds (choice.band radio) old)
    (fits : (old.toDraft.overlay u).check = .ok new) :
    (r.perform (change.request vfo)).Talks radio (.ok (.nothing, r))
      (radio.store (choice.band radio) new) := by
  obtain ⟨target, redirected, chosen⟩ := h.chosen
  rw [perform_request, prepared_eq_ok.mpr ⟨redirected, h.update⟩]
  exact Talks.bind (.done _ radio) (Talks.map (Rig.talks_changeVfo chosen held fits))

/-- Whatever the radio answers, nothing is stored but in the channel of the VFO. -/
theorem asks {band : Band} (named : choice = .named band) :
    (r.perform (change.request vfo)).Asks
      (fun command => ∀ record, command = .writeMemory record → record.channel = band.channel)
      fun _ => True := by
  obtain ⟨target, redirected, chosen⟩ := h.chosen
  have channel : Rig.channelOf target = pure band.channel := by
    unfold Rig.channelOf
    rw [chosen, named]
    rfl
  rw [perform_request, settled_eq (prepared_eq_ok.mpr ⟨redirected, h.update⟩)]
  refine Asks.seq ?_ fun _ => trivial
  rw [Rig.changeVfo, channel]
  refine Asks.discard (Rig.asks_changeMemory nofun ?_)
  rintro record own _ ⟨⟩
  exact own

end Accepted

theorem accepted_split {r : Rig} {session : Session} (opened : r.session = some session)
    (split : session.split = true) {hertz : Value} {u : MemoryUpdate}
    (accepted : frequencyUpdate hertz = .ok u) (vfo : Value) :
    (frequency .receiving hertz).Accepted r vfo (.named session.receive) u ∧
      (frequency .transmitting hertz).Accepted r vfo (.named session.transmit) u := by
  have named : ∀ band : Band, VfoChoice.ofValue (.text band.vfo) = .ok (.named band) := by
    intro band
    cases band <;> rfl
  refine ⟨⟨⟨_, redirect_opened opened vfo _, ?_⟩, accepted, trivial⟩,
    ⟨⟨_, redirect_opened opened vfo _, ?_⟩, accepted, trivial⟩⟩
  · rw [directedTo, split, if_pos rfl]
    exact named session.receive
  · rw [directedTo, split, if_pos rfl]
    exact named session.transmit

end Change

theorem VfoChoice.band_store (choice : VfoChoice) (r : Radio) (band : Band) (record : MemoryRecord) :
    choice.band (r.store band record) = choice.band r := by
  cases choice <;> rfl

namespace Rig

/-- Two requests may change places: both succeed in either order, and the radio and the rig are the
same in the end. -/
structure Commute (link : Link) (r : Rig) (first second : Request) (s : Bench) : Prop where
  forth : ∀ call ∈ r.calls link Bench.port [first, second] s, call.outcome.result = .ok .nothing
  back : ∀ call ∈ r.calls link Bench.port [second, first] s, call.outcome.result = .ok .nothing
  radio : (r.portAfter link Bench.port [first, second] s).radio =
    (r.portAfter link Bench.port [second, first] s).radio
  rig : r.rigAfter link Bench.port [first, second] s = r ∧
    r.rigAfter link Bench.port [second, first] s = r

section
variable {link : Link} {r : Rig}

/-- What two requests come to that each leave the rig as it is. -/
theorem Obtains.twice {first second : Request} {s : Bench} {radio radio' : Radio}
    (h : r.Obtains link first s .nothing radio)
    (h' : ∀ t : Bench, t.Quiet → t.radio = radio → r.Obtains link second t .nothing radio') :
    (∀ call ∈ r.calls link Bench.port [first, second] s, call.outcome.result = .ok .nothing) ∧
      (r.portAfter link Bench.port [first, second] s).radio = radio' ∧
      r.rigAfter link Bench.port [first, second] s = r := by
  obtain ⟨result, rig, left, quiet⟩ := h
  obtain ⟨result', rig', left', -⟩ := h' _ quiet left
  simp only [calls, portAfter, rigAfter, rig, List.mem_cons, List.not_mem_nil, or_false]
  refine ⟨?_, left', rig'⟩
  rintro call (rfl | rfl)
  · exact result
  · exact result'

variable (patient : 0 ≤ link.patience) {s : Bench} (quiet : s.Quiet) {change change' : Change}
  {vfo vfo' : Value} {choice choice' : VfoChoice} {u u' : MemoryUpdate}
  (accepted : change.Accepted r vfo choice u) (accepted' : change'.Accepted r vfo' choice' u')
  {old mid new last : MemoryRecord} (held : s.radio.Holds (choice.band s.radio) old)
  (fits : (old.toDraft.overlay u).check = .ok new)

include patient quiet accepted accepted' held fits

/-- What two changes come to, where the second one finds what the first one left. -/
theorem twice_changed
    (found : (s.radio.store (choice.band s.radio) new).Holds (choice'.band s.radio) mid)
    (fits' : (mid.toDraft.overlay u').check = .ok last) :
    (∀ call ∈ r.calls link Bench.port [change.request vfo, change'.request vfo'] s,
        call.outcome.result = .ok .nothing) ∧
      (r.portAfter link Bench.port [change.request vfo, change'.request vfo'] s).radio =
        (s.radio.store (choice.band s.radio) new).store (choice'.band s.radio) last ∧
      r.rigAfter link Bench.port [change.request vfo, change'.request vfo'] s = r := by
  refine Obtains.twice (obtains_of_talks patient quiet (accepted.talks held fits)) fun t quiet' left => ?_
  have same : choice'.band t.radio = choice'.band s.radio := by
    rw [left, VfoChoice.band_store]
  have still : t.radio.Holds (choice'.band t.radio) mid := by
    rw [same, left]
    exact found
  have talks := accepted'.talks still fits'
  rw [same, left] at talks
  exact obtains_of_talks patient quiet' (left ▸ talks)

theorem commute_elsewhere {old' new' : MemoryRecord}
    (held' : s.radio.Holds (choice'.band s.radio) old')
    (fits' : (old'.toDraft.overlay u').check = .ok new')
    (elsewhere : choice.band s.radio ≠ choice'.band s.radio) :
    r.Commute link (change.request vfo) (change'.request vfo') s := by
  -- Each finds its record as it was, whether or not the other was there before.
  obtain ⟨forth, radio, rig⟩ := twice_changed patient quiet accepted accepted' held fits
    (held'.store_other elsewhere new) fits'
  obtain ⟨back, radio', rig'⟩ := twice_changed patient quiet accepted' accepted held' fits'
    (held.store_other elsewhere.symm new') fits
  refine ⟨forth, back, ?_, rig, rig'⟩
  rw [radio, radio', Radio.store_swap _ elsewhere]

theorem commute_apart (here : choice'.band s.radio = choice.band s.radio) (apart : u.Apart u') :
    r.Commute link (change.request vfo) (change'.request vfo') s := by
  have own : old.channel = (choice.band s.radio).channel := held.channel_eq
  obtain ⟨new', fits'⟩ := accepted'.exists_check old
  obtain ⟨both, overlaid⟩ := accepted'.exists_check new
  obtain ⟨both', overlaid'⟩ := accepted.exists_check new'
  have stored := s.radio.holds_store (((check_overlay.mp fits).1).trans own)
  have stored' := s.radio.holds_store (((check_overlay.mp fits').1).trans own)
  obtain ⟨forth, radio, rig⟩ := twice_changed patient quiet accepted accepted' held fits
    (by rwa [here]) overlaid
  obtain ⟨back, radio', rig'⟩ := twice_changed patient quiet accepted' accepted (by rwa [here]) fits'
    (by rwa [here]) overlaid'
  refine ⟨forth, back, ?_, rig, rig'⟩
  rw [radio, radio', here, Radio.store_store, Radio.store_store,
    overlay_swap apart fits overlaid fits' overlaid']

end

/-- Carrying the request out stores nothing but records of the channel, whatever the line is. -/
def StoresOnly (link : Link) (r : Rig) (request : Request) (channel : Fin 1000) : Prop :=
  ∀ (σ : Type) (port : Port σ) (t : σ), ∀ turn ∈ r.turns link port request t,
    ∀ record, turn.command = .writeMemory record → record.channel = channel

theorem storesOnly_of_accepted (link : Link) {r : Rig} {change : Change} {vfo : Value} {band : Band}
    {u : MemoryUpdate} (accepted : change.Accepted r vfo (.named band) u) :
    r.StoresOnly link (change.request vfo) band.channel :=
  fun _ port t => (accepted.asks rfl).conversation (conversation_run link port _ t) |>.1

/-- On a quiet bench whose radio stores records for both VFOs, two changes that the rig accepts may be
made in either order if they are about different bands or give different fields. In split the two
frequencies are about different bands whatever VFO is named, and never stored in one channel. -/
theorem independent_changes_commute {link : Link} (patient : 0 ≤ link.patience) {r : Rig}
    {session : Session} (opened : r.session = some session) {s : Bench} (quiet : s.Quiet)
    (held : ∀ band, ∃ record, s.radio.Holds band record) :
    (∀ {change change' : Change} {vfo vfo' : Value} {choice choice' : VfoChoice} {u u' : MemoryUpdate},
      change.Accepted r vfo choice u → change'.Accepted r vfo' choice' u' →
      choice.band s.radio ≠ choice'.band s.radio ∨ u.Apart u' →
      r.Commute link (change.request vfo) (change'.request vfo') s) ∧
    (session.Sound → session.split = true →
      ∀ {hertz hertz' : Value} {u u' : MemoryUpdate} (vfo vfo' : Value),
        frequencyUpdate hertz = .ok u → frequencyUpdate hertz' = .ok u' →
        r.Commute link (.setFrequency vfo hertz) (.setSplitFrequency vfo' hertz') s ∧
          r.StoresOnly link (.setFrequency vfo hertz) session.receive.channel ∧
          r.StoresOnly link (.setSplitFrequency vfo' hertz') session.transmit.channel ∧
          session.receive.channel ≠ session.transmit.channel) := by
  have commute : ∀ {change change' : Change} {vfo vfo' : Value} {choice choice' : VfoChoice}
      {u u' : MemoryUpdate}, change.Accepted r vfo choice u → change'.Accepted r vfo' choice' u' →
      choice.band s.radio ≠ choice'.band s.radio ∨ u.Apart u' →
      r.Commute link (change.request vfo) (change'.request vfo') s := by
    intro change change' vfo vfo' choice choice' u u' accepted accepted' independent
    obtain ⟨old, here⟩ := held (choice.band s.radio)
    obtain ⟨old', there⟩ := held (choice'.band s.radio)
    obtain ⟨new, fits⟩ := accepted.exists_check old
    obtain ⟨new', fits'⟩ := accepted'.exists_check old'
    by_cases same : choice'.band s.radio = choice.band s.radio
    · have apart : u.Apart u' := independent.resolve_left fun elsewhere => elsewhere same.symm
      exact commute_apart patient quiet accepted accepted' here fits same apart
    · exact commute_elsewhere patient quiet accepted accepted' here fits there fits'
        fun elsewhere => same elsewhere.symm
  refine ⟨commute, ?_⟩
  intro sound split hertz hertz' u u' vfo vfo' given given'
  obtain ⟨receiving, -⟩ := Change.accepted_split opened split given vfo
  obtain ⟨-, transmitting⟩ := Change.accepted_split opened split given' vfo'
  have elsewhere : session.receive ≠ session.transmit := by
    rw [sound.apart split]
    cases session.transmit <;> decide
  have channels : session.receive.channel ≠ session.transmit.channel := fun same =>
    Band.channel_ne elsewhere (congrArg (fun channel : Fin 1000 => (channel.val : Int)) same)
  exact ⟨commute receiving transmitting (.inl elsewhere), storesOnly_of_accepted link receiving,
    storesOnly_of_accepted link transmitting, channels⟩

theorem independent_changes_commute_split :
    Commute ⟨8, 3, 3⟩ ⟨.warn, some ⟨.b, .a, true⟩⟩ (.setFrequency (.text "VFOA") (.int 145500000))
        (.setMode (.text "VFOB") (.text "AM"))
        (Bench.ofRadio ((Radio.initial.store .a (.empty 998)).store .b (.empty 999))) ∧
      Commute ⟨8, 3, 3⟩ ⟨.warn, some ⟨.b, .a, true⟩⟩ (.setFrequency (.text "VFOA") (.int 145500000))
        (.setSplitFrequency (.text "VFOA") (.int 433500000))
        (Bench.ofRadio ((Radio.initial.store .a (.empty 998)).store .b (.empty 999))) := by
  have patient : 0 ≤ (⟨8, 3, 3⟩ : Link).patience := by decide
  have held : ∀ band, ∃ record,
      ((Radio.initial.store .a (.empty 998)).store .b (.empty 999)).Holds band record := by
    intro band
    cases band with
    | a =>
        have stored : (Radio.initial.store .a (.empty 998)).Holds .a (.empty 998) :=
          Radio.holds_store _ rfl
        exact ⟨_, stored.store_other (by decide) _⟩
    | b => exact ⟨_, Radio.holds_store _ rfl⟩
  obtain ⟨general, split⟩ := independent_changes_commute patient
    (r := ⟨.warn, some ⟨.b, .a, true⟩⟩) rfl (Bench.quiet_ofRadio _) held
  have frequency : (Change.frequency .receiving (.int 145500000)).Accepted
      ⟨.warn, some ⟨.b, .a, true⟩⟩ (.text "VFOA") (.named .a) _ := ⟨⟨_, rfl, rfl⟩, rfl, trivial⟩
  have mode : (Change.mode (.text "AM")).Accepted
      ⟨.warn, some ⟨.b, .a, true⟩⟩ (.text "VFOB") (.named .a) _ := ⟨⟨_, rfl, rfl⟩, rfl, trivial⟩
  have apart := Change.apart_frequency_mode frequency.update mode.update
  refine ⟨general frequency mode (.inr apart), ?_⟩
  have sound : (⟨.b, .a, true⟩ : Session).Sound := Session.sound_of_apart fun _ => rfl
  exact (split sound rfl (.text "VFOA") (.text "VFOA") rfl rfl).1

end Rig

end Transceiver
