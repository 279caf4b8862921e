import Transceiver.Identity
import Transceiver.Proofs.Silences

/-! Looking for the rate of a radio. The rates are tried in their order, each on the port as the trials
before it left it, until one trial ends otherwise than a wrong rate explains. On a faultless line with a
radio that answers at one rate only, that is the trial at this rate. -/
namespace Transceiver

open Simulation

/-- A wrong rate explains the fault: nothing came in time, the answer was refused, or it could not be
read. -/
def Fault.FitsWrongRate (why : Fault) : Prop :=
  why = .undecodable ∨ ∃ fault, why = .radio fault ∧ (fault.kind = .timeout ∨ fault.kind = .rejected)

theorem suggestsWrongRate_iff {why : Fault} :
    Link.suggestsWrongRate why = true ↔ why.FitsWrongRate := by
  unfold Link.suggestsWrongRate Fault.FitsWrongRate
  cases why <;> simp

section
variable {σ α : Type}

@[simp] theorem Outcome.rates_after (earlier : List Event) (o : Outcome σ α) :
    (o.after earlier).rates = earlier.filterMap Event.rate? ++ o.rates := by
  simp [rates, after]

/-- An attempt sets no rate. -/
theorem attempt_rates (port : Port σ) (patience : Int) (command : String) (s : σ) :
    (port.attempt patience command s).rates = [] := by
  have came := attempted port patience command s
  generalize port.attempt patience command s = o at came
  cases came with
  | unspelled spelled => rfl
  | unwritten spelled written => rfl
  | unanswered spelled written collected => rfl
  | @answered bytes s' text s'' spelled written collected =>
      change (answerOf text).2.filterMap Event.rate? = []
      unfold answerOf
      dsimp only
      split <;> rfl

theorem attempts_rates (link : Link) (port : Port σ) (command : String) (repetition left : Nat) (s : σ) :
    (link.attempts port command repetition left s).rates = [] := by
  have first := attempt_rates port link.patience command
  induction left generalizing repetition s with
  | zero => exact first s
  | succ left ih =>
      unfold Link.attempts
      dsimp only
      split
      · split
        · exact first s
        · rw [Outcome.rates_after, List.filterMap_append, ih]
          have before := first s
          rw [Outcome.rates] at before
          rw [before]
          rfl
      · exact first s

end

namespace Link

section
variable {σ : Type} (link : Link) (port : Port σ)

/-- Asks for the model at one rate. -/
def trial (rate : Rate) (s : σ) : Outcome σ String := link.identify port (port.setRate rate s)

theorem trial_rates (rate : Rate) (s : σ) : (link.trial port rate s).rates = [] :=
  attempts_rates link port "ID" 1 link.retries.toNat (port.setRate rate s)

/-- Each of some rates in turn is tried in vain, which a wrong rate explains. -/
inductive Skips : List Rate → σ → σ → Prop
  | none (s) : Skips [] s s
  | next {rate rates s t why} : (link.trial port rate s).result = .error why → why.FitsWrongRate →
      Skips rates (link.trial port rate s).port t → Skips (rate :: rates) s t

/-- How a search ends: no rate is left, or the trial at a rate ends it, with that trial's result, and
no later rate is set. A rate that cannot be written ends it before it is set. -/
inductive Probes (rates : List Rate) (s : σ) (o : Outcome σ String) : Prop
  | exhausted : link.Skips port rates s o.port → o.result = .error (.radio .noResponse) →
      o.rates = rates → Probes rates s o
  | ended {skipped rate later t} : rates = skipped ++ rate :: later → link.Skips port skipped s t →
      (∀ why, (link.trial port rate t).result = .error why → ¬why.FitsWrongRate) →
      o.result = (link.trial port rate t).result → o.port = (link.trial port rate t).port →
      o.rates = skipped ++ [rate] → Probes rates s o
  | unnamed {skipped rate later why} : rates = skipped ++ rate :: later →
      link.Skips port skipped s o.port → rate.value.wholeText = .error why → o.result = .error why →
      o.rates = skipped → Probes rates s o

theorem identifyAt_eq {rate : Rate} {whole : String} (named : rate.value.wholeText = .ok whole) (s : σ) :
    link.identifyAt port rate s = (link.trial port rate s).after [rateNote whole, .rate rate] := by
  rw [identifyAt, named]
  rfl

theorem identifyAt_unnamed {rate : Rate} {why : Fault} (unnamed : rate.value.wholeText = .error why)
    (s : σ) : link.identifyAt port rate s = ⟨.error why, [], s⟩ := by
  rw [identifyAt, unnamed]

/-- A number that cannot be written is no matter of the rate of the line. -/
theorem not_fitsWrongRate {rate : Rate} {why : Fault} (failed : rate.value.wholeText = .error why) :
    ¬why.FitsWrongRate := by
  rcases Rate.wholeText_fault failed with rfl | rfl <;> simp [Fault.FitsWrongRate]

section
variable {link port} {rate : Rate} {rest : List Rate} {s : σ} {o o' : Outcome σ String}

theorem Probes.stop (ends : ∀ why, (link.trial port rate s).result = .error why → ¬why.FitsWrongRate)
    (result : o.result = (link.trial port rate s).result) (left : o.port = (link.trial port rate s).port)
    (set : o.rates = [rate]) : link.Probes port (rate :: rest) s o := by
  have first : rate :: rest = [] ++ rate :: rest := rfl
  exact .ended first (.none s) ends result left set

theorem Probes.skip {why : Fault} (failed : (link.trial port rate s).result = .error why)
    (fits : why.FitsWrongRate) (later : link.Probes port rest (link.trial port rate s).port o')
    (result : o.result = o'.result) (left : o.port = o'.port) (set : o.rates = rate :: o'.rates) :
    link.Probes port (rate :: rest) s o := by
  cases later with
  | exhausted skips none all =>
      refine .exhausted ?_ (result.trans none) (set.trans (congrArg _ all))
      rw [left]
      exact .next failed fits skips
  | @ended skipped found later t parts skips ends came kept tried =>
      have parts' : rate :: rest = (rate :: skipped) ++ found :: later := congrArg _ parts
      exact .ended parts' (.next failed fits skips) ends (result.trans came) (left.trans kept)
        (set.trans (congrArg _ tried))
  | @unnamed skipped found later other parts skips unnamed came tried =>
      have parts' : rate :: rest = (rate :: skipped) ++ found :: later := congrArg _ parts
      refine .unnamed parts' ?_ unnamed (result.trans came) (set.trans (congrArg _ tried))
      rw [left]
      exact .next failed fits skips

/-- One rate that is tried in vain goes before the rest of a search. -/
theorem probe_skip {why : Fault} {whole : String} (named : rate.value.wholeText = .ok whole)
    (failed : (link.trial port rate s).result = .error why) (fits : why.FitsWrongRate) :
    let later := link.probe port (rest.map Rate.value) (link.trial port rate s).port
    let search := link.probe port ((rate :: rest).map Rate.value) s
    search.result = later.result ∧ search.port = later.port ∧ search.rates = rate :: later.rates := by
  have noted := link.identifyAt_eq port named s
  have result : (link.identifyAt port rate s).result = .error why := by
    rw [noted]
    exact failed
  have search : link.probe port ((rate :: rest).map Rate.value) s =
      (link.probe port (rest.map Rate.value) (link.trial port rate s).port).after
        (rateNote whole :: .rate rate :: (link.trial port rate s).history) := by
    rw [List.map_cons, probe, Rate.ofValue?_value]
    dsimp only
    rw [result, noted]
    exact if_pos (suggestsWrongRate_iff.mpr fits)
  have silent : (link.trial port rate s).history.filterMap Event.rate? = [] := link.trial_rates port rate s
  refine ⟨by rw [search]; rfl, by rw [search]; rfl, ?_⟩
  rw [search, Outcome.rates_after]
  change (rate :: (link.trial port rate s).history.filterMap Event.rate?) ++ _ = _
  rw [silent]
  rfl

/-- A trial that no wrong rate explains ends the search. -/
theorem probe_stop (rest : List Rate) {whole : String} (named : rate.value.wholeText = .ok whole)
    (ends : ∀ why, (link.trial port rate s).result = .error why → ¬why.FitsWrongRate) :
    let search := link.probe port ((rate :: rest).map Rate.value) s
    search.result = (link.trial port rate s).result ∧ search.port = (link.trial port rate s).port ∧
      search.rates = [rate] := by
  have noted := link.identifyAt_eq port named s
  have result : (link.identifyAt port rate s).result = (link.trial port rate s).result := by
    rw [noted]
    rfl
  have search : link.probe port ((rate :: rest).map Rate.value) s = link.identifyAt port rate s := by
    rw [List.map_cons, probe, Rate.ofValue?_value]
    dsimp only
    rw [result]
    cases came : (link.trial port rate s).result with
    | ok model => rfl
    | error why =>
        exact if_neg fun wrong => ends why came (suggestsWrongRate_iff.mp wrong)
  rw [search, noted]
  refine ⟨rfl, rfl, ?_⟩
  rw [Outcome.rates_after, trial_rates]
  rfl

theorem probe_unnamed {why : Fault} (unnamed : rate.value.wholeText = .error why) :
    link.probe port ((rate :: rest).map Rate.value) s = ⟨.error why, [], s⟩ := by
  rw [List.map_cons, probe, Rate.ofValue?_value]
  dsimp only
  rw [link.identifyAt_unnamed port unnamed]
  exact if_neg fun wrong => not_fitsWrongRate unnamed (suggestsWrongRate_iff.mp wrong)

end

/-- The rates are tried in turn until a trial ends the search. -/
theorem probes (rates : List Rate) (s : σ) :
    link.Probes port rates s (link.probe port (rates.map Rate.value) s) := by
  induction rates generalizing s with
  | nil => exact .exhausted (.none s) rfl rfl
  | cons rate rest ih =>
      cases named : rate.value.wholeText with
      | error why =>
          rw [probe_unnamed named]
          have first : rate :: rest = [] ++ rate :: rest := rfl
          exact .unnamed first (.none s) named rfl rfl
      | ok whole =>
          by_cases fits : ∃ why, (link.trial port rate s).result = .error why ∧ why.FitsWrongRate
          · obtain ⟨why, failed, fits⟩ := fits
            obtain ⟨result, left, set⟩ := probe_skip named failed fits
            exact .skip failed fits (ih _) result left set
          · have ends : ∀ why, (link.trial port rate s).result = .error why → ¬why.FitsWrongRate :=
              fun why failed wrong => fits ⟨why, failed, wrong⟩
            obtain ⟨result, left, set⟩ := probe_stop rest named ends
            exact .stop ends result left set

end

end Link

namespace Simulation.Bench

/-- The radio answers at one rate only; else there is no fault, no answer is forced, and nothing is on
the way. -/
structure OnlyAt (s : Bench) (b : Rate) : Prop extends s.Idle where
  only : s.onlyRate = some b
  unspoilt : ∀ entry ∈ s.faults, entry.2 = []

section
variable {s : Bench} {b rate : Rate} {link : Link}

theorem OnlyAt.rated (h : s.OnlyAt b) (rate : Rate) : ({ s with rate } : Bench).OnlyAt b :=
  ⟨⟨h.unforced, h.healthy, h.waiting, h.silent⟩, h.only, h.unspoilt⟩

theorem OnlyAt.deaf (h : s.OnlyAt b) (other : rate.same b = false) :
    s.onlyRate.any (!rate.same ·) = true := by
  rw [h.only, Option.any_some, other]
  rfl

/-- At another rate the radio does not hear the command. -/
theorem OnlyAt.trial_unheard (h : s.OnlyAt b) (other : rate.same b = false)
    (announced : 0 < link.retries → link.announced.Writable) :
    (link.trial port rate s).result = .error (.radio (.timeout "ID")) ∧
      (link.trial port rate s).port = { s with rate } := by
  have worded : IsPrintable "ID" := by decide
  obtain ⟨late, kept⟩ := attempts_unheard (s := { s with rate }) (h.deaf other) (h.rated rate).toIdle
    (encode_line worded) 1 link.retries.toNat fun some => announced (by omega)
  refine ⟨?_, kept⟩
  change ((link.attempts port "ID" 1 link.retries.toNat { s with rate }).result.bind
    (Link.accepted "ID")).bind Link.modelOf = _
  rw [late]
  rfl

/-- There the trial ends with the first repetition that cannot be announced. -/
theorem OnlyAt.trial_unannounced {why : Fault} (h : s.OnlyAt b) (other : rate.same b = false)
    (some : 0 < link.retries) (unannounced : link.announced.value.wholeText = .error why) :
    (link.trial port rate s).result = .error why ∧ (link.trial port rate s).port = { s with rate } := by
  have worded : IsPrintable "ID" := by decide
  have first := attempt_unheard (s := { s with rate }) (h.deaf other) (h.rated rate).toIdle link.patience
    (encode_line worded)
  obtain ⟨left, more⟩ := Nat.exists_eq_add_one_of_ne_zero (show link.retries.toNat ≠ 0 by omega)
  have ended := attempts_unannounced (congrArg Outcome.result first) unannounced 1 left
  rw [first, ← more] at ended
  refine ⟨?_, congrArg Outcome.port ended⟩
  change ((link.attempts port "ID" 1 link.retries.toNat { s with rate }).result.bind
    (Link.accepted "ID")).bind Link.modelOf = _
  rw [ended]
  rfl

/-- At its own rate the radio hears the command once and tells its model. -/
theorem OnlyAt.trial_heard (patient : 0 ≤ link.patience) (h : s.OnlyAt b) (own : rate.same b = true) :
    (link.trial port rate s).result = .ok "TM-V71" ∧
      (link.trial port rate s).port = { s with rate, commands := s.commands ++ ["ID"] } := by
  have quiet : ({ s with rate } : Bench).Quiet := by
    refine ⟨?_, h.unforced, h.unspoilt, h.healthy, h.waiting, h.silent⟩
    have only : ({ s with rate } : Bench).onlyRate = some b := h.only
    rw [only, Option.any_some, own]
    rfl
  have told : s.radio.answer "ID" = ("ID TM-V71", s.radio) := s.radio.answer_bare (by decide)
  have worded : IsPrintable (s.radio.answer "ID").1 := by
    have plain : IsPrintable "ID TM-V71" := by decide
    rwa [told]
  have trimmed : Text.trim "ID TM-V71" = "ID TM-V71" := by decide
  have accepted : Link.accepted "ID" "ID TM-V71" = .ok "ID TM-V71" := if_neg (by decide)
  have served : s.radio.serve "ID" = (.ok "ID TM-V71", s.radio) := by
    rw [Radio.serve_printable (by decide) worded, told]
    dsimp only
    rw [trimmed, accepted]
  obtain ⟨result, left⟩ :=
    exchange_answered patient quiet (by decide) (unended_of_printable worded)
  constructor
  · change (link.exchange port "ID" { s with rate }).result.bind Link.modelOf = _
    rw [result, served]
    rfl
  · refine Eq.trans left ?_
    rw [answered, told]

/-- Rates at which the radio does not answer are tried in vain, and change nothing but the rate. -/
theorem OnlyAt.probe_wrong {wrong : List Rate} (h : s.OnlyAt b)
    (others : ∀ rate ∈ wrong, rate.same b = false) (named : ∀ rate ∈ wrong, rate.Writable)
    (announced : wrong ≠ [] → 0 < link.retries → link.announced.Writable) (rest : List Rate) :
    let later := link.probe port (rest.map Rate.value) { s with rate := wrong.getLast?.getD s.rate }
    let search := link.probe port ((wrong ++ rest).map Rate.value) s
    search.result = later.result ∧ search.port = later.port ∧ search.rates = wrong ++ later.rates := by
  induction wrong generalizing s with
  | nil => exact ⟨rfl, rfl, rfl⟩
  | cons rate wrong ih =>
      obtain ⟨other, others⟩ := List.forall_mem_cons.mp others
      obtain ⟨⟨whole, here⟩, named⟩ := List.forall_mem_cons.mp named
      have announced := announced (List.cons_ne_nil rate wrong)
      obtain ⟨late, kept⟩ := h.trial_unheard other announced
      obtain ⟨result, left, set⟩ := Link.probe_skip here late (.inr ⟨_, rfl, .inl rfl⟩)
      rw [kept] at result left set
      obtain ⟨result', left', set'⟩ := ih (h.rated rate) others named fun _ => announced
      have last : (rate :: wrong).getLast?.getD s.rate = wrong.getLast?.getD rate := by
        rw [List.getLast?_cons]
        rfl
      rw [last]
      exact ⟨result.trans result', left.trans left', set.trans (congrArg _ set')⟩

end

end Simulation.Bench

namespace Link

theorem model_eq_probe (link : Link) {σ : Type} (port : Port σ) {rates : List Rate} (some : rates ≠ [])
    (s : σ) : link.model port (.list (rates.map Rate.value)) s =
      link.probe port (rates.map Rate.value) s := by
  cases rates with
  | nil => exact absurd rfl some
  | cons rate rest => rfl

/-- The rate of a radio that answers at one rate only is found where it is among the rates that are tried:
the model is told, the port is left at that rate, the radio took in one command, and no later rate was
set. If it is not among them, nothing but the rate of the port changes. Both are so where the rates that
are tried and the number of retries can be written. On any port each rate is skipped whose trial ends in
a fault that a wrong rate explains, and the first other ending is that of the search, as is a rate that
cannot be written. -/
theorem probing_finds_the_rate (link : Link) {rates : List Rate} (some : rates ≠ []) :
    (∀ (s : Bench) (b : Rate), 0 ≤ link.patience → s.OnlyAt b →
      (∀ wrong found later, rates = wrong ++ found :: later → (∀ rate ∈ wrong, rate.same b = false) →
        found.same b = true → (∀ rate ∈ wrong ++ [found], rate.Writable) →
        (wrong ≠ [] → 0 < link.retries → link.announced.Writable) →
          (link.model Bench.port (.list (rates.map Rate.value)) s).result = .ok "TM-V71" ∧
          (link.model Bench.port (.list (rates.map Rate.value)) s).port =
            { s with rate := found, commands := s.commands ++ ["ID"] } ∧
          (link.model Bench.port (.list (rates.map Rate.value)) s).rates = wrong ++ [found]) ∧
      ((∀ rate ∈ rates, rate.same b = false) → (∀ rate ∈ rates, rate.Writable) →
        (0 < link.retries → link.announced.Writable) →
        (link.model Bench.port (.list (rates.map Rate.value)) s).result = .error (.radio .noResponse) ∧
        (link.model Bench.port (.list (rates.map Rate.value)) s).port =
          { s with rate := rates.getLast some } ∧
        (link.model Bench.port (.list (rates.map Rate.value)) s).rates = rates)) ∧
    ∀ {σ : Type} (port : Port σ) (s : σ),
      link.Probes port rates s (link.model port (.list (rates.map Rate.value)) s) := by
  constructor
  · intro s b patient only
    rw [link.model_eq_probe Bench.port some s]
    constructor
    · rintro wrong found later rfl others own named announced
      obtain ⟨named, here⟩ := List.forall_mem_append.mp named
      obtain ⟨whole, here⟩ := here found (List.mem_singleton_self found)
      obtain ⟨result, left, set⟩ := only.probe_wrong others named announced (found :: later)
      obtain ⟨model, heard⟩ := (only.rated _).trial_heard patient own
      have ends : ∀ why, (link.trial Bench.port found { s with rate := wrong.getLast?.getD s.rate }).result =
          .error why → ¬why.FitsWrongRate := by
        intro why failed
        rw [model] at failed
        cases failed
      obtain ⟨result', left', set'⟩ := probe_stop later here ends
      exact ⟨result.trans (result'.trans model), left.trans (left'.trans heard),
        set.trans (congrArg _ set')⟩
    · intro others named announced
      obtain ⟨result, left, set⟩ := only.probe_wrong others named (fun _ => announced) []
      rw [List.append_nil] at result left set
      refine ⟨result, left.trans ?_, set.trans (List.append_nil rates)⟩
      rw [List.getLast?_eq_some_getLast some]
      rfl
  · intro σ port s
    rw [link.model_eq_probe port some s]
    exact link.probes port rates s

theorem probing_finds_the_rate_second :
    [Rate.count 19200, .count 9600, .count 38400] ≠ [] ∧
      ({ Bench.initial with onlyRate := some (.count 9600) } : Bench).OnlyAt (.count 9600) ∧
      (model ⟨8, 3, 3⟩ Bench.port (.list ([.count 19200, .count 9600, .count 38400].map Rate.value))
        { Bench.initial with onlyRate := some (.count 9600) }).result = .ok "TM-V71" ∧
      (model ⟨8, 3, 3⟩ Bench.port (.list ([.count 19200, .count 9600, .count 38400].map Rate.value))
        { Bench.initial with onlyRate := some (.count 9600) }).port.commands = ["ID"] := by
  have filled : [Rate.count 19200, .count 9600, .count 38400] ≠ [] := List.cons_ne_nil _ _
  have only : ({ Bench.initial with onlyRate := some (.count 9600) } : Bench).OnlyAt (.count 9600) :=
    ⟨⟨rfl, rfl, rfl, rfl⟩, rfl, List.forall_mem_nil _⟩
  have wrong : ∀ rate ∈ [Rate.count 19200], rate.same (.count 9600) = false := by decide
  have named : ∀ rate ∈ [Rate.count 19200] ++ [.count 9600], rate.Writable := by
    refine List.forall_mem_cons.mpr ⟨⟨"19200", rfl⟩, List.forall_mem_singleton.mpr ⟨"9600", rfl⟩⟩
  obtain ⟨told, left, -⟩ := ((probing_finds_the_rate ⟨8, 3, 3⟩ filled).1 _ _ (by decide) only).1
    [.count 19200] (.count 9600) [.count 38400] rfl wrong (by decide) named fun _ _ => ⟨"3", rfl⟩
  exact ⟨filled, only, told, by rw [left]; rfl⟩

/-- Ten to the power of 4300 is too long to be written: as the number of retries it ends the search at the
first rate at which the radio does not answer, and as a rate it ends it before it is set. -/
theorem overlong_number_ends_the_search :
    let large : Int := (Nat.pow 10 Number.maxDigits : Nat)
    let link : Link := { patience := 8, retries := large }
    let s : Bench := { Bench.initial with onlyRate := some (.count 9600) }
    s.OnlyAt (.count 9600) ∧
      (link.model Bench.port (.list ([.count 19200, .count 9600].map Rate.value)) s).result =
        .error .notInteger ∧
      (link.model Bench.port (.list ([.count 19200, .count 9600].map Rate.value)) s).port =
        { s with rate := .count 19200 } ∧
      (model ⟨8, 3, 3⟩ Bench.port (.list ([.count large, .count 9600].map Rate.value)) s) =
        ⟨.error .notInteger, [], s⟩ := by
  have long : Number.isWritable (Nat.pow 10 Number.maxDigits : Nat) = false :=
    Number.isWritable_power (by decide) (Nat.le_refl _)
  generalize Nat.pow 10 Number.maxDigits = large at long ⊢
  have some : 0 < large := Nat.pos_of_ne_zero (by rintro rfl; exact absurd long (by decide))
  intro large link s
  have unwritten : (Rate.count large).value.wholeText = .error .notInteger :=
    Rate.wholeText_overlong long
  have only : s.OnlyAt (.count 9600) := ⟨⟨rfl, rfl, rfl, rfl⟩, rfl, List.forall_mem_nil _⟩
  have other : (Rate.count 19200).same (.count 9600) = false := by decide
  have trial : (link.trial Bench.port (.count 19200) s).result = .error .notInteger ∧
      (link.trial Bench.port (.count 19200) s).port = { s with rate := .count 19200 } :=
    only.trial_unannounced other (Int.natCast_pos.mpr some) unwritten
  have named : (Rate.count 19200).value.wholeText = .ok "19200" := by rfl
  obtain ⟨result, left, -⟩ := probe_stop [.count 9600] named fun why failed => by
    cases trial.1.symm.trans failed
    exact not_fitsWrongRate unwritten
  exact ⟨only, result.trans trial.1, left.trans trial.2, probe_unnamed unwritten⟩

end Link

end Transceiver
