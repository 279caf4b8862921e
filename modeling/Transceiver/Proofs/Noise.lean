import Transceiver.Proofs.Deadlines
import Transceiver.Proofs.Provisioning
import Transceiver.Proofs.Retrying
import Transceiver.Proofs.ToolRuns

/-! Noise on the line. Five of the 256 bytes stand for no character. One of them in a read that is made
ends the exchange with a fault that is none of the radio's, and nothing else does. -/
namespace Transceiver

open Reads

namespace Text.CodePage

/-- The bytes that stand for nothing. -/
def unassigned : List UInt8 := [0x81, 0x8D, 0x8F, 0x90, 0x9D]

theorem decodeByte_eq_none {b : UInt8} : decodeByte b = none ↔ b ∈ unassigned := by
  have each : ∀ i : Fin 256, decodeByte (.ofNat i.val) = none ↔ UInt8.ofNat i.val ∈ unassigned := by
    decide +kernel
  have here := each ⟨b.toNat, b.toNat_lt⟩
  rwa [UInt8.ofNat_toNat] at here

theorem decode_eq_none {bytes : List UInt8} :
    decode bytes = none ↔ ∃ b ∈ bytes, b ∈ unassigned := by
  constructor
  · intro undecodable
    refine Classical.byContradiction fun known => ?_
    have each : ∀ b ∈ bytes, IsKnown b := fun b member =>
      Option.isSome_iff_ne_none.mpr fun nothing => known ⟨b, member, decodeByte_eq_none.mp nothing⟩
    obtain ⟨text, decoded⟩ := exists_decode each
    cases undecodable.symm.trans decoded
  · rintro ⟨b, member, nothing⟩
    refine Option.map_eq_none_iff.mpr (Option.eq_none_iff_forall_ne_some.mpr fun cs spelled => ?_)
    obtain ⟨c, -, read⟩ := mem_of_mapM spelled member
    cases (decodeByte_eq_none.mpr nothing).symm.trans read

end Text.CodePage

section
variable {σ : Type}

/-- A byte that stands for nothing comes with the read after the first `n`, which is made. -/
structure Reads.Spoilt (read : σ → Reading × σ) (s : σ) (patience : Int) (n : Nat) : Prop where
  still : Open read s patience n
  unassigned : ∃ bytes ticks, next read s n = .arrived bytes ticks ∧
    ∃ b ∈ bytes, b ∈ Text.CodePage.unassigned

namespace Reads

variable {read : σ → Reading × σ} {s : σ} {patience : Int}

theorem received_extends (read : σ → Reading × σ) (s : σ) {k n : Nat} (fewer : k ≤ n) :
    received read s k <+: received read s n := by
  induction n with
  | zero =>
      obtain rfl := Nat.le_zero.mp fewer
      exact List.prefix_refl _
  | succ n ih =>
      rcases Nat.le_succ_iff.mp fewer with less | rfl
      · exact (ih less).trans (List.prefix_append _ _)
      · exact List.prefix_refl _

/-- What came with reads that are all characters came as characters in each of them. -/
theorem Spoilt.le {k n : Nat} (spoilt : Spoilt read s patience k) {text : String}
    (decoded : Text.CodePage.decode (received read s n) = some text) : n ≤ k := by
  obtain ⟨-, bytes, ticks, brought, spoiling⟩ := spoilt
  refine Nat.le_of_not_lt fun less => ?_
  obtain ⟨rest, whole⟩ := received_extends read s (Nat.succ_le_of_lt less)
  rw [← whole] at decoded
  obtain ⟨front, -, front', -⟩ := Text.CodePage.decode_append.mp decoded
  rw [received, brought] at front'
  obtain ⟨-, more, -, last, -⟩ := Text.CodePage.decode_append.mp front'
  cases (Text.CodePage.decode_eq_none.mpr spoiling).symm.trans last

end Reads

variable {port : Port σ} {patience : Int} {command : String} {s : σ}

theorem collect_spoilt_iff : (port.collect patience command 0 "" s).1 = .error .undecodable ↔
    ∃ n, Spoilt port.read s patience n := by
  obtain ⟨n, came⟩ := collected port patience command s
  constructor
  · intro undecodable
    generalize port.collect patience command 0 "" s = o at came undecodable
    cases came with
    | failed still failed => cases undecodable
    | spoilt still brought nothing =>
        exact ⟨n, still, _, _, brought, Text.CodePage.decode_eq_none.mp nothing⟩
    | late still brought decoded late => cases undecodable
    | whole still brought early decoded ended => cases undecodable
  · rintro ⟨k, spoilt⟩
    generalize port.collect patience command 0 "" s = o at came
    cases came with
    | failed still failed =>
        obtain ⟨text, decoded⟩ := still.legible
        obtain ⟨bytes, ticks, brought, -⟩ := spoilt.unassigned
        rcases Nat.eq_or_lt_of_le (spoilt.le decoded) with rfl | sooner
        · cases failed.symm.trans brought
        · exact absurd failed (spoilt.still.unbroken n sooner _)
    | spoilt still brought nothing => rfl
    | late still brought decoded late =>
        exact absurd late (spoilt.still.inTime (n + 1) n.succ_pos (spoilt.le decoded))
    | whole still brought early decoded ended =>
        exact absurd ⟨_, decoded, ended⟩ (spoilt.still.incomplete (n + 1) (spoilt.le decoded))

/-- A command that was written is answered by noise. -/
def Port.Spoils (port : Port σ) (patience : Int) (command : String) (s : σ) : Prop :=
  ∃ bytes s', Text.CodePage.encode (command ++ terminator.toString) = .ok bytes ∧
    port.write bytes s = (.ok (), s') ∧ ∃ n, Spoilt port.read s' patience n

theorem attempt_spoilt_iff :
    (port.attempt patience command s).result = .error .undecodable ↔ port.Spoils patience command s := by
  constructor
  · intro undecodable
    have came := attempted port patience command s
    generalize port.attempt patience command s = o at came undecodable
    cases came with
    | unspelled spelled => cases undecodable
    | @unwritten bytes why s' spelled written => cases why <;> cases undecodable
    | @unanswered bytes s' why s'' spelled written collected =>
        have spoilt := collect_spoilt_iff.mp ((congrArg Prod.fst collected).trans undecodable)
        exact ⟨bytes, s', spelled, written, spoilt⟩
    | answered spelled written collected => cases undecodable
  · rintro ⟨bytes, s', spelled, written, spoilt⟩
    rw [(attempt_sent patience spelled (congrArg Prod.fst written)).2, written,
      collect_spoilt_iff.mpr spoilt]
    rfl

namespace Link

/-- One of so many repetitions, or the attempt before them, is the last that is made and is answered by
noise. -/
def SpoilsWithin (link : Link) (port : Port σ) (command : String) (s : σ) (left : Nat) : Prop :=
  ∃ n, n ≤ left ∧ (n ≠ 0 → link.announced.Writable) ∧
    (∀ i, i < n → (link.attemptAfter port command s i).TimedOut) ∧
    port.Spoils link.patience command (link.afterAttempts port command s n)

/-- The last attempt that is made is answered by noise. -/
def Spoils (link : Link) (port : Port σ) (command : String) (s : σ) : Prop :=
  link.SpoilsWithin port command s link.retries.toNat

variable {link : Link}

theorem afterAttempts_shift (n : Nat) : link.afterAttempts port command s (n + 1) =
    link.afterAttempts port command (port.attempt link.patience command s).port n := by
  induction n with
  | zero => rfl
  | succ n ih =>
      rw [afterAttempts, ih]
      rfl

theorem attemptAfter_shift (n : Nat) : link.attemptAfter port command s (n + 1) =
    link.attemptAfter port command (port.attempt link.patience command s).port n :=
  congrArg (port.attempt link.patience command) (afterAttempts_shift n)

theorem spoilsWithin_zero :
    link.SpoilsWithin port command s 0 ↔ port.Spoils link.patience command s := by
  constructor
  · rintro ⟨n, few, -, -, spoils⟩
    obtain rfl := Nat.le_zero.mp few
    exact spoils
  · exact fun spoils => ⟨0, Nat.le_refl 0, fun some => absurd rfl some,
      fun i below => absurd below i.not_lt_zero, spoils⟩

theorem spoilsWithin_succ {left : Nat} : link.SpoilsWithin port command s (left + 1) ↔
    port.Spoils link.patience command s ∨
      (port.attempt link.patience command s).TimedOut ∧ link.announced.Writable ∧
        link.SpoilsWithin port command (port.attempt link.patience command s).port left := by
  constructor
  · rintro ⟨n, few, announced, timedOut, spoils⟩
    cases n with
    | zero => exact .inl spoils
    | succ n =>
        refine .inr ⟨timedOut 0 n.succ_pos, announced n.succ_ne_zero, n, Nat.le_of_succ_le_succ few,
          fun _ => announced n.succ_ne_zero, fun i below => ?_, ?_⟩
        · rw [← attemptAfter_shift]
          exact timedOut (i + 1) (Nat.succ_lt_succ below)
        · rwa [← afterAttempts_shift]
  · rintro (spoils | ⟨late, announced, n, few, -, timedOut, spoils⟩)
    · exact ⟨0, Nat.zero_le _, fun some => absurd rfl some, fun i below => absurd below i.not_lt_zero,
        spoils⟩
    · refine ⟨n + 1, Nat.succ_le_succ few, fun _ => announced, fun i below => ?_, ?_⟩
      · cases i with
        | zero => exact late
        | succ i =>
            rw [attemptAfter_shift]
            exact timedOut i (Nat.lt_of_succ_lt_succ below)
      · rwa [afterAttempts_shift]

end Link

theorem Outcome.TimedOut.unspoilt {link : Link}
    (late : (port.attempt link.patience command s).TimedOut) :
    ¬ port.Spoils link.patience command s := by
  obtain ⟨c, late⟩ := late
  exact fun spoils => nomatch (attempt_spoilt_iff.mpr spoils).symm.trans late

theorem attempts_spoilt_iff {link : Link} (repetition left : Nat) :
    (link.attempts port command repetition left s).result = .error .undecodable ↔
      link.SpoilsWithin port command s left := by
  induction left generalizing s repetition with
  | zero => exact attempt_spoilt_iff.trans Link.spoilsWithin_zero.symm
  | succ left ih =>
      rw [Link.spoilsWithin_succ]
      by_cases late : (port.attempt link.patience command s).TimedOut
      · have unspoilt := late.unspoilt
        have ⟨c, timedOut⟩ := late
        cases announced : link.announced.value.wholeText with
        | ok digits =>
            rw [attempts_of_timeout timedOut announced]
            refine (ih (repetition + 1)).trans
              ⟨fun spoils => .inr ⟨late, ⟨digits, announced⟩, spoils⟩, fun either => ?_⟩
            obtain first | ⟨-, -, rest⟩ := either
            · exact absurd first unspoilt
            · exact rest
        | error why =>
            rw [attempts_unannounced timedOut announced]
            constructor
            · rintro ⟨⟩
              rcases Rate.wholeText_fault announced with same | same <;> cases same
            · rintro (first | ⟨-, ⟨digits, written⟩, -⟩)
              · exact absurd first unspoilt
              · cases announced.symm.trans written
      · rw [attempts_of_untimed fun c came => late ⟨c, came⟩, attempt_spoilt_iff]
        exact ⟨.inl, fun either => either.elim id fun ⟨timedOut, _⟩ => absurd timedOut late⟩

theorem exchange_spoilt_iff {link : Link} :
    (link.exchange port command s).result = .error .undecodable ↔ link.Spoils port command s := by
  refine Iff.trans ?_ (attempts_spoilt_iff 1 link.retries.toNat)
  change (link.attempts port command 1 link.retries.toNat s).result.bind (Link.accepted command) = _ ↔ _
  cases (link.attempts port command 1 link.retries.toNat s).result with
  | error why => rfl
  | ok reply =>
      refine ⟨fun undecodable => ?_, fun undecodable => nomatch undecodable⟩
      change Link.accepted command reply = _ at undecodable
      unfold Link.accepted at undecodable
      split at undecodable <;> cases undecodable

/-- How an exchange may end when it fails, noise apart. -/
def Fault.OfLine (why : Fault) : Prop :=
  ∃ fault, why = .radio fault ∧
    (fault.kind = .transport ∨ fault.kind = .timeout ∨ fault.kind = .rejected)

theorem attempt_ofLine {line : List UInt8} {why : Fault}
    (spelled : Text.CodePage.encode (command ++ terminator.toString) = .ok line)
    (writable : ∀ bytes t, (port.write bytes t).1 ≠ .error .unspellable)
    (failed : (port.attempt patience command s).result = .error why) :
    why = .undecodable ∨ why.OfLine := by
  have came := attempted port patience command s
  generalize port.attempt patience command s = o at came failed
  cases came with
  | unspelled unspelled => cases spelled.symm.trans unspelled
  | @unwritten bytes reason s' spelled' unwritten =>
      cases failed
      cases reason with
      | failed reason => exact .inr ⟨_, rfl, .inl rfl⟩
      | unspellable => exact absurd (congrArg Prod.fst unwritten) (writable bytes s)
  | unanswered spelled' written collected =>
      cases failed
      rcases collect_fault (congrArg Prod.fst collected) with same | ⟨reason, same⟩ | same
      · exact .inl same
      · exact .inr ⟨_, same, .inl rfl⟩
      · exact .inr ⟨_, same, .inr (.inl rfl)⟩
  | answered spelled' written collected => cases failed

/-- An exchange fails with a fault of the line, or for a byte that stands for nothing in a read that its
last attempt makes, or for a number of repetitions that cannot be announced. A byte that stands for
nothing is no fault of the radio or of an argument. Whatever is asked of a rig, it is answered by this
fault only if one of the exchanges was. -/
theorem exchange_fails_with_line_or_noise {link : Link} {line : List UInt8}
    (spelled : Text.CodePage.encode command = .ok line)
    (writable : ∀ bytes t, (port.write bytes t).1 ≠ .error .unspellable) :
    (∀ why, (link.exchange port command s).result = .error why →
        why = .undecodable ∨ why.OfLine ∨ link.announced.value.wholeText = .error why) ∧
      ((link.exchange port command s).result = .error .undecodable ↔ link.Spoils port command s) ∧
      ¬ Fault.undecodable.Declared ∧
      ∀ (r : Rig) (request : Request), request.Typed →
        (∀ number row, request ≠ .fillMemory number row) →
        (r.carryOut link port request s).1.result = .error .undecodable →
        ∃ turn ∈ (r.perform request).turns link port s,
          ∃ found, link.Spoils port turn.command.line found := by
  have spelled' : Text.CodePage.encode (command ++ terminator.toString) = .ok (line ++ [13]) := by
    rw [Text.CodePage.encode_concat, spelled]
    rfl
  refine ⟨fun why failed => ?_, exchange_spoilt_iff, id, fun r request typed own failed => ?_⟩
  · obtain ⟨last, unanswered | ⟨reply, -, -, rfl⟩⟩ | unannounced := exchange_failed failed
    · exact (attempt_ofLine spelled' writable unanswered).imp_right .inl
    · exact .inr (.inl ⟨_, rfl, .inr (.inr rfl)⟩)
    · exact .inr (.inr unannounced)
  · have said := Dialogue.conversation_run link port (r.perform request) s
    rw [run_of_carryOut_error failed] at said
    rcases Rig.fault_of_conversation own said with ⟨-, early⟩ | late
    · cases early with
      | unsuitable mistyped => exact absurd typed mistyped
    · cases late with
      | brought came =>
          obtain ⟨turn, member, undecodable⟩ := came
          obtain ⟨found, exchanged⟩ := Dialogue.exchanged_of_mem member
          exact ⟨turn, member, found, exchange_spoilt_iff.mp (exchanged.symm.trans undecodable)⟩

end

namespace Simulation.Script

/-- One byte of noise after the first command. -/
def noisy : Script := ofArrivals [.data [0x81] 0] []

theorem spoils_noisy (link : Link) : link.Spoils port "ME 998" noisy := by
  refine ⟨0, Nat.zero_le _, absurd rfl, fun i below => absurd below (Nat.not_lt_zero i), ?_⟩
  refine ⟨_, _, rfl, rfl, 0, open_zero, [0x81], 0, rfl, 0x81, List.mem_singleton_self _, ?_⟩
  decide

theorem writable_port (bytes : List UInt8) (s : Script) :
    (port.write bytes s).1 ≠ .error .unspellable := by
  dsimp only [port, write]
  split <;> rintro ⟨⟩

theorem exchange_fails_with_noise :
    Text.CodePage.encode "ME 998" = .ok [0x4D, 0x45, 0x20, 0x39, 0x39, 0x38] ∧
      (∀ bytes t, (port.write bytes t).1 ≠ .error .unspellable) ∧
      ((⟨8, 3, 3⟩ : Link).exchange port "ME 998" noisy).result = .error .undecodable :=
  ⟨rfl, writable_port,
    (exchange_fails_with_line_or_noise rfl writable_port).2.1.mpr (spoils_noisy _)⟩

theorem carryOut_noisy (link : Link) : ((Rig.closed .warn).opened.carryOut link port
    (.frequency (.text "VFOA")) noisy).1.result = .error .undecodable := by
  obtain ⟨rest, shape, failing⟩ : ∃ rest,
      (Rig.closed .warn).opened.perform (.frequency (.text "VFOA")) = .send (.readMemory 998) rest ∧
        rest (.error .undecodable) = .fail .undecodable := ⟨_, rfl, rfl⟩
  have told : (link.exchange port (Command.readMemory 998).line noisy).result = .error .undecodable :=
    exchange_spoilt_iff.mpr (spoils_noisy link)
  have ran : (((Rig.closed .warn).opened.perform (.frequency (.text "VFOA"))).run link port
      noisy).result = .error .undecodable := by
    rw [shape]
    change ((rest _).run link port _).result = _
    rw [told, failing]
    rfl
  rw [Rig.carryOut_eq]
  unfold Outcome.withRig
  rw [ran]

/-- What the tool is asked for by `--get-freq` on the first VFO. -/
def frequencyOfFirst : CommandLine.Options :=
  { CommandLine.Options.initial "/dev/ttyUSB0" 9600 "warn" with vfo := "VFOA", showFrequency := true }

theorem session_noisy (link : Link) :
    (CommandLine.session link port (.closed .warn) frequencyOfFirst noisy).1.result =
      .error .undecodable := by
  have asked : ∃ print, CommandLine.tasks frequencyOfFirst =
      [⟨.ok (.frequency (.text "VFOA")), print⟩] := ⟨_, rfl⟩
  obtain ⟨print, asked⟩ := asked
  have identified : CommandLine.showModel link port frequencyOfFirst.showId noisy =
      ⟨.ok "", [], noisy⟩ := rfl
  unfold CommandLine.session
  dsimp only
  rw [identified, asked]
  unfold CommandLine.carryOutTasks
  dsimp only
  rw [carryOut_noisy]
  rfl

/-- One byte of noise is neither an answer nor a fault of the radio to whoever asks, and the command line
tool ends with it and without an exit status. -/
theorem noise_ends_the_tool :
    ((⟨8, 3, 3⟩ : Link).exchange port "ME 998" noisy).result = .error .undecodable ∧
      ((Rig.closed .warn).opened.carryOut ⟨8, 3, 3⟩ port (.frequency (.text "VFOA")) noisy).1.result =
        .error .undecodable ∧
      (CommandLine.usePort port .empty frequencyOfFirst ⟨Level.warning, true, "", none, []⟩
        noisy).ending = .error (.rig .undecodable) := by
  refine ⟨exchange_spoilt_iff.mpr (spoils_noisy _), carryOut_noisy _, ?_⟩
  have policy : Policy.check frequencyOfFirst.policy = .ok .warn := rfl
  unfold CommandLine.usePort
  rw [CommandLine.lookFloat_timeout, CommandLine.lookInt_retries, policy]
  dsimp only
  rw [session_noisy]
  rfl

end Simulation.Script

end Transceiver
