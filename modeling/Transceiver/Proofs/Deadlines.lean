import Transceiver.Proofs.DeclaredFaults
import Transceiver.Proofs.QuietLine

/-! How long an attempt reads. Its answer is there with the first read after which a whole line was
collected, and its time is up with the first one that ends too late; the attempt ends with the earlier
of the two, and with the second if they are one. -/
namespace Transceiver

namespace Reading

def bytes : Reading → List UInt8
  | .arrived bytes _ => bytes
  | .failed _ => []

def ticks : Reading → Nat
  | .arrived _ ticks => ticks
  | .failed _ => 0

end Reading

/-- The first read after which something holds, reads being counted from one. -/
structure FirstRead (p : Nat → Prop) (n : Nat) : Prop where
  some : 0 < n
  holds : p n
  earlier : ∀ i, 0 < i → i < n → ¬ p i

theorem exists_firstRead {p : Nat → Prop} {n : Nat} (some : 0 < n) (holds : p n) :
    ∃ m, m ≤ n ∧ FirstRead p m := by
  induction n using Nat.strongRecOn with
  | ind n ih =>
      by_cases sooner : ∃ i, 0 < i ∧ i < n ∧ p i
      · obtain ⟨i, early, before, found⟩ := sooner
        obtain ⟨m, short, first⟩ := ih i before early found
        exact ⟨m, Nat.le_trans short (Nat.le_of_lt before), first⟩
      · exact ⟨n, Nat.le_refl n, some, holds,
          fun i early before found => sooner ⟨i, early, before, found⟩⟩

section
variable {σ : Type}

namespace Reads

variable (read : σ → Reading × σ) (s : σ)

/-- The state after the first reads. -/
def after : Nat → σ
  | 0 => s
  | n + 1 => (read (after n)).2

/-- What the read after the first `n` brings. -/
def next (n : Nat) : Reading := (read (after read s n)).1

/-- All that the first reads bring. -/
def received : Nat → List UInt8
  | 0 => []
  | n + 1 => received n ++ (next read s n).bytes

/-- The time from the start to the end of the first reads. -/
def elapsed : Nat → Nat
  | 0 => 0
  | n + 1 => elapsed n + (next read s n).ticks

/-- The text collected in the first reads holds the end of a line. -/
def Complete (n : Nat) : Prop :=
  ∃ text, Text.CodePage.decode (received read s n) = some text ∧ terminator ∈ text.toList

def Late (patience : Int) (n : Nat) : Prop := patience < (elapsed read s n : Nat)

def Unbroken (n : Nat) : Prop := ∀ i, i < n → ∀ why, next read s i ≠ .failed why

/-- Each read by itself brings characters. -/
def Legible : Prop := ∀ n, ∃ text, Text.CodePage.decode (next read s n).bytes = some text

/-- After the first reads there is reason to go on: characters came, no end of a line, and in time. -/
structure Open (patience : Int) (n : Nat) : Prop where
  unbroken : Unbroken read s n
  legible : ∃ text, Text.CodePage.decode (received read s n) = some text
  inTime : ∀ i, 0 < i → i ≤ n → ¬ Late read s patience i
  incomplete : ∀ i, i ≤ n → ¬ Complete read s i

end Reads

end

open Reads Text

section
variable {σ : Type}

namespace Reads

variable {read : σ → Reading × σ} {s : σ} {patience : Int}

theorem Legible.decode_ne (legible : Legible read s) {n ticks : Nat} {bytes : List UInt8}
    (brought : next read s n = .arrived bytes ticks) : CodePage.decode bytes ≠ none := by
  obtain ⟨text, decoded⟩ := legible n
  rw [brought] at decoded
  exact Option.ne_none_iff_exists'.mpr ⟨text, decoded⟩

theorem next_of_read {s' t : σ} {n : Nat} {reading : Reading} (here : s' = after read s n)
    (came : read s' = (reading, t)) : next read s n = reading ∧ t = after read s (n + 1) := by
  rw [next, after, ← here, came]
  exact ⟨rfl, rfl⟩

theorem elapsed_succ {n ticks : Nat} {bytes : List UInt8}
    (brought : next read s n = .arrived bytes ticks) :
    elapsed read s (n + 1) = elapsed read s n + ticks := by
  rw [elapsed, brought]
  rfl

theorem decode_succ {n ticks : Nat} {bytes : List UInt8} {text more : String}
    (decoded : CodePage.decode (received read s n) = some text)
    (brought : next read s n = .arrived bytes ticks) (new : CodePage.decode bytes = some more) :
    CodePage.decode (received read s (n + 1)) = some (text ++ more) := by
  rw [received, brought]
  exact CodePage.decode_append.mpr ⟨text, more, decoded, new, rfl⟩

theorem open_zero : Open read s patience 0 where
  unbroken i below := absurd below (Nat.not_lt_zero i)
  legible := ⟨"", rfl⟩
  inTime i early short := absurd early (Nat.not_lt.mpr short)
  incomplete i short := by
    rintro ⟨text, decoded, ended⟩
    obtain rfl := Nat.le_zero.mp short
    cases decoded
    cases ended

/-- A read that brings something, neither too late nor the end of a line, leaves things open. -/
theorem Open.more {n : Nat} (h : Open read s patience n) {bytes : List UInt8} {ticks : Nat}
    {text : String} (brought : next read s n = .arrived bytes ticks)
    (decoded : CodePage.decode (received read s (n + 1)) = some text)
    (inTime : ¬ Late read s patience (n + 1)) (incomplete : ¬ Complete read s (n + 1)) :
    Open read s patience (n + 1) where
  unbroken i below := by
    rcases Nat.lt_succ_iff_lt_or_eq.mp below with earlier | rfl
    · exact h.unbroken i earlier
    · rintro why failed
      cases brought.symm.trans failed
  legible := ⟨text, decoded⟩
  inTime i early short := by
    rcases Nat.le_succ_iff.mp short with earlier | rfl
    · exact h.inTime i early earlier
    · exact inTime
  incomplete i short := by
    rcases Nat.le_succ_iff.mp short with earlier | rfl
    · exact h.incomplete i earlier
    · exact incomplete

end Reads

/-- What a collection comes to. It stays open up to its last read, and that one fails, is spoilt, comes
too late or brings the end of a line. -/
inductive Collected (port : Port σ) (patience : Int) (command : String) (s : σ) :
    Nat → Except Fault String × σ → Prop
  | failed {n why} : Open port.read s patience n → next port.read s n = .failed why →
      Collected port patience command s n
        (.error (.radio (.readFailed why)), after port.read s (n + 1))
  | spoilt {n bytes ticks} : Open port.read s patience n →
      next port.read s n = .arrived bytes ticks → CodePage.decode bytes = none →
      Collected port patience command s n (.error .undecodable, after port.read s (n + 1))
  | late {n bytes ticks text} : Open port.read s patience n →
      next port.read s n = .arrived bytes ticks →
      CodePage.decode (received port.read s (n + 1)) = some text → Late port.read s patience (n + 1) →
      Collected port patience command s n
        (.error (.radio (.timeout command)), after port.read s (n + 1))
  | whole {n bytes ticks text} : Open port.read s patience n →
      next port.read s n = .arrived bytes ticks → ¬ Late port.read s patience (n + 1) →
      CodePage.decode (received port.read s (n + 1)) = some text → terminator ∈ text.toList →
      Collected port patience command s n (.ok text, after port.read s (n + 1))

/-- On a line on which only characters come in, each read brings characters. -/
theorem legible_reads {port : Port σ} {P : σ → Prop} (legible : port.Legible P) {s : σ} (h : P s) :
    Reads.Legible port.read s := by
  have kept (n : Nat) : P (after port.read s n) := by
    induction n with
    | zero => exact h
    | succ n ih => exact legible.read ih
  intro n
  cases came : next port.read s n with
  | failed why => exact ⟨"", rfl⟩
  | arrived bytes ticks => exact CodePage.exists_decode (legible.brings (kept n) came)

namespace Collected

variable {port : Port σ} {patience : Int} {command : String} {s : σ} {n : Nat}
variable {o : Except Fault String × σ}

theorem still (came : Collected port patience command s n o) : Open port.read s patience n := by
  cases came with
  | failed still failed => exact still
  | spoilt still brought undecodable => exact still
  | late still brought decoded late => exact still
  | whole still brought early decoded ended => exact still

theorem left (came : Collected port patience command s n o) : o.2 = after port.read s (n + 1) := by
  cases came <;> rfl

end Collected

theorem collected_of_open {port : Port σ} {patience : Int} {command text : String} {s s' : σ}
    {waited n : Nat} (still : Open port.read s patience n)
    (decoded : CodePage.decode (received port.read s n) = some text)
    (time : waited = elapsed port.read s n) (here : s' = after port.read s n) :
    ∃ m, Collected port patience command s m (port.collect patience command waited text s') := by
  fun_induction port.collect patience command waited text s' generalizing n with
  | case1 waited text s' why t reading =>
      obtain ⟨failed, rfl⟩ := next_of_read here reading
      exact ⟨n, .failed still failed⟩
  | case2 waited text s' bytes ticks t reading undecodable =>
      obtain ⟨brought, rfl⟩ := next_of_read here reading
      exact ⟨n, .spoilt still brought undecodable⟩
  | case3 waited text s' bytes ticks t reading more new late =>
      obtain ⟨brought, rfl⟩ := next_of_read here reading
      rw [time, ← elapsed_succ brought] at late
      exact ⟨n, .late still brought (decode_succ decoded brought new) late⟩
  | case4 waited text s' bytes ticks t reading more new inTime ended =>
      obtain ⟨brought, rfl⟩ := next_of_read here reading
      rw [time, ← elapsed_succ brought] at inTime
      exact ⟨n, .whole still brought inTime (decode_succ decoded brought new)
        (List.contains_iff_mem.mp ended)⟩
  | case5 waited text s' bytes ticks t reading more new inTime unended ih =>
      obtain ⟨brought, same⟩ := next_of_read here reading
      have all := decode_succ decoded brought new
      have incomplete : ¬ Complete port.read s (n + 1) := by
        rintro ⟨found, found', ended⟩
        cases all.symm.trans found'
        exact unended (List.contains_iff_mem.mpr ended)
      rw [time, ← elapsed_succ brought] at inTime
      exact ih (still.more brought all inTime incomplete) all (by rw [time, elapsed_succ brought]) same

theorem collected (port : Port σ) (patience : Int) (command : String) (s : σ) :
    ∃ n, Collected port patience command s n (port.collect patience command 0 "" s) :=
  collected_of_open open_zero rfl rfl rfl

/-- The answer is complete with that read, before the time is up. -/
structure Reads.InTime (read : σ → Reading × σ) (s : σ) (patience : Int) (k : Nat) : Prop where
  complete : FirstRead (Complete read s) k
  before : ∀ m, FirstRead (Late read s patience) m → k < m
  unbroken : Unbroken read s k

/-- The time is up with that read, the answer not being complete sooner. -/
structure Reads.OutOfTime (read : σ → Reading × σ) (s : σ) (patience : Int) (m : Nat) : Prop where
  late : FirstRead (Late read s patience) m
  before : ∀ k, FirstRead (Complete read s) k → m ≤ k
  unbroken : Unbroken read s m

/-- The read after the first `n` fails, with neither the answer complete nor the time up. -/
structure Reads.Breaks (read : σ → Reading × σ) (s : σ) (patience : Int) (n : Nat) (why : String) :
    Prop where
  failed : next read s n = .failed why
  unbroken : Unbroken read s n
  incomplete : ∀ k, FirstRead (Complete read s) k → n < k
  inTime : ∀ m, FirstRead (Late read s patience) m → n < m

section
variable {port : Port σ} {patience : Int} {command : String} {s : σ}

theorem collect_inTime (legible : Legible port.read s) {k : Nat}
    (inTime : InTime port.read s patience k) :
    ∃ text, CodePage.decode (received port.read s k) = some text ∧ terminator ∈ text.toList ∧
      port.collect patience command 0 "" s = (.ok text, after port.read s k) := by
  obtain ⟨n, came⟩ := collected port patience command s
  have sooner : n < k :=
    Nat.lt_of_not_le fun longer => came.still.incomplete k longer inTime.complete.holds
  generalize port.collect patience command 0 "" s = o at came ⊢
  cases came with
  | failed still failed => exact absurd failed (inTime.unbroken n sooner _)
  | spoilt still brought undecodable => exact absurd undecodable (legible.decode_ne brought)
  | late still brought decoded late =>
      obtain ⟨m, short, first⟩ := exists_firstRead n.succ_pos late
      exact absurd (inTime.before m first) (Nat.not_lt.mpr (Nat.le_trans short sooner))
  | whole still brought early decoded ended =>
      have last : n + 1 = k := Nat.le_antisymm sooner <| Nat.le_of_not_lt fun less =>
        inTime.complete.earlier _ n.succ_pos less ⟨_, decoded, ended⟩
      rw [← last]
      exact ⟨_, decoded, ended, rfl⟩

theorem collect_outOfTime (legible : Legible port.read s) {m : Nat}
    (outOfTime : OutOfTime port.read s patience m) :
    port.collect patience command 0 "" s =
      (.error (.radio (.timeout command)), after port.read s m) := by
  obtain ⟨n, came⟩ := collected port patience command s
  have sooner : n < m := Nat.lt_of_not_le fun longer =>
    came.still.inTime m outOfTime.late.some longer outOfTime.late.holds
  generalize port.collect patience command 0 "" s = o at came ⊢
  cases came with
  | failed still failed => exact absurd failed (outOfTime.unbroken n sooner _)
  | spoilt still brought undecodable => exact absurd undecodable (legible.decode_ne brought)
  | late still brought decoded late =>
      have last : n + 1 = m := Nat.le_antisymm sooner <| Nat.le_of_not_lt fun less =>
        outOfTime.late.earlier _ n.succ_pos less late
      rw [last]
  | whole still brought early decoded ended =>
      obtain ⟨k, short, first⟩ :=
        exists_firstRead (p := Complete port.read s) n.succ_pos ⟨_, decoded, ended⟩
      have last : n + 1 = m :=
        Nat.le_antisymm sooner (Nat.le_trans (outOfTime.before k first) short)
      rw [last] at early
      exact absurd outOfTime.late.holds early

theorem collect_breaks (legible : Legible port.read s) {n : Nat} {why : String}
    (breaks : Breaks port.read s patience n why) :
    port.collect patience command 0 "" s =
      (.error (.radio (.readFailed why)), after port.read s (n + 1)) := by
  obtain ⟨i, came⟩ := collected port patience command s
  have sooner : i ≤ n :=
    Nat.le_of_not_lt fun longer => came.still.unbroken n longer why breaks.failed
  generalize port.collect patience command 0 "" s = o at came ⊢
  -- Any other end of the collection would have to come with an earlier read.
  have unread {bytes ticks} (brought : next port.read s i = .arrived bytes ticks) : i + 1 ≤ n := by
    refine Nat.lt_of_le_of_ne sooner ?_
    rintro rfl
    cases brought.symm.trans breaks.failed
  cases came with
  | @failed found still failed =>
      have last : i = n := Nat.le_antisymm sooner <| Nat.le_of_not_lt fun less =>
        breaks.unbroken i less found failed
      subst last
      cases failed.symm.trans breaks.failed
      rfl
  | spoilt still brought undecodable => exact absurd undecodable (legible.decode_ne brought)
  | late still brought decoded late =>
      obtain ⟨m, short, first⟩ := exists_firstRead i.succ_pos late
      exact absurd (breaks.inTime m first)
        (Nat.not_lt.mpr (Nat.le_trans short (unread brought)))
  | whole still brought early decoded ended =>
      obtain ⟨k, short, first⟩ :=
        exists_firstRead (p := Complete port.read s) i.succ_pos ⟨_, decoded, ended⟩
      exact absurd (breaks.incomplete k first)
        (Nat.not_lt.mpr (Nat.le_trans short (unread brought)))

end

namespace Reads

variable {read : σ → Reading × σ} {s : σ} {patience : Int}

/-- Where a read without bytes takes time, so many reads bring so many bytes or take so many ticks. -/
theorem reads_le (busy : ∀ n ticks, next read s n = .arrived [] ticks → 1 ≤ ticks) {n : Nat}
    (unbroken : Unbroken read s n) : n ≤ elapsed read s n + (received read s n).length := by
  induction n with
  | zero => exact Nat.zero_le _
  | succ n ih =>
      have before := ih fun i below => unbroken i (Nat.lt_succ_of_lt below)
      cases came : next read s n with
      | failed why => exact absurd came (unbroken n n.lt_succ_self why)
      | arrived bytes ticks =>
          rw [elapsed, received, came, List.length_append]
          cases bytes with
          | nil =>
              have waited := busy n ticks came
              simp only [Reading.ticks, Reading.bytes, List.length_nil]
              omega
          | cons b more =>
              simp only [Reading.ticks, Reading.bytes, List.length_cons]
              omega

/-- A line that brings so much and no more is not read from for long. -/
theorem Open.few (busy : ∀ n ticks, next read s n = .arrived [] ticks → 1 ≤ ticks) {most : Nat}
    (finite : ∀ n, (received read s n).length ≤ most) {n : Nat} (still : Open read s patience n) :
    n ≤ most + patience.toNat := by
  cases n with
  | zero => exact Nat.zero_le _
  | succ n =>
      have enough := reads_le busy still.unbroken
      have inTime := still.inTime (n + 1) n.succ_pos (Nat.le_refl _)
      have bounded := finite (n + 1)
      unfold Late at inTime
      omega

end Reads

theorem collect_few {port : Port σ} (patience : Int) (command : String) {s : σ}
    (busy : ∀ n ticks, next port.read s n = .arrived [] ticks → 1 ≤ ticks) {most : Nat}
    (finite : ∀ n, (received port.read s n).length ≤ most) :
    ∃ n, n ≤ most + patience.toNat + 1 ∧
      (port.collect patience command 0 "" s).2 = after port.read s n := by
  obtain ⟨n, came⟩ := collected port patience command s
  exact ⟨n + 1, Nat.succ_le_succ (came.still.few busy finite), came.left⟩

/-- A text that holds the end of a line, taken apart there. -/
theorem exists_cut {text : String} (ended : terminator ∈ text.toList) : ∃ front rest : String,
    text = front ++ terminator.toString ++ rest ∧ terminator ∉ front.toList := by
  obtain ⟨front, rest, same, clear⟩ := List.eq_append_cons_of_mem ended
  refine ⟨.ofList front, .ofList rest, ?_, by rwa [String.toList_ofList]⟩
  rw [String.append_assoc, ← String.ofList_toList (s := text), same, ← List.singleton_append,
    String.ofList_append, String.ofList_append]
  rfl

/-- The answer does not depend on what comes after its end. -/
theorem answerOf_extended {text : String} (ended : terminator ∈ text.toList) (more : String) :
    (answerOf (text ++ more)).1 = (answerOf text).1 := by
  obtain ⟨front, rest, rfl, clear⟩ := exists_cut ended
  rw [String.append_assoc, Simulation.Bench.answerOf_append _ clear,
    Simulation.Bench.answerOf_append _ clear]

theorem answerOf_same_stream {stream bytes bytes' : List UInt8} {text text' : String}
    (front : bytes <+: stream) (front' : bytes' <+: stream)
    (decoded : CodePage.decode bytes = some text) (decoded' : CodePage.decode bytes' = some text')
    (ended : terminator ∈ text.toList) (ended' : terminator ∈ text'.toList) :
    (answerOf text).1 = (answerOf text').1 := by
  have shorter {bytes bytes' : List UInt8} {text text' : String} (front : bytes <+: bytes')
      (decoded : CodePage.decode bytes = some text) (decoded' : CodePage.decode bytes' = some text')
      (ended : terminator ∈ text.toList) : (answerOf text).1 = (answerOf text').1 := by
    obtain ⟨rest, rfl⟩ := front
    obtain ⟨first, more, here, -, rfl⟩ := CodePage.decode_append.mp decoded'
    cases decoded.symm.trans here
    exact (answerOf_extended ended more).symm
  rcases List.prefix_or_prefix_of_prefix front front' with less | more
  · exact shorter less decoded decoded' ended
  · exact (shorter more decoded' decoded ended').symm

/-- A command was written, and after it the reads bring characters only. -/
structure Port.Asked (port : Port σ) (command : String) (s s' : σ) : Prop where
  sent : ∃ bytes, CodePage.encode (command ++ terminator.toString) = .ok bytes ∧
    port.write bytes s = (.ok (), s')
  legible : Reads.Legible port.read s'

/-- An attempt whose command was written ends with the read that completes the answer or with the one
that is too late, whichever comes first, and on a tie it is too late; a read that fails before ends it
too. However the bytes of an answer are cut into reads, it is the same answer. A line that brings so
many bytes and no more, without idling at one instant, is read from a bounded number of times. -/
theorem attempt_until_answer_or_deadline (port : Port σ) (patience : Int) (command : String) {s s' : σ}
    (asked : port.Asked command s s') :
    (∀ k, InTime port.read s' patience k → ∃ front rest,
        CodePage.decode (received port.read s' k) = some (front ++ terminator.toString ++ rest) ∧
          terminator ∉ front.toList ∧
          (port.attempt patience command s).result = .ok (Text.trim front) ∧
          (port.attempt patience command s).port = after port.read s' k) ∧
      (∀ m, OutOfTime port.read s' patience m →
        (port.attempt patience command s).result = .error (.radio (.timeout command)) ∧
          (port.attempt patience command s).port = after port.read s' m) ∧
      (∀ n why, Breaks port.read s' patience n why →
        (port.attempt patience command s).result = .error (.radio (.readFailed why)) ∧
          (port.attempt patience command s).port = after port.read s' (n + 1)) ∧
      (∀ {τ : Type} (other : Port τ) (patience' : Int) {t t' : τ} (stream : List UInt8) (k k' : Nat),
        other.Asked command t t' → InTime port.read s' patience k → InTime other.read t' patience' k' →
        received port.read s' k <+: stream → received other.read t' k' <+: stream →
        (port.attempt patience command s).result = (other.attempt patience' command t).result) ∧
      ∀ most, (∀ n ticks, next port.read s' n = .arrived [] ticks → 1 ≤ ticks) →
        (∀ n, (received port.read s' n).length ≤ most) →
        ¬ Open port.read s' patience (most + patience.toNat + 1) ∧
          ∃ n, n ≤ most + patience.toNat + 1 ∧
            (port.attempt patience command s).port = after port.read s' n := by
  obtain ⟨⟨bytes, spelled, written⟩, legible⟩ := asked
  obtain ⟨left, result⟩ := attempt_sent patience spelled (congrArg Prod.fst written)
  rw [written] at result left
  refine ⟨fun k inTime => ?_, fun m outOfTime => ?_, fun n why breaks => ?_,
    fun other patience' t t' stream k k' asked' inTime inTime' front front' => ?_,
    fun most busy finite => ⟨fun still => ?_, ?_⟩⟩
  · obtain ⟨text, decoded, ended, came⟩ := collect_inTime legible inTime
    obtain ⟨front, rest, rfl, clear⟩ := exists_cut ended
    rw [came] at result left
    refine ⟨front, rest, decoded, clear, ?_, left⟩
    rw [result, ← Simulation.Bench.answerOf_append rest clear]
    rfl
  · rw [collect_outOfTime legible outOfTime] at result left
    exact ⟨result, left⟩
  · rw [collect_breaks legible breaks] at result left
    exact ⟨result, left⟩
  · obtain ⟨⟨bytes', spelled', written'⟩, legible'⟩ := asked'
    obtain ⟨-, result'⟩ := attempt_sent patience' spelled' (congrArg Prod.fst written')
    rw [written'] at result'
    obtain ⟨text, decoded, ended, came⟩ := collect_inTime legible inTime
    obtain ⟨text', decoded', ended', came'⟩ := collect_inTime legible' inTime'
    rw [result, result', came, came']
    exact congrArg Except.ok (answerOf_same_stream front front' decoded decoded' ended ended')
  · exact absurd (still.few busy finite) (Nat.not_le.mpr (Nat.lt_succ_self _))
  · obtain ⟨n, few, same⟩ := collect_few patience command busy finite
    exact ⟨n, few, left.trans same⟩

end

namespace Simulation.Script

/-- A refusal that comes whole, but nine ticks after the command. -/
def tardy : Script := ofArrivals [.data [0x4E, 13] 9] []

theorem asked_tardy : port.Asked "ID" tardy (port.write [0x49, 0x44, 13] tardy).2 where
  sent := ⟨[0x49, 0x44, 13], rfl, rfl⟩
  legible := by
    refine legible_reads legible_port ⟨fun b member => absurd member List.not_mem_nil, ?_⟩
    intro bytes ticks member b inside
    cases List.mem_singleton.mp member
    have known : [0x4E, 13].all (fun b => (CodePage.decodeByte b).isSome) = true := by decide
    exact List.all_eq_true.mp known b inside

theorem complete_tardy :
    FirstRead (Complete port.read (port.write [0x49, 0x44, 13] tardy).2) 1 where
  some := Nat.one_pos
  holds := ⟨"N\r", rfl, by decide⟩
  earlier i early before := absurd before (Nat.not_lt.mpr early)

theorem late_tardy_iff {patience : Int} :
    Late port.read (port.write [0x49, 0x44, 13] tardy).2 patience 1 ↔ patience < 9 := Iff.rfl

/-- With nine ticks of patience it is an answer, and with eight it is too late, complete as it is. -/
theorem attempt_until_answer_or_deadline_tardy :
    (∃ reply, (port.attempt 9 "ID" tardy).result = .ok reply) ∧
      (port.attempt 8 "ID" tardy).result = .error (.radio (.timeout "ID")) := by
  have unbroken : Unbroken port.read (port.write [0x49, 0x44, 13] tardy).2 1 := by
    intro i below why
    obtain rfl := Nat.lt_one_iff.mp below
    rintro ⟨⟩
  constructor
  · obtain ⟨answered, -⟩ := attempt_until_answer_or_deadline port 9 "ID" asked_tardy
    obtain ⟨front, rest, -, -, came, -⟩ := answered 1 {
      complete := complete_tardy
      before := by
        intro m first
        refine Nat.lt_of_le_of_ne first.some ?_
        rintro rfl
        exact absurd (late_tardy_iff.mp first.holds) (by decide)
      unbroken := unbroken }
    exact ⟨_, came⟩
  · obtain ⟨-, late, -⟩ := attempt_until_answer_or_deadline port 8 "ID" asked_tardy
    exact (late 1 {
      late := ⟨Nat.one_pos, late_tardy_iff.mpr (by decide),
        fun i early before => absurd before (Nat.not_lt.mpr early)⟩
      before := fun k first => first.some
      unbroken := unbroken }).1

end Simulation.Script

end Transceiver
