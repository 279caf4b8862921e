import Transceiver.Proofs.Lagging

/-! Replies in step with commands. With nothing on the way, a command that is answered in time leaves
nothing on the way, so that replies stay in step until one is late. From then on they may not be. -/
namespace Transceiver

/-- The command was sent once at most, and not in vain. -/
def Outcome.InTime {σ : Type} (o : Outcome σ String) : Prop :=
  o.writes.length ≤ 1 ∧ ∀ why, o.result = .error why → ¬ why.Late

namespace Link

variable {σ : Type}

/-- The port after exchanges one after the other. -/
def after (link : Link) (port : Port σ) : List String → σ → σ
  | [], s => s
  | command :: rest, s => link.after port rest (link.exchange port command s).port

/-- Every exchange of a run is in time. -/
def InTime (link : Link) (port : Port σ) : List String → σ → Prop
  | [], _ => True
  | command :: rest, s =>
    (link.exchange port command s).InTime ∧
      link.InTime port rest (link.exchange port command s).port

end Link

/-- What is on the way is the end of the answers to these turns, all that were heard since. -/
structure Port.Answering.Behind {σ : Type} {port : Port σ} (radio : port.Answering)
    (base : List Answered) (s : σ) (turns : List Answered) : Prop where
  heard : radio.heard s = base ++ turns
  single : ∀ turn ∈ turns, 13 ∉ turn.answer
  waiting : ∃ before, ended turns = before ++ radio.coming s

/-- What comes of an exchange, whether or not its command can be spelled. -/
structure Exchanged {σ : Type} {port : Port σ} (radio : port.Answering) (command : String) (s : σ)
    (o : Outcome σ String) (own : List Answered) : Prop where
  heard : radio.heard o.port = radio.heard s ++ own
  writes : o.writes = own.map fun turn => turn.line ++ [13]
  spelled : ∀ turn ∈ own, Text.CodePage.encode command = .ok turn.line
  single : ∀ turn ∈ own, 13 ∉ turn.answer
  kept : ∃ taken, radio.coming s ++ ended own = taken ++ radio.coming o.port
  sends : ∀ reply, o.Replies reply → ∃ line, Sends radio line s o own
  clean : o.InTime → radio.coming s = [] → radio.coming o.port = []

section
variable {σ : Type} {port : Port σ}

theorem exchanged (radio : port.Answering) (link : Link) {command : String} (unended : Unended command)
    (s : σ) : ∃ own, Exchanged radio command s (link.exchange port command s) own := by
  cases whole : Text.CodePage.encode (command ++ terminator.toString) with
  | error u =>
      obtain ⟨same, silent, why, failed⟩ := exchange_unspelled link port whole s
      refine ⟨[], ?_⟩
      constructor
      · rw [same, List.append_nil]
      · exact silent
      · nofun
      · nofun
      · exact ⟨[], by rw [same]; exact List.append_nil _⟩
      · rintro reply (came | ⟨c, refused⟩)
        · cases failed.symm.trans came
        · cases failed.symm.trans refused
      · exact fun _ clean => by rw [same, clean]
  | ok bytes =>
      obtain ⟨line, spelled, rfl⟩ := Text.CodePage.encode_terminated whole
      obtain ⟨own, sends⟩ := exchange_answering radio whole
        (Text.CodePage.not_mem_encode spelled unended) link s
      refine ⟨own, sends.heard, sends.writes, fun turn member => ?_, sends.single, sends.kept,
        fun _ _ => ⟨line, sends⟩, ?_⟩
      · rw [sends.own turn member, spelled]
      · rintro ⟨few, untimed⟩ clean
        have once : own.length = 1 := by
          have some := List.length_pos_iff.mpr sends.sent
          rw [sends.writes, List.length_map] at few
          omega
        rcases sends.settled with ⟨reply, replies⟩ | ⟨why, failed, late⟩
        · exact (sends.reads clean once replies).1
        · exact absurd late (untimed why failed)

theorem Exchanged.behind {radio : port.Answering} {command : String} {s : σ} {o : Outcome σ String}
    {own base turns : List Answered} (h : Exchanged radio command s o own)
    (behind : radio.Behind base s turns) : radio.Behind base o.port (turns ++ own) := by
  obtain ⟨before, waiting⟩ := behind.waiting
  obtain ⟨taken, kept⟩ := h.kept
  refine ⟨?_, fun turn member => ?_, before ++ taken, ?_⟩
  · rw [h.heard, behind.heard, List.append_assoc]
  · exact (List.mem_append.mp member).elim (behind.single turn) (h.single turn)
  · rw [ended_append, waiting, List.append_assoc, kept, List.append_assoc]

theorem behind_after (radio : port.Answering) (link : Link) {base turns : List Answered}
    {commands : List String} (single : ∀ command ∈ commands, Unended command) {s : σ}
    (behind : radio.Behind base s turns) :
    ∃ turns', radio.Behind base (link.after port commands s) turns' := by
  induction commands generalizing s turns with
  | nil => exact ⟨turns, behind⟩
  | cons command rest ih =>
      obtain ⟨own, exchanged⟩ := exchanged radio link (single command List.mem_cons_self) s
      exact ih (fun other member => single other (List.mem_cons_of_mem command member))
        (exchanged.behind behind)

theorem clean_after (radio : port.Answering) (link : Link) {commands : List String}
    (single : ∀ command ∈ commands, Unended command) {s : σ} (clean : radio.coming s = [])
    (inTime : link.InTime port commands s) : radio.coming (link.after port commands s) = [] := by
  induction commands generalizing s with
  | nil => exact clean
  | cons command rest ih =>
      obtain ⟨own, exchanged⟩ := exchanged radio link (single command List.mem_cons_self) s
      exact ih (fun other member => single other (List.mem_cons_of_mem command member))
        (exchanged.clean inTime.1 clean) inTime.2

/-- Over a port at whose far end every line is answered by one line, every reply is the end of an answer
to a command that was sent. As long as every exchange was in time, it is the end of an answer to a
command of the same exchange, and the whole answer if that was sent once. -/
theorem replies_in_step_while_in_time (radio : port.Answering) (link : Link) {start : σ}
    (clean : radio.coming start = []) (earlier : List String) (command : String)
    (single : ∀ c ∈ earlier ++ [command], Unended c) :
    let s := link.after port earlier start
    let o := link.exchange port command s
    ∃ turns own, radio.heard s = radio.heard start ++ turns ∧
      radio.heard o.port = radio.heard s ++ own ∧
      o.writes = own.map (fun turn => turn.line ++ [13]) ∧
      (∀ turn ∈ own, Text.CodePage.encode command = .ok turn.line) ∧
      ∀ reply, o.Replies reply →
        (∃ turn ∈ turns ++ own, turn.Ends reply) ∧
          (link.InTime port earlier start →
            (∃ turn ∈ own, turn.Ends reply) ∧
              (own.length = 1 → radio.coming o.port = [] ∧ ∃ turn ∈ own, turn.Reads reply)) := by
  intro s o
  have begun : radio.Behind (radio.heard start) start [] :=
    ⟨(List.append_nil _).symm, nofun, [], clean.symm⟩
  have singles : ∀ c ∈ earlier, Unended c := fun c member =>
    single c (List.mem_append_left _ member)
  obtain ⟨turns, behind⟩ := behind_after radio link singles begun
  obtain ⟨own, exchanged⟩ :=
    exchanged radio link (single command (List.mem_append_right _ List.mem_cons_self)) s
  refine ⟨turns, own, behind.heard, exchanged.heard, exchanged.writes, exchanged.spelled,
    fun reply replies => ?_⟩
  obtain ⟨line, sends⟩ := exchanged.sends reply replies
  obtain ⟨before, waiting⟩ := behind.waiting
  refine ⟨sends.ends behind.single waiting replies, fun inTime => ?_⟩
  have quiet := clean_after radio link singles clean inTime
  have nothing : ended [] = [] ++ radio.coming s := quiet.symm
  exact ⟨sends.ends (fun _ none => absurd none List.not_mem_nil) nothing replies,
    fun once => sends.reads quiet once replies⟩

end

theorem reply_in_step_after_delays :
    let link : Link := ⟨8, 3, 3⟩
    let s := link.after Lagging.port ["BC"] ⟨[3, 5], [], []⟩
    let o := link.exchange Lagging.port "BY 0" s
    o.result = .ok "BY 0,0" ∧ Lagging.answering.coming o.port = [] ∧
      ∃ turn ∈ Lagging.answering.heard o.port, turn.Reads "BY 0,0" := by
  have single : ∀ c ∈ ["BC"] ++ ["BY 0"], Unended c := by decide
  obtain ⟨first, between, sent⟩ := Lagging.exchange_in_time ⟨8, 3, 3⟩ ⟨[3, 5], [], []⟩
    Lagging.encode_bc rfl (by decide) rfl (by decide) (by decide)
  obtain ⟨second, -, again⟩ := Lagging.exchange_in_time ⟨8, 3, 3⟩
    ⟨[5], [], [⟨asciiBytes "BC", asciiBytes "BC 0,0"⟩]⟩ Lagging.encode_by rfl (by decide) rfl
    (by decide) (by decide)
  change _ = Except.ok "BC 0,0" at first
  change _ = (⟨[5], [], [⟨asciiBytes "BC", asciiBytes "BC 0,0"⟩]⟩ : Lagging) at between
  change _ = Except.ok "BY 0,0" at second
  rw [← between] at second again
  have inTime : Link.InTime ⟨8, 3, 3⟩ Lagging.port ["BC"] ⟨[3, 5], [], []⟩ := by
    refine ⟨⟨Nat.le_of_eq (congrArg List.length sent), fun why failed => ?_⟩, trivial⟩
    cases first.symm.trans failed
  have clean : Lagging.answering.coming ⟨[3, 5], [], []⟩ = [] := rfl
  intro link s o
  obtain ⟨turns, own, -, heard, writes, -, replies⟩ :=
    replies_in_step_while_in_time Lagging.answering link clean ["BC"] "BY 0" single
  have once : own.length = 1 := by
    have same := congrArg List.length writes
    rw [List.length_map] at same
    exact same.symm.trans (congrArg List.length again)
  obtain ⟨clean', turn, member, reads⟩ := ((replies _ (.inl second)).2 inTime).2 once
  refine ⟨second, clean', turn, ?_, reads⟩
  rw [heard]
  exact List.mem_append_right _ member

/-- An answer that comes too late is taken for the answer to the next command. -/
theorem late_answer_to_another_command :
    let link : Link := ⟨8, 3, 3⟩
    let s := link.after Lagging.port ["BC"] ⟨[9], [], []⟩
    let o := link.exchange Lagging.port "BY 0" s
    o.Replies "BC 0,0" ∧ ∀ own, Lagging.answering.heard o.port = Lagging.answering.heard s ++ own →
      ∀ turn ∈ own, ¬ turn.Reads "BC 0,0" := by
  have between := Lagging.exchange_late ⟨8, 3, 3⟩ ⟨[9], [], []⟩ Lagging.encode_bc rfl
    (by decide) (by decide) (by decide) (by decide) (Value.wholeText_int 3)
  change _ = (⟨[], [(0, asciiBytes "BC 0,0" ++ [13])], _⟩ : Lagging) at between
  intro link s o
  have left : s.queue = [(0, asciiBytes "BC 0,0" ++ [13])] := congrArg Lagging.queue between
  obtain ⟨came, after, -⟩ := Lagging.exchange_in_time link s Lagging.encode_by
    (by rw [left]; rfl) (by decide) rfl (by decide) (Int.natCast_nonneg 8)
  have mine : Lagging.answering.heard o.port = Lagging.answering.heard s ++
      [⟨asciiBytes "BY 0", asciiBytes "BY 0,0"⟩] := congrArg Lagging.heard after
  refine ⟨.inl came, fun own same turn member => ?_⟩
  have only : own = [⟨asciiBytes "BY 0", asciiBytes "BY 0,0"⟩] :=
    List.append_cancel_left (same.symm.trans mine)
  rw [only] at member
  rw [List.mem_singleton.mp member]
  rintro ⟨text, decoded, reply⟩
  have whole : Text.CodePage.decode (asciiBytes "BY 0,0") = some "BY 0,0" := by decide
  cases whole.symm.trans decoded
  exact absurd reply (by decide)

end Transceiver
