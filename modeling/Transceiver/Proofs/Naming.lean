import Transceiver.Proofs.ReadBack
import Transceiver.Proofs.VfoMemory

/-! Memory names on a radio. A name is stored as it was sent. Where it is read back, the blanks at its
end are gone, with those at the end of the line. -/
namespace Transceiver

open Dialogue Record Simulation

theorem isName_trimEnd {name : String} (h : isName name = true) : isName (Text.trimEnd name) = true := by
  obtain ⟨short, characters⟩ := (Bool.and_eq_true _ _).mp h
  have front := Text.dropTrailingBlanks_prefix name.toList
  refine (Bool.and_eq_true _ _).mpr ⟨?_, ?_⟩
  · have fits : name.length ≤ nameLength := of_decide_eq_true short
    have fewer := front.length_le
    rw [← Text.toList_trimEnd, String.length_toList, String.length_toList] at fewer
    exact decide_eq_true (Nat.le_trans fewer fits)
  · refine List.all_eq_true.mpr fun c member => ?_
    rw [Text.toList_trimEnd] at member
    exact List.all_eq_true.mp characters c (front.subset member)

/-- A name ends in no blank exactly if it ends in no space. -/
theorem trimEnd_name {name : String} (h : isName name = true) :
    Text.trimEnd name = name ↔ name.toList.getLast? ≠ some ' ' := by
  rw [Text.trimEnd_eq_self]
  cases last : name.toList.getLast? with
  | none => simp
  | some c =>
      have range := (isField_name h c (List.mem_of_getLast? last)).1
      simp only [Option.all_some, Bool.not_eq_true', ne_eq, Option.some.injEq]
      constructor
      · rintro solid rfl
        cases solid
      · intro other
        have code : c.toNat ≠ 0x20 := fun same => other (Char.toNat_inj.mp same)
        exact isBlank_of_solid (by omega)

theorem MemoryName.parse_unnamed (channel : Fin 1000) :
    MemoryName.parse ("MN" ++ " " ++ channelDigits channel) = .ok ⟨channel, ""⟩ := by
  have front : Text.startsWith "MN " ("MN" ++ " " ++ channelDigits channel) = true := by
    simp [Text.startsWith]
  have rest : Text.drop 3 ("MN" ++ " " ++ channelDigits channel) = channelDigits channel := by
    simp [Text.drop]
  have parted : Text.cut ',' (channelDigits channel) = (channelDigits channel, none) :=
    Text.cut_of_not_mem fun comma => by cases Number.isDigit_of_mem_padded comma
  have read : ∀ reply, number 1000 reply (channelDigits channel) = .ok channel :=
    fun reply => number_padded reply channel (by decide) (by decide)
  have short : ¬ nameLength < ("" : String).length := by decide
  unfold MemoryName.parse
  simp only [front, rest, parted, read, Bool.not_true, Bool.false_eq_true, if_false, Option.getD_none,
    if_neg short]
  rfl

/-- How a radio tells a name; without one the channel stands alone. -/
def nameText (channel : Fin 1000) (name : String) : String :=
  channelDigits channel ++ (if name = "" then "" else "," ++ name)

namespace Simulation.Radio

theorem nameReply_eq {r : Radio} {channel : Fin 1000} {name : String}
    (named : (r.names.get? channel.val).getD "" = name) :
    r.nameReply channel.val = "MN" ++ " " ++ nameText channel name := by
  have written : Number.paddedInt 3 (channel.val : Int) = channelDigits channel := rfl
  have line : "MN " = "MN" ++ " " := by rfl
  rw [nameReply, named, written, line, nameText, String.append_assoc]

theorem isSolid_channel (channel : Fin 1000) : IsSolid (channelDigits channel) :=
  fun _ member => Number.solid_of_isDigit (Number.isDigit_of_mem_padded member)

theorem channelDigits_ne (channel : Fin 1000) : channelDigits channel ≠ "" := by
  intro none
  exact Number.padded_ne_nil 3 channel.val (congrArg String.toList none)

theorem lineText_named (channel : Fin 1000) (name : String) :
    lineText "MN" [channelDigits channel, name] =
      "MN" ++ " " ++ channelDigits channel ++ "," ++ name := by
  have joined : lineText "MN" [channelDigits channel, name] =
      "MN" ++ " " ++ (channelDigits channel ++ "," ++ name) := rfl
  rw [joined]
  simp only [String.append_assoc]

theorem trim_named (channel : Fin 1000) (name : String) :
    Text.trim (lineText "MN" [channelDigits channel, name]) =
      lineText "MN" [channelDigits channel, Text.trimEnd name] := by
  rw [lineText_named, lineText_named]
  refine Text.trim_append ⟨'M', 'N' :: ' ' :: ((channelDigits channel).toList ++ [',']), ?_, by decide⟩
    ?_ name
  · simp
  · have comma : ",".toList = [','] := rfl
    rw [String.toList_append, comma, List.getLast?_concat]
    decide

/-- Where a radio tells a name, the name is read without the blanks at its end. -/
theorem talks_named {command : Command} {r r' : Radio} {channel : Fin 1000} {name : String}
    (valid : isName name = true) (worded : IsPrintable command.line)
    (replied : r.answer command.line = ("MN" ++ " " ++ nameText channel name, r')) :
    (inquiry command MemoryName.parse).Talks r (.ok ⟨channel, Text.trimEnd name⟩) r' := by
  by_cases unnamed : name = ""
  · subst unnamed
    have bare : nameText channel "" = channelDigits channel := by
      simp [nameText]
    rw [bare] at replied
    have talks : (inquiry command MemoryName.parse).Talks r
        (MemoryName.parse ("MN" ++ " " ++ channelDigits channel)) r' :=
      talks_reply worded replied (by decide) (by decide) (isSolid_channel channel)
        (channelDigits_ne channel)
    rwa [MemoryName.parse_unnamed] at talks
  · have spelled : "MN" ++ " " ++ nameText channel name =
        lineText "MN" [channelDigits channel, name] := by
      rw [lineText_named, nameText, if_neg unnamed]
      simp only [String.append_assoc]
    rw [spelled] at replied
    have clear := (Wording.setName (digits_channel channel) valid).isPrintable
    have talks : (inquiry command MemoryName.parse).Talks r
        ((Link.accepted command.line (Text.trim (lineText "MN" [channelDigits channel, name]))).bind
          MemoryName.parse) r' := Talks.inquiry_trimmed worded replied clear
    have accepted : Link.accepted command.line
        (lineText "MN" [channelDigits channel, Text.trimEnd name]) =
          .ok (lineText "MN" [channelDigits channel, Text.trimEnd name]) := accepted_reply _ _ _
    have parsed : MemoryName.parse (lineText "MN" [channelDigits channel, Text.trimEnd name]) =
        .ok ⟨channel, Text.trimEnd name⟩ :=
      MemoryName.parse_line channel ⟨Text.trimEnd name, isName_trimEnd valid⟩
    have passed : ∀ line, (Except.ok line : Except Fault String).bind MemoryName.parse =
        MemoryName.parse line := fun _ => rfl
    rw [trim_named, accepted, passed, parsed] at talks
    exact talks

theorem comma_not_mem_name {name : String} (valid : isName name = true) : ',' ∉ name.toList :=
  fun comma => (isField_name valid ',' comma).2 rfl

/-- The radio with a name stored for a channel. -/
def label (r : Radio) (channel : Fin 1000) (name : String) : Radio :=
  { r with names := r.names.put channel.val name }

theorem answer_writeName (r : Radio) (channel : Fin 1000) (name : StorableName) :
    r.answer (Command.writeName channel (.storable name)).line =
      ("MN" ++ " " ++ nameText channel name.val, r.label channel name.val) := by
  have line : (Command.writeName channel (.storable name)).line =
      lineText "MN" [channelDigits channel, name.val] := rfl
  have full : Text.join "," [channelDigits channel, name.val] ≠ "" := by
    intro none
    have chars := congrArg String.toList none
    simp [Text.join] at chars
  have whole : ∀ field ∈ [channelDigits channel, name.val], ',' ∉ field.toList := by
    intro field member
    simp only [List.mem_cons, List.not_mem_nil, or_false] at member
    rcases member with rfl | rfl
    · exact fun comma => by cases Number.isDigit_of_mem_padded comma
    · exact comma_not_mem_name name.property
  have stored : ((r.label channel name.val).names.get? channel.val).getD "" = name.val := by
    rw [label, Table.get?_put_self]
    rfl
  have read : Number.readInt? (channelDigits channel) = some (channel.val : Int) :=
    readInt?_channel channel
  have told : r.answer (lineText "MN" [channelDigits channel, name.val]) =
      (r.answerName [channelDigits channel, name.val]).getD ("?", r) :=
    r.answer_lineText (by decide) (by simp) whole full
  rw [line, told]
  simp only [answerName, List.head?_cons, Option.bind_eq_bind, Option.bind_some, read,
    List.getElem?_cons_succ, List.getElem?_cons_zero, Option.pure_def, Option.getD_some]
  exact congrArg (Prod.mk · _) (nameReply_eq stored)

theorem answer_readName {r : Radio} {channel : Fin 1000} {name : String}
    (named : (r.names.get? channel.val).getD "" = name) :
    r.answer (Command.readName channel).line = ("MN" ++ " " ++ nameText channel name, r) := by
  have line : (Command.readName channel).line = lineText "MN" [channelDigits channel] := rfl
  have read : Number.readInt? (channelDigits channel) = some (channel.val : Int) :=
    readInt?_channel channel
  have told : r.answer (lineText "MN" [channelDigits channel]) =
      (r.answerName [channelDigits channel]).getD ("?", r) :=
    r.answer_numbers (by decide) (by simp) fun _ => one_number
  rw [line, told]
  simp only [answerName, List.head?_cons, Option.bind_eq_bind, Option.bind_some, read,
    List.getElem?_cons_succ, List.getElem?_nil, Option.pure_def, Option.getD_some]
  exact congrArg (Prod.mk · r) (nameReply_eq named)

theorem speaks_writeName (r : Radio) (channel : Fin 1000) (name : StorableName) :
    (writeName channel (.storable name)).Speaks r [.writeName channel (.storable name)]
      (.ok ⟨channel, Text.trimEnd name.val⟩) (r.label channel name.val) := by
  have asked : writeName channel (.storable name) =
      inquiry (.writeName channel (.storable name)) MemoryName.parse := ask_bind_eq _ _
  have worded : IsPrintable (Command.writeName channel (.storable name)).line :=
    (Wording.setName (digits_channel channel) name.property).isPrintable
  rw [asked]
  exact Speaks.inquiry (talks_named name.property worded (r.answer_writeName channel name))

theorem speaks_readName {r : Radio} {channel : Fin 1000} {name : String}
    (named : (r.names.get? channel.val).getD "" = name) (valid : isName name = true) :
    (readName channel).Speaks r [.readName channel] (.ok ⟨channel, Text.trimEnd name⟩) r := by
  have asked : readName channel = inquiry (.readName channel) MemoryName.parse := ask_bind_eq _ _
  have worded : IsPrintable (Command.readName channel).line :=
    (Wording.name (digits_channel channel)).isPrintable
  rw [asked]
  exact Speaks.inquiry (talks_named valid worded (answer_readName named))

end Simulation.Radio

end Transceiver
