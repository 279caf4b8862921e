import Transceiver.CommandLine.Tool
import Transceiver.Proofs.Talking

/-! Runs of the command line tool over a quiet line. What its tasks come to follows from what each of
them comes to with the radio itself, and the exit status from what they come to together. -/
namespace Transceiver

open Dialogue Simulation

namespace CommandLine

/-- Tasks that are carried out with a radio, one after the other and up to the first that fails, come
to this result, print this, and leave the radio like that. -/
inductive Yields : Rig → Radio → List Task → Except Fault Unit → String → Radio → Prop
  | done (rig radio) : Yields rig radio [] (.ok ()) "" radio
  | refused {rig radio task rest why} : task.request = .error why →
      Yields rig radio (task :: rest) (.error (.ofArgument why)) "" radio
  | failed {rig radio radio' task rest request why} : task.request = .ok request →
      (rig.perform request).Talks radio (.error why) radio' →
      Yields rig radio (task :: rest) (.error why) "" radio'
  | unprintable {rig rig' radio radio' task rest request answer why} : task.request = .ok request →
      (rig.perform request).Talks radio (.ok (answer, rig')) radio' → task.print answer = .error why →
      Yields rig radio (task :: rest) (.error why) "" radio'
  | next {rig rig' radio radio' radio'' task rest request answer text result output} :
      task.request = .ok request → (rig.perform request).Talks radio (.ok (answer, rig')) radio' →
      task.print answer = .ok text → Yields rig' radio' rest result output radio'' →
      Yields rig radio (task :: rest) result (text ++ output) radio''

theorem Yields.run {link : Link} (patient : 0 ≤ link.patience) {rig : Rig} {radio radio' : Radio}
    {tasks : List Task} {result : Except Fault Unit} {output : String}
    (h : Yields rig radio tasks result output radio') {s : Bench} (quiet : s.Quiet)
    (same : s.radio = radio) (before : String) (history : List Event) :
    (carryOutTasks link Bench.port rig tasks before history s).1.result = result ∧
      (carryOutTasks link Bench.port rig tasks before history s).2 = before ++ output ∧
      (carryOutTasks link Bench.port rig tasks before history s).1.port.radio = radio' := by
  induction h generalizing s before history with
  | done rig radio => exact ⟨rfl, (String.append_empty ..).symm, same⟩
  | refused asked =>
      unfold carryOutTasks
      rw [asked]
      exact ⟨rfl, (String.append_empty ..).symm, same⟩
  | failed asked talks =>
      obtain ⟨came, -, left, -⟩ := Rig.carryOut_of_talks patient talks quiet same
      unfold carryOutTasks
      rw [asked]
      dsimp only
      rw [came]
      exact ⟨rfl, (String.append_empty ..).symm, left⟩
  | unprintable asked talks printed =>
      obtain ⟨came, -, left, -⟩ := Rig.carryOut_of_talks patient talks quiet same
      unfold carryOutTasks
      rw [asked]
      dsimp only
      rw [came]
      dsimp only [Except.map, Except.bind]
      rw [printed]
      exact ⟨rfl, (String.append_empty ..).symm, left⟩
  | next asked talks printed later ih =>
      obtain ⟨came, kept, left, quiet'⟩ := Rig.carryOut_of_talks patient talks quiet same
      unfold carryOutTasks
      rw [asked]
      dsimp only
      rw [came, kept]
      dsimp only [Except.map, Except.bind]
      rw [printed]
      dsimp only
      rw [← String.append_assoc]
      exact ih quiet' left _ _

/-- How a run on a bench ends, what it prints, and what it leaves of the radio. -/
structure Shows (report : Report Bench) (ending : Except ToolFault Nat) (output : String)
    (radio : Radio) : Prop where
  ending : report.ending = ending
  output : report.output = output
  radio : report.port.radio = radio

/-- The ending of a run whose tasks come to this. -/
def endingOf : Except Fault Unit → Except ToolFault Nat
  | .ok () => .ok 0
  | .error why =>
    match expected why with
    | .ok _ => .ok 1
    | .error why => .error (.rig why)

/-- Options that leave the rig, the port, and the log as they are without any. -/
structure Options.Usual (o : Options) : Prop where
  unlisted : o.listRigs = false
  rig : o.rig = .text "Kenwood_TM-V71"
  baud : o.baud = .int 9600
  policy : o.policy = .text "warn"
  unidentified : o.showId = false
  log : o.log = .initial

variable {o : Options} {result : Except Fault Unit} {output : String} {radio : Radio} {s : Bench}

theorem lookFloat_timeout :
    Settings.empty.lookFloat (.text "serial") (.text "timeout") = ⟨.ok (.finite 1), []⟩ := by
  have found : Settings.empty.look (.text "serial") (.text "timeout") = .ok (some "1.0") := by rfl
  have read : Number.readDecimal? "1.0" = some (.finite 1) := by decide +kernel
  unfold Settings.lookFloat Settings.lookNumber
  rw [found]
  dsimp only [Option.bind]
  rw [read]

theorem lookInt_retries :
    Settings.empty.lookInt (.text "serial") (.text "retries") = ⟨.ok 3, []⟩ := by
  rfl

theorem lookInt_baudrate :
    Settings.empty.lookInt (.text "serial") (.text "baudrate") = ⟨.ok 9600, []⟩ := by
  rfl

/-- The link of a run that has no settings. -/
def usualLink : Link := { patience := ticksOfSeconds (.finite 1), retries := 3 }

theorem usualLink_patient : 0 ≤ usualLink.patience := by decide +kernel

theorem session_eq (usual : o.Usual) (s : Bench) :
    session usualLink Bench.port (.closed .warn) o s =
      carryOutTasks usualLink Bench.port (Rig.closed .warn).opened (tasks o) "" [] s := by
  unfold session showModel
  rw [usual.unidentified]
  rfl

theorem usePort_shows (usual : o.Usual) (quiet : s.Quiet)
    (yields : Yields (Rig.closed .warn).opened s.radio (tasks o) result output radio) (book : Logbook) :
    Shows (usePort Bench.port .empty o book s) (endingOf result) output radio := by
  have policy : Policy.check (.text "warn") = .ok .warn := rfl
  have carried := session_eq usual s
  obtain ⟨came, printed, left⟩ := yields.run usualLink_patient quiet rfl "" []
  rw [← carried] at came printed left
  rw [String.empty_append] at printed
  unfold usualLink at came printed left
  unfold usePort
  rw [lookFloat_timeout, lookInt_retries, usual.policy]
  dsimp only
  rw [policy]
  dsimp only
  rw [came]
  cases result with
  | ok done => exact ⟨rfl, printed, left⟩
  | error why =>
      unfold endingOf
      dsimp only
      cases expected why with
      | ok message => exact ⟨rfl, printed, left⟩
      | error why => exact ⟨rfl, printed, left⟩

theorem work_shows (usual : o.Usual) (quiet : s.Quiet)
    (yields : Yields (Rig.closed .warn).opened s.radio (tasks o) result output radio) (book : Logbook) :
    Shows (work ⟨Bench.port, none⟩ .empty o book s) (endingOf result) output radio := by
  have known : rigs.find (.text "Kenwood_TM-V71") = .ok 1 := by rfl
  obtain ⟨ending, printed, left⟩ := usePort_shows usual quiet yields
    (book.emit (toolNote Level.info ("opening " ++ o.port.shown ++ " at " ++ Number.showInt 9600)))
  unfold work openPort
  rw [usual.unlisted, usual.rig, known, usual.baud]
  exact ⟨ending, printed, left⟩

theorem load_foundSettings (host : Files.Host) (folder : String) (book : Logbook) :
    Settings.load (foundSettings none host folder book) = ⟨.ok .empty, []⟩ := by
  unfold foundSettings
  dsimp only
  split <;> rfl

theorem runWith_shows {arguments : List String}
    (understood : understand switches (.initial "/dev/ttyUSB0" 9600 "warn") arguments = .ok o)
    (usual : o.Usual) (quiet : s.Quiet)
    (yields : Yields (Rig.closed .warn).opened s.radio (tasks o) result output radio)
    (tree : Files.Tree) (book : Logbook) :
    Shows (runWith ⟨Bench.port, none⟩ .empty tree book arguments s) (endingOf result) output radio := by
  have port : Settings.empty.look (.text "serial") (.text "port") = .ok (some "/dev/ttyUSB0") := by rfl
  have policy : Settings.empty.look (.text "rig") (.text "reconcile") = .ok (some "warn") := by rfl
  unfold runWith
  rw [port, policy, lookInt_baudrate]
  dsimp only [Option.getD]
  rw [understood]
  dsimp only
  unfold Logbook.follow
  rw [usual.log]
  exact work_shows usual quiet yields _

/-- A run without settings, whose arguments only say what is done. -/
theorem run_shows {host host' : Files.Host} {folder : String}
    (placed : host.userFolder .null = (.ok folder, host')) {arguments : List String}
    (understood : understand switches (.initial "/dev/ttyUSB0" 9600 "warn") arguments = .ok o)
    (usual : o.Usual) (quiet : s.Quiet)
    (yields : Yields (Rig.closed .warn).opened s.radio (tasks o) result output radio) (book : Logbook) :
    Shows (run ⟨Bench.port, none⟩ none host book arguments s) (endingOf result) output radio := by
  unfold run
  rw [placed]
  dsimp only
  rw [load_foundSettings]
  exact runWith_shows understood usual quiet yields host'.tree _

end CommandLine

end Transceiver
