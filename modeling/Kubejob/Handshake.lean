import Kubejob.Shell
import Mathlib.Logic.Relation

/-!
# The status handshake inside the container

Two processes share `/tmp/kubejob-status`. The wrapper `sh -c jobCommandTemplate`
tests whether the file exists, sleeps and tests again while it does not, then
runs `exit $(cat /tmp/kubejob-status)`. The writer is the second command `Exec`
sends, `sh -c "echo <status> > /tmp/kubejob-status"`: it first opens the file
with `O_CREAT|O_TRUNC` for the redirection and then lets `echo` write its line.

Between the two steps of the writer the file exists and is empty. A wrapper that
tests and reads it there runs `exit` with no operand, which exits with `$?`, the
status of the `while` loop: `0`, whatever the command's outcome was.
-/

namespace Kubejob

namespace Handshake

/-- The file `/tmp/kubejob-status`. The executor's own command is assumed not to
touch it. -/
inductive StatusFile where
  | absent
  | present (content : String)
  deriving DecidableEq, Repr

/-- What `cat` prints for the file: nothing when it is absent. -/
def StatusFile.read : StatusFile → String
  | absent => ""
  | present content => content

/-- Where the wrapper is. -/
inductive WrapperPc where
  /-- About to run `[ ! -f /tmp/kubejob-status ]`. -/
  | test
  /-- In the loop body `sleep 1`. -/
  | sleep
  /-- About to run `exit $(cat /tmp/kubejob-status)`. -/
  | cat
  | exited (code : Nat)
  deriving DecidableEq, Repr

/-- Where the writer is. -/
inductive WriterPc where
  /-- About to open the file for `> /tmp/kubejob-status`. -/
  | redirect
  /-- The file is open and truncated; `echo` has not written. -/
  | echo
  | done
  deriving DecidableEq, Repr

/-- The two program counters and the file. -/
structure State where
  wrapper : WrapperPc
  writer : WriterPc
  file : StatusFile
  deriving DecidableEq, Repr

/-- Before either process has stepped: the file does not exist. -/
def start : State := ⟨.test, .redirect, .absent⟩

/-- A blank for field splitting: the default `IFS` is space, tab, newline. -/
def ifsBlank (c : Char) : Bool := c = ' ' || c = '\t' || c = '\n'

/-- The fields of `$(cat …)`: its output split at blanks, empty fields dropped,
which also removes the trailing newlines. -/
def fields (output : String) : List (List Char) :=
  (output.data.splitOnP ifsBlank).filter fun word => !word.isEmpty

/-- The number a word denotes when it is all decimal digits. -/
def decimal? (word : List Char) : Option Nat :=
  if !word.isEmpty && word.all Char.isDigit then
    some (word.foldl (fun n c => 10 * n + (c.toNat - '0'.toNat)) 0)
  else none

/-- The status `exit $(cat …)` ends the wrapper with when `cat` prints `content`.
With no operand, `exit` uses `$?`, which is `0` after the `while` loop; a numeric
operand exits modulo 256; any other operand is a usage error, status 2. -/
def exitStatus (content : String) : Nat :=
  match fields content with
  | [] => 0
  | word :: _ =>
      match decimal? word with
      | some n => n % 256
      | none => 2

/-- The line the writer `sh -c script` puts in the status file: the script is
`echo` with literal operands, its output redirected with `>` to
`/tmp/kubejob-status`. `none` for any other script. -/
def statusWrite (script : String) : Option String :=
  match (Shell.tokenize script).map List.reverse with
  | some (.word path :: .operator ['>'] :: command) =>
      if Shell.fieldText path = "/tmp/kubejob-status" then
        match Shell.simpleCommandWords command.reverse with
        | some ("echo" :: operands) => some (String.intercalate " " operands ++ "\n")
        | _ => none
      else none
  | _ => none

/-- One step of the wrapper, reading the file. -/
def wrapperStep (file : StatusFile) : WrapperPc → Option WrapperPc
  | .test =>
      match file with
      | .absent => some .sleep
      | .present _ => some .cat
  | .sleep => some .test
  | .cat => some (.exited (exitStatus file.read))
  | .exited _ => none

/-- One step of the writer of `line`, with the file it leaves. -/
def writerStep (line : String) : WriterPc → Option (WriterPc × StatusFile)
  | .redirect => some (.echo, .present "")
  | .echo => some (.done, .present line)
  | .done => none

/-- Either process takes its next step; the writer writes `line`. -/
inductive Step (line : String) : State → State → Prop where
  | wrapper {s : State} {pc : WrapperPc} :
      wrapperStep s.file s.wrapper = some pc → Step line s { s with wrapper := pc }
  | writer {s : State} {pc : WriterPc} {file : StatusFile} :
      writerStep line s.writer = some (pc, file) →
        Step line s { s with writer := pc, file := file }

/-- The states some interleaving of the two processes reaches. -/
def Reachable (line : String) (s : State) : Prop :=
  Relation.ReflTransGen (Step line) start s

/-- What holds in every reachable state: the file follows the writer, and the
wrapper has exited, if at all, with the status of one of the file's contents. -/
structure Invariant (line : String) (s : State) : Prop where
  absent_iff : s.file = .absent ↔ s.writer = .redirect
  truncated : s.writer = .echo → s.file = .present ""
  written : s.writer = .done → s.file = .present line
  exited : ∀ code, s.wrapper = .exited code → code = exitStatus "" ∨ code = exitStatus line

theorem invariant_start (line : String) : Invariant line start :=
  ⟨by simp [start], by simp [start], by simp [start], by simp [start]⟩

theorem file_cases {line : String} {s : State} (inv : Invariant line s) :
    s.file = .absent ∨ s.file = .present "" ∨ s.file = .present line := by
  cases writer : s.writer
  · exact .inl (inv.absent_iff.mpr writer)
  · exact .inr (.inl (inv.truncated writer))
  · exact .inr (.inr (inv.written writer))

theorem invariant_step {line : String} {s t : State} (step : Step line s t)
    (inv : Invariant line s) : Invariant line t := by
  cases step with
  | wrapper next =>
      refine ⟨inv.absent_iff, inv.truncated, inv.written, fun code exited => ?_⟩
      cases pc : s.wrapper <;> rw [pc] at next <;> simp only [wrapperStep] at next
      · split at next <;> cases next <;> cases exited
      · cases next; cases exited
      · cases next; cases exited
        rcases file_cases inv with file | file | file <;> simp [file, StatusFile.read]
      · cases next
  | writer next =>
      refine ⟨?_, ?_, ?_, inv.exited⟩ <;>
        cases pc : s.writer <;> rw [pc] at next <;> simp only [writerStep] at next <;>
        cases next <;> simp

theorem invariant_of_reachable {line : String} {s : State} (reachable : Reachable line s) :
    Invariant line s := by
  induction reachable with
  | refl => exact invariant_start line
  | tail _ step ih => exact invariant_step step ih

@[simp] theorem exitStatus_empty : exitStatus "" = 0 := by decide

/-- `Exec`'s writer puts its status, `0` or `1`, in the file. -/
theorem statusWrite_statusCommand (failed : Bool) :
    statusWrite (String.intercalate " " (statusCommand (if failed then 1 else 0))) =
      some (if failed then "1\n" else "0\n") := by
  cases failed <;> decide

/-- `Exec` sends, after its command, the writer of its command's status. -/
theorem exec_sends_status_writer (e : JobExecutor) (stream : List String → Option GoError) :
    ∃ writer, (e.exec stream).calls = [e.command ++ e.args, writer] ∧
      statusWrite (String.intercalate " " writer) =
        some (if (stream (execRequestCommand (e.command ++ e.args))).isSome then "1\n"
          else "0\n") :=
  ⟨_, JobExecutor.exec_calls e stream, statusWrite_statusCommand _⟩

/-- When the command `Exec` runs fails, `Exec` next sends the writer of `1`, yet
the wrapper can exit with `0`: it tests the file after the writer's redirection
has created it and reads it before `echo` writes. -/
theorem failed_command_exits_zero (e : JobExecutor) (stream : List String → Option GoError)
    (failed : (stream (execRequestCommand (e.command ++ e.args))).isSome) :
    ∃ writer, (e.exec stream).calls = [e.command ++ e.args, writer] ∧
      statusWrite (String.intercalate " " writer) = some "1\n" ∧
      Reachable "1\n" ⟨.exited 0, .echo, .present ""⟩ := by
  obtain ⟨writer, sent, writes⟩ := exec_sends_status_writer e stream
  rw [failed, if_pos rfl] at writes
  have created : Reachable "1\n" ⟨.test, .echo, .present ""⟩ := .single (.writer (by decide))
  have tested : Reachable "1\n" ⟨.cat, .echo, .present ""⟩ := .tail created (.wrapper (by decide))
  exact ⟨writer, sent, writes, .tail tested (.wrapper (by decide))⟩

theorem failed_command_exits_zero_catMissingFile :
    (catMissingFileStream (execRequestCommand ["cat", "fuga"])).isSome ∧
      ∃ writer, (JobExecutor.exec { newExecutor catMissingFileJob
          ⟨"test", "golang:1.17-stretch", ["cat", "fuga"], []⟩ with
            pod := some catMissingFileRunningPod } catMissingFileStream).calls =
          [["cat", "fuga"], writer] ∧
        statusWrite (String.intercalate " " writer) = some "1\n" ∧
        Reachable "1\n" ⟨.exited 0, .echo, .present ""⟩ :=
  ⟨rfl, failed_command_exits_zero _ _ rfl⟩

end Handshake

end Kubejob
