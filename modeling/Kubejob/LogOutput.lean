import Kubejob.LogStreamPod
import Kubejob.Run

/-!
# What `Run` does with the events it receives

`Run` starts one goroutine that ranges over `containerLogs` for as long as the
process runs. With a logger it passes every event to the logger; without one it
writes the text of every event that is not a finished event to stderr with
`fmt.Fprintf(os.Stderr, "%s", containerLog.Log)`. The events it receives are the
trace of `LogStreamPod`, so what reaches stderr for a container follows from
what `logStreamPod` delivers of it, and, through the result `Run` returns, from
how its `logStreamPod` task ended.
-/

namespace Kubejob

namespace LogOutput

open LogStream LogStreamPod

/-- One effect of the body of `Run`'s consumer loop. -/
inductive Output where
  /-- `j.logger(containerLog)`. -/
  | logger (containerLog : ContainerLog)
  /-- `fmt.Fprintf(os.Stderr, "%s", text)`. -/
  | stderr (text : String)

/-- The body of the consumer loop for one received event. -/
def consumeLog (j : Job) (containerLog : ContainerLog) : List Output :=
  if j.logger.isSome then [.logger containerLog]
  else if !containerLog.isFinished then [.stderr containerLog.log]
  else []

/-- The consumer loop over the events it has received, in order. -/
def consume (j : Job) (received : List ContainerLog) : List Output :=
  received.flatMap (consumeLog j)

/-- The bytes one effect writes to stderr. -/
def Output.stderrData : Output → List Char
  | .logger _ => []
  | .stderr text => text.data

/-- The bytes the effects write to stderr, in order. -/
def stderrText (outputs : List Output) : List Char :=
  outputs.flatMap Output.stderrData

@[simp] theorem stderrText_append (outputs outputs' : List Output) :
    stderrText (outputs ++ outputs') = stderrText outputs ++ stderrText outputs' := by
  simp [stderrText]

@[simp] theorem consume_append (j : Job) (received received' : List ContainerLog) :
    consume j (received ++ received') = consume j received ++ consume j received' := by
  simp [consume]

/-- Without a logger, the consumer writes the text of each event that is not a
finished event. -/
theorem stderrText_consume {j : Job} (noLogger : j.logger = none)
    (received : List ContainerLog) :
    stderrText (consume j received) =
      (received.filter fun containerLog => !containerLog.isFinished).flatMap
        fun containerLog => containerLog.log.data := by
  induction received with
  | nil => rfl
  | cons containerLog received ih =>
      rw [← List.singleton_append, consume_append, stderrText_append, ih]
      cases finished : containerLog.isFinished <;>
        simp [consume, consumeLog, noLogger, finished, stderrText, Output.stderrData]

section Stderr

variable {j : Job} {pod : Pod} {logs : String → StreamInput}

/-- Once a call of `logStreamContainer` has returned `nil`, with no logger set,
what the consumer writes to stderr for its events is the command line and the
log up to and including the last newline, each when enabled. -/
theorem stderrText_of_stream_returned_nil {setup : Setup} {st : State}
    (reachable : Reachable setup (streamContent logs setup) st)
    (returned : st.main = .returned none) (noLogger : j.logger = none) :
    stderrText (consume j st.delivered) =
      (if setup.enabledCommandLog then (commandLog setup.pod setup.container).log.data else []) ++
        (if setup.enabledLog then (newlineSegments (streamContent logs setup)).flatten
          else []) := by
  obtain ⟨finished, -, delivered⟩ := returned_nil_delivers_whole_log reachable returned
  rw [delivered, stderrText_consume noLogger]
  cases command : setup.enabledCommandLog <;> cases enabled : setup.enabledLog <;>
    simp [command, enabled, commandLogs, commandLog, lineLog, finishedLog, List.filter_map,
      Function.comp_def, List.flatMap_def]

/-- In every interleaving, once `logStreamPod` has returned `nil` and with no
logger set, what the consumer has written to stderr for the events of each
container is its command line when the command log is enabled, followed, when
its log is enabled, by its log up to and including the last newline. -/
theorem returned_nil_writes_every_line {s : PodState} (reachable : PodReachable j pod logs s)
    (returned : s.main = .returned none) (noLogger : j.logger = none) {index : Nat}
    {setup : Setup} (setupAt : (streamSetups j pod logs)[index]? = some setup) :
    stderrText (consume j (eventsOf s.trace index)) =
      (if setup.enabledCommandLog then (commandLog setup.pod setup.container).log.data else []) ++
        (if setup.enabledLog then (newlineSegments (streamContent logs setup)).flatten
          else []) := by
  obtain ⟨st, streamReachable, streamReturned, events⟩ :=
    streamAt_of_returned_nil reachable returned setupAt
  rw [events, stderrText_of_stream_returned_nil streamReachable streamReturned noLogger]

theorem returned_nil_writes_every_line_readyThenHello :
    ∃ s, PodReachable logAllJob readyThenHelloPod readyThenHelloLogs s ∧
      s.main = .returned none ∧ logAllJob.logger = none ∧
      stderrText (consume logAllJob (eventsOf s.trace 1)) = "echo hello\nhello\n".data := by
  obtain ⟨s, reachable, returned⟩ :=
    pod_reaches_returned_nil logAllJob readyThenHelloPod readyThenHelloLogs
  exact ⟨s, reachable, returned, rfl, (@returned_nil_writes_every_line logAllJob readyThenHelloPod
    readyThenHelloLogs s reachable returned rfl 1 _ rfl).trans (by decide)⟩

/-- When `Run` returns nil with no logger set, the `logStreamPod` task it started
has returned nil; in every interleaving of the pod's calls that ends as that task
did, the consumer has written to stderr, for each container, its command line
when the command log is enabled, followed, when its log is enabled, by its log
up to and including the last newline. -/
theorem run_nil_writes_every_line {cluster : Cluster} {s : PodState}
    (reachable : PodReachable j pod logs s) (task : s.main = .returned cluster.logStreamPod)
    (started : WatchEffect.logStream ∈ (watched j cluster).1.effects)
    (returnedNil : j.run cluster = .returned none) (noLogger : j.logger = none) {index : Nat}
    {setup : Setup} (setupAt : (streamSetups j pod logs)[index]? = some setup) :
    stderrText (consume j (eventsOf s.trace index)) =
      (if setup.enabledCommandLog then (commandLog setup.pod setup.container).log.data else []) ++
        (if setup.enabledLog then (newlineSegments (streamContent logs setup)).flatten
          else []) := by
  rw [logStreamPod_nil_of_run_nil j cluster started returnedNil] at task
  obtain ⟨st, streamReachable, streamReturned, events⟩ :=
    streamAt_of_returned_nil reachable task setupAt
  rw [events, stderrText_of_stream_returned_nil streamReachable streamReturned noLogger]

/-- A run of `logAllJob` whose watch sees `readyThenHelloPod` succeed; every call
succeeds and the context does not end. -/
def helloSucceeded : Cluster where
  createJob := none
  watch := none
  events := [podEvent (.modified, { readyThenHelloPod with status := ⟨podSucceeded, [], []⟩ })]
  doneAt := 1
  ctxErr := .canceled
  logStreamPod := none
  logStreamFirst := false
  deleteJob := none
  listPods := .ok []
  deletePod := fun _ => none

theorem run_nil_writes_every_line_helloSucceeded :
    ∃ s, PodReachable logAllJob readyThenHelloPod readyThenHelloLogs s ∧
      s.main = .returned helloSucceeded.logStreamPod ∧
      WatchEffect.logStream ∈ (watched logAllJob helloSucceeded).1.effects ∧
      logAllJob.run helloSucceeded = .returned none ∧ logAllJob.logger = none ∧
      stderrText (consume logAllJob (eventsOf s.trace 1)) = "echo hello\nhello\n".data := by
  obtain ⟨s, reachable, returned⟩ :=
    pod_reaches_returned_nil logAllJob readyThenHelloPod readyThenHelloLogs
  have started : WatchEffect.logStream ∈ (watched logAllJob helloSucceeded).1.effects := by decide
  have returnedNil : logAllJob.run helloSucceeded = .returned none := by decide
  exact ⟨s, reachable, returned, started, returnedNil, rfl,
    (@run_nil_writes_every_line logAllJob readyThenHelloPod readyThenHelloLogs helloSucceeded s
      reachable returned started returnedNil rfl 1 _ rfl).trans (by decide)⟩

end Stderr

/-- `RunWithExecutionHandler` disables the command log of the job it runs: in
every interleaving, each event the consumer receives from a regular container,
whose command is now the wrapper `sh -c jobCommandTemplate`, is one of its log
lines, in order, or a finished event, and never a command log line. -/
theorem prepared_job_logs_no_wrapper_command (j : Job)
    (handler : List JobExecutor → Option GoError) {pod : Pod} {logs : String → StreamInput}
    {s : PodState} (reachable : PodReachable (j.prepareExecution handler).2 pod logs s)
    {index : Nat} {setup : Setup} (regular : pod.spec.initContainers.length ≤ index)
    (setupAt : (streamSetups (j.prepareExecution handler).2 pod logs)[index]? = some setup) :
    ∃ lines finished,
      lines <+:
        (if j.disabledContainerLog then [] else newlineSegments (streamContent logs setup)) ∧
      eventsOf s.trace index =
        lines.map (lineLog setup) ++ List.replicate finished (finishedLog setup) := by
  rcases eventsOf_of_setup reachable setupAt with ⟨-, none⟩ | ⟨st, -, streamReachable, events⟩
  · exact ⟨[], 0, List.nil_prefix, none⟩
  obtain ⟨command, lines, finished, commandPrefix, linesPrefix, delivered⟩ :=
    delivered_in_order streamReachable
  obtain ⟨commandOff, logSwitch⟩ := streamSetups_regular regular setupAt
  have noCommand : commandLogs setup = [] := by
    simp [commandLogs, commandOff, Job.prepareExecution, Job.enabledCommandLog,
      Job.disableCommandLog]
  rw [noCommand, List.prefix_nil] at commandPrefix
  subst commandPrefix
  refine ⟨lines, finished, ?_, by simpa [events] using delivered⟩
  cases disabled : j.disabledContainerLog <;>
    simpa [logSwitch, disabled, Job.prepareExecution, Job.disableCommandLog] using linesPrefix

theorem prepared_job_logs_no_wrapper_command_readyThenHello :
    ∃ s, PodReachable (logAllJob.prepareExecution fun _ => none).2 readyThenHelloPod
        readyThenHelloLogs s ∧ s.main = .returned none ∧
      readyThenHelloPod.spec.initContainers.length ≤ 1 ∧ ∃ lines finished,
        lines <+: ["hello\n".data] ∧
        eventsOf s.trace 1 =
          lines.map (lineLog ⟨readyThenHelloPod, helloContainer, false, true, none⟩) ++
          List.replicate finished
            (finishedLog ⟨readyThenHelloPod, helloContainer, false, true, none⟩) := by
  obtain ⟨s, reachable, returned⟩ := pod_reaches_returned_nil
    (logAllJob.prepareExecution fun _ => none).2 readyThenHelloPod readyThenHelloLogs
  exact ⟨s, reachable, returned, by decide, @prepared_job_logs_no_wrapper_command logAllJob
    (fun _ => none) readyThenHelloPod readyThenHelloLogs s reachable 1 _ (by decide) rfl⟩

end LogOutput

end Kubejob
