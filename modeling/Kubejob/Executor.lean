import Kubejob.FailedJob
import Kubejob.Builder

/-!
# Executors and the status handshake on the caller's side

`RunWithExecutionHandler` keeps each container's command in a `JobExecutor` and
submits the container with the polling wrapper `jobCommandTemplate` instead. When
the pod is running, the callback points every executor at the pod and calls the
handler. `Exec` runs the kept command through the pod's `exec` subresource, then
writes the exit status to `/tmp/kubejob-status`, which ends the wrapper.

A remote command is not run by the model: `stream command` is the error
`e.stream` returns for the exec request whose `PodExecOptions.Command` is
`command`. The command's output goes to the process's own stdout and stderr, so
`exec` returns the bytes of a buffer nothing writes. The model records which
commands `Exec` sends.
-/

namespace Kubejob

/-- `JobExecutor`. `pod` is nil until the running callback sets it; the
transport fields are not modelled. -/
structure JobExecutor where
  container : Container
  pod : Option Pod
  command : List String
  args : List String
  disabledContainerLog : Bool
  disabledCommandLog : Bool
  protocols : List String
  deriving DecidableEq

/-- What one `e.exec(cmd)` returns. -/
structure ExecResult where
  out : String
  err : Option GoError

/-- What `Exec` returns, with the commands it sent through `exec`, in order. -/
structure ExecRun where
  calls : List (List String)
  out : String
  err : Option GoError

theorem intercalate_go_data (acc separator : String) (texts : List String) :
    (String.intercalate.go acc separator texts).data =
      acc.data ++ (texts.map fun text => separator.data ++ text.data).flatten := by
  induction texts generalizing acc with
  | nil => simp [String.intercalate.go]
  | cons text texts ih => simp [String.intercalate.go, ih, List.append_assoc]

theorem intercalate_cons {α : Type} (separator first : List α) (rest : List (List α)) :
    separator.intercalate (first :: rest) = first ++ (rest.map (separator ++ ·)).flatten := by
  induction rest generalizing first with
  | nil => simp [List.intercalate]
  | cons second rest ih =>
      have unfolded : separator.intercalate (first :: second :: rest) =
          first ++ separator ++ separator.intercalate (second :: rest) := by
        simp [List.intercalate, List.intersperse_cons_cons, List.append_assoc]
      simp [unfolded, ih, List.append_assoc]

/-- `strings.Join`, over the characters. -/
theorem intercalate_data (separator : String) (texts : List String) :
    (String.intercalate separator texts).data =
      separator.data.intercalate (texts.map String.data) := by
  cases texts with
  | nil => rfl
  | cons first rest =>
      simp [String.intercalate, intercalate_go_data, intercalate_cons, Function.comp_def]

/-- The `PodExecOptions.Command` that `exec` sends for `cmd`: the words joined
with spaces, run by `sh -c`. -/
def execRequestCommand (cmd : List String) : List String :=
  ["sh", "-c", String.intercalate " " cmd]

/-- The command `Exec` sends to report `status`. -/
def statusCommand (status : Nat) : List String :=
  ["echo", toString status, ">", "/tmp/kubejob-status"]

namespace JobExecutor

/-- `e.exec(cmd)`, named apart from `Exec`: it sends `sh -c` with the words of
`cmd` joined, and returns `buf.Bytes()` of its buffer, which is empty, with the
error of the stream, wrapped. -/
def execCommand (stream : List String → Option GoError) (cmd : List String) : ExecResult :=
  ⟨"", (stream (execRequestCommand cmd)).map (GoError.wrap "faield to exec command")⟩

/-- `Exec`. The failure of the second `exec`, which writes the status, is only
logged. -/
def exec (e : JobExecutor) (stream : List String → Option GoError) : ExecRun :=
  let result := execCommand stream (e.command ++ e.args)
  let status := if result.err.isSome then 1 else 0
  let errTest := if result.err.isSome then some (GoError.failedJob ⟨e.pod⟩) else none
  { calls := [e.command ++ e.args, statusCommand status], out := result.out, err := errTest }

/-- `Exec` sends the kept command, then the status of its outcome: `1` when its
exec request failed, `0` otherwise. -/
theorem exec_calls (e : JobExecutor) (stream : List String → Option GoError) :
    (e.exec stream).calls = [e.command ++ e.args,
      statusCommand
        (if (stream (execRequestCommand (e.command ++ e.args))).isSome then 1 else 0)] := by
  simp [exec, execCommand]

/-- `Exec` fails exactly when its command fails, and then with a `FailedJob`
carrying the executor's pod. -/
theorem exec_err (e : JobExecutor) (stream : List String → Option GoError) :
    (e.exec stream).err =
      (stream (execRequestCommand (e.command ++ e.args))).map
        fun _ => GoError.failedJob ⟨e.pod⟩ := by
  cases result : stream (execRequestCommand (e.command ++ e.args)) <;>
    simp [exec, execCommand, result]

/-- Whatever the command does, `Exec` returns no output: it went to the
process's stdout and stderr. -/
theorem exec_out (e : JobExecutor) (stream : List String → Option GoError) :
    (e.exec stream).out = "" :=
  rfl

end JobExecutor

/-- `jobCommandTemplate`, run as `sh -c jobCommandTemplate`. -/
def jobCommandTemplate : String :=
  "\nwhile [ ! -f /tmp/kubejob-status ]\ndo\n    sleep 1;\ndone\n\nexit $(cat /tmp/kubejob-status)\n"

/-- The protocols offered in negotiation: `rcutil.StreamProtocolV4Name`,
`StreamProtocolV3Name`, `StreamProtocolV2Name` and `StreamProtocolV1Name`. -/
def streamProtocols : List String :=
  ["v4.channel.k8s.io", "v3.channel.k8s.io", "v2.channel.k8s.io", "channel.k8s.io"]

/-- The executor `RunWithExecutionHandler` builds for a container. -/
def newExecutor (j : Job) (container : Container) : JobExecutor where
  container := container
  pod := none
  command := container.command
  args := container.args
  disabledContainerLog := j.disabledContainerLog
  disabledCommandLog := j.disabledCommandLog
  protocols := streamProtocols

/-- The container `RunWithExecutionHandler` submits in place of `container`. -/
def wrapContainer (container : Container) : Container :=
  { container with command := ["sh"], args := ["-c", jobCommandTemplate] }

/-- The executors the running callback hands to the handler. -/
def handedExecutors (executors : List JobExecutor) (pod : Pod) : List JobExecutor :=
  executors.map fun e => { e with pod := some pod }

/-- The `podRunningCallback` that `RunWithExecutionHandler` installs. -/
def executionCallback (executors : List JobExecutor)
    (handler : List JobExecutor → Option GoError) (pod : Pod) : Option GoError :=
  (handler (handedExecutors executors pod)).map (GoError.wrap "failed to handle executors")

namespace Job

/-- What `RunWithExecutionHandler` does to the job before calling `Run`: the
executors it builds and the job it runs. -/
def prepareExecution (j : Job) (handler : List JobExecutor → Option GoError) :
    List JobExecutor × Job :=
  let containers := j.job.template.spec.containers
  let executors := containers.map (newExecutor j)
  let wrapped : Job :=
    { j with job.template.spec.containers := containers.map wrapContainer }
  (executors,
    { wrapped.disableCommandLog with
      podRunningCallback := some (executionCallback executors handler) })

/-- The loop of `RunWithExecutionHandler` from index `idx` on, `remaining`
iterations before its end: it copies container `idx`, appends the executor
built from the copy, then sets that container's `Command` and `Args` to the
wrapper's. -/
def wrapLoop (j : Job) (executors : List JobExecutor) (containers : List Container)
    (idx : Nat) : Nat → List JobExecutor × List Container
  | 0 => (executors, containers)
  | remaining + 1 =>
      let container := containers.getD idx default
      wrapLoop j (executors ++ [newExecutor j container])
        (containers.set idx (wrapContainer container)) (idx + 1) remaining

/-- After its first `done.length` iterations, the loop has built the executors
of `done` and wrapped `done`; the containers after them are as they were. -/
theorem wrapLoop_eq (j : Job) (done rest : List Container) :
    wrapLoop j (done.map (newExecutor j)) (done.map wrapContainer ++ rest) done.length
        rest.length =
      ((done ++ rest).map (newExecutor j), (done ++ rest).map wrapContainer) := by
  induction rest generalizing done with
  | nil => simp [wrapLoop]
  | cons container rest ih =>
      have read : (done.map wrapContainer ++ container :: rest).getD done.length default =
          container := by
        simp [List.getElem_append_right]
      have written : (done.map wrapContainer ++ container :: rest).set done.length
          (wrapContainer container) = (done ++ [container]).map wrapContainer ++ rest := by
        simp [List.set_append_right]
      rw [List.length_cons, wrapLoop, read, written]
      simpa using ih (done ++ [container])

end Job

/-- `RunWithExecutionHandler`'s loop builds one executor per container of the
template, in order, each holding the container and its `Command` and `Args` as
they were before the loop overwrote them; the job it runs differs from the
caller's only in those two fields of each container, and the running callback
points every executor at its pod before it calls the handler. -/
theorem prepareExecution_keeps_original_commands (j : Job)
    (handler : List JobExecutor → Option GoError) :
    let containers := j.job.template.spec.containers
    let prepared := j.prepareExecution handler
    j.wrapLoop [] containers 0 containers.length =
        (prepared.1, prepared.2.job.template.spec.containers) ∧
      prepared.1.map JobExecutor.container = containers ∧
      prepared.1.map JobExecutor.command = containers.map Container.command ∧
      prepared.1.map JobExecutor.args = containers.map Container.args ∧
      prepared.2.job = { j.job with
        template.spec.containers := containers.map fun c =>
          { c with command := ["sh"], args := ["-c", jobCommandTemplate] } } ∧
      prepared.2.podRunningCallback = some fun pod =>
        (handler (prepared.1.map fun e => { e with pod := some pod })).map
          (GoError.wrap "failed to handle executors") := by
  intro containers prepared
  refine ⟨by simpa using Job.wrapLoop_eq j [] containers, ?_, ?_, ?_, rfl, rfl⟩ <;>
    simp [prepared, Job.prepareExecution, Function.comp_def, newExecutor]

/-- When the command of an executor handed to the handler fails, `Exec` returns
a `FailedJob` carrying the pod the callback received, and its
`FailedContainerNames` name the executor's container exactly when that pod
already reports a status of this name terminated with `Error`. -/
theorem exec_failure_lists_container_iff (j : Job)
    (handler : List JobExecutor → Option GoError) (pod : Pod)
    (stream : List String → Option GoError) (e : JobExecutor)
    (handed : e ∈ handedExecutors (j.prepareExecution handler).1 pod)
    (failed : (stream (execRequestCommand (e.command ++ e.args))).isSome) :
    (e.exec stream).err = some (.failedJob ⟨some pod⟩) ∧
      ∃ names, (FailedJob.mk (some pod)).failedContainerNames = some names ∧
        (e.container.name ∈ names ↔
          ∃ status ∈ pod.status.initContainerStatuses ++ pod.status.containerStatuses,
            status.name = e.container.name ∧ status.terminatedWithError) := by
  obtain ⟨original, -, rfl⟩ := List.mem_map.mp handed
  obtain ⟨err, isErr⟩ := Option.isSome_iff_exists.mp failed
  refine ⟨by rw [JobExecutor.exec_err, isErr]; rfl, _,
    FailedJob.failedContainerNames_some pod, ?_⟩
  simp only [List.mem_map, List.mem_filter]
  constructor
  · rintro ⟨status, ⟨member, isError⟩, sameName⟩
    exact ⟨status, member, sameName, isError⟩
  · rintro ⟨status, member, sameName, isError⟩
    exact ⟨status, ⟨member, isError⟩, sameName⟩

/-- The job of the repository's failure test: one container `test` running
`cat fuga`. -/
def catMissingFileJob : Job where
  job := {
    name := "kubejob-test"
    template := {
      labels := none
      spec := ⟨[], [⟨"test", "golang:1.17-stretch", ["cat", "fuga"], []⟩], ""⟩ } }
  logger := none
  disabledInitContainerLog := false
  disabledInitCommandLog := false
  disabledContainerLog := false
  disabledCommandLog := false
  podRunningCallback := none

/-- The pod as the watch first reports it running: the wrapper of `test` has not
terminated. -/
def catMissingFileRunningPod : Pod where
  name := "kubejob-test-pod"
  spec :=
    ⟨[], [wrapContainer ⟨"test", "golang:1.17-stretch", ["cat", "fuga"], []⟩], "Never"⟩
  status := ⟨podRunning, [], [⟨"test", ⟨none⟩⟩]⟩

/-- A remote side on which every command fails as `cat fuga` does. -/
def catMissingFileStream (_ : List String) : Option GoError :=
  some (.text "command terminated with non-zero exit code: exit status 1")

theorem exec_failure_lists_container_iff_catMissingFile :
    newExecutor catMissingFileJob ⟨"test", "golang:1.17-stretch", ["cat", "fuga"], []⟩ ∈
        (catMissingFileJob.prepareExecution fun _ => none).1 ∧
      (catMissingFileStream (execRequestCommand ["cat", "fuga"])).isSome ∧
      (JobExecutor.exec { newExecutor catMissingFileJob
          ⟨"test", "golang:1.17-stretch", ["cat", "fuga"], []⟩ with
            pod := some catMissingFileRunningPod } catMissingFileStream).err =
        some (.failedJob ⟨some catMissingFileRunningPod⟩) :=
  ⟨by decide, rfl,
    (exec_failure_lists_container_iff catMissingFileJob (fun _ => none) catMissingFileRunningPod
      catMissingFileStream _ (by decide) rfl).1⟩

/-- The failed `Exec` of the running `test` container returns a `FailedJob`
whose `FailedContainers` is empty. -/
theorem exec_failure_not_listed :
    ∃ e ∈ handedExecutors (catMissingFileJob.prepareExecution fun _ => none).1
        catMissingFileRunningPod,
      (catMissingFileStream (execRequestCommand (e.command ++ e.args))).isSome ∧
      (e.exec catMissingFileStream).err = some (.failedJob ⟨some catMissingFileRunningPod⟩) ∧
      (FailedJob.mk (some catMissingFileRunningPod)).failedContainers = some [] :=
  ⟨_, List.mem_singleton_self _, rfl, rfl, by decide⟩

end Kubejob
