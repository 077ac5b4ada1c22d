import Kubejob.WatchLoop
import Kubejob.Executor

/-!
# `Run` and `RunWithExecutionHandler`

`Run` creates the job and then waits: `wait` starts the pod watch and runs
`watchLoop`, whose errgroup holds the watch task and, once the watch task has
started it, the `logStreamPod` task. A function deferred after the create deletes
the job, lists the pods that match `labelSelector()` and deletes each, folding
every failure into the error `Run` returns. A panic in an errgroup goroutine is
not recovered: it ends the process. The goroutine's deferred `wg.Done` runs while
the panic unwinds, so `eg.Wait` can return and `Run` can run its cleanup, and
even return, before the process ends; whoever called `Run` never goes on.

The answers of the cluster are inputs (`Cluster`), and so are the two things the
model leaves to the interleaving: how the `logStreamPod` task ends (the stream of
one container is modelled in `LogStream`) and whether it returns before the watch
task. The log consumer goroutine is modelled in `LogOutput`, over the events of
`LogStreamPod`.
-/

namespace Kubejob

/-- What the cluster answers to the calls of one `Run`, and how its concurrent
parts turn out. -/
structure Cluster where
  /-- `jobClient.Create`. -/
  createJob : Option GoError
  /-- `podClient.Watch`. -/
  watch : Option GoError
  /-- The events of the watch channel, before it closes. -/
  events : List WatchEvent
  /-- The caller's context is done, canceled or past its deadline, from the
  event of this index on. -/
  doneAt : Nat
  /-- What `ctx.Err()` returns once the context is done. -/
  ctxErr : ContextError
  /-- What `logStreamPod` returns, when the watch task starts it. -/
  logStreamPod : Option GoError
  /-- Whether the `logStreamPod` task returns before the watch task. -/
  logStreamFirst : Bool
  /-- `jobClient.Delete`. -/
  deleteJob : Option GoError
  /-- `podClient.List`. On an error the typed client returns an empty list. -/
  listPods : Except GoError (List Pod)
  /-- `podClient.Delete`, pod by pod. -/
  deletePod : Pod → Option GoError

/-- The first error among task results listed in the order the tasks return:
the one `errgroup.Group` records. -/
def firstError : List TaskResult → Option GoError
  | [] => none
  | .err err :: _ => some err
  | _ :: results => firstError results

/-- `errgroup.Group.Wait`: the first error, once every task has returned. A task
that panics ends the process instead. -/
def errgroupWait (results : List TaskResult) : TaskResult :=
  if TaskResult.panic ∈ results then .panic
  else
    match firstError results with
    | some err => .err err
    | none => .ok

/-- The `logStreamPod` task of `watchLoop`. -/
def logStreamTask (result : Option GoError) : TaskResult :=
  match result with
  | some err => .err (.wrap "failed to log stream pod" err)
  | none => .ok

/-- Where `fmt.Sprintf` is in its format: in text, or after a `%` in the flags,
the width or the precision of a verb. -/
inductive FormatPhase where
  | text
  | flags
  | width
  | precision

/-- What `fmt.Sprintf` prints for a verb it has no operand for. -/
def missingVerb (verb : Char) : List Char :=
  if verb = '%' then ['%'] else "%!".data ++ verb :: "(MISSING)".data

/-- `fmt.Sprintf(format)` with no operands, over the format's characters: `%%`
prints `%`, any other verb, after its flags, width and precision, prints
`%!verb(MISSING)`, and a `%` left open at the end prints `%!(NOVERB)`. -/
def sprintfNoArgs : FormatPhase → List Char → List Char
  | .text, [] => []
  | .text, c :: rest => if c = '%' then sprintfNoArgs .flags rest else c :: sprintfNoArgs .text rest
  | .flags, [] | .width, [] | .precision, [] => "%!(NOVERB)".data
  | .flags, c :: rest =>
      if c ∈ ['#', '0', '+', '-', ' '] then sprintfNoArgs .flags rest
      else if c.isDigit then sprintfNoArgs .width rest
      else if c = '.' then sprintfNoArgs .precision rest
      else missingVerb c ++ sprintfNoArgs .text rest
  | .width, c :: rest =>
      if c.isDigit then sprintfNoArgs .width rest
      else if c = '.' then sprintfNoArgs .precision rest
      else missingVerb c ++ sprintfNoArgs .text rest
  | .precision, c :: rest =>
      if c.isDigit then sprintfNoArgs .precision rest
      else missingVerb c ++ sprintfNoArgs .text rest

/-- A text without `%` prints as itself. -/
theorem sprintfNoArgs_of_no_percent {text : List Char} (plain : '%' ∉ text) :
    sprintfNoArgs .text text = text := by
  induction text with
  | nil => rfl
  | cons c rest ih =>
      have fresh : c ≠ '%' := fun equal => plain (equal ▸ List.mem_cons_self _ _)
      simp [sprintfNoArgs, fresh, ih (fun member => plain (List.mem_cons_of_mem _ member))]

/-- How the cleanup of `Run` folds a pod delete failure into the error so far:
the first becomes the error; a later one is joined to it with a newline, through
`xerrors.Errorf` with the joined text as its format, which wraps nothing. -/
def joinDeleteError (e : Option GoError) (err : GoError) : GoError :=
  match e with
  | none => err
  | some e => .text (String.mk (sprintfNoArgs .text (e.message ++ "\n" ++ err.message).data))

/-- One pod of the cleanup loop: delete it, and fold a failure into `e`. -/
def deletePodStep (cluster : Cluster) (e : Option GoError) (pod : Pod) : Option GoError :=
  match cluster.deletePod pod with
  | some err => some (joinDeleteError e (.wrap "failed to delete pod" err))
  | none => e

/-- The function `Run` defers, from the error `e` its body returns: delete the
job, which replaces `e` on failure; list the pods, where a failure is dropped;
delete each pod. -/
def runCleanup (cluster : Cluster) (e : Option GoError) : Option GoError :=
  let e :=
    match cluster.deleteJob with
    | some err => some (.wrap "failed to delete job" err)
    | none => e
  match cluster.listPods with
  | .error _ => e
  | .ok pods => pods.foldl (deletePodStep cluster) e

/-- How `Run` ends: it returns, after its deferred cleanup, or the process
crashes on a panic in a goroutine. Whether the cleanup has run when the process
ends, and whether `Run` has returned by then, depends on the interleaving; no
caller of `Run` goes on after a crash. -/
inductive RunOutcome where
  | returned (err : Option GoError)
  | crashed
  deriving DecidableEq, Repr

namespace Job

/-- The tasks of `watchLoop`'s errgroup, in the order they return: the watch task
from its start, and the `logStreamPod` task when the watch task started one. -/
def watchLoopTasks (j : Job) (cluster : Cluster) : List TaskResult :=
  let watched :=
    watchTask j.podRunningCallback cluster.ctxErr cluster.doneAt watchStart cluster.events
  if WatchEffect.logStream ∈ watched.1.effects then
    if cluster.logStreamFirst then [logStreamTask cluster.logStreamPod, watched.2]
    else [watched.2, logStreamTask cluster.logStreamPod]
  else [watched.2]

/-- `Job.watchLoop`: `eg.Wait()` over the watch task and the `logStreamPod`
task. -/
def watchLoop (j : Job) (cluster : Cluster) : TaskResult :=
  match errgroupWait (j.watchLoopTasks cluster) with
  | .err err => .err (.wrap "failed to wait in watchLoop" err)
  | result => result

/-- `Job.wait`: start the watch, then `watchLoop`. -/
def wait (j : Job) (cluster : Cluster) : TaskResult :=
  match cluster.watch with
  | some err => .err (.wrap "failed to start watch pod" err)
  | none =>
      match j.watchLoop cluster with
      | .err err => .err (.wrap "failed to watching" err)
      | result => result

/-- `Job.Run`. -/
def run (j : Job) (cluster : Cluster) : RunOutcome :=
  match cluster.createJob with
  | some err => .returned (some (.wrap "failed to create job" err))
  | none =>
      match j.wait cluster with
      | .panic => .crashed
      | .ok => .returned (runCleanup cluster none)
      | .err err => .returned (runCleanup cluster (some (.wrap "failed to wait" err)))

/-- `RunWithExecutionHandler`; `roundTripperError` is the failure of
`spdy.RoundTripperFor`. -/
def runWithExecutionHandler (j : Job) (handler : List JobExecutor → Option GoError)
    (roundTripperError : Option GoError) (cluster : Cluster) : RunOutcome :=
  match roundTripperError with
  | some err => .returned (some (.wrap "failed to RoundTripperFor" err))
  | none =>
      match (j.prepareExecution handler).2.run cluster with
      | .returned (some err) => .returned (some (.wrap "failed to run job" err))
      | outcome => outcome

end Job

section Errgroup

/-- With no error first, no task returned an error. -/
theorem not_mem_of_firstError_eq_none {results : List TaskResult}
    (noError : firstError results = none) (err : GoError) : TaskResult.err err ∉ results := by
  induction results with
  | nil => simp
  | cons result results ih => cases result <;> simp_all [firstError]

/-- The group returns nil only when no task returned an error. -/
theorem not_mem_of_errgroupWait_ok {results : List TaskResult} (ok : errgroupWait results = .ok)
    (err : GoError) : TaskResult.err err ∉ results := by
  unfold errgroupWait at ok
  split_ifs at ok
  split at ok
  · cases ok
  · exact not_mem_of_firstError_eq_none ‹_› err

theorem errgroupWait_of_panic {results : List TaskResult}
    (panicked : TaskResult.panic ∈ results) :
    errgroupWait results = .panic := by
  simp [errgroupWait, panicked]

end Errgroup

/-- A pod delete keeps an error the cleanup holds. -/
theorem foldl_deletePodStep_isSome {cluster : Cluster} (pods : List Pod) {e : Option GoError}
    (failed : e.isSome) : (pods.foldl (deletePodStep cluster) e).isSome := by
  induction pods generalizing e with
  | nil => exact failed
  | cons pod pods ih =>
      apply ih
      unfold deletePodStep
      split <;> simp [failed]

/-- The cleanup never clears the body's error. -/
theorem runCleanup_ne_none_of_some (cluster : Cluster) (err : GoError) :
    runCleanup cluster (some err) ≠ none := by
  have held := @foldl_deletePodStep_isSome cluster
  unfold runCleanup
  cases cluster.deleteJob <;> cases cluster.listPods <;>
    simp [held, Option.ne_none_iff_isSome]

section Run

variable (j : Job) (cluster : Cluster)

/-- The watch task of a run, from its start. -/
abbrev watched : WatchState × TaskResult :=
  watchTask j.podRunningCallback cluster.ctxErr cluster.doneAt watchStart cluster.events

theorem watched_mem_watchLoopTasks : (watched j cluster).2 ∈ j.watchLoopTasks cluster := by
  simp only [Job.watchLoopTasks]
  split_ifs <;> simp

theorem watchLoop_of_panic (panicked : (watched j cluster).2 = .panic) :
    j.watchLoop cluster = .panic := by
  rw [Job.watchLoop, errgroupWait_of_panic (panicked ▸ watched_mem_watchLoopTasks j cluster)]

/-- `Run` returns nil only when `watchLoop` did: the cleanup never clears an error. -/
theorem watchLoop_ok_of_run_nil (returnedNil : j.run cluster = .returned none) :
    j.watchLoop cluster = .ok := by
  cases created : cluster.createJob with
  | some err => simp [Job.run, created] at returnedNil
  | none =>
      have waited : j.wait cluster = .ok := by
        simp only [Job.run, created] at returnedNil
        split at returnedNil
        · cases returnedNil
        · assumption
        · exact absurd (RunOutcome.returned.inj returnedNil) (runCleanup_ne_none_of_some _ _)
      unfold Job.wait at waited
      split at waited
      · cases waited
      · split at waited <;> first | cases waited | assumption

/-- When `Run` returns nil, the `logStreamPod` task the watch task started
returned nil. -/
theorem logStreamPod_nil_of_run_nil
    (started : WatchEffect.logStream ∈ (watched j cluster).1.effects)
    (returnedNil : j.run cluster = .returned none) : cluster.logStreamPod = none := by
  have ok : errgroupWait (j.watchLoopTasks cluster) = .ok := by
    have loop := watchLoop_ok_of_run_nil j cluster returnedNil
    unfold Job.watchLoop at loop
    split at loop <;> first | cases loop | assumption
  have member : logStreamTask cluster.logStreamPod ∈ j.watchLoopTasks cluster := by
    simp only [Job.watchLoopTasks, watched] at started ⊢
    split_ifs <;> simp
  cases result : cluster.logStreamPod with
  | none => rfl
  | some err => exact absurd (result ▸ member) (not_mem_of_errgroupWait_ok ok _)

theorem run_of_wait_panic (created : cluster.createJob = none)
    (panicked : j.wait cluster = .panic) : j.run cluster = .crashed := by
  simp [Job.run, created, panicked]

end Run

/-- An `Error` event first on the watch makes the type assertion
`event.Object.(*core.Pod)` panic in the watch task, and the process ends. -/
theorem error_event_crashes_run (j : Job) (cluster : Cluster) (type : EventType)
    (message : String) (rest : List WatchEvent) (created : cluster.createJob = none)
    (watching : cluster.watch = none)
    (errorFirst : cluster.events = ⟨type, .status message⟩ :: rest) :
    j.run cluster = .crashed := by
  have panicked : (watched j cluster).2 = .panic := by simp [watched, errorFirst, watchTask]
  exact run_of_wait_panic j cluster created (by
    simp [Job.wait, watching, watchLoop_of_panic j cluster panicked])

/-- A pod of a one-container job running `echo hello`, in a phase. -/
def echoPod (phase : PodPhase) : Pod :=
  let container : Container := ⟨"test", "alpine", ["echo", "hello"], []⟩
  ⟨"kubejob-example-pod", ⟨[], [container], restartPolicyNever⟩, ⟨phase, [], []⟩⟩

/-- The job of that pod. -/
def echoJob : Job where
  job := ⟨"kubejob-example", ⟨none, (echoPod podRunning).spec⟩⟩
  logger := none
  disabledInitContainerLog := false
  disabledInitCommandLog := false
  disabledContainerLog := false
  disabledCommandLog := false
  podRunningCallback := none

/-- A run whose watch delivers an `Error` event, as the API server sends when the
watch's resource version has expired; every call succeeds. -/
def expiredWatch : Cluster where
  createJob := none
  watch := none
  events := [⟨.error, .status "too old resource version"⟩]
  doneAt := 1
  ctxErr := .canceled
  logStreamPod := none
  logStreamFirst := false
  deleteJob := none
  listPods := .ok [echoPod podRunning]
  deletePod := fun _ => none

theorem error_event_crashes_run_expired :
    expiredWatch.createJob = none ∧ expiredWatch.watch = none ∧
      expiredWatch.events = [⟨.error, .status "too old resource version"⟩] ∧
      echoJob.run expiredWatch = .crashed :=
  ⟨rfl, rfl, rfl, error_event_crashes_run echoJob expiredWatch .error _ [] rfl rfl rfl⟩

theorem foldl_deletePodStep_of_deleted {cluster : Cluster} {pods : List Pod}
    (deleted : ∀ pod ∈ pods, cluster.deletePod pod = none) (e : Option GoError) :
    pods.foldl (deletePodStep cluster) e = e := by
  induction pods with
  | nil => rfl
  | cons pod pods ih =>
      simp only [List.foldl_cons, deletePodStep, deleted pod (List.mem_cons_self _ _)]
      exact ih fun pod member => deleted pod (List.mem_cons_of_mem _ member)

/-- When no pod delete fails (a failed `List` deletes none), the cleanup returns
the job delete's error if it failed, else the body's. -/
theorem runCleanup_of_pods_deleted (cluster : Cluster) (e : Option GoError)
    (deleted :
      ∀ pods, cluster.listPods = .ok pods → ∀ pod ∈ pods, cluster.deletePod pod = none) :
    runCleanup cluster e = (cluster.deleteJob.map (.wrap "failed to delete job")).or e := by
  cases listed : cluster.listPods with
  | error =>
      simp only [runCleanup, listed]
      cases cluster.deleteJob <;> rfl
  | ok pods =>
      simp only [runCleanup, listed, foldl_deletePodStep_of_deleted (deleted pods listed)]
      cases cluster.deleteJob <;> rfl

/-- When the job's delete fails and no pod delete fails, `Run` returns the
delete's error alone: the body's error, a `FailedJob` included, is discarded. -/
theorem job_delete_failure_discards_body (j : Job) (cluster : Cluster) (bodyError : GoError)
    (apiError : String) (created : cluster.createJob = none)
    (body : j.wait cluster = .err bodyError)
    (deleteFails : cluster.deleteJob = some (.text apiError))
    (podsDeleted :
      ∀ pods, cluster.listPods = .ok pods → ∀ pod ∈ pods, cluster.deletePod pod = none) :
    j.run cluster = .returned (some (.wrap "failed to delete job" (.text apiError))) := by
  simp [Job.run, created, body, runCleanup_of_pods_deleted cluster _ podsDeleted, deleteFails]

/-- A run whose pod fails, after which the job's delete fails. -/
def failedThenDeleteFails : Cluster where
  createJob := none
  watch := none
  events := [podEvent (.modified, echoPod podFailed)]
  doneAt := 2
  ctxErr := .canceled
  logStreamPod := none
  logStreamFirst := false
  deleteJob := some (.text "etcdserver: request timed out")
  listPods := .ok [echoPod podFailed]
  deletePod := fun _ => none

theorem job_delete_failure_discards_body_failed :
    failedThenDeleteFails.createJob = none ∧
      echoJob.wait failedThenDeleteFails =
        .err (.wrap "failed to watching" (.wrap "failed to wait in watchLoop"
          (.failedJob ⟨some (echoPod podFailed)⟩))) ∧
      failedThenDeleteFails.deleteJob = some (.text "etcdserver: request timed out") ∧
      echoJob.run failedThenDeleteFails =
        .returned
          (some (.wrap "failed to delete job" (.text "etcdserver: request timed out"))) := by
  have body : echoJob.wait failedThenDeleteFails =
      .err (.wrap "failed to watching" (.wrap "failed to wait in watchLoop"
        (.failedJob ⟨some (echoPod podFailed)⟩))) := by decide
  exact ⟨rfl, body, rfl, job_delete_failure_discards_body echoJob failedThenDeleteFails _ _ rfl
    body rfl fun _ _ _ _ => rfl⟩

/-- The running pod twice, as the watch delivers it when the pod is added and
then modified. -/
def runningTwice : List (EventType × Pod) :=
  [(.added, echoPod podRunning), (.modified, echoPod podRunning)]

/-- A run canceled inside the execution handler: the context is canceled after
the first event, while the handler runs; every call succeeds. -/
def canceledInHandler : Cluster where
  createJob := none
  watch := none
  events := runningTwice.map podEvent
  doneAt := 1
  ctxErr := .canceled
  logStreamPod := none
  logStreamFirst := false
  deleteJob := none
  listPods := .ok [echoPod podRunning]
  deletePod := fun _ => none

/-- Once the caller's context has ended, a pod event that comes before any
`Succeeded` or `Failed` pod, with the running callback succeeding, makes `Run`
return `ctx.Err()` as the watch task wrapped it: not an error of its cleanup,
whose calls succeed, nor of the `logStreamPod` task, which returns nil if it
returns first. -/
theorem canceled_run_returns_context_error (j : Job) (cluster : Cluster)
    (pre : List (EventType × Pod)) (event : EventType × Pod) (post : List (EventType × Pod))
    (created : cluster.createJob = none) (watching : cluster.watch = none)
    (events : cluster.events = (pre ++ event :: post).map podEvent)
    (callbackSucceeds : ∀ pod, (j.podRunningCallback.bind fun run => run pod) = none)
    (quiet : ∀ other ∈ pre, terminalPod other = false) (ended : cluster.doneAt ≤ pre.length)
    (logStreamAfter : cluster.logStreamFirst = false ∨ cluster.logStreamPod = none)
    (jobDeleted : cluster.deleteJob = none)
    (podsDeleted :
      ∀ pods, cluster.listPods = .ok pods → ∀ pod ∈ pods, cluster.deletePod pod = none) :
    j.run cluster = .returned (some (.wrap "failed to wait" (.wrap "failed to watching"
      (.wrap "failed to wait in watchLoop"
        (.wrap "context error" (.context cluster.ctxErr)))))) := by
  have watchFailed :
      (watched j cluster).2 = .err (.wrap "context error" (.context cluster.ctxErr)) := by
    simp only [watched, events]
    exact watchTask_context_error WatchState.settled_start callbackSucceeds quiet
      (by simpa [watchStart] using ended)
  have group : errgroupWait (j.watchLoopTasks cluster) =
      .err (.wrap "context error" (.context cluster.ctxErr)) := by
    simp only [Job.watchLoopTasks, watched] at watchFailed ⊢
    split_ifs with started first
    · obtain none : cluster.logStreamPod = none := logStreamAfter.resolve_left (by simp [first])
      simp [errgroupWait, firstError, logStreamTask, watchFailed, none]
    · cases cluster.logStreamPod <;> simp [errgroupWait, firstError, logStreamTask, watchFailed]
    · simp [errgroupWait, firstError, watchFailed]
  simp [Job.run, Job.wait, Job.watchLoop, created, watching, group,
    runCleanup_of_pods_deleted cluster _ podsDeleted, jobDeleted]

/-- The repository's cancellation test: the handler of `echoJob` cancels the
context and returns nil, and the watch then reports the pod running again. -/
theorem canceled_run_returns_context_error_in_handler :
    (echoJob.prepareExecution fun _ => none).2.run canceledInHandler =
        .returned (some (.wrap "failed to wait" (.wrap "failed to watching"
          (.wrap "failed to wait in watchLoop" (.wrap "context error" (.context .canceled)))))) ∧
      echoJob.runWithExecutionHandler (fun _ => none) none canceledInHandler =
        .returned (some (.wrap "failed to run job" (.wrap "failed to wait"
          (.wrap "failed to watching" (.wrap "failed to wait in watchLoop"
            (.wrap "context error" (.context .canceled))))))) := by
  have run := canceled_run_returns_context_error (echoJob.prepareExecution fun _ => none).2
    canceledInHandler [(.added, echoPod podRunning)] (.modified, echoPod podRunning) [] rfl rfl rfl
    (fun _ => rfl) (fun other member => by simp at member; subst member; decide) le_rfl
    (.inl rfl) rfl fun _ _ _ _ => rfl
  exact ⟨run, by simp only [Job.runWithExecutionHandler, run]; rfl⟩

end Kubejob
