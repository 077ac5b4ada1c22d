import Kubejob.Core
import Mathlib.Data.List.Basic

/-!
# The watch task of `watchLoop`

`watchLoop` runs one errgroup task over the pod watch channel. For each event it
asserts that the object is a `*core.Pod`, returns a context error once the
caller's context is done, skips a pod whose phase equals the last one
dispatched, and switches on the phase: on `Running` a `sync.Once` runs the
running callback and starts `logStreamPod`; on `Succeeded` or `Failed` the same
`Once` starts `logStreamPod` if it has not run, and the task returns, with a
`FailedJob` for `Failed`.

The model records what the task does, in order (`WatchEffect`), how many events
it took from the channel, and how it ended. The context is done from the event
of index `doneAt` on, canceled or past its deadline, and `ctx.Err()` then
returns `ctxErr`: it is checked once per event, so a context that ends between
two events is seen at the next one.
-/

namespace Kubejob

/-- `watch.EventType`. -/
inductive EventType where
  | added
  | modified
  | deleted
  | bookmark
  | error
  deriving DecidableEq, Repr

/-- The object of a watch event: a pod, or the `*metav1.Status` of an `Error`
event. -/
inductive EventObject where
  | pod (pod : Pod)
  | status (message : String)
  deriving DecidableEq, Repr

/-- `watch.Event`. -/
structure WatchEvent where
  type : EventType
  object : EventObject
  deriving DecidableEq, Repr

/-- An event carrying a pod. -/
def podEvent (event : EventType × Pod) : WatchEvent := ⟨event.1, .pod event.2⟩

/-- How a task of an errgroup ends. A panic in any goroutine ends the process. -/
inductive TaskResult where
  | ok
  | err (err : GoError)
  | panic
  deriving DecidableEq, Repr

/-- What the watch task does besides reading events. `logStream` is the start
of the `logStreamPod` goroutine. -/
inductive WatchEffect where
  | callback (pod : Pod)
  | logStream
  deriving DecidableEq, Repr

/-- The local state of the watch task: the `phase` variable, whether the
`sync.Once` has run, the effects so far and the number of events received. -/
structure WatchState where
  phase : PodPhase
  onceDone : Bool
  effects : List WatchEffect
  received : Nat
  deriving DecidableEq, Repr

/-- The task before its first event. -/
def watchStart : WatchState := ⟨"", false, [], 0⟩

/-- The cases of the phase `switch`. -/
inductive PhaseCase where
  | running
  | succeeded
  | failed
  | other
  deriving DecidableEq, Repr

/-- The case of `switch pod.Status.Phase` a phase selects. -/
def phaseCase (phase : PodPhase) : PhaseCase :=
  if phase = podRunning then .running
  else if phase = podSucceeded then .succeeded
  else if phase = podFailed then .failed
  else .other

/-- The end of one iteration: go on with the next event, or return. -/
inductive WatchStep where
  | next (s : WatchState)
  | stop (s : WatchState) (result : TaskResult)
  deriving DecidableEq, Repr

/-- The effects of the `sync.Once` on a `Running` pod: the callback, when one is
set, then the start of `logStreamPod`. -/
def runningOnce (callback : Option (Pod → Option GoError)) (pod : Pod) : List WatchEffect :=
  (callback.map fun _ => WatchEffect.callback pod).toList ++ [.logStream]

/-- One iteration of the loop on `event`; `ctxErr` is what `ctx.Err()` returns. -/
def watchStep (callback : Option (Pod → Option GoError)) (ctxErr : Option ContextError)
    (s : WatchState) (event : WatchEvent) : WatchStep :=
  let s := { s with received := s.received + 1 }
  match event.object, ctxErr with
  | .status _, _ => .stop s .panic
  | .pod _, some err => .stop s (.err (.wrap "context error" (.context err)))
  | .pod pod, none =>
      if pod.status.phase = s.phase then .next s
      else
        match phaseCase pod.status.phase with
        | .running =>
            if s.onceDone then .next { s with phase := pod.status.phase }
            else
              let fired := { s with onceDone := true,
                                    effects := s.effects ++ runningOnce callback pod }
              match callback.bind fun run => run pod with
              | some err =>
                  .stop fired (.err (.wrap "failed to callback for pod running" err))
              | none => .next { fired with phase := pod.status.phase }
        | .succeeded | .failed =>
            let fired := if s.onceDone then s
              else { s with onceDone := true, effects := s.effects ++ [.logStream] }
            if pod.status.phase = podFailed then .stop fired (.err (.failedJob ⟨some pod⟩))
            else .stop fired .ok
        | .other => .next { s with phase := pod.status.phase }

/-- The watch task from state `s` on the remaining events, with the state it
ends in. A closed channel ends the `range` loop and the task returns nil. -/
def watchTask (callback : Option (Pod → Option GoError)) (ctxErr : ContextError) (doneAt : Nat)
    (s : WatchState) : List WatchEvent → WatchState × TaskResult
  | [] => (s, .ok)
  | event :: events =>
      match watchStep callback (if doneAt ≤ s.received then some ctxErr else none) s event with
      | .next s => watchTask callback ctxErr doneAt s events
      | .stop s result => (s, result)

@[simp] theorem phaseCase_podRunning : phaseCase podRunning = .running := by decide

@[simp] theorem phaseCase_podSucceeded : phaseCase podSucceeded = .succeeded := by decide

namespace PhaseCase

/-- A phase the `switch` acts on: `Running`, `Succeeded` or `Failed`. -/
def live : PhaseCase → Bool
  | .other => false
  | _ => true

/-- A phase on which the task returns. -/
def terminal : PhaseCase → Bool
  | .succeeded | .failed => true
  | _ => false

end PhaseCase

/-- The effects of the `sync.Once` when it first runs on `pod`. -/
def onceEffects (callback : Option (Pod → Option GoError)) (pod : Pod) : List WatchEffect :=
  if phaseCase pod.status.phase = .running then runningOnce callback pod else [.logStream]

namespace WatchState

/-- The phase the task has stored is `Running`, after the `Once` ran, or a phase
the `switch` ignores. It is never terminal, since the task returns there. -/
def Settled (s : WatchState) : Prop :=
  phaseCase s.phase = .running ∧ s.onceDone = true ∨ phaseCase s.phase = .other

theorem settled_start : watchStart.Settled := .inr rfl

/-- The state after the `Once` on a terminal pod: `logStreamPod` is started
unless the `Once` has already run. -/
def fireTerminal (s : WatchState) : WatchState :=
  if s.onceDone then s else { s with onceDone := true, effects := s.effects ++ [.logStream] }

@[simp] theorem fireTerminal_received (s : WatchState) : s.fireTerminal.received = s.received := by
  unfold fireTerminal
  split <;> rfl

end WatchState

section Step

variable {callback : Option (Pod → Option GoError)} {s : WatchState}
  {type : EventType} {pod : Pod}

@[simp] theorem watchStep_status (ctxErr : Option ContextError) (message : String) :
    watchStep callback ctxErr s ⟨type, .status message⟩ =
      .stop { s with received := s.received + 1 } .panic := by
  cases ctxErr <;> rfl

@[simp] theorem watchStep_done (err : ContextError) (event : EventType × Pod) :
    watchStep callback (some err) s (podEvent event) =
      .stop { s with received := s.received + 1 } (.err (.wrap "context error" (.context err))) :=
  rfl

/-- A phase the `switch` ignores is stored; a repeated one is skipped, which
leaves the same state. -/
theorem watchStep_other (case : phaseCase pod.status.phase = .other) :
    watchStep callback none s (podEvent (type, pod)) =
      .next { s with received := s.received + 1, phase := pod.status.phase } := by
  by_cases same : pod.status.phase = s.phase
  · simp [watchStep, podEvent, same]
  · simp [watchStep, podEvent, same, case]

/-- A `Running` pod after the `Once` has run changes only the stored phase. -/
theorem watchStep_running_done (case : phaseCase pod.status.phase = .running)
    (done : s.onceDone = true) :
    watchStep callback none s (podEvent (type, pod)) =
      .next { s with received := s.received + 1, phase := pod.status.phase } := by
  by_cases same : pod.status.phase = s.phase
  · simp [watchStep, podEvent, same]
  · simp [watchStep, podEvent, same, case, done]

/-- The first `Running` pod runs the `Once`: the callback, then `logStreamPod`. -/
theorem watchStep_running_first (settled : s.Settled)
    (case : phaseCase pod.status.phase = .running) (fresh : s.onceDone = false) :
    watchStep callback none s (podEvent (type, pod)) =
      match callback.bind fun run => run pod with
      | some err =>
          .stop { s with received := s.received + 1, onceDone := true,
                         effects := s.effects ++ runningOnce callback pod }
            (.err (.wrap "failed to callback for pod running" err))
      | none =>
          .next { s with received := s.received + 1, onceDone := true,
                         effects := s.effects ++ runningOnce callback pod,
                         phase := pod.status.phase } := by
  have differ : pod.status.phase ≠ s.phase := by
    rintro same
    rcases settled with ⟨_, done⟩ | other
    · simp [fresh] at done
    · simp [same, other] at case
  simp only [watchStep, podEvent, differ, case, fresh]
  rfl

end Step

/-- The pod of an event is `Succeeded` or `Failed`. -/
def terminalPod (event : EventType × Pod) : Bool := (phaseCase event.2.status.phase).terminal

section Run

variable {callback : Option (Pod → Option GoError)} {ctxErr : ContextError} {doneAt : Nat}
  {s t : WatchState}
  {event : WatchEvent} {events : List WatchEvent}

theorem watchTask_cons_done (ended : doneAt ≤ s.received) (pod : EventType × Pod) :
    watchTask callback ctxErr doneAt s (podEvent pod :: events) =
      ({ s with received := s.received + 1 }, .err (.wrap "context error" (.context ctxErr))) := by
  simp only [watchTask, if_pos ended, watchStep_done]

theorem watchTask_cons_of_next (ended : ¬ doneAt ≤ s.received)
    (step : watchStep callback none s event = .next t) :
    watchTask callback ctxErr doneAt s (event :: events) =
      watchTask callback ctxErr doneAt t events := by
  simp only [watchTask, if_neg ended, step]

/-- A step from a settled state on a pod that is not terminal goes on from a
settled state, or stops on a failed callback; either way one event was taken. -/
theorem watchStep_not_terminal (settled : s.Settled) {event : EventType × Pod}
    (notTerminal : terminalPod event = false) :
    (∃ t, watchStep callback none s (podEvent event) = .next t ∧ t.Settled ∧
        t.received = s.received + 1) ∨
      ∃ t err, (callback.bind fun run => run event.2) = some err ∧
        watchStep callback none s (podEvent event) =
          .stop t (.err (.wrap "failed to callback for pod running" err)) ∧
        t.received = s.received + 1 := by
  obtain ⟨type, pod⟩ := event
  cases case : phaseCase pod.status.phase with
  | running =>
      cases done : s.onceDone
      · have step := @watchStep_running_first callback s type pod settled case done
        cases result : callback.bind fun run => run pod <;> rw [result] at step
        · exact .inl ⟨_, step, .inl ⟨case, rfl⟩, rfl⟩
        · exact .inr ⟨_, _, rfl, step, rfl⟩
      · exact .inl ⟨_, watchStep_running_done case done, .inl ⟨case, done⟩, rfl⟩
  | succeeded | failed => simp [terminalPod, case, PhaseCase.terminal] at notTerminal
  | other => exact .inl ⟨_, watchStep_other case, .inr case, rfl⟩

/-- With a running callback that succeeds, a pod event the task takes once the
context has ended, before any `Succeeded` or `Failed` pod, ends the task with
`ctx.Err()`, wrapped. -/
theorem watchTask_context_error (settled : s.Settled)
    (callbackSucceeds : ∀ pod, (callback.bind fun run => run pod) = none)
    {pre post : List (EventType × Pod)} {event : EventType × Pod}
    (quiet : ∀ other ∈ pre, terminalPod other = false) (ended : doneAt ≤ s.received + pre.length) :
    (watchTask callback ctxErr doneAt s ((pre ++ event :: post).map podEvent)).2 =
      .err (.wrap "context error" (.context ctxErr)) := by
  induction pre generalizing s with
  | nil => rw [List.nil_append, List.map_cons, watchTask_cons_done (by simpa using ended)]
  | cons first pre ih =>
      rw [List.cons_append, List.map_cons]
      by_cases done : doneAt ≤ s.received
      · rw [watchTask_cons_done done]
      rcases watchStep_not_terminal settled (quiet first (List.mem_cons_self _ _)) with
        ⟨t, step, settledNext, received⟩ | ⟨t, err, failed, -, -⟩
      · rw [watchTask_cons_of_next done step]
        refine ih settledNext (fun other member => quiet other (List.mem_cons_of_mem _ member)) ?_
        simp only [List.length_cons] at ended
        omega
      · simp [callbackSucceeds] at failed

end Run

@[simp] theorem count_logStream_onceEffects (callback : Option (Pod → Option GoError))
    (pod : Pod) : (onceEffects callback pod).count .logStream = 1 := by
  unfold onceEffects runningOnce
  split <;> cases callback <;> simp

section Callback

variable (callback : Pod → Option GoError) (ctxErr : ContextError) (doneAt : Nat)
  (events : List (EventType × Pod))

end Callback

end Kubejob
