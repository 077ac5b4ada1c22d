import Mathlib.Data.List.Basic

/-!
# Kubernetes objects and Go errors seen by kubejob

The API objects the package reads, cut down to the fields its code touches, and
the error values it builds. A Go pointer that the code may dereference while nil
is an `Option`; a Go map is introduced where it is used.

Errors are described by what the rest of the program observes of them: their
message (`Error()`), whether `errors.As` finds a `*FailedJob` in their chain, and
whether `errors.Is` finds the error `ctx.Err()` returns.
-/

namespace Kubejob

/-- `core.PodPhase`. The API names five phases, but the type is a string and a
watch event may carry any value, the empty phase included. -/
abbrev PodPhase := String

/-- `core.PodRunning`. -/
def podRunning : PodPhase := "Running"

/-- `core.PodSucceeded`. -/
def podSucceeded : PodPhase := "Succeeded"

/-- `core.PodFailed`. -/
def podFailed : PodPhase := "Failed"

/-- `core.RestartPolicyNever`. -/
def restartPolicyNever : String := "Never"

/-- `core.Container`: the fields the package reads or rewrites. -/
structure Container where
  name : String
  image : String
  command : List String
  args : List String
  deriving DecidableEq, Repr, Inhabited

/-- `core.ContainerStateTerminated`, of which only the reason is read. -/
structure ContainerStateTerminated where
  reason : String
  deriving DecidableEq, Repr

/-- `core.ContainerState`; `terminated` is the nil-able `Terminated` pointer. -/
structure ContainerState where
  terminated : Option ContainerStateTerminated
  deriving DecidableEq, Repr

/-- `core.ContainerStatus`. -/
structure ContainerStatus where
  name : String
  state : ContainerState
  deriving DecidableEq, Repr

/-- `core.PodSpec`. -/
structure PodSpec where
  initContainers : List Container
  containers : List Container
  restartPolicy : String
  deriving DecidableEq, Repr

/-- `core.PodStatus`. -/
structure PodStatus where
  phase : PodPhase
  initContainerStatuses : List ContainerStatus
  containerStatuses : List ContainerStatus
  deriving DecidableEq, Repr

/-- `core.Pod`. -/
structure Pod where
  name : String
  spec : PodSpec
  status : PodStatus
  deriving DecidableEq, Repr

/-- `FailedJob`, the error for a failed pod or a failed command. Its `Pod`
pointer is `none` when nil. -/
structure FailedJob where
  pod : Option Pod
  deriving DecidableEq, Repr

/-- What `ctx.Err()` returns once the caller's context is done. -/
inductive ContextError where
  /-- `context.Canceled`: the context's `cancel` was called. -/
  | canceled
  /-- `context.DeadlineExceeded`: the context's deadline has passed. -/
  | deadlineExceeded
  deriving DecidableEq, Repr

/-- The error values the package returns or passes on. -/
inductive GoError where
  /-- A `*FailedJob`. -/
  | failedJob (job : FailedJob)
  /-- `xerrors.Errorf(context + ": %w", cause)`, which wraps `cause`. -/
  | wrap (context : String) (cause : GoError)
  /-- An error that wraps nothing: one returned by the API client or the
  transport, or `xerrors.Errorf` given a text and no operand. -/
  | text (message : String)
  /-- What `ctx.Err()` returns once the context is done. -/
  | context (err : ContextError)
  deriving DecidableEq, Repr

namespace GoError

/-- `err.Error()`. A `wrapError` prints its context, `": "`, then its cause. -/
def message : GoError → String
  | failedJob _ => "failed to job"
  | wrap label cause => label ++ ": " ++ cause.message
  | text message => message
  | context .canceled => "context canceled"
  | context .deadlineExceeded => "context deadline exceeded"

/-- `errors.As(err, &failedJob)`: the first `*FailedJob` on the wrap chain. -/
def asFailedJob : GoError → Option FailedJob
  | failedJob job => some job
  | wrap _ cause => cause.asFailedJob
  | _ => none

/-- `errors.Is(err, target)` for the context error `target`. -/
def isContextError (target : ContextError) : GoError → Bool
  | context err => err = target
  | wrap _ cause => cause.isContextError target
  | _ => false

@[simp] theorem asFailedJob_wrap (context : String) (cause : GoError) :
    (wrap context cause).asFailedJob = cause.asFailedJob := rfl

@[simp] theorem isContextError_wrap (target : ContextError) (context : String)
    (cause : GoError) :
    (wrap context cause).isContextError target = cause.isContextError target := rfl

end GoError

end Kubejob
