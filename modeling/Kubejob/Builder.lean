import Kubejob.Core
import Mathlib.Data.List.Nodup

/-!
# Building a `Job`

`JobBuilder.BuildWithJob` completes a caller's `batch.Job`: it names the job and
every unnamed container with a fresh `xid`, defaults the restart policy, and adds
a generated label to the pod template, whose selector later finds the job's pod.
The `Job` it returns carries the logging switches and the running callback that
`Run` reads.
-/

namespace Kubejob

/-- A Go `map[string]string`, as its entries in one iteration order. Keys are
distinct; Go iterates a map in an order that changes from run to run, so every
order of the same entries stands for the same map. -/
structure StringMap where
  entries : List (String × String)
  keysDistinct : (entries.map Prod.fst).Nodup

namespace StringMap

/-- `map[string]string{}`. -/
def empty : StringMap := ⟨[], List.nodup_nil⟩

/-- `m[key]`: the zero string when the key is absent. -/
def get (m : StringMap) (key : String) : String :=
  (m.entries.lookup key).getD ""

/-- `m[key] = value`. -/
def insert (m : StringMap) (key value : String) : StringMap where
  entries := (key, value) :: m.entries.filter fun entry => entry.1 ≠ key
  keysDistinct := by
    refine List.nodup_cons.mpr ⟨?_, ?_⟩
    · simp
    · exact m.keysDistinct.sublist ((List.filter_sublist _).map _)

end StringMap

/-- `core.PodTemplateSpec`; a nil label map is `none`. -/
structure PodTemplateSpec where
  labels : Option StringMap
  spec : PodSpec

/-- `batch.Job`, with `Spec.Template` as its only spec field. -/
structure BatchJob where
  name : String
  template : PodTemplateSpec

/-- An `xid.ID` as `String()` prints it: twenty characters of lower-case
base32hex. -/
structure Xid where
  text : String
  length_eq : text.length = 20
  alphabet : ∀ c ∈ text.data, c.isDigit ∨ ('a' ≤ c ∧ c ≤ 'v')

/-- `JobBuilder.generateName`: `fmt.Sprintf("%s-%s", name, xid.New())`. -/
def generateName (name : String) (xid : Xid) : String :=
  name ++ "-" ++ xid.text

/-- A generated name is never empty: it starts with `name-`. -/
theorem generateName_ne_empty (name : String) (xid : Xid) : generateName name xid ≠ "" :=
  fun empty => by simpa [generateName] using congrArg String.data empty

/-- An `xid`. -/
def exampleXid : Xid := ⟨"9m4e2mr0ui3e8a215n4g", by decide, by decide⟩

/-- `ContainerLog`, one event of the container log channel. -/
structure ContainerLog where
  pod : Pod
  container : Container
  log : String
  isFinished : Bool
  deriving DecidableEq

/-- `Logger`. Its effects are outside the model: `Run` only decides whether to
call it. -/
def Logger := ContainerLog → Unit

/-- `Job`: the completed `batch.Job` and the switches its methods set. The API
clients are not state of the model; their answers are inputs of `Run`. -/
structure Job where
  job : BatchJob
  logger : Option Logger
  disabledInitContainerLog : Bool
  disabledInitCommandLog : Bool
  disabledContainerLog : Bool
  disabledCommandLog : Bool
  podRunningCallback : Option (Pod → Option GoError)

/-- Name every unnamed container with `containerName()`, drawing `xid`s from
`next` on. Returns the containers and the next unused `xid` index. -/
def nameContainers (xids : Nat → Xid) : List Container → Nat → List Container × Nat
  | [], next => ([], next)
  | container :: rest, next =>
      if container.name = "" then
        let named := nameContainers xids rest (next + 1)
        ({ container with name := generateName "kubejob-container" (xids next) } :: named.1,
          named.2)
      else
        let named := nameContainers xids rest next
        (container :: named.1, named.2)

/-- `JobBuilder.BuildWithJob`. `xids n` is the `n`-th `xid.New()` of the call;
`clientsetError` is the failure of `kubernetes.NewForConfig`, if any. -/
def buildWithJob (xids : Nat → Xid) (clientsetError : Option GoError) (jobSpec : BatchJob) :
    Except GoError Job :=
  match clientsetError with
  | some err => .error (.wrap "failed to create clientset" err)
  | none =>
      let (name, next) :=
        if jobSpec.name = "" then (generateName "kubejob" (xids 0), 1) else (jobSpec.name, 0)
      let spec := jobSpec.template.spec
      let restartPolicy :=
        if spec.restartPolicy = "" then restartPolicyNever else spec.restartPolicy
      let (containers, next) := nameContainers xids spec.containers next
      let labelName := generateName "kubejob-label" (xids next)
      let labels := (jobSpec.template.labels.getD StringMap.empty).insert labelName labelName
      .ok {
        job := {
          name := name
          template := {
            labels := some labels
            spec := { spec with containers := containers, restartPolicy := restartPolicy } } }
        logger := none
        disabledInitContainerLog := false
        disabledInitCommandLog := false
        disabledContainerLog := false
        disabledCommandLog := false
        podRunningCallback := none }

/-- Naming keeps every field of a container but its name, and a name that was
set; the name it leaves is never empty. -/
theorem nameContainers_forall₂ (xids : Nat → Xid) (containers : List Container) (next : Nat) :
    List.Forall₂ (fun c c' => c' = { c with name := c'.name } ∧ c'.name ≠ "" ∧
      (c.name ≠ "" → c'.name = c.name)) containers (nameContainers xids containers next).1 := by
  induction containers generalizing next with
  | nil => exact .nil
  | cons container rest ih =>
      by_cases unnamed : container.name = ""
      · simp only [nameContainers, unnamed, if_true]
        exact .cons ⟨rfl, generateName_ne_empty _ _, fun named => absurd unnamed named⟩ (ih _)
      · simp only [nameContainers, unnamed, if_false]
        exact .cons ⟨rfl, unnamed, fun _ => rfl⟩ (ih _)

/-- The pod spec `BuildWithJob` returns is the caller's with the containers
named from some `xid` on and the restart policy defaulted. -/
theorem buildWithJob_spec {xids : Nat → Xid} {jobSpec : BatchJob} {j : Job}
    (built : buildWithJob xids none jobSpec = .ok j) :
    ∃ next, j.job.template.spec = { jobSpec.template.spec with
      containers := (nameContainers xids jobSpec.template.spec.containers next).1
      restartPolicy := if jobSpec.template.spec.restartPolicy = "" then restartPolicyNever
        else jobSpec.template.spec.restartPolicy } := by
  simp only [buildWithJob] at built
  split at built <;> cases built <;> exact ⟨_, rfl⟩

/-- The pod spec `BuildWithJob` returns: each unnamed container of `Containers`
is named and the rest of every container kept, in order; `InitContainers` are
kept as the caller gave them, unnamed ones included; the restart policy is
`Never` only when the caller left it empty. -/
theorem buildWithJob_pod_spec (xids : Nat → Xid) (jobSpec : BatchJob) (j : Job)
    (built : buildWithJob xids none jobSpec = .ok j) :
    j.job.template.spec.initContainers = jobSpec.template.spec.initContainers ∧
      j.job.template.spec.restartPolicy =
        (if jobSpec.template.spec.restartPolicy = "" then restartPolicyNever
          else jobSpec.template.spec.restartPolicy) ∧
      List.Forall₂ (fun c c' => c' = { c with name := c'.name } ∧ c'.name ≠ "" ∧
          (c.name ≠ "" → c'.name = c.name))
        jobSpec.template.spec.containers j.job.template.spec.containers := by
  obtain ⟨next, spec⟩ := buildWithJob_spec built
  rw [spec]
  exact ⟨rfl, rfl, nameContainers_forall₂ _ _ _⟩

/-- A job whose pod has an unnamed init container and the restart policy
`OnFailure`. -/
def onFailureJobSpec : BatchJob :=
  ⟨"", ⟨none, ⟨[⟨"", "alpine", ["true"], []⟩], [⟨"test", "alpine", ["echo", "hello"], []⟩],
    "OnFailure"⟩⟩⟩

theorem buildWithJob_pod_spec_onFailure :
    ∃ j, buildWithJob (fun _ => exampleXid) none onFailureJobSpec = .ok j ∧
      j.job.template.spec.initContainers.map Container.name = [""] ∧
      j.job.template.spec.restartPolicy = "OnFailure" :=
  let spec := buildWithJob_pod_spec (fun _ => exampleXid) onFailureJobSpec _ rfl
  ⟨_, rfl, by rw [spec.1]; rfl, by rw [spec.2.1]; rfl⟩

/-- On that job, `BuildWithJob` returns an unnamed init container and a restart
policy other than `Never`. -/
theorem buildWithJob_keeps_unnamed_init_container :
    ∃ j, buildWithJob (fun _ => exampleXid) none onFailureJobSpec = .ok j ∧
      (∃ container ∈ j.job.template.spec.initContainers, container.name = "") ∧
      j.job.template.spec.restartPolicy ≠ restartPolicyNever :=
  ⟨_, rfl, ⟨_, List.mem_singleton_self _, rfl⟩, by decide⟩

namespace Job

/-- `SetLogger`. -/
def setLogger (j : Job) (logger : Logger) : Job := { j with logger := some logger }

/-- `DisableInitContainerLog`. -/
def disableInitContainerLog (j : Job) : Job := { j with disabledInitContainerLog := true }

/-- `DisableInitCommandLog`. -/
def disableInitCommandLog (j : Job) : Job := { j with disabledInitCommandLog := true }

/-- `DisableContainerLog`. -/
def disableContainerLog (j : Job) : Job := { j with disabledContainerLog := true }

/-- `DisableCommandLog`. -/
def disableCommandLog (j : Job) : Job := { j with disabledCommandLog := true }

/-- `enabledInitCommandLog`. -/
def enabledInitCommandLog (j : Job) : Bool :=
  if j.disabledInitContainerLog then false
  else if j.disabledInitCommandLog then false
  else true

/-- `enabledCommandLog`. -/
def enabledCommandLog (j : Job) : Bool :=
  if j.disabledContainerLog then false
  else if j.disabledCommandLog then false
  else true

end Job

end Kubejob
