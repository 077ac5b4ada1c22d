import Kubejob.LogStream

/-!
# Streaming a pod's logs

`logStreamPod` calls `logStreamContainer` on each init container in turn and
returns at the first failure. It then starts one errgroup goroutine per
container and waits for all of them; the group's error is the first one a
goroutine returns. Every call sends its events to the one `containerLogs`
channel, so the consumer receives the events of the pod's containers
interleaved.

Each call is the state machine of `LogStream`, started when `logStreamPod` makes
the call and stepping at any time from then on: a call's reader goroutine
outlives the call, so the stream of an init container that is done still steps
while later calls run. `trace` is what the consumer receives, each event tagged
with the index of its call in `streamSetups`; the tag serves the proofs, and the
consumer sees `trace.map Prod.snd`.

The API serves a container's log by the container's name: `logs name` gives the
log's bytes and what a read after `Close` returns. The goroutines for the
containers start in one step; starting them one by one reaches the same states.
Each call takes the end of the context in its own `cancel` step, so every moment
at which the one context can reach each call is covered. `PodStep j pod logs
false` lets the calls take only the steps of their goroutines.
-/

namespace Kubejob

namespace LogStreamPod

open LogStream

/-- What the API serves for one container's log stream. -/
structure StreamInput where
  content : List Char
  closedError : Option GoError

/-- The `logStreamContainer` calls of `logStreamPod`, in order: each init
container with `enabledInitCommandLog()` and `!disabledInitContainerLog`, then
each container with `enabledCommandLog()` and `!disabledContainerLog`. -/
def streamSetups (j : Job) (pod : Pod) (logs : String → StreamInput) : List Setup :=
  pod.spec.initContainers.map (fun container =>
      ⟨pod, container, j.enabledInitCommandLog, !j.disabledInitContainerLog,
        (logs container.name).closedError⟩) ++
    pod.spec.containers.map fun container =>
      ⟨pod, container, j.enabledCommandLog, !j.disabledContainerLog,
        (logs container.name).closedError⟩

/-- The bytes of a call's stream. -/
def streamContent (logs : String → StreamInput) (setup : Setup) : List Char :=
  (logs setup.container.name).content

@[simp] theorem length_streamSetups {j : Job} {pod : Pod} {logs : String → StreamInput} :
    (streamSetups j pod logs).length =
      pod.spec.initContainers.length + pod.spec.containers.length := by
  simp [streamSetups]

/-- The call on a regular container takes the job's command log and container
log switches. -/
theorem streamSetups_regular {j : Job} {pod : Pod} {logs : String → StreamInput} {index : Nat}
    {setup : Setup} (regular : pod.spec.initContainers.length ≤ index)
    (setupAt : (streamSetups j pod logs)[index]? = some setup) :
    setup.enabledCommandLog = j.enabledCommandLog ∧ setup.enabledLog = !j.disabledContainerLog := by
  rw [streamSetups, List.getElem?_append_right (by simpa using regular),
    List.getElem?_map] at setupAt
  obtain ⟨container, -, rfl⟩ := Option.map_eq_some'.mp setupAt
  exact ⟨rfl, rfl⟩

/-- Where `logStreamPod` is. -/
inductive PodPc where
  /-- About to call `logStreamContainer` on the next init container, or to
  start the goroutines once no init container is left. -/
  | calling
  /-- In the call on the last stream started. -/
  | streaming
  /-- In `eg.Wait()`. -/
  | waiting
  | returned (result : Option GoError)
  deriving DecidableEq

/-- `logStreamPod`, the state machines of its calls in the order they were
made, and what the consumer has received. -/
structure PodState where
  main : PodPc
  streams : List State
  /-- The goroutines that have returned, by the index of their call. -/
  returned : List Nat
  /-- The error the errgroup recorded first. -/
  groupError : Option GoError
  trace : List (Nat × ContainerLog)

/-- The call of `logStreamPod`. -/
def PodState.start : PodState := ⟨.calling, [], [], none, []⟩

/-- The events of the call at `index`, in the order the consumer receives them. -/
def eventsOf (trace : List (Nat × ContainerLog)) (index : Nat) : List ContainerLog :=
  trace.filterMap fun event => if event.1 = index then some event.2 else none

/-- What the call at `index` has delivered; nothing before the call is made. -/
def deliveredAt (streams : List State) (index : Nat) : List ContainerLog :=
  (streams[index]?.map State.delivered).getD []

/-- One step of `logStreamPod`, of an errgroup goroutine, or of one of the calls
it has made; `external` as in `LogStream.Step`. -/
inductive PodStep (j : Job) (pod : Pod) (logs : String → StreamInput) (external : Bool) :
    PodState → PodState → Prop where
  | callInit {s : PodState} {setup : Setup} (at_calling : s.main = .calling)
      (init : s.streams.length < pod.spec.initContainers.length)
      (next : (streamSetups j pod logs)[s.streams.length]? = some setup) :
      PodStep j pod logs external s
        { s with main := .streaming, streams := s.streams ++ [start (streamContent logs setup)] }
  | initReturned {s : PodState} {st : State} (at_streaming : s.main = .streaming)
      (last : s.streams[s.streams.length - 1]? = some st) (returned : st.main = .returned none) :
      PodStep j pod logs external s { s with main := .calling }
  | initFailed {s : PodState} {st : State} {err : GoError} (at_streaming : s.main = .streaming)
      (last : s.streams[s.streams.length - 1]? = some st)
      (returned : st.main = .returned (some err)) :
      PodStep j pod logs external s
        { s with main := .returned (some (.wrap "failed to log stream container" err)) }
  | spawn {s : PodState} (at_calling : s.main = .calling)
      (initDone : s.streams.length = pod.spec.initContainers.length) :
      PodStep j pod logs external s
        { s with main := .waiting,
                 streams := s.streams ++ ((streamSetups j pod logs).drop s.streams.length).map
                   fun setup => start (streamContent logs setup) }
  | goroutineReturned {s : PodState} {index : Nat} {st : State} {result : Option GoError}
      (regular : pod.spec.initContainers.length ≤ index) (found : s.streams[index]? = some st)
      (returned : st.main = .returned result) (fresh : index ∉ s.returned) :
      PodStep j pod logs external s
        { s with returned := index :: s.returned,
                 groupError :=
                   s.groupError <|> result.map (.wrap "failed to log stream container") }
  | waited {s : PodState} (at_waiting : s.main = .waiting)
      (allReturned : ∀ index, pod.spec.initContainers.length ≤ index →
        index < s.streams.length → index ∈ s.returned) :
      PodStep j pod logs external s
        { s with main := .returned (s.groupError.map (.wrap "failed to wait")) }
  | stream {s : PodState} {index : Nat} {setup : Setup} {st st' : State}
      (setupAt : (streamSetups j pod logs)[index]? = some setup)
      (found : s.streams[index]? = some st) (step : Step setup external st st') :
      PodStep j pod logs external s
        { s with streams := s.streams.set index st',
                 trace := s.trace ++ (st'.delivered.drop st.delivered.length).map (index, ·) }

/-- The states some interleaving reaches from the call of `logStreamPod`. -/
def PodReachable (j : Job) (pod : Pod) (logs : String → StreamInput) (s : PodState) : Prop :=
  Relation.ReflTransGen (PodStep j pod logs true) PodState.start s

/-- A step with the calls' goroutines on their own is a step of `logStreamPod`. -/
theorem PodStep.lift {j : Job} {pod : Pod} {logs : String → StreamInput} {s s' : PodState}
    (step : PodStep j pod logs false s s') : PodStep j pod logs true s s' := by
  cases step with
  | stream setupAt found step => exact .stream setupAt found step.lift
  | _ => constructor <;> assumption

theorem eventsOf_append (trace : List (Nat × ContainerLog)) (sent : List ContainerLog)
    (index other : Nat) :
    eventsOf (trace ++ sent.map (index, ·)) other =
      eventsOf trace other ++ if other = index then sent else [] := by
  by_cases same : other = index
  · subst same
    simp [eventsOf, List.filterMap_append, List.filterMap_map, Function.comp_def]
  · simp [eventsOf, List.filterMap_append, List.filterMap_map, Function.comp_def, Ne.symm same,
      same]

/-- A call found stays found when more calls are made. -/
theorem getElem?_append_of_found {α : Type} {streams started : List α} {index : Nat} {st : α}
    (found : streams[index]? = some st) : (streams ++ started)[index]? = some st := by
  rw [List.getElem?_append_left (List.getElem?_eq_some_iff.mp found).1, found]

/-- Calls made but not yet stepped have delivered nothing. -/
theorem deliveredAt_append (streams started : List State)
    (fresh : ∀ st ∈ started, st.delivered = []) (index : Nat) :
    deliveredAt (streams ++ started) index = deliveredAt streams index := by
  by_cases before : index < streams.length
  · simp [deliveredAt, List.getElem?_append_left before]
  · rw [Nat.not_lt] at before
    simp only [deliveredAt, List.getElem?_append_right before, List.getElem?_eq_none before]
    cases found : started[index - streams.length]? with
    | none => rfl
    | some st =>
        obtain ⟨bound, rfl⟩ := List.getElem?_eq_some_iff.mp found
        exact fresh _ (List.getElem_mem bound)

section Streams

variable {j : Job} {pod : Pod} {logs : String → StreamInput}

/-- Every call is a run of `logStreamContainer` on its container's stream, and
the consumer has received the events of each call in the order the call sent
them. -/
structure StreamsInvariant (j : Job) (pod : Pod) (logs : String → StreamInput)
    (s : PodState) : Prop where
  reachable : ∀ (index : Nat) (st : State), s.streams[index]? = some st →
    ∃ setup, (streamSetups j pod logs)[index]? = some setup ∧
      Reachable setup (streamContent logs setup) st
  events : ∀ index, eventsOf s.trace index = deliveredAt s.streams index

theorem streamsInvariant_step {s s' : PodState} (step : PodStep j pod logs true s s')
    (invariant : StreamsInvariant j pod logs s) : StreamsInvariant j pod logs s' := by
  cases step with
  | @callInit setup _ _ next =>
      refine ⟨fun index st found => ?_, fun index => ?_⟩
      · by_cases old : index < s.streams.length
        · rw [List.getElem?_append_left old] at found
          exact invariant.reachable index st found
        · rw [List.getElem?_append_right (Nat.not_lt.mp old)] at found
          cases position : index - s.streams.length with
          | zero =>
              rw [position] at found
              cases found
              exact ⟨setup, by rwa [show index = s.streams.length by omega], .refl⟩
          | succ => simp [position] at found
      · rw [deliveredAt_append _ _ (by simp [start])]
        exact invariant.events index
  | initReturned | initFailed | goroutineReturned | waited =>
      exact ⟨invariant.reachable, invariant.events⟩
  | spawn =>
      refine ⟨fun index st found => ?_, fun index => ?_⟩
      · by_cases old : index < s.streams.length
        · rw [List.getElem?_append_left old] at found
          exact invariant.reachable index st found
        · rw [List.getElem?_append_right (Nat.not_lt.mp old), List.getElem?_map,
            List.getElem?_drop, Nat.add_sub_cancel' (Nat.not_lt.mp old)] at found
          cases setupAt : (streamSetups j pod logs)[index]? with
          | none => simp [setupAt] at found
          | some setup =>
              simp only [setupAt, Option.map_some', Option.some.injEq] at found
              exact ⟨setup, rfl, found ▸ .refl⟩
      · rw [deliveredAt_append _ _ fun st member => by
          obtain ⟨_, _, rfl⟩ := List.mem_map.mp member
          rfl]
        exact invariant.events index
  | @stream index setup st st' setupAt found step =>
      obtain ⟨sent, appended⟩ := step.delivered_append
      have bound : index < s.streams.length := (List.getElem?_eq_some_iff.mp found).1
      refine ⟨fun other st'' found' => ?_, fun other => ?_⟩
      · rw [List.getElem?_set] at found'
        by_cases same : index = other
        · subst same
          simp only [if_true, bound, Option.some.injEq] at found'
          subst found'
          obtain ⟨setup', setupAt', reachable⟩ := invariant.reachable index st found
          rw [setupAt, Option.some.injEq] at setupAt'
          subst setupAt'
          exact ⟨setup, setupAt, reachable.tail step⟩
        · simp only [same, if_false] at found'
          exact invariant.reachable other st'' found'
      · rw [eventsOf_append, invariant.events, appended, List.drop_left]
        by_cases same : other = index
        · subst same
          simp [deliveredAt, found, List.getElem?_set, bound, appended]
        · simp [deliveredAt, List.getElem?_set, Ne.symm same, same]

theorem streamsInvariant_of_reachable {s : PodState} (reachable : PodReachable j pod logs s) :
    StreamsInvariant j pod logs s := by
  induction reachable with
  | refl => exact ⟨fun _ _ found => by simp [PodState.start] at found,
      fun _ => by simp [eventsOf, deliveredAt, PodState.start]⟩
  | tail _ step invariant => exact streamsInvariant_step step invariant

end Streams

/-- When one call steps, a call found afterwards was there before, and keeps any
result it had returned. -/
theorem found_before_set {streams : List State} {index other : Nat} {setup : Setup}
    {external : Bool} {st st' found : State} (atIndex : streams[index]? = some st)
    (step : Step setup external st st')
    (foundAt : (streams.set index st')[other]? = some found) :
    ∃ before, streams[other]? = some before ∧
      ∀ result, before.main = .returned result → found.main = .returned result := by
  rw [List.getElem?_set] at foundAt
  split at foundAt
  · subst other
    simp only [(List.getElem?_eq_some_iff.mp atIndex).1, if_true, Option.some.injEq] at foundAt
    exact ⟨st, atIndex, fun _ returned => foundAt ▸ step.main_of_returned returned⟩
  · exact ⟨found, foundAt, fun _ => id⟩

/-- When one call steps, a call found before is still there, with any result it
had returned. -/
theorem found_after_set {streams : List State} {index other : Nat} {setup : Setup}
    {external : Bool} {st st' before : State} (atIndex : streams[index]? = some st)
    (step : Step setup external st st')
    (foundAt : streams[other]? = some before) :
    ∃ found, (streams.set index st')[other]? = some found ∧
      ∀ result, before.main = .returned result → found.main = .returned result := by
  by_cases same : index = other
  · subst other
    rw [atIndex, Option.some.injEq] at foundAt
    subst foundAt
    exact ⟨st', by simp [(List.getElem?_eq_some_iff.mp atIndex).1],
      fun _ returned => step.main_of_returned returned⟩
  · exact ⟨before, by rwa [List.getElem?_set_ne same], fun _ => id⟩

/-- The errgroup has recorded no error after a goroutine returned only if it had
none before and the goroutine returned `nil`. -/
theorem orElse_map_eq_none {group result : Option GoError} {wrap : GoError → GoError}
    (empty : (group <|> result.map wrap) = none) : group = none ∧ result = none := by
  cases group <;> simp_all

section Phases

variable {j : Job} {pod : Pod} {logs : String → StreamInput}

/-- Where the calls are, given where `logStreamPod` is. The init calls before
the current one have returned `nil`; the goroutines start once every init call
has returned `nil`; a goroutine has returned only after its call returned, with
no error while the group has recorded none; and `logStreamPod` returns `nil`
only once every call has returned `nil`. -/
structure PhaseInvariant (j : Job) (pod : Pod) (logs : String → StreamInput)
    (s : PodState) : Prop where
  initSettled : ∀ (index : Nat) (st : State), index + 1 < s.streams.length →
    index < pod.spec.initContainers.length → s.streams[index]? = some st →
    st.main = .returned none
  calling : s.main = .calling → s.streams.length ≤ pod.spec.initContainers.length ∧
    ∀ (index : Nat) (st : State), s.streams[index]? = some st → st.main = .returned none
  streaming : s.main = .streaming →
    0 < s.streams.length ∧ s.streams.length ≤ pod.spec.initContainers.length
  spawned : s.main = .waiting → s.streams.length = (streamSetups j pod logs).length ∧
    ∀ (index : Nat) (st : State), index < pod.spec.initContainers.length →
      s.streams[index]? = some st → st.main = .returned none
  recorded : ∀ index ∈ s.returned, ∃ st result, s.streams[index]? = some st ∧
    st.main = .returned result ∧ (s.groupError = none → result = none)
  returnedNil : s.main = .returned none →
    s.streams.length = (streamSetups j pod logs).length ∧
      ∀ (index : Nat) (st : State), s.streams[index]? = some st → st.main = .returned none

theorem phaseInvariant_step {s s' : PodState} (step : PodStep j pod logs true s s')
    (phases : PhaseInvariant j pod logs s) : PhaseInvariant j pod logs s' := by
  cases step with
  | callInit at_calling init next =>
      obtain ⟨-, settled⟩ := phases.calling at_calling
      refine ⟨fun index st bound _ found => settled index st
          ((List.getElem?_append_left (by simpa using bound)).symm.trans found),
        fun same => (by cases same), fun _ => ⟨by simp, by simpa using init⟩,
        fun same => (by cases same), fun index member => ?_, fun same => (by cases same)⟩
      obtain ⟨st, result, found, rest⟩ := phases.recorded index member
      exact ⟨st, result, getElem?_append_of_found found, rest⟩
  | @initReturned st at_streaming last returned =>
      obtain ⟨nonempty, bounded⟩ := phases.streaming at_streaming
      refine ⟨phases.initSettled, fun _ => ⟨bounded, fun index st' found => ?_⟩,
        fun same => (by cases same), fun same => (by cases same), phases.recorded,
        fun same => (by cases same)⟩
      have bound : index < s.streams.length := (List.getElem?_eq_some_iff.mp found).1
      by_cases current : index = s.streams.length - 1
      · subst current
        rw [last, Option.some.injEq] at found
        exact found ▸ returned
      · exact phases.initSettled index st' (by omega) (by omega) found
  | initFailed =>
      exact ⟨phases.initSettled, fun same => (by cases same), fun same => (by cases same),
        fun same => (by cases same), phases.recorded, fun same => (by cases same)⟩
  | spawn at_calling initDone =>
      obtain ⟨-, settled⟩ := phases.calling at_calling
      refine ⟨fun index st _ init found => settled index st
          ((List.getElem?_append_left (by omega)).symm.trans found),
        fun same => (by cases same), fun same => (by cases same),
        fun _ => ⟨by simp [initDone], fun index st init found => settled index st
          ((List.getElem?_append_left (by omega)).symm.trans found)⟩,
        fun index member => ?_, fun same => (by cases same)⟩
      obtain ⟨st, result, found, rest⟩ := phases.recorded index member
      exact ⟨st, result, getElem?_append_of_found found, rest⟩
  | @goroutineReturned index st result _ found returned _ =>
      refine ⟨phases.initSettled, phases.calling, phases.streaming, phases.spawned,
        fun other member => ?_, phases.returnedNil⟩
      rcases List.mem_cons.mp member with rfl | older
      · exact ⟨st, result, found, returned, fun empty => (orElse_map_eq_none empty).2⟩
      · obtain ⟨st', result', found', returned', rest⟩ := phases.recorded other older
        exact ⟨st', result', found', returned', fun empty => rest (orElse_map_eq_none empty).1⟩
  | waited at_waiting allReturned =>
      obtain ⟨length, initsReturned⟩ := phases.spawned at_waiting
      refine ⟨phases.initSettled, fun same => (by cases same), fun same => (by cases same),
        fun same => (by cases same), phases.recorded, fun returned => ⟨length, ?_⟩⟩
      have noError : s.groupError = none := Option.map_eq_none'.mp (PodPc.returned.inj returned)
      intro index st found
      by_cases init : index < pod.spec.initContainers.length
      · exact initsReturned index st init found
      · obtain ⟨st', result, found', returned', rest⟩ := phases.recorded index
          (allReturned index (by omega) (List.getElem?_eq_some_iff.mp found).1)
        rw [found, Option.some.injEq] at found'
        subst found'
        rw [returned', rest noError]
  | @stream index setup st st' setupAt found step =>
      have keep : ∀ (other : Nat) (x : State), (s.streams.set index st')[other]? = some x →
          ∀ result, (∀ y, s.streams[other]? = some y → y.main = .returned result) →
            x.main = .returned result := fun other x found' result before => by
        obtain ⟨y, foundY, kept⟩ := found_before_set found step found'
        exact kept result (before y foundY)
      refine ⟨fun index' x bound init found' => keep index' x found' none fun y foundY =>
          phases.initSettled index' y (by simpa using bound) init foundY,
        fun calling => ⟨by simpa using (phases.calling calling).1, fun index' x found' =>
          keep index' x found' none fun y foundY => (phases.calling calling).2 index' y foundY⟩,
        fun streaming => by simpa using phases.streaming streaming,
        fun waiting => ⟨by simpa using (phases.spawned waiting).1, fun index' x init found' =>
          keep index' x found' none fun y foundY =>
            (phases.spawned waiting).2 index' y init foundY⟩,
        fun other member => ?_,
        fun returned => ⟨by simpa using (phases.returnedNil returned).1, fun index' x found' =>
          keep index' x found' none fun y foundY =>
            (phases.returnedNil returned).2 index' y foundY⟩⟩
      obtain ⟨y, result, foundY, returnedY, rest⟩ := phases.recorded other member
      obtain ⟨x, foundX, kept⟩ := found_after_set found step foundY
      exact ⟨x, result, foundX, kept _ returnedY, rest⟩

theorem phaseInvariant_of_reachable {s : PodState} (reachable : PodReachable j pod logs s) :
    PhaseInvariant j pod logs s := by
  induction reachable with
  | refl =>
      exact ⟨fun _ _ bound => (by simp [PodState.start] at bound),
        fun _ => ⟨by simp [PodState.start], fun _ _ found => (by simp [PodState.start] at found)⟩,
        fun same => (by cases same), fun same => (by cases same),
        fun _ member => (by simp [PodState.start] at member), fun same => (by cases same)⟩
  | tail _ step phases => exact phaseInvariant_step step phases

end Phases

section Errors

variable {j : Job} {pod : Pod} {logs : String → StreamInput}

/-- Where the errors come from: the errgroup records the error of a goroutine
that has returned it, and `logStreamPod` returns the error of an init call or
the group's. -/
structure ErrorOrigin (pod : Pod) (s : PodState) : Prop where
  group : ∀ g, s.groupError = some g → ∃ index ∈ s.returned, ∃ st err,
    pod.spec.initContainers.length ≤ index ∧ s.streams[index]? = some st ∧
      st.main = .returned (some err) ∧ g = .wrap "failed to log stream container" err
  result : ∀ e, s.main = .returned (some e) →
    (∃ index st err, index < pod.spec.initContainers.length ∧ s.streams[index]? = some st ∧
      st.main = .returned (some err) ∧ e = .wrap "failed to log stream container" err) ∨
    ∃ g, s.groupError = some g ∧ e = .wrap "failed to wait" g

theorem errorOrigin_step {s s' : PodState} (step : PodStep j pod logs true s s')
    (phases : PhaseInvariant j pod logs s) (origin : ErrorOrigin pod s) : ErrorOrigin pod s' := by
  cases step with
  | callInit =>
      refine ⟨fun g group => ?_, fun _ same => (by cases same)⟩
      obtain ⟨index, member, st, err, regular, found, rest⟩ := origin.group g group
      exact ⟨index, member, st, err, regular, getElem?_append_of_found found, rest⟩
  | initReturned | spawn =>
      refine ⟨fun g group => ?_, fun _ same => (by cases same)⟩
      obtain ⟨index, member, st, err, regular, found, rest⟩ := origin.group g group
      exact ⟨index, member, st, err, regular,
        by first | exact found | exact getElem?_append_of_found found, rest⟩
  | @initFailed st err at_streaming last returned =>
      obtain ⟨nonempty, bounded⟩ := phases.streaming at_streaming
      refine ⟨origin.group, fun e same => .inl ⟨_, st, err, by omega, last, returned, ?_⟩⟩
      cases same
      rfl
  | @goroutineReturned index st result regular found returned _ =>
      refine ⟨fun g group => ?_, fun e main => ?_⟩
      · cases old : s.groupError with
        | some g' =>
            obtain ⟨index', member, st', err, regular', found', rest⟩ := origin.group g' old
            simp only [old, Option.some_orElse, Option.some.injEq] at group
            exact ⟨index', List.mem_cons_of_mem _ member, st', err, regular', found',
              group ▸ rest⟩
        | none =>
            cases result with
            | none => simp [old] at group
            | some err =>
                simp only [old, Option.none_orElse, Option.map_some', Option.some.injEq] at group
                exact ⟨index, List.mem_cons_self _ _, st, err, regular, found, returned,
                  group.symm⟩
      · rcases origin.result e main with init | ⟨g, group, rest⟩
        · exact .inl init
        · exact .inr ⟨g, by simp [group], rest⟩
  | waited =>
      refine ⟨origin.group, fun e same => .inr ?_⟩
      cases group : s.groupError with
      | none => simp [group] at same
      | some g =>
          simp [group] at same
          exact ⟨g, rfl, same.symm⟩
  | @stream index setup st st' setupAt found step =>
      refine ⟨fun g group => ?_, fun e main => ?_⟩
      · obtain ⟨index', member, y, err, regular, foundY, returnedY, rest⟩ := origin.group g group
        obtain ⟨x, foundX, kept⟩ := found_after_set found step foundY
        exact ⟨index', member, x, err, regular, foundX, kept _ returnedY, rest⟩
      · rcases origin.result e main with ⟨index', y, err, init, foundY, returnedY, rest⟩ | group
        · obtain ⟨x, foundX, kept⟩ := found_after_set found step foundY
          exact .inl ⟨index', x, err, init, foundX, kept _ returnedY, rest⟩
        · exact .inr group

theorem errorOrigin_of_reachable {s : PodState} (reachable : PodReachable j pod logs s) :
    ErrorOrigin pod s := by
  induction reachable with
  | refl => exact ⟨fun _ none => (by cases none), fun _ same => (by cases same)⟩
  | tail before step origin =>
      exact errorOrigin_step step (phaseInvariant_of_reachable before) origin

end Errors

section Order

variable {j : Job} {pod : Pod} {logs : String → StreamInput}

/-- An event the consumer received comes from a call already made. -/
theorem StreamsInvariant.tag_lt {s : PodState} (invariant : StreamsInvariant j pod logs s)
    {event : Nat × ContainerLog} (member : event ∈ s.trace) : event.1 < s.streams.length := by
  by_contra outside
  have received : event.2 ∈ eventsOf s.trace event.1 :=
    List.mem_filterMap.mpr ⟨event, member, by simp⟩
  rw [invariant.events, deliveredAt, List.getElem?_eq_none (by omega)] at received
  simp at received

/-- The consumer's order across the init calls: for each init call `i` once the
call after it is made, what the consumer has received splits into the events
before that call, all of calls up to `i`, and the events since, among which
those of calls up to `i` are finished events. -/
def Ordered (initCount : Nat) (s : PodState) : Prop :=
  ∀ i, i < initCount → i + 1 < s.streams.length → ∃ before after, s.trace = before ++ after ∧
    (∀ event ∈ before, event.1 ≤ i) ∧ (∀ event ∈ after, event.1 ≤ i → event.2.isFinished = true)

/-- When the call after `i` is made, everything received so far is of calls up
to `i`. -/
theorem ordered_of_made {s : PodState} (invariant : StreamsInvariant j pod logs s) {i : Nat}
    (made : s.streams.length ≤ i + 1) :
    ∃ before after, s.trace = before ++ after ∧ (∀ event ∈ before, event.1 ≤ i) ∧
      (∀ event ∈ after, event.1 ≤ i → event.2.isFinished = true) :=
  ⟨s.trace, [], by simp, fun _ member => by have := invariant.tag_lt member; omega,
    fun _ member => by cases member⟩

theorem ordered_step {s s' : PodState} (step : PodStep j pod logs true s s')
    (invariant : StreamsInvariant j pod logs s) (phases : PhaseInvariant j pod logs s)
    (ordered : Ordered pod.spec.initContainers.length s) :
    Ordered pod.spec.initContainers.length s' := by
  cases step with
  | callInit | spawn =>
      intro i init made
      by_cases old : i + 1 < s.streams.length
      · exact ordered i init old
      · exact ordered_of_made invariant (by omega)
  | initReturned | initFailed | goroutineReturned | waited => exact ordered
  | @stream index setup st st' setupAt found step =>
      intro i init made
      rw [List.length_set] at made
      obtain ⟨before, after, split, early, late⟩ := ordered i init made
      refine ⟨before, after ++ (st'.delivered.drop st.delivered.length).map (index, ·),
        by simp [split], early, fun event member earlier => ?_⟩
      rcases List.mem_append.mp member with old | sent
      · exact late event old earlier
      · obtain ⟨log, sentLog, rfl⟩ := List.mem_map.mp sent
        have settled := phases.initSettled index st (by omega) (by omega) found
        obtain ⟨setup', setupAt', reachable⟩ := invariant.reachable index st found
        rw [setupAt, Option.some.injEq] at setupAt'
        subst setupAt'
        obtain ⟨sent, appended⟩ := step.delivered_append
        rw [appended, List.drop_left] at sentLog
        exact step.sent_finished reachable settled appended log sentLog

theorem ordered_of_reachable {s : PodState} (reachable : PodReachable j pod logs s) :
    Ordered pod.spec.initContainers.length s := by
  induction reachable with
  | refl => exact fun _ _ made => by simp [PodState.start] at made
  | tail before step ordered =>
      exact ordered_step step (streamsInvariant_of_reachable before)
        (phaseInvariant_of_reachable before) ordered

end Order

/-- An init container that prints `ready`. -/
def readyContainer : Container := ⟨"init", "alpine", ["echo", "ready"], []⟩

/-- A container that prints `hello`. -/
def helloContainer : Container := ⟨"test", "alpine", ["echo", "hello"], []⟩

/-- A pod whose init container `readyContainer` runs before its container
`helloContainer`. -/
def readyThenHelloPod : Pod where
  name := "test"
  spec := ⟨[readyContainer], [helloContainer], restartPolicyNever⟩
  status := ⟨podRunning, [], []⟩

/-- The logs the API serves for `readyThenHelloPod`; a read after `Close`
returns `io.EOF`. -/
def readyThenHelloLogs (name : String) : StreamInput :=
  if name = "init" then ⟨"ready\n".data, none⟩ else ⟨"hello\n".data, none⟩

/-- The job of `readyThenHelloPod`, with every log and command log enabled. -/
def logAllJob : Job where
  job := ⟨"test", ⟨none, readyThenHelloPod.spec⟩⟩
  logger := none
  disabledInitContainerLog := false
  disabledInitCommandLog := false
  disabledContainerLog := false
  disabledCommandLog := false
  podRunningCallback := none

section Runs

variable {j : Job} {pod : Pod} {logs : String → StreamInput}

/-- Setting an element to the value already there changes nothing. -/
theorem set_of_getElem? {α : Type} {l : List α} {i : Nat} {a : α} (found : l[i]? = some a) :
    l.set i a = l :=
  List.ext_getElem? fun n => by rw [List.getElem?_set']; split <;> simp_all

/-- A run of one call lifts to `logStreamPod`: the consumer receives what the
call sends, in order, and the pod, the errgroup and the other calls stay where
they are. -/
theorem reaches_stream_run {external : Bool} {base s : PodState}
    (reachable : Relation.ReflTransGen (PodStep j pod logs external) base s) (index : Nat)
    {setup : Setup} {st st' : State} (setupAt : (streamSetups j pod logs)[index]? = some setup)
    (found : s.streams[index]? = some st)
    (run : Relation.ReflTransGen (Step setup external) st st') :
    Relation.ReflTransGen (PodStep j pod logs external) base
      { s with streams := s.streams.set index st',
               trace := s.trace ++ (st'.delivered.drop st.delivered.length).map (index, ·) } := by
  have bound : index < s.streams.length := (List.getElem?_eq_some_iff.mp found).1
  suffices lifted : ∃ sent, st'.delivered = st.delivered ++ sent ∧
      Relation.ReflTransGen (PodStep j pod logs external) base
        { s with streams := s.streams.set index st', trace := s.trace ++ sent.map (index, ·) } by
    obtain ⟨sent, appended, lifted⟩ := lifted
    rwa [appended, List.drop_left]
  induction run with
  | refl => exact ⟨[], by simp, by simpa [set_of_getElem? found] using reachable⟩
  | tail _ step ih =>
      obtain ⟨sent, before, reachable'⟩ := ih
      obtain ⟨more, after⟩ := step.delivered_append
      have stepped := reachable'.tail (.stream setupAt (by simp [bound]) step)
      refine ⟨sent ++ more, by rw [after, before, List.append_assoc], ?_⟩
      simpa only [List.set_set, after, List.drop_left, List.map_append, List.append_assoc]
        using stepped

/-- The first `k` init calls can all return `nil`. -/
theorem reaches_init_calls (k : Nat) (le : k ≤ pod.spec.initContainers.length) :
    ∃ s, PodReachable j pod logs s ∧ s.main = .calling ∧ s.streams.length = k ∧
      s.returned = [] ∧ s.groupError = none := by
  induction k with
  | zero => exact ⟨_, .refl, rfl, rfl, rfl, rfl⟩
  | succ k ih =>
      obtain ⟨s, reachable, calling, rfl, returned, noError⟩ := ih (by omega)
      obtain ⟨setup, next⟩ : ∃ setup, (streamSetups j pod logs)[s.streams.length]? = some setup :=
        ⟨_, List.getElem?_eq_getElem (by rw [length_streamSetups]; omega)⟩
      obtain ⟨lines, doneReachable⟩ := reaches_returned_nil setup (streamContent logs setup)
      have streamed := reaches_stream_run
        (reachable.tail (.callInit calling (by omega) next)) _ next (by simp) doneReachable
      exact ⟨_, streamed.tail (.initReturned rfl (by simp; rfl) rfl), rfl, by simp, returned,
        noError⟩

/-- After the init calls, `logStreamPod` starts the goroutines; the first `m`
of them can all return `nil` while the calls after them have not stepped. -/
theorem reaches_goroutines (m : Nat) (le : m ≤ pod.spec.containers.length) :
    ∃ s, PodReachable j pod logs s ∧ s.main = .waiting ∧
      s.streams.length = (streamSetups j pod logs).length ∧ s.groupError = none ∧
      (∀ index, index ∈ s.returned ↔
        pod.spec.initContainers.length ≤ index ∧ index < pod.spec.initContainers.length + m) ∧
      ∀ index setup, pod.spec.initContainers.length + m ≤ index →
        (streamSetups j pod logs)[index]? = some setup →
        s.streams[index]? = some (start (streamContent logs setup)) := by
  induction m with
  | zero =>
      obtain ⟨s, reachable, calling, length, returned, noError⟩ :=
        @reaches_init_calls j pod logs _ le_rfl
      refine ⟨_, reachable.tail (.spawn calling length), rfl,
        by simp [length_streamSetups, length], noError, fun index => by simp [returned],
        fun index setup regular setupAt => ?_⟩
      rw [List.getElem?_append_right (by omega), List.getElem?_map, List.getElem?_drop,
        Nat.add_sub_cancel' (by omega), setupAt]
      rfl
  | succ m ih =>
      obtain ⟨s, reachable, waiting, length, noError, returnedIff, fresh⟩ := ih (by omega)
      obtain ⟨setup, setupAt⟩ : ∃ setup,
          (streamSetups j pod logs)[pod.spec.initContainers.length + m]? = some setup :=
        ⟨_, List.getElem?_eq_getElem (by rw [length_streamSetups]; omega)⟩
      have bound : pod.spec.initContainers.length + m < s.streams.length := by
        rw [length, length_streamSetups]; omega
      obtain ⟨lines, doneReachable⟩ := reaches_returned_nil setup (streamContent logs setup)
      have streamed :=
        reaches_stream_run reachable _ setupAt (fresh _ _ le_rfl setupAt) doneReachable
      refine ⟨_, streamed.tail (@PodStep.goroutineReturned j pod logs _ _
          (pod.spec.initContainers.length + m) _ none (by omega) (by simp [bound]; rfl) rfl
          fun member => by have := (returnedIff _).mp member; omega),
        waiting, by simp [length], by simp [noError], fun index => ?_,
        fun index setup' regular setupAt' => ?_⟩
      · simp only [List.mem_cons, returnedIff]
        omega
      · rw [List.getElem?_set_ne (by omega)]
        exact fresh index setup' (by omega) setupAt'

/-- Whatever the job, the pod and the logs the API serves, some interleaving
has `logStreamPod` return `nil`: every init call in turn, then every goroutine,
reads its stream to the end and returns `nil`. -/
theorem pod_reaches_returned_nil (j : Job) (pod : Pod) (logs : String → StreamInput) :
    ∃ s, PodReachable j pod logs s ∧ s.main = .returned none := by
  obtain ⟨s, reachable, waiting, length, noError, returnedIff, -⟩ :=
    @reaches_goroutines j pod logs _ le_rfl
  refine ⟨_, reachable.tail (.waited waiting fun index regular bound =>
    (returnedIff index).mpr ⟨regular, ?_⟩), by simp [noError]⟩
  rwa [length, length_streamSetups] at bound

/-- A run of the goroutines on their own continues an interleaving. -/
theorem PodReachable.of_run {s s' : PodState} (reachable : PodReachable j pod logs s)
    (run : Relation.ReflTransGen (PodStep j pod logs false) s s') : PodReachable j pod logs s' :=
  reachable.trans (run.mono fun _ _ => PodStep.lift)

/-- In `eg.Wait()`, `logStreamPod` can return: the call of each goroutine still
running can return, then the goroutine, and then the wait ends. -/
theorem reaches_return_of_waiting {s : PodState} (reachable : PodReachable j pod logs s)
    (waiting : s.main = .waiting) :
    ∃ s' result, Relation.ReflTransGen (PodStep j pod logs false) s s' ∧
      s'.main = .returned result := by
  suffices running : ∀ k (s : PodState), PodReachable j pod logs s → s.main = .waiting →
      (∀ index, pod.spec.initContainers.length ≤ index → index < s.streams.length →
        index ∉ s.returned → index < pod.spec.initContainers.length + k) →
      ∃ s' result, Relation.ReflTransGen (PodStep j pod logs false) s s' ∧
        s'.main = .returned result from
    running s.streams.length s reachable waiting fun _ _ bound _ => by omega
  intro k
  induction k with
  | zero =>
      intro s _ waiting pending
      exact ⟨_, _, .single (.waited waiting fun index regular bound => by
        by_contra running
        have := pending index regular bound running
        omega), rfl⟩
  | succ k ih =>
      intro s reachable waiting pending
      by_cases running : pod.spec.initContainers.length + k < s.streams.length ∧
          pod.spec.initContainers.length + k ∉ s.returned
      · obtain ⟨bound, fresh⟩ := running
        have found := List.getElem?_eq_getElem bound
        obtain ⟨setup, setupAt, streamReachable⟩ :=
          (streamsInvariant_of_reachable reachable).reachable _ _ found
        obtain ⟨st', result, run, returned⟩ := reaches_return streamReachable
        have stepped := (reaches_stream_run .refl _ setupAt found run).tail
          (@PodStep.goroutineReturned j pod logs _ _ (pod.spec.initContainers.length + k) st'
            result (by omega) (by simp [bound]) returned fresh)
        obtain ⟨s', result', rest, final⟩ := ih _ (reachable.of_run stepped) waiting
          fun index regular bound' running' => by
            simp only [List.mem_cons, not_or] at running'
            have := pending index regular (by simpa using bound') running'.2
            omega
        exact ⟨s', result', stepped.trans rest, final⟩
      · exact ih s reachable waiting fun index regular bound running' => by
          have := pending index regular bound running'
          by_contra outside
          exact running ⟨by omega, by rwa [show index = pod.spec.initContainers.length + k by omega]
            at running'⟩

/-- In the call on an init container, `logStreamPod` can have that call return,
and then return itself or go on with the next init container. -/
theorem reaches_settled_of_streaming {s : PodState} (reachable : PodReachable j pod logs s)
    (streaming : s.main = .streaming) :
    ∃ s', Relation.ReflTransGen (PodStep j pod logs false) s s' ∧
      ((∃ result, s'.main = .returned result) ∨
        s'.main = .calling ∧ s'.streams.length = s.streams.length) := by
  obtain ⟨nonempty, -⟩ := (phaseInvariant_of_reachable reachable).streaming streaming
  have found := List.getElem?_eq_getElem (show s.streams.length - 1 < s.streams.length by omega)
  obtain ⟨setup, setupAt, streamReachable⟩ :=
    (streamsInvariant_of_reachable reachable).reachable _ _ found
  obtain ⟨st', result, run, returned⟩ := reaches_return streamReachable
  have lifted := reaches_stream_run .refl _ setupAt found run
  have last : (s.streams.set (s.streams.length - 1) st')[
      (s.streams.set (s.streams.length - 1) st').length - 1]? = some st' := by
    rw [List.length_set]
    exact List.getElem?_set_self (by omega)
  cases result with
  | none =>
      exact ⟨_, lifted.tail (.initReturned streaming last returned), .inr ⟨rfl, List.length_set ..⟩⟩
  | some err => exact ⟨_, lifted.tail (.initFailed streaming last returned), .inl ⟨_, rfl⟩⟩

/-- About to make its next call, `logStreamPod` can return. -/
theorem reaches_return_of_calling {s : PodState} (reachable : PodReachable j pod logs s)
    (calling : s.main = .calling) :
    ∃ s' result, Relation.ReflTransGen (PodStep j pod logs false) s s' ∧
      s'.main = .returned result := by
  suffices remaining : ∀ n (s : PodState), PodReachable j pod logs s → s.main = .calling →
      pod.spec.initContainers.length - s.streams.length = n →
      ∃ s' result, Relation.ReflTransGen (PodStep j pod logs false) s s' ∧
        s'.main = .returned result from remaining _ s reachable calling rfl
  intro n
  induction n with
  | zero =>
      intro s reachable calling done
      have length := (phaseInvariant_of_reachable reachable).calling calling |>.1
      have spawned := Relation.ReflTransGen.single (r := PodStep j pod logs false)
        (.spawn calling (by omega))
      obtain ⟨s', result, rest, final⟩ := reaches_return_of_waiting (reachable.of_run spawned) rfl
      exact ⟨s', result, spawned.trans rest, final⟩
  | succ n ih =>
      intro s reachable calling remaining
      obtain ⟨setup, next⟩ : ∃ setup, (streamSetups j pod logs)[s.streams.length]? = some setup :=
        ⟨_, List.getElem?_eq_getElem (by rw [length_streamSetups]; omega)⟩
      have called := Relation.ReflTransGen.single (r := PodStep j pod logs false)
        (.callInit calling (by omega) next)
      obtain ⟨s', run, settled⟩ := reaches_settled_of_streaming (reachable.of_run called) rfl
      have toSettled := called.trans run
      rcases settled with ⟨result, final⟩ | ⟨calling', length⟩
      · exact ⟨s', result, toSettled, final⟩
      · obtain ⟨s'', result, rest, final⟩ :=
          ih s' (reachable.of_run toSettled) calling' (by simp at length; omega)
        exact ⟨s'', result, toSettled.trans rest, final⟩

/-- `logStreamPod` never deadlocks: from every state some interleaving reaches,
some continuation has it return in which only its goroutines step: the API
fails no call, no connection breaks and the context does not end. -/
theorem pod_can_always_return {s : PodState} (reachable : PodReachable j pod logs s) :
    ∃ s' result, Relation.ReflTransGen (PodStep j pod logs false) s s' ∧
      s'.main = .returned result := by
  cases at_main : s.main with
  | returned result => exact ⟨s, result, .refl, at_main⟩
  | calling => exact reaches_return_of_calling reachable at_main
  | waiting => exact reaches_return_of_waiting reachable at_main
  | streaming =>
      obtain ⟨s', run, settled⟩ := reaches_settled_of_streaming reachable at_main
      rcases settled with ⟨result, final⟩ | ⟨calling, -⟩
      · exact ⟨s', result, run, final⟩
      · obtain ⟨s'', result, rest, final⟩ :=
          reaches_return_of_calling (reachable.of_run run) calling
        exact ⟨s'', result, run.trans rest, final⟩

theorem pod_can_always_return_readyThenHello :
    ∃ s, PodReachable logAllJob readyThenHelloPod readyThenHelloLogs s ∧ s.main = .streaming ∧
      ∃ s' result, Relation.ReflTransGen
        (PodStep logAllJob readyThenHelloPod readyThenHelloLogs false) s s' ∧
        s'.main = .returned result := by
  have called : PodReachable logAllJob readyThenHelloPod readyThenHelloLogs _ :=
    .single (.callInit rfl (by decide) rfl)
  exact ⟨_, called, rfl, pod_can_always_return called⟩

end Runs

section Guarantees

variable {j : Job} {pod : Pod} {logs : String → StreamInput}

/-- The consumer has received no event of a call not yet made, and what a call
made has delivered, in order. -/
theorem eventsOf_of_setup {s : PodState} (reachable : PodReachable j pod logs s) {index : Nat}
    {setup : Setup} (setupAt : (streamSetups j pod logs)[index]? = some setup) :
    s.streams.length ≤ index ∧ eventsOf s.trace index = [] ∨ ∃ st, s.streams[index]? = some st ∧
      Reachable setup (streamContent logs setup) st ∧ eventsOf s.trace index = st.delivered := by
  have invariant := streamsInvariant_of_reachable reachable
  rw [invariant.events, deliveredAt]
  cases found : s.streams[index]? with
  | none => exact .inl ⟨List.getElem?_eq_none_iff.mp found, rfl⟩
  | some st =>
      obtain ⟨setup', setupAt', streamReachable⟩ := invariant.reachable index st found
      rw [setupAt, Option.some.injEq] at setupAt'
      subst setupAt'
      exact .inr ⟨st, rfl, streamReachable, rfl⟩

/-- Once `logStreamPod` has returned `nil`, every call has been made and has
returned `nil`. -/
theorem streamAt_of_returned_nil {s : PodState} (reachable : PodReachable j pod logs s)
    (returned : s.main = .returned none) {index : Nat} {setup : Setup}
    (setupAt : (streamSetups j pod logs)[index]? = some setup) :
    ∃ st, Reachable setup (streamContent logs setup) st ∧ st.main = .returned none ∧
      eventsOf s.trace index = st.delivered := by
  obtain ⟨length, settled⟩ := (phaseInvariant_of_reachable reachable).returnedNil returned
  have bound : index < s.streams.length := length ▸ (List.getElem?_eq_some_iff.mp setupAt).1
  rcases eventsOf_of_setup reachable setupAt with
    ⟨notMade, -⟩ | ⟨st, found, streamReachable, events⟩
  · omega
  · exact ⟨st, streamReachable, settled index st found, events⟩

/-- An element of a split list lies in the part its position falls in. -/
theorem getElem_mem_of_append {α : Type} {l before after : List α} (split : l = before ++ after)
    {p : Nat} (bound : p < l.length) :
    (p < before.length → l[p] ∈ before) ∧ (before.length ≤ p → l[p] ∈ after) := by
  subst split
  exact ⟨fun early => by rw [List.getElem_append_left early]; exact List.getElem_mem _,
    fun late => by rw [List.getElem_append_right late]; exact List.getElem_mem _⟩

/-- In every interleaving, an event of an init container that the consumer
receives after an event of a later container is a finished event: the command
log line and every log line of an init container reach the consumer before
anything of the containers after it. The finished events of its reader, which
outlives the call, may come later. -/
theorem init_events_precede_later_calls {s : PodState} (reachable : PodReachable j pod logs s)
    {p q : Nat} (hp : p < s.trace.length) (hq : q < s.trace.length) (earlier : p < q)
    (later : s.trace[q].1 < s.trace[p].1)
    (init : s.trace[q].1 < pod.spec.initContainers.length) :
    s.trace[q].2.isFinished = true := by
  have tagged := (streamsInvariant_of_reachable reachable).tag_lt (List.getElem_mem hp)
  obtain ⟨before, after, split, early, late⟩ :=
    ordered_of_reachable reachable _ init (by omega)
  have skipped : before.length ≤ p := by
    by_contra inBefore
    have := early _ ((getElem_mem_of_append split hp).1 (by omega))
    omega
  exact late _ ((getElem_mem_of_append split hq).2 (by omega)) le_rfl

/-- On `readyThenHelloPod`, the call on `init` returns `nil` and its reader,
reading `io.EOF` after `Close`, sends a second finished event after the command
log line of `test`. -/
theorem init_events_precede_later_calls_readyThenHello :
    ∃ s, PodReachable logAllJob readyThenHelloPod readyThenHelloLogs s ∧
      ∃ (p q : Nat) (hp : p < s.trace.length) (hq : q < s.trace.length), p < q ∧
        s.trace[q].1 < s.trace[p].1 ∧ s.trace[q].1 < readyThenHelloPod.spec.initContainers.length ∧
        s.trace[q].2.isFinished = true := by
  have called : PodReachable logAllJob readyThenHelloPod readyThenHelloLogs _ :=
    .single (.callInit rfl (by decide) rfl)
  obtain ⟨lines, initReturned⟩ :=
    reaches_returned_nil ⟨readyThenHelloPod, readyContainer, true, true, none⟩ "ready\n".data
  have initDone := reaches_stream_run called 0 rfl rfl (initReturned.tail (.read rfl))
  have spawned := (initDone.tail (.initReturned rfl rfl rfl)).tail (.spawn rfl rfl)
  have commandSent := reaches_stream_run spawned 1 rfl rfl
    ((Relation.ReflTransGen.single (.opened rfl)).tail (.sendCommandLog rfl))
  have lateFinished := reaches_stream_run commandSent 0 rfl rfl (.single (.sendFinished rfl))
  obtain ⟨⟨main, streams, returned, group, trace⟩, reachable, A, split⟩ :
      ∃ s, PodReachable logAllJob readyThenHelloPod readyThenHelloLogs s ∧ ∃ A, s.trace = A ++
        [(1, commandLog readyThenHelloPod helloContainer),
          (0, finishedLog ⟨readyThenHelloPod, readyContainer, true, true, none⟩)] :=
    ⟨_, lateFinished, _, by simp; rfl⟩
  subst split
  refine ⟨_, reachable, A.length, A.length + 1, by simp, by simp, by omega, ?_⟩
  exact (fun later init => ⟨later, init,
      init_events_precede_later_calls reachable _ _ (Nat.lt_succ_self _) later init⟩)
    (by simp [List.getElem_append_right]) (by simp [List.getElem_append_right, readyThenHelloPod])

/-- In every interleaving, once `logStreamPod` has returned `nil`, the consumer
has received for each container of the pod, init containers included, its
command log line when that is enabled, then every complete line of its log in
order when the log is enabled, and after them only finished events, at least
one. -/
theorem returned_nil_delivers_every_log {s : PodState} (reachable : PodReachable j pod logs s)
    (returned : s.main = .returned none) {index : Nat} {setup : Setup}
    (setupAt : (streamSetups j pod logs)[index]? = some setup) :
    ∃ finished, 0 < finished ∧
      eventsOf s.trace index = commandLogs setup ++
        (if setup.enabledLog then newlineSegments (streamContent logs setup) else []).map
          (lineLog setup) ++
        List.replicate finished (finishedLog setup) := by
  obtain ⟨st, streamReachable, streamReturned, events⟩ :=
    streamAt_of_returned_nil reachable returned setupAt
  rw [events]
  exact returned_nil_delivers_whole_log streamReachable streamReturned

theorem returned_nil_delivers_every_log_readyThenHello :
    ∃ s, PodReachable logAllJob readyThenHelloPod readyThenHelloLogs s ∧
      s.main = .returned none ∧ ∃ finished, 0 < finished ∧
        eventsOf s.trace 1 =
          [⟨readyThenHelloPod, helloContainer, "echo hello\n", false⟩,
            ⟨readyThenHelloPod, helloContainer, "hello\n", false⟩] ++
          List.replicate finished ⟨readyThenHelloPod, helloContainer, "", true⟩ := by
  obtain ⟨s, reachable, returned⟩ :=
    pod_reaches_returned_nil logAllJob readyThenHelloPod readyThenHelloLogs
  obtain ⟨finished, positive, events⟩ := @returned_nil_delivers_every_log logAllJob
    readyThenHelloPod readyThenHelloLogs s reachable returned 1 _ rfl
  exact ⟨s, reachable, returned, finished, positive, events.trans rfl⟩

/-- In every interleaving, the events the consumer has received from each call
are, in order: its command log line, at most once and only when enabled, then
the first complete lines of its log in order, none skipped or repeated and none
when the log is disabled, then finished events. -/
theorem received_events_in_order {s : PodState} (reachable : PodReachable j pod logs s)
    {index : Nat} {setup : Setup} (setupAt : (streamSetups j pod logs)[index]? = some setup) :
    ∃ command lines finished, command <+: commandLogs setup ∧
      lines <+: (if setup.enabledLog then newlineSegments (streamContent logs setup) else []) ∧
      eventsOf s.trace index =
        command ++ lines.map (lineLog setup) ++ List.replicate finished (finishedLog setup) := by
  rcases eventsOf_of_setup reachable setupAt with ⟨-, none⟩ | ⟨st, -, streamReachable, events⟩
  · exact ⟨[], [], 0, List.nil_prefix, List.nil_prefix, none⟩
  · rw [events]
    exact delivered_in_order streamReachable

theorem received_events_in_order_readyThenHello :
    ∃ s, PodReachable logAllJob readyThenHelloPod readyThenHelloLogs s ∧
      s.main = .returned none ∧ ∃ command lines finished,
        command <+: [commandLog readyThenHelloPod helloContainer] ∧ lines <+: ["hello\n".data] ∧
        eventsOf s.trace 1 = command ++
          lines.map (lineLog ⟨readyThenHelloPod, helloContainer, true, true, none⟩) ++
          List.replicate finished
            (finishedLog ⟨readyThenHelloPod, helloContainer, true, true, none⟩) := by
  obtain ⟨s, reachable, returned⟩ :=
    pod_reaches_returned_nil logAllJob readyThenHelloPod readyThenHelloLogs
  exact ⟨s, reachable, returned, @received_events_in_order logAllJob readyThenHelloPod
    readyThenHelloLogs s reachable 1 ⟨readyThenHelloPod, helloContainer, true, true, none⟩ rfl⟩

/-- In every interleaving, an init container whose `logStreamContainer` returns
an error is the last container whose log `logStreamPod` requests: no later call
is ever made, and the consumer receives no event of any later container. -/
theorem init_failure_ends_streaming {s : PodState} (reachable : PodReachable j pod logs s)
    {index : Nat} {st : State} {err : GoError} (init : index < pod.spec.initContainers.length)
    (found : s.streams[index]? = some st) (failed : st.main = .returned (some err)) :
    s.streams.length = index + 1 ∧ ∀ later, index < later → eventsOf s.trace later = [] := by
  have bound : index < s.streams.length := (List.getElem?_eq_some_iff.mp found).1
  have last : s.streams.length = index + 1 := by
    by_contra notLast
    have settled :=
      (phaseInvariant_of_reachable reachable).initSettled index st (by omega) init found
    rw [failed] at settled
    cases settled
  refine ⟨last, fun later after => ?_⟩
  rw [(streamsInvariant_of_reachable reachable).events, deliveredAt,
    List.getElem?_eq_none (by omega)]
  rfl

/-- On `readyThenHelloPod`, the API fails to open the log stream of `init`. -/
theorem reaches_init_open_failed (err : GoError) :
    PodReachable logAllJob readyThenHelloPod readyThenHelloLogs
      ⟨.returned (some (.wrap "failed to log stream container"
          (.wrap "failed to create log stream" err))),
        [{ start "ready\n".data with
            main := .returned (some (.wrap "failed to create log stream" err)) }],
        [], none, []⟩ := by
  have called : PodReachable logAllJob readyThenHelloPod readyThenHelloLogs _ :=
    .single (.callInit rfl (by decide) rfl)
  exact (reaches_stream_run called 0 rfl rfl (.single (.openFailed rfl err rfl))).tail
    (.initFailed rfl rfl rfl)

theorem init_failure_ends_streaming_readyThenHello :
    ∃ s, PodReachable logAllJob readyThenHelloPod readyThenHelloLogs s ∧
      s.streams[0]? = some { start "ready\n".data with
        main := .returned (some (.wrap "failed to create log stream"
          (.text "etcdserver: request timed out"))) } ∧
      s.streams.length = 1 ∧ ∀ later, 0 < later → eventsOf s.trace later = [] :=
  ⟨_, reaches_init_open_failed _, rfl,
    init_failure_ends_streaming (reaches_init_open_failed _) (by decide) rfl rfl⟩

/-- In every interleaving, an error `logStreamPod` returns is the error of one of
its calls, which failed to open its stream, received an error from its reader or
saw the context end, canceled or past its deadline: the error of the init call it
stopped at, wrapped "failed to log stream container", or that of a goroutine that
has returned it, wrapped "failed to log stream container" and then "failed to
wait". -/
theorem returned_error_of_call {s : PodState} (reachable : PodReachable j pod logs s)
    {e : GoError} (returned : s.main = .returned (some e)) :
    ∃ index st err, s.streams[index]? = some st ∧ st.main = .returned (some err) ∧
      CallError err ∧
      (index < pod.spec.initContainers.length ∧ e = .wrap "failed to log stream container" err ∨
        pod.spec.initContainers.length ≤ index ∧ index ∈ s.returned ∧
          e = .wrap "failed to wait" (.wrap "failed to log stream container" err)) := by
  have origin := errorOrigin_of_reachable reachable
  have callError : ∀ (index : Nat) (st : State) (err : GoError), s.streams[index]? = some st →
      st.main = .returned (some err) → CallError err := fun index st _ found failed => by
    obtain ⟨setup, -, streamReachable⟩ :=
      (streamsInvariant_of_reachable reachable).reachable index st found
    exact callError_of_reachable streamReachable failed
  rcases origin.result e returned with ⟨index, st, err, init, found, failed, rfl⟩ | ⟨g, group, rfl⟩
  · exact ⟨index, st, err, found, failed, callError _ _ _ found failed, .inl ⟨init, rfl⟩⟩
  · obtain ⟨index, member, st, err, regular, found, failed, rfl⟩ := origin.group g group
    exact ⟨index, st, err, found, failed, callError _ _ _ found failed,
      .inr ⟨regular, member, rfl⟩⟩

theorem returned_error_of_call_readyThenHello :
    ∃ s e, PodReachable logAllJob readyThenHelloPod readyThenHelloLogs s ∧
      e = GoError.wrap "failed to log stream container"
        (.wrap "failed to create log stream" (.text "etcdserver: request timed out")) ∧
      s.main = .returned (some e) ∧
      ∃ index st err, s.streams[index]? = some st ∧ st.main = .returned (some err) ∧
        CallError err ∧
        (index < readyThenHelloPod.spec.initContainers.length ∧
            e = .wrap "failed to log stream container" err ∨
          readyThenHelloPod.spec.initContainers.length ≤ index ∧ index ∈ s.returned ∧
            e = .wrap "failed to wait" (.wrap "failed to log stream container" err)) :=
  ⟨_, _, reaches_init_open_failed _, rfl, rfl,
    returned_error_of_call (reaches_init_open_failed _) rfl⟩

end Guarantees

end LogStreamPod

end Kubejob
