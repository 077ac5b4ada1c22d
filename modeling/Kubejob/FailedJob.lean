import Kubejob.Core
import Mathlib.Data.List.Nodup

/-!
# Failed containers of a `FailedJob`

`FailedContainerNames` collects, status list by status list, the names whose
container terminated with reason `Error`; `FailedContainers` maps each name back
to a spec container through a map filled from the init containers and then the
regular ones.

The order of the result is the order of the *status* lists. The kubelet reports
regular container statuses sorted by name, so this is in general not the spec
order; the two lists are permutations of each other when names are distinct.
-/

namespace Kubejob

namespace ContainerStatus

/-- The test in `errorContainerNamesFromStatuses`: `Terminated` is non-nil and
its reason is `Error`. -/
def terminatedWithError (status : ContainerStatus) : Bool :=
  match status.state.terminated with
  | none => false
  | some terminated => terminated.reason = "Error"

end ContainerStatus

namespace FailedJob

/-- `errorContainerNamesFromStatuses`. -/
def errorContainerNamesFromStatuses (containerStatuses : List ContainerStatus) :
    List String :=
  containerStatuses.filterMap fun status =>
    match status.state.terminated with
    | none => none
    | some terminated =>
        if terminated.reason = "Error" then some status.name else none

/-- `FailedContainerNames`; `none` stands for the nil dereference of `j.Pod`. -/
def failedContainerNames (j : FailedJob) : Option (List String) :=
  match j.pod with
  | none => none
  | some pod =>
      some ([] ++ errorContainerNamesFromStatuses pod.status.initContainerStatuses ++
        errorContainerNamesFromStatuses pod.status.containerStatuses)

/-- `nameToContainerMap` once filled: the init containers are stored first, so a
regular container replaces an init container of the same name. -/
def nameToContainerMap (spec : PodSpec) : String → Option Container :=
  (spec.initContainers ++ spec.containers).foldl
    (fun map container name => if name = container.name then some container else map name)
    fun _ => none

/-- `FailedContainers`. A name missing from the map reads as the zero
`core.Container`. -/
def failedContainers (j : FailedJob) : Option (List Container) :=
  match j.pod, j.failedContainerNames with
  | some pod, some names =>
      some (names.map fun name => (nameToContainerMap pod.spec name).getD default)
  | _, _ => none

theorem errorContainerNamesFromStatuses_eq (containerStatuses : List ContainerStatus) :
    errorContainerNamesFromStatuses containerStatuses =
      (containerStatuses.filter ContainerStatus.terminatedWithError).map
        ContainerStatus.name := by
  induction containerStatuses with
  | nil => rfl
  | cons status rest ih =>
      obtain ⟨name, ⟨_ | ⟨⟨reason⟩⟩⟩⟩ := status
      · simpa [errorContainerNamesFromStatuses, ContainerStatus.terminatedWithError] using ih
      · by_cases isError : reason = "Error" <;>
          simp_all [errorContainerNamesFromStatuses, ContainerStatus.terminatedWithError]

/-- The map returns the last container of the given name in fill order. -/
theorem foldl_fill_apply (containers : List Container)
    (map : String → Option Container) (name : String) :
    containers.foldl
        (fun map container name => if name = container.name then some container else map name)
        map name =
      ((containers.reverse.find? fun container => container.name = name).orElse
        fun _ => map name) := by
  induction containers generalizing map with
  | nil => rfl
  | cons container rest ih =>
      rw [List.foldl_cons, ih, List.reverse_cons, List.find?_append]
      by_cases equal : name = container.name
      · cases rest.reverse.find? (fun container => container.name = name) <;> simp [equal]
      · cases rest.reverse.find? (fun container => container.name = name) <;>
          simp [equal, Ne.symm equal]

/-- The names `FailedContainerNames` reports: every status, init statuses first,
whose container terminated with `Error`. -/
theorem failedContainerNames_some (pod : Pod) :
    (FailedJob.mk (some pod)).failedContainerNames =
      some (((pod.status.initContainerStatuses ++ pod.status.containerStatuses).filter
        ContainerStatus.terminatedWithError).map ContainerStatus.name) := by
  simp [failedContainerNames, errorContainerNamesFromStatuses_eq, List.filter_append]

/-- In a list of containers with distinct names, searching by a member's name
finds that member. -/
theorem find?_name_of_mem {containers : List Container}
    (distinct : (containers.map Container.name).Nodup) {container : Container}
    (member : container ∈ containers) :
    containers.find? (fun other => other.name = container.name) = some container := by
  induction containers with
  | nil => cases member
  | cons head rest ih =>
      rw [List.map_cons, List.nodup_cons] at distinct
      rcases List.mem_cons.mp member with rfl | inRest
      · simp
      · have differ : head.name ≠ container.name := fun equal =>
          distinct.1 (equal ▸ List.mem_map_of_mem _ inRest)
        simp [differ, ih distinct.2 inRest]

/-- With pairwise distinct names, the map sends a spec container's name to it. -/
theorem nameToContainerMap_of_mem {spec : PodSpec}
    (distinct : ((spec.initContainers ++ spec.containers).map Container.name).Nodup)
    {container : Container} (member : container ∈ spec.initContainers ++ spec.containers) :
    nameToContainerMap spec container.name = some container := by
  rw [nameToContainerMap, foldl_fill_apply,
    find?_name_of_mem (by simpa [List.map_reverse] using List.nodup_reverse.mpr distinct)
      (List.mem_reverse.mpr member)]
  rfl

/-- The containers that `FailedContainers` reports for one status list: for
each status terminated with `Error`, in status order, the spec container of
that name. -/
def failedInStatusOrder (containers : List Container)
    (containerStatuses : List ContainerStatus) : List Container :=
  (containerStatuses.filter ContainerStatus.terminatedWithError).filterMap fun status =>
    containers.find? fun container => container.name = status.name

/-- The same containers in spec order: those having a status terminated with
`Error`. -/
def failedInSpecOrder (containers : List Container)
    (containerStatuses : List ContainerStatus) : List Container :=
  containers.filter fun container =>
    containerStatuses.any fun status =>
      status.name = container.name && status.terminatedWithError

/-- What the API server and the kubelet guarantee of a pod: container names are
distinct across both spec lists, and each status names a container of its own
spec list, at most once. -/
structure WellNamed (pod : Pod) : Prop where
  distinct : ((pod.spec.initContainers ++ pod.spec.containers).map Container.name).Nodup
  initStatusNamed : ∀ status ∈ pod.status.initContainerStatuses,
    status.name ∈ pod.spec.initContainers.map Container.name
  statusNamed : ∀ status ∈ pod.status.containerStatuses,
    status.name ∈ pod.spec.containers.map Container.name
  initStatusDistinct : (pod.status.initContainerStatuses.map ContainerStatus.name).Nodup
  statusDistinct : (pod.status.containerStatuses.map ContainerStatus.name).Nodup

/-- Looking the status names up in the map is looking them up in the spec list
they name, when that list is part of the spec. -/
theorem map_lookup_eq_filterMap {spec : PodSpec}
    (distinct : ((spec.initContainers ++ spec.containers).map Container.name).Nodup)
    {containers : List Container}
    (part : List.Sublist containers (spec.initContainers ++ spec.containers))
    (containerStatuses : List ContainerStatus)
    (named : ∀ status ∈ containerStatuses, status.name ∈ containers.map Container.name) :
    (containerStatuses.map ContainerStatus.name).map
        (fun name => (nameToContainerMap spec name).getD default) =
      containerStatuses.filterMap fun status =>
        containers.find? fun container => container.name = status.name := by
  induction containerStatuses with
  | nil => rfl
  | cons status rest ih =>
      obtain ⟨container, member, sameName⟩ := List.mem_map.mp (named status (by simp))
      have found := find?_name_of_mem (distinct.sublist (part.map _)) member
      rw [sameName] at found
      have lookup : nameToContainerMap spec status.name = some container :=
        sameName ▸ nameToContainerMap_of_mem distinct (part.subset member)
      simp only [List.map_cons, ih fun other inRest => named other (by simp [inRest]),
        List.filterMap_cons, found, lookup, Option.getD_some]

/-- A status naming a container of a list is found in it by that name. -/
theorem find?_of_named {containers : List Container} {status : ContainerStatus}
    (named : status.name ∈ containers.map Container.name) :
    ∃ found ∈ containers, containers.find? (fun container => container.name = status.name) =
      some found ∧ found.name = status.name := by
  cases equal : containers.find? (fun container => container.name = status.name) with
  | none =>
      obtain ⟨container, member, sameName⟩ := List.mem_map.mp named
      rw [List.find?_eq_none] at equal
      exact absurd sameName (by simpa using equal container member)
  | some found =>
      exact ⟨found, List.mem_of_find?_eq_some equal, rfl, by simpa using List.find?_some equal⟩

theorem map_name_filterMap_find? {containers : List Container}
    {containerStatuses : List ContainerStatus}
    (named : ∀ status ∈ containerStatuses, status.name ∈ containers.map Container.name) :
    (containerStatuses.filterMap fun status =>
        containers.find? fun container => container.name = status.name).map Container.name =
      containerStatuses.map ContainerStatus.name := by
  induction containerStatuses with
  | nil => rfl
  | cons status rest ih =>
      obtain ⟨found, _, isFound, foundName⟩ := find?_of_named (named status (by simp))
      simp only [List.filterMap_cons, isFound, List.map_cons, foundName,
        ih fun other inRest => named other (by simp [inRest])]

theorem failedInStatusOrder_perm {containers : List Container}
    {containerStatuses : List ContainerStatus}
    (distinct : (containers.map Container.name).Nodup)
    (statusDistinct : (containerStatuses.map ContainerStatus.name).Nodup)
    (named : ∀ status ∈ containerStatuses, status.name ∈ containers.map Container.name) :
    (failedInStatusOrder containers containerStatuses).Perm
      (failedInSpecOrder containers containerStatuses) := by
  have namedFiltered : ∀ status ∈ containerStatuses.filter ContainerStatus.terminatedWithError,
      status.name ∈ containers.map Container.name :=
    fun status member => named status (List.mem_of_mem_filter member)
  have statusOrderDistinct : (failedInStatusOrder containers containerStatuses).Nodup := by
    refine List.Nodup.of_map Container.name ?_
    rw [failedInStatusOrder, map_name_filterMap_find? namedFiltered]
    exact statusDistinct.sublist ((List.filter_sublist _).map _)
  refine (List.perm_ext_iff_of_nodup statusOrderDistinct
    ((List.Nodup.of_map _ distinct).filter _)).mpr fun container => ?_
  simp only [failedInStatusOrder, failedInSpecOrder, List.mem_filterMap, List.mem_filter,
    List.any_eq_true, Bool.and_eq_true, decide_eq_true_eq]
  constructor
  · rintro ⟨status, ⟨member, failed⟩, isFound⟩
    have sameName : container.name = status.name := by simpa using List.find?_some isFound
    exact ⟨List.mem_of_find?_eq_some isFound, status, member, sameName.symm, failed⟩
  · rintro ⟨member, status, statusMember, sameName, failed⟩
    refine ⟨status, ⟨statusMember, failed⟩, ?_⟩
    rw [sameName]
    exact find?_name_of_mem distinct member

/-- A container named by no status is in neither list. -/
theorem failedInStatusOrder_cons_unreported {container : Container} {containers : List Container}
    {containerStatuses : List ContainerStatus}
    (unreported : ∀ status ∈ containerStatuses, status.name ≠ container.name) :
    failedInStatusOrder (container :: containers) containerStatuses =
      failedInStatusOrder containers containerStatuses := by
  refine List.filterMap_congr fun status member => ?_
  simp [List.find?_cons, Ne.symm (unreported status (List.mem_of_mem_filter member))]

theorem failedInSpecOrder_cons_unreported {container : Container} {containers : List Container}
    {containerStatuses : List ContainerStatus}
    (unreported : ∀ status ∈ containerStatuses, status.name ≠ container.name) :
    failedInSpecOrder (container :: containers) containerStatuses =
      failedInSpecOrder containers containerStatuses := by
  have absent : (containerStatuses.any fun status =>
      status.name = container.name && status.terminatedWithError) = false := by
    simpa using fun status member same => absurd same (unreported status member)
  simp [failedInSpecOrder, List.filter_cons, absent]

/-- A status naming no container of the list changes nothing in spec order. -/
theorem failedInSpecOrder_cons_status {containers : List Container} {status : ContainerStatus}
    {containerStatuses : List ContainerStatus}
    (unnamed : ∀ container ∈ containers, container.name ≠ status.name) :
    failedInSpecOrder containers (status :: containerStatuses) =
      failedInSpecOrder containers containerStatuses :=
  List.filter_congr fun container member => by
    simp [Ne.symm (unnamed container member)]

/-- When the status names follow the spec order, the status order is the spec
order. -/
theorem failedInStatusOrder_eq_of_sublist {containers : List Container}
    {containerStatuses : List ContainerStatus} (distinct : (containers.map Container.name).Nodup)
    (ordered : List.Sublist (containerStatuses.map ContainerStatus.name)
      (containers.map Container.name)) :
    failedInStatusOrder containers containerStatuses =
      failedInSpecOrder containers containerStatuses := by
  induction containers generalizing containerStatuses with
  | nil => simp [failedInStatusOrder, failedInSpecOrder]
  | cons container containers ih =>
      rw [List.map_cons, List.nodup_cons] at distinct
      have unreported : ∀ {statuses : List ContainerStatus},
          List.Sublist (statuses.map ContainerStatus.name) (containers.map Container.name) →
          ∀ status ∈ statuses, status.name ≠ container.name := fun sub status member same =>
        distinct.1 (same ▸ sub.subset (List.mem_map_of_mem _ member))
      rcases List.sublist_cons_iff.mp ordered with later | ⟨names, split, sub⟩
      · rw [failedInStatusOrder_cons_unreported (unreported later),
          failedInSpecOrder_cons_unreported (unreported later), ih distinct.2 later]
      · obtain ⟨status, statuses, rfl, sameName, rfl⟩ := List.map_eq_cons_iff.mp split
        have named : ∀ other ∈ containers, other.name ≠ status.name := fun other member same =>
          distinct.1 (sameName ▸ same ▸ List.mem_map_of_mem _ member)
        have absent : (statuses.any fun other =>
            other.name = container.name && other.terminatedWithError) = false := by
          simpa using fun other member same => absurd same (unreported sub other member)
        have head : (container :: containers).find? (fun c => c.name = status.name) =
            some container := by simp [sameName]
        have statusOrder : failedInStatusOrder (container :: containers) (status :: statuses) =
            (if status.terminatedWithError then [container] else []) ++
              failedInStatusOrder containers statuses := by
          rw [← failedInStatusOrder_cons_unreported (unreported sub)]
          cases failed : status.terminatedWithError <;>
            simp [failedInStatusOrder, List.filter_cons, failed, head]
        have specOrder : failedInSpecOrder (container :: containers) (status :: statuses) =
            (if status.terminatedWithError then [container] else []) ++
              failedInSpecOrder containers statuses := by
          rw [← failedInSpecOrder_cons_status named]
          cases failed : status.terminatedWithError <;>
            simp [failedInSpecOrder, List.filter_cons, failed, sameName, absent]
        rw [statusOrder, specOrder, ih distinct.2 sub]

/-- `FailedContainers` reads each status list in its own order: the init
containers that terminated with `Error` in `InitContainerStatuses` order, then the
regular ones in `ContainerStatuses` order. -/
theorem failedContainers_eq {pod : Pod} (named : WellNamed pod) :
    (FailedJob.mk (some pod)).failedContainers =
      some (failedInStatusOrder pod.spec.initContainers pod.status.initContainerStatuses ++
        failedInStatusOrder pod.spec.containers pod.status.containerStatuses) := by
  simp only [failedContainers, failedContainerNames, errorContainerNamesFromStatuses_eq,
    List.nil_append, List.map_append]
  rw [map_lookup_eq_filterMap named.distinct (List.sublist_append_left _ _) _
      fun status member => named.initStatusNamed status (List.mem_of_mem_filter member),
    map_lookup_eq_filterMap named.distinct (List.sublist_append_right _ _) _
      fun status member => named.statusNamed status (List.mem_of_mem_filter member)]
  rfl

theorem failedContainerNames_eq {pod : Pod} (named : WellNamed pod) :
    (FailedJob.mk (some pod)).failedContainerNames =
      some ((failedInStatusOrder pod.spec.initContainers pod.status.initContainerStatuses ++
        failedInStatusOrder pod.spec.containers pod.status.containerStatuses).map
          Container.name) := by
  simp only [failedContainerNames, errorContainerNamesFromStatuses_eq, List.nil_append,
    List.map_append, failedInStatusOrder]
  rw [map_name_filterMap_find?
      fun status member => named.initStatusNamed status (List.mem_of_mem_filter member),
    map_name_filterMap_find?
      fun status member => named.statusNamed status (List.mem_of_mem_filter member)]

/-- For every well-named pod, `FailedContainers` lists the spec containers whose
status terminated with `Error`, init containers first, each group in the order
of its status list; `FailedContainerNames` lists their names; and each group is a
permutation of the same containers in spec order, and is that list when the
status names follow the spec order. -/
theorem failedContainers_in_status_order (pod : Pod) (named : WellNamed pod) :
    (FailedJob.mk (some pod)).failedContainers =
        some (failedInStatusOrder pod.spec.initContainers pod.status.initContainerStatuses ++
          failedInStatusOrder pod.spec.containers pod.status.containerStatuses) ∧
      (FailedJob.mk (some pod)).failedContainerNames =
        some ((failedInStatusOrder pod.spec.initContainers pod.status.initContainerStatuses ++
          failedInStatusOrder pod.spec.containers pod.status.containerStatuses).map
            Container.name) ∧
      (failedInStatusOrder pod.spec.initContainers pod.status.initContainerStatuses).Perm
        (failedInSpecOrder pod.spec.initContainers pod.status.initContainerStatuses) ∧
      (failedInStatusOrder pod.spec.containers pod.status.containerStatuses).Perm
        (failedInSpecOrder pod.spec.containers pod.status.containerStatuses) ∧
      (List.Sublist (pod.status.initContainerStatuses.map ContainerStatus.name)
          (pod.spec.initContainers.map Container.name) →
        failedInStatusOrder pod.spec.initContainers pod.status.initContainerStatuses =
          failedInSpecOrder pod.spec.initContainers pod.status.initContainerStatuses) ∧
      (List.Sublist (pod.status.containerStatuses.map ContainerStatus.name)
          (pod.spec.containers.map Container.name) →
        failedInStatusOrder pod.spec.containers pod.status.containerStatuses =
          failedInSpecOrder pod.spec.containers pod.status.containerStatuses) :=
  have initDistinct := named.distinct.sublist ((List.sublist_append_left _ _).map _)
  have regularDistinct := named.distinct.sublist ((List.sublist_append_right _ _).map _)
  ⟨failedContainers_eq named, failedContainerNames_eq named,
    failedInStatusOrder_perm initDistinct named.initStatusDistinct named.initStatusNamed,
    failedInStatusOrder_perm regularDistinct named.statusDistinct named.statusNamed,
    failedInStatusOrder_eq_of_sublist initDistinct,
    failedInStatusOrder_eq_of_sublist regularDistinct⟩

/-- A pod whose spec lists `b` before `a`, with both statuses failed and, as
the kubelet reports them, sorted by name. -/
def nameSortedStatusPod : Pod :=
  let failed : ContainerState := ⟨some ⟨"Error"⟩⟩
  { name := "job-pod"
    spec :=
      ⟨[], [⟨"b", "busybox", ["false"], []⟩, ⟨"a", "busybox", ["false"], []⟩], "Never"⟩
    status := ⟨podFailed, [], [⟨"a", failed⟩, ⟨"b", failed⟩]⟩ }

theorem wellNamed_nameSortedStatusPod : WellNamed nameSortedStatusPod :=
  ⟨by decide, by decide, by decide, by decide, by decide⟩

theorem failedContainers_in_status_order_nameSorted :
    WellNamed nameSortedStatusPod ∧
      (FailedJob.mk (some nameSortedStatusPod)).failedContainers =
        some (failedInStatusOrder nameSortedStatusPod.spec.initContainers
            nameSortedStatusPod.status.initContainerStatuses ++
          failedInStatusOrder nameSortedStatusPod.spec.containers
            nameSortedStatusPod.status.containerStatuses) :=
  ⟨wellNamed_nameSortedStatusPod,
    (failedContainers_in_status_order nameSortedStatusPod wellNamed_nameSortedStatusPod).1⟩

/-- On a well-named pod whose statuses are sorted by name, `FailedContainers` is
not the spec-order list. -/
theorem failedContainers_not_spec_order :
    WellNamed nameSortedStatusPod ∧
      (FailedJob.mk (some nameSortedStatusPod)).failedContainers ≠
        some (failedInSpecOrder nameSortedStatusPod.spec.initContainers
            nameSortedStatusPod.status.initContainerStatuses ++
          failedInSpecOrder nameSortedStatusPod.spec.containers
            nameSortedStatusPod.status.containerStatuses) :=
  ⟨wellNamed_nameSortedStatusPod, by decide⟩

end FailedJob

end Kubejob
