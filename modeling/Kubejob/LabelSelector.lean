import Kubejob.Executor
import Mathlib.Data.List.Sort
import Mathlib.Data.String.Basic

/-!
# The label selector of a job

`labelSelector` prints the pod template's labels as `key=value` items sorted by
key and joined with commas. `Run` watches the job's pods with it and lists them
for deletion, so it must select exactly the pods labelled by this job.

The selector is read back by splitting it on `,` and each item at its `=`. When
no key or value holds one of these two characters, this gives the label map
back, in ascending key order, and the label `BuildWithJob` adds keeps it
non-empty. The methods of `Job` never touch the labels, so the same holds after
any of them.
-/

namespace Kubejob

namespace StringMap

/-- The keys of a map, sorted as `sort.Strings` sorts them. Go compares strings
by their UTF-8 bytes, which orders them as their code points do. -/
def sortedKeys (m : StringMap) : List String :=
  (m.entries.map Prod.fst).insertionSort (· ≤ ·)

/-- A key of the map reads its own value: the keys are distinct. -/
theorem get_of_mem {m : StringMap} {entry : String × String} (member : entry ∈ m.entries) :
    m.get entry.1 = entry.2 := by
  obtain ⟨entries, distinct⟩ := m
  simp only [get]
  induction entries with
  | nil => cases member
  | cons head entries ih =>
      obtain ⟨key, value⟩ := head
      rw [List.map_cons, List.nodup_cons] at distinct
      rcases List.mem_cons.mp member with rfl | member
      · simp [List.lookup_cons]
      · have fresh : (entry.1 == key) = false := beq_eq_false_iff_ne.mpr fun same =>
          distinct.1 (List.mem_map.mpr ⟨entry, member, same⟩)
        simp [List.lookup_cons, fresh, ih distinct.2 member]

theorem sortedKeys_perm (m : StringMap) : m.sortedKeys.Perm (m.entries.map Prod.fst) :=
  List.perm_insertionSort _ _

theorem sortedKeys_sorted (m : StringMap) : m.sortedKeys.Sorted (· < ·) :=
  (List.sorted_insertionSort _ _).lt_of_le ((sortedKeys_perm m).nodup_iff.mpr m.keysDistinct)

/-- The entries, listed by sorted key. -/
theorem sortedKeys_entries_perm (m : StringMap) :
    (m.sortedKeys.map fun key => (key, m.get key)).Perm m.entries := by
  have byKey : ((m.entries.map Prod.fst).map fun key => (key, m.get key)) = m.entries := by
    rw [List.map_map]
    conv => rhs; rw [← List.map_id m.entries]
    exact List.map_congr_left fun entry member => by simp [get_of_mem member]
  exact byKey ▸ (sortedKeys_perm m).map _

end StringMap

namespace Job

/-- `Job.labelSelector`. A nil label map has no keys. -/
def labelSelector (j : Job) : String :=
  let labels := j.job.template.labels.getD StringMap.empty
  String.intercalate "," (labels.sortedKeys.map fun key => key ++ "=" ++ labels.get key)

end Job

/-- The methods of `Job` a caller may call after `BuildWithJob`.
`RunWithExecutionHandler` rewrites the job as it prepares it, unless
`RoundTripperFor` fails first. -/
inductive JobOp where
  | setLogger (logger : Logger)
  | disableInitContainerLog
  | disableInitCommandLog
  | disableContainerLog
  | disableCommandLog
  | runWithExecutionHandler (handler : List JobExecutor → Option GoError)
      (roundTripperError : Option GoError)

/-- The job after a method. -/
def JobOp.apply : JobOp → Job → Job
  | .setLogger logger, j => j.setLogger logger
  | .disableInitContainerLog, j => j.disableInitContainerLog
  | .disableInitCommandLog, j => j.disableInitCommandLog
  | .disableContainerLog, j => j.disableContainerLog
  | .disableCommandLog, j => j.disableCommandLog
  | .runWithExecutionHandler handler roundTripperError, j =>
      match roundTripperError with
      | some _ => j
      | none => (j.prepareExecution handler).2

/-- The job after a sequence of methods. -/
def applyOps (ops : List JobOp) (j : Job) : Job :=
  ops.foldl (fun j op => op.apply j) j

theorem labels_applyOps (ops : List JobOp) (j : Job) :
    (applyOps ops j).job.template.labels = j.job.template.labels := by
  induction ops generalizing j with
  | nil => rfl
  | cons op ops ih =>
      rw [applyOps, List.foldl_cons, ← applyOps, ih]
      cases op with
      | runWithExecutionHandler handler roundTripperError => cases roundTripperError <;> rfl
      | _ => rfl

/-- Reading a selector back, as a label selector is read: split on `,`, then
each item at its first `=`. -/
def parseSelector (selector : String) : List (String × String) :=
  (selector.data.splitOn ',').map fun item =>
    (String.mk (item.takeWhile (· != '=')), String.mk ((item.dropWhile (· != '=')).drop 1))

/-- A label key or value as the label syntax admits it: no `,` and no `=`. -/
def LabelText (text : String) : Prop := ',' ∉ text.data ∧ '=' ∉ text.data

instance : DecidablePred LabelText := fun _ => inferInstanceAs (Decidable (_ ∧ _))

/-- An item `key=value` reads back as its key and value. -/
theorem parse_item {key value : String} (plain : '=' ∉ key.data) :
    (String.mk (((key ++ "=" ++ value).data).takeWhile (· != '=')),
      String.mk ((((key ++ "=" ++ value).data).dropWhile (· != '=')).drop 1)) = (key, value) := by
  have keyChars : ∀ c ∈ key.data, (c != '=') = true := fun c member => by
    simpa using fun same : c = '=' => plain (same ▸ member)
  simp [List.takeWhile_append_of_pos keyChars, List.dropWhile_append_of_pos keyChars]

/-- A selector of a non-empty map whose keys and values obey the label syntax
reads back as its entries, by sorted key. -/
theorem parseSelector_eq (j : Job) (labels : StringMap)
    (present : j.job.template.labels = some labels) (nonempty : labels.entries ≠ [])
    (labelSyntax : ∀ entry ∈ labels.entries, LabelText entry.1 ∧ LabelText entry.2) :
    parseSelector j.labelSelector = labels.sortedKeys.map fun key => (key, labels.get key) := by
  have keySyntax : ∀ key ∈ labels.sortedKeys, LabelText key ∧ LabelText (labels.get key) := by
    intro key member
    obtain ⟨entry, inEntries, rfl⟩ :=
      List.mem_map.mp ((StringMap.sortedKeys_perm labels).subset member)
    rw [StringMap.get_of_mem inEntries]
    exact labelSyntax entry inEntries
  have keysNonempty : labels.sortedKeys ≠ [] := fun empty => nonempty (by
    simpa [empty] using (StringMap.sortedKeys_perm labels).length_eq.symm)
  have items : ∀ item ∈ (labels.sortedKeys.map fun key => key ++ "=" ++ labels.get key).map
      String.data, ',' ∉ item := by
    simp only [List.map_map, List.mem_map]
    rintro _ ⟨key, member, rfl⟩
    have ⟨⟨keyComma, _⟩, valueComma, _⟩ := keySyntax key member
    simp [keyComma, valueComma]
  simp only [Job.labelSelector, present, Option.getD_some, parseSelector, intercalate_data]
  rw [@List.splitOn_intercalate _ _ _ ',' items (by simpa using keysNonempty),
    List.map_map, List.map_map]
  exact List.map_congr_left fun key member => parse_item (keySyntax key member).1.2

/-- `kubejob-label-` followed by an `xid` obeys the label syntax. -/
theorem labelText_generateName (xid : Xid) : LabelText (generateName "kubejob-label" xid) := by
  have xidChars : ∀ c ∈ xid.text.data, c ≠ ',' ∧ c ≠ '=' := fun c member => by
    rcases xid.alphabet c member with digit | ⟨low, high⟩
    · constructor <;> rintro rfl <;> simp [Char.isDigit] at digit
    · constructor <;> rintro rfl <;> simp at low
  refine ⟨fun member => ?_, fun member => ?_⟩ <;>
    simp only [generateName, String.data_append, List.mem_append] at member <;>
    rcases member with (prefixChars | dash) | xidChar
  all_goals first
    | exact absurd prefixChars (by decide)
    | exact absurd dash (by decide)
    | exact (xidChars _ xidChar).1 rfl
    | exact (xidChars _ xidChar).2 rfl

/-- `BuildWithJob` adds the label `kubejob-label-<xid>` to the template's labels,
with the same text as its value. -/
theorem buildWithJob_labels {xids : Nat → Xid} {jobSpec : BatchJob} {j : Job}
    (built : buildWithJob xids none jobSpec = .ok j) :
    ∃ n, j.job.template.labels = some ((jobSpec.template.labels.getD .empty).insert
      (generateName "kubejob-label" (xids n)) (generateName "kubejob-label" (xids n))) := by
  simp only [buildWithJob] at built
  split at built <;> cases built <;> exact ⟨_, rfl⟩

/-- After `BuildWithJob` and any methods of the job, `labelSelector()` reads back
as the template's label map, each key once in ascending order, with the pair
`L=L` of the label `BuildWithJob` generated; so it is never empty. -/
theorem labelSelector_reads_back_labels (xids : Nat → Xid) (jobSpec : BatchJob) (j : Job)
    (built : buildWithJob xids none jobSpec = .ok j) (ops : List JobOp)
    (labelSyntax : ∀ entry ∈ (jobSpec.template.labels.getD .empty).entries,
      LabelText entry.1 ∧ LabelText entry.2) :
    ∃ n labels,
      (applyOps ops j).job.template.labels = some labels ∧
      labels = (jobSpec.template.labels.getD .empty).insert (generateName "kubejob-label" (xids n))
        (generateName "kubejob-label" (xids n)) ∧
      (parseSelector (applyOps ops j).labelSelector).Perm labels.entries ∧
      ((parseSelector (applyOps ops j).labelSelector).map Prod.fst).Sorted (· < ·) ∧
      (generateName "kubejob-label" (xids n), generateName "kubejob-label" (xids n)) ∈
        parseSelector (applyOps ops j).labelSelector ∧
      (applyOps ops j).labelSelector ≠ "" := by
  obtain ⟨n, labeled⟩ := buildWithJob_labels built
  set label := generateName "kubejob-label" (xids n)
  set labels := (jobSpec.template.labels.getD .empty).insert label label
  have present : (applyOps ops j).job.template.labels = some labels :=
    (labels_applyOps ops j).trans labeled
  have inserted : (label, label) ∈ labels.entries := List.mem_cons_self _ _
  have allSyntax : ∀ entry ∈ labels.entries, LabelText entry.1 ∧ LabelText entry.2 := by
    intro entry member
    rcases List.mem_cons.mp member with rfl | old
    · exact ⟨labelText_generateName _, labelText_generateName _⟩
    · exact labelSyntax entry (List.mem_of_mem_filter old)
  have parsed :=
    parseSelector_eq (applyOps ops j) labels present (List.ne_nil_of_mem inserted) allSyntax
  have perm : (parseSelector (applyOps ops j).labelSelector).Perm labels.entries :=
    parsed ▸ labels.sortedKeys_entries_perm
  have keysBack :
      (parseSelector (applyOps ops j).labelSelector).map Prod.fst = labels.sortedKeys := by
    simp [parsed, Function.comp_def]
  have listed := perm.mem_iff.mpr inserted
  refine ⟨n, labels, present, rfl, perm, keysBack ▸ labels.sortedKeys_sorted, listed,
    fun empty => ?_⟩
  rw [empty, show parseSelector "" = [("", "")] from rfl, List.mem_singleton] at listed
  exact generateName_ne_empty _ _ (Prod.mk.inj listed).1

/-- A job of one container with the label `app=kubejob`. -/
def labelledJobSpec : BatchJob :=
  ⟨"", ⟨some ⟨[("app", "kubejob")], by decide⟩,
    ⟨[], [⟨"test", "alpine", ["echo", "hello"], []⟩], ""⟩⟩⟩

/-- What `BuildWithJob` returns for `labelledJobSpec`, when every `xid.New()`
returns `exampleXid`. -/
def labelledJob : Job where
  job := {
    name := generateName "kubejob" exampleXid
    template := {
      labels := some ((some ⟨[("app", "kubejob")], by decide⟩ : Option StringMap).getD .empty
        |>.insert (generateName "kubejob-label" exampleXid)
          (generateName "kubejob-label" exampleXid))
      spec := ⟨[], [⟨"test", "alpine", ["echo", "hello"], []⟩], restartPolicyNever⟩ } }
  logger := none
  disabledInitContainerLog := false
  disabledInitCommandLog := false
  disabledContainerLog := false
  disabledCommandLog := false
  podRunningCallback := none

theorem labelSelector_reads_back_labels_labelled :
    buildWithJob (fun _ => exampleXid) none labelledJobSpec = .ok labelledJob ∧
      (∀ entry ∈ (labelledJobSpec.template.labels.getD .empty).entries,
        LabelText entry.1 ∧ LabelText entry.2) ∧
      ∃ (_ : Nat) (labels : StringMap),
        (applyOps [.disableCommandLog, .runWithExecutionHandler (fun _ => none) none]
          labelledJob).job.template.labels = some labels ∧
        labels = (labelledJobSpec.template.labels.getD .empty).insert
          (generateName "kubejob-label" exampleXid) (generateName "kubejob-label" exampleXid) ∧
        (parseSelector (applyOps [.disableCommandLog, .runWithExecutionHandler (fun _ => none) none]
          labelledJob).labelSelector).Perm labels.entries ∧
        ((parseSelector (applyOps [.disableCommandLog,
          .runWithExecutionHandler (fun _ => none) none] labelledJob).labelSelector).map
            Prod.fst).Sorted (· < ·) ∧
        (generateName "kubejob-label" exampleXid, generateName "kubejob-label" exampleXid) ∈
          parseSelector (applyOps [.disableCommandLog,
            .runWithExecutionHandler (fun _ => none) none] labelledJob).labelSelector ∧
        (applyOps [.disableCommandLog, .runWithExecutionHandler (fun _ => none) none]
          labelledJob).labelSelector ≠ "" :=
  ⟨rfl, by decide, labelSelector_reads_back_labels (fun _ => exampleXid) labelledJobSpec
    labelledJob rfl _ (by decide)⟩

end Kubejob
