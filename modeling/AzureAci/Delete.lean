import AzureAci.Provider

/-!
# Deleting a pod

`DeletePod` and `CleanupPod` both call `deleteContainerGroup`, which deletes the group named by
`containerGroupName` and, when the provider tracks pods, hands the tracker an update function
that marks every running container of the pod terminated. The gateway's answer to
`DeleteContainerGroup` is a parameter; the tracker's answer is only logged, so it is not.
-/

namespace AzureAci

open V1

/-- `containerGroupName`: `fmt.Sprintf("%s-%s", podNS, podName)`. -/
def containerGroupName (podNS podName : String) : String := podNS ++ "-" ++ podName

/-- `statusReasonPodDeleted`. -/
def statusReasonPodDeleted : String := "NotFound"

/-- `statusMessagePodDeleted`. -/
def statusMessagePodDeleted : String := "The pod may have been deleted from the provider"

/-- `containerExitCodePodDeleted`. -/
def containerExitCodePodDeleted : Int := 0

/-- The body of the loop of the update function, for the container status at one index: a
running container is marked terminated, any other is skipped. -/
def markContainerDeleted (now : Time) (status : ContainerStatus) : ContainerStatus :=
  match status.state.running with
  | none => status
  | some running =>
      { status with
        state :=
          { status.state with
            terminated := some
              { exitCode := containerExitCodePodDeleted, reason := statusReasonPodDeleted
                message := statusMessagePodDeleted, finishedAt := now
                startedAt := running.startedAt, containerID := status.containerID }
            running := none } }

/-- The update function `deleteContainerGroup` passes to `UpdatePodStatus`: the loop over the
indices of the container statuses. `now` is `time.Now()` when the tracker runs it. -/
def markPodDeleted (now : Time) (podStatus : PodStatus) : PodStatus :=
  { podStatus with
    containerStatuses := (List.range podStatus.containerStatuses.length).foldl
      (fun statuses i => statuses.modify (markContainerDeleted now) i) podStatus.containerStatuses }

/-- `deleteContainerGroup`; `deleteResponse` is the gateway's answer to `DeleteContainerGroup`. -/
def deleteContainerGroup (deleteResponse : String → String → Except GoError Unit)
    (p : ACIProvider) (podNS podName : String) : Outcome Unit :=
  let cgName := containerGroupName podNS podName
  match deleteResponse p.resourceGroup cgName with
  | .error err => { result := .error err, calls := [.deleteContainerGroup p.resourceGroup cgName] }
  | .ok () =>
      match p.tracker with
      | some _ =>
          { result := .ok ()
            calls := [.deleteContainerGroup p.resourceGroup cgName,
              .updatePodStatus podNS podName markPodDeleted] }
      | none => { result := .ok (), calls := [.deleteContainerGroup p.resourceGroup cgName] }

/-- `DeletePod`. -/
def deletePod (deleteResponse : String → String → Except GoError Unit) (p : ACIProvider)
    (pod : Pod) : Outcome Unit :=
  deleteContainerGroup deleteResponse p pod.namespace pod.name

/-- `CleanupPod`. -/
def cleanupPod (deleteResponse : String → String → Except GoError Unit) (p : ACIProvider)
    (ns name : String) : Outcome Unit :=
  deleteContainerGroup deleteResponse p ns name

/-! ## Container group names -/

theorem append_cons_eq_append_cons_iff {α : Type} {a b x y : List α} {c : α} :
    a ++ c :: x = b ++ c :: y ↔ a = b ∧ x = y ∨ (∃ z, b = a ++ c :: z ∧ x = z ++ c :: y) ∨
      ∃ z, a = b ++ c :: z ∧ y = z ++ c :: x := by
  rw [List.append_eq_append_iff]
  constructor
  · rintro (⟨_ | ⟨d, z⟩, rfl, ⟨⟩⟩ | ⟨_ | ⟨d, z⟩, rfl, ⟨⟩⟩)
    · exact .inl ⟨(List.append_nil a).symm, rfl⟩
    · exact .inr (.inl ⟨z, rfl, rfl⟩)
    · exact .inl ⟨List.append_nil b, rfl⟩
    · exact .inr (.inr ⟨z, rfl, rfl⟩)
  · rintro (⟨rfl, rfl⟩ | ⟨z, rfl, rfl⟩ | ⟨z, rfl, rfl⟩)
    · exact .inl ⟨[], by simp⟩
    · exact .inl ⟨c :: z, rfl, by simp⟩
    · exact .inr ⟨c :: z, rfl, by simp⟩

/-- Two pods share a container group name exactly when they are the same pod, or one namespace
is the other followed by `-` and the rest of it starts the other pod's name. -/
theorem containerGroupName_eq_iff {ns name ns' name' : String} :
    containerGroupName ns name = containerGroupName ns' name' ↔ (ns, name) = (ns', name') ∨
      (∃ x, ns' = ns ++ "-" ++ x ∧ name = x ++ "-" ++ name') ∨
      ∃ x, ns = ns' ++ "-" ++ x ∧ name' = x ++ "-" ++ name := by
  have strings {P : List Char → Prop} : (∃ z, P z) ↔ ∃ x : String, P x.data :=
    ⟨fun ⟨z, holds⟩ => ⟨⟨z⟩, holds⟩, fun ⟨x, holds⟩ => ⟨x.data, holds⟩⟩
  simp only [containerGroupName, String.ext_iff, String.data_append, List.append_assoc,
    Prod.mk.injEq, List.singleton_append]
  rw [append_cons_eq_append_cons_iff, strings, strings]

theorem deleteContainerGroup_gateway_calls (deleteResponse : String → String → Except GoError Unit)
    (p : ACIProvider) (podNS podName : String) :
    ∀ call ∈ (deleteContainerGroup deleteResponse p podNS podName).calls, call.isGateway →
      call = .deleteContainerGroup p.resourceGroup (containerGroupName podNS podName) := by
  unfold deleteContainerGroup
  dsimp only
  cases deleteResponse p.resourceGroup (containerGroupName podNS podName) <;> cases p.tracker <;>
    simp only [List.mem_cons, List.mem_singleton, List.not_mem_nil, forall_eq_or_imp, forall_eq,
      or_false, Call.isGateway, imp_self, Bool.false_eq_true, false_implies, and_self]

theorem deleteContainerGroup_deletes_own_group
    (deleteResponse : String → String → Except GoError Unit) (p : ACIProvider)
    (podNS podName : String) :
    .deleteContainerGroup p.resourceGroup (containerGroupName podNS podName) ∈
      (deleteContainerGroup deleteResponse p podNS podName).calls := by
  unfold deleteContainerGroup
  dsimp only
  cases deleteResponse p.resourceGroup (containerGroupName podNS podName) <;> cases p.tracker <;>
    simp

/-- Deleting or cleaning up the pod `name` of namespace `ns` deletes the container group of the
pod `name'` of namespace `ns'` exactly when the two are the same pod, or one namespace is the
other followed by `-` and the rest of it starts the other pod's name. -/
theorem deleteContainerGroup_deletes_other_group_iff
    (deleteResponse : String → String → Except GoError Unit) (p : ACIProvider)
    (ns name ns' name' : String) :
    .deleteContainerGroup p.resourceGroup (containerGroupName ns' name') ∈
        (deleteContainerGroup deleteResponse p ns name).calls ↔
      (ns, name) = (ns', name') ∨ (∃ x, ns' = ns ++ "-" ++ x ∧ name = x ++ "-" ++ name') ∨
        ∃ x, ns = ns' ++ "-" ++ x ∧ name' = x ++ "-" ++ name := by
  rw [← containerGroupName_eq_iff]
  constructor
  · intro member
    exact ((Call.deleteContainerGroup.inj
      (deleteContainerGroup_gateway_calls deleteResponse p ns name _ member rfl)).2).symm
  · intro same
    rw [← same]
    exact deleteContainerGroup_deletes_own_group deleteResponse p ns name

/-- `a-b/c` and `a/b-c` share the container group `a-b-c`: deleting the pod `c` of namespace `a-b`
deletes the group of the pod `b-c` of namespace `a`. -/
theorem containerGroupName_collides :
    ("a-b", "c") ≠ ("a", "b-c") ∧ containerGroupName "a-b" "c" = containerGroupName "a" "b-c" ∧
      Call.deleteContainerGroup "rg" (containerGroupName "a" "b-c") ∈
        (deleteContainerGroup (fun _ _ => .ok ()) sampleProvider "a-b" "c").calls :=
  ⟨by decide, rfl, List.mem_singleton.mpr rfl⟩

/-! ## Marking the containers of a deleted pod -/

theorem getElem?_foldl_modify_range {α : Type} (f : α → α) (l : List α) (k j : Nat) :
    ((List.range k).foldl (fun l i => l.modify f i) l)[j]? =
      if j < k then f <$> l[j]? else l[j]? := by
  induction k with
  | zero => simp
  | succ k induction =>
      rw [List.range_succ, List.foldl_append, List.foldl_cons, List.foldl_nil, List.getElem?_modify,
        induction]
      by_cases below : j < k
      · simp [below, Nat.ne_of_gt below, show j < k + 1 by omega]
      · by_cases last : j = k
        · subst last
          simp
        · simp [below, Ne.symm last, show ¬ j < k + 1 by omega]

theorem markPodDeleted_eq (now : Time) (podStatus : PodStatus) :
    markPodDeleted now podStatus =
      { podStatus with
        containerStatuses := podStatus.containerStatuses.map (markContainerDeleted now) } := by
  have statuses : (List.range podStatus.containerStatuses.length).foldl
      (fun statuses i => statuses.modify (markContainerDeleted now) i) podStatus.containerStatuses =
      podStatus.containerStatuses.map (markContainerDeleted now) := by
    apply List.ext_getElem?
    intro j
    rw [getElem?_foldl_modify_range, List.getElem?_map]
    split
    · rfl
    · rw [List.getElem?_eq_none (by omega)]
      rfl
  rw [markPodDeleted, statuses]

@[simp] theorem markContainerDeleted_markContainerDeleted (now now' : Time)
    (status : ContainerStatus) :
    markContainerDeleted now' (markContainerDeleted now status) =
      markContainerDeleted now status := by
  cases running : status.state.running <;> simp [markContainerDeleted, running]

/-- `after` is `before` with every container that was running marked terminated at `now`, with
exit code 0, reason `NotFound`, its start time and its container id, and every other container
status as it was, in the same order. -/
def MarksRunningTerminated (now : Time) (before after : PodStatus) : Prop :=
  after.phase = before.phase ∧
    after.containerStatuses.length = before.containerStatuses.length ∧
    ∀ i (inBefore : i < before.containerStatuses.length)
      (inAfter : i < after.containerStatuses.length),
      let status := before.containerStatuses[i]
      let marked := after.containerStatuses[i]
      match status.state.running with
      | none => marked = status
      | some running =>
          marked.name = status.name ∧ marked.containerID = status.containerID ∧
            marked.state.waiting = status.state.waiting ∧ marked.state.running = none ∧
            marked.state.terminated = some
              { exitCode := 0, reason := "NotFound", message := statusMessagePodDeleted
                startedAt := running.startedAt, finishedAt := now
                containerID := status.containerID }

theorem markPodDeleted_marksRunningTerminated (now : Time) (podStatus : PodStatus) :
    MarksRunningTerminated now podStatus (markPodDeleted now podStatus) := by
  refine ⟨rfl, by simp [markPodDeleted_eq], fun i inBefore inAfter => ?_⟩
  simp only [markPodDeleted_eq, List.getElem_map]
  unfold markContainerDeleted
  split <;> simp_all [containerExitCodePodDeleted, statusReasonPodDeleted]

/-- When the deletion fails, `deleteContainerGroup` returns the gateway's error and leaves the
tracker alone; otherwise it returns `nil` and, when it tracks pods, hands the tracker an update
that marks every running container of the pod terminated, leaves every other container status
as it was, and changes nothing when it runs again. -/
theorem deleteContainerGroup_marks_running_terminated
    (deleteResponse : String → String → Except GoError Unit) (p : ACIProvider)
    (podNS podName : String) :
    (∀ err, deleteResponse p.resourceGroup (containerGroupName podNS podName) = .error err →
      deleteContainerGroup deleteResponse p podNS podName =
        { result := .error err
          calls := [.deleteContainerGroup p.resourceGroup (containerGroupName podNS podName)] }) ∧
    (deleteResponse p.resourceGroup (containerGroupName podNS podName) = .ok () →
      deleteContainerGroup deleteResponse p podNS podName =
        { result := .ok ()
          calls := .deleteContainerGroup p.resourceGroup (containerGroupName podNS podName) ::
            if p.tracker.isSome then [.updatePodStatus podNS podName markPodDeleted] else [] }) ∧
    (∀ now podStatus, MarksRunningTerminated now podStatus (markPodDeleted now podStatus)) ∧
    ∀ now now' podStatus,
      markPodDeleted now' (markPodDeleted now podStatus) = markPodDeleted now podStatus := by
  refine ⟨fun err failed => by simp [deleteContainerGroup, failed], fun deleted => ?_,
    markPodDeleted_marksRunningTerminated, fun now now' podStatus => ?_⟩
  · cases tracked : p.tracker <;> simp [deleteContainerGroup, deleted, tracked]
  · simp [markPodDeleted_eq, Function.comp_def]

end AzureAci
