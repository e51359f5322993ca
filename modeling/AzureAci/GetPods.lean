import AzureAci.CreatePod

/-!
# Listing pods

`GetPods` lists the container groups of the resource group and converts those that belong to
this node. The groups come from a decoded gateway response: each tag is a pointer to a string the
decoder allocated, here an address into the response's strings. The node check compares that
pointer with `&p.nodeName`, the address of the provider's own field, so it compares addresses,
not names. The result of `validation.ValidateContainerGroup` is discarded and the check after it
reads the outer `err`, which is `nil` there: validation has no effect on the result.
`containerGroupToPod` is a parameter.
-/

namespace AzureAci

open V1

/-- A container group as `GetContainerGroupListResult` returns it, with the fields `GetPods`
reads itself. -/
structure ListedContainerGroup where
  /-- `cg.Name`. -/
  name : String
  /-- `cg.Tags`: the address each tag's pointer holds. -/
  tags : List (String × Nat)
  deriving DecidableEq, Repr

/-- A non-`nil` answer of `GetContainerGroupListResult`: the groups, and the strings the decoder
allocated for their tags, by address. -/
structure ContainerGroupList where
  /-- The groups, in the order of the response. -/
  groups : List ListedContainerGroup
  /-- The string at each address. -/
  strings : Nat → String

/-- `PodIdentifier`. -/
structure PodIdentifier where
  /-- `namespace`. -/
  podNamespace : String
  /-- `name`. -/
  name : String
  deriving DecidableEq, Repr

/-- The loop of `GetPods`: a group whose `NodeName` tag pointer is not `&p.nodeName` is skipped, so
is one the converter fails on; the others' pods are appended. -/
def collectPods (containerGroupToPod : ListedContainerGroup → Except GoError Pod)
    (p : ACIProvider) : List Pod → List ListedContainerGroup → List Pod
  | pods, [] => pods
  | pods, cg :: cgs =>
      if cg.tags.lookup "NodeName" ≠ some p.nodeNameAddress then
        collectPods containerGroupToPod p pods cgs
      else
        match containerGroupToPod cg with
        | .error _ => collectPods containerGroupToPod p pods cgs
        | .ok pod => collectPods containerGroupToPod p (pods ++ [pod]) cgs

/-- `GetPods`; `listResult` is the gateway's answer to `GetContainerGroupListResult`, and a `nil`
slice of pods is `[]`. The converter also reads the strings of the response. -/
def getPods (listResult : String → Except GoError (Option ContainerGroupList))
    (containerGroupToPod : (Nat → String) → ListedContainerGroup → Except GoError Pod)
    (p : ACIProvider) : Outcome (List Pod) :=
  let calls := [.getContainerGroupListResult p.resourceGroup]
  match listResult p.resourceGroup with
  | .error err => { result := .error err, calls }
  | .ok none => { result := .ok [], calls }
  | .ok (some cgs) =>
      { result := .ok (collectPods (containerGroupToPod cgs.strings) p [] cgs.groups), calls }

/-- `ListActivePods`: the identifiers of the pods `GetPods` returns. -/
def listActivePods (listResult : String → Except GoError (Option ContainerGroupList))
    (containerGroupToPod : (Nat → String) → ListedContainerGroup → Except GoError Pod)
    (p : ACIProvider) : Outcome (List PodIdentifier) :=
  let outcome := getPods listResult containerGroupToPod p
  { outcome with
    result := outcome.result.map fun pods => pods.map fun pod => ⟨pod.namespace, pod.name⟩ }

/-! ## What the loop keeps -/

/-- The loop keeps, in order, the converted pods of the groups whose `NodeName` pointer is the
address of the provider's field. -/
theorem collectPods_eq (containerGroupToPod : ListedContainerGroup → Except GoError Pod)
    (p : ACIProvider) (pods : List Pod) (cgs : List ListedContainerGroup) :
    collectPods containerGroupToPod p pods cgs = pods ++ cgs.filterMap fun cg =>
      if cg.tags.lookup "NodeName" = some p.nodeNameAddress then (containerGroupToPod cg).toOption
      else none := by
  induction cgs generalizing pods with
  | nil => simp [collectPods]
  | cons cg cgs induction =>
      unfold collectPods
      by_cases own : cg.tags.lookup "NodeName" = some p.nodeNameAddress
      · cases converted : containerGroupToPod cg <;>
          simp [own, converted, induction, Except.toOption]
      · simp [own, induction]

/-- Every group of a decoded response has tag pointers of its own: none is the address of the
provider's `nodeName` field. -/
def FreshTags (p : ACIProvider) (cgs : ContainerGroupList) : Prop :=
  ∀ cg ∈ cgs.groups, ∀ tag ∈ cg.tags, tag.2 ≠ p.nodeNameAddress

/-- On a decoded response, whose tag pointers are all fresh, `GetPods` returns no pod at all,
whatever the groups' tags hold. -/
theorem getPods_fresh_returns_nothing
    (listResult : String → Except GoError (Option ContainerGroupList))
    (containerGroupToPod : (Nat → String) → ListedContainerGroup → Except GoError Pod)
    (p : ACIProvider)
    (fresh : ∀ cgs, listResult p.resourceGroup = .ok (some cgs) → FreshTags p cgs) :
    ∀ pods, (getPods listResult containerGroupToPod p).result = .ok pods → pods = [] := by
  intro pods listed
  unfold getPods at listed
  split at listed
  · cases listed
  · exact (Except.ok.inj listed).symm
  · rename_i cgs answered
    rw [← Except.ok.inj listed, collectPods_eq, List.nil_append, List.filterMap_eq_nil_iff]
    intro cg member
    have notOwn : cg.tags.lookup "NodeName" ≠ some p.nodeNameAddress := by
      intro own
      obtain ⟨before, after, split, -⟩ := List.lookup_eq_some_iff.mp own
      exact fresh cgs answered cg member ("NodeName", p.nodeNameAddress) (by simp [split]) rfl
    simp [notOwn]

/-! ## A group `CreatePod` made, listed back -/

/-- The group `CreatePod` made for `webPod` (its name is `containerGroupName` of the pod), as the
gateway lists it back: its tags hold what `CreatePod` wrote, in strings the decoder allocated at
addresses 1 to 6. -/
def webPodListedBack : ContainerGroupList :=
  { groups :=
      [{ name := "default-app",
         tags := [("PodName", 1), ("ClusterName", 2), ("NodeName", 3), ("Namespace", 4),
           ("UID", 5), ("CreationTimestamp", 6)] }]
    strings := fun address => ((podTags webPod).map Prod.snd).getD (address - 1) "" }

theorem webPodListedBack_fresh : FreshTags sampleProvider webPodListedBack := by
  unfold FreshTags
  decide

theorem webPodListedBack_returns_nothing :
    (∀ cgs, (fun _ => .ok (some webPodListedBack) :
        String → Except GoError (Option ContainerGroupList)) sampleProvider.resourceGroup =
          .ok (some cgs) → FreshTags sampleProvider cgs) ∧
      ∀ pods, (getPods (fun _ => .ok (some webPodListedBack)) (fun _ _ => .ok webPod)
        sampleProvider).result = .ok pods → pods = [] :=
  have fresh : ∀ cgs, (fun _ => .ok (some webPodListedBack) :
      String → Except GoError (Option ContainerGroupList)) sampleProvider.resourceGroup =
        .ok (some cgs) → FreshTags sampleProvider cgs := fun _ answered =>
    Option.some.inj (Except.ok.inj answered) ▸ webPodListedBack_fresh
  ⟨fresh, getPods_fresh_returns_nothing _ _ _ fresh⟩

/-- `GetPods` misses the group `CreatePod` made for `webPod` on this node, though the group's
`NodeName` tag holds the node's name: it holds it in a string of the response, not in the
provider's field. -/
theorem getPods_misses_own_group :
    (webPodListedBack.groups.map fun cg =>
        cg.tags.map fun tag => (tag.1, webPodListedBack.strings tag.2)) = [podTags webPod] ∧
      webPod.spec.nodeName = sampleProvider.nodeName ∧
      (getPods (fun _ => .ok (some webPodListedBack)) (fun _ _ => .ok webPod)
        sampleProvider).result = .ok [] :=
  ⟨rfl, rfl, rfl⟩

end AzureAci
