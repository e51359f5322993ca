import AzureAci.Aci

/-!
# The provider

The fields of `ACIProvider` that the modelled methods read, the memory its diagnostics point
into, and the calls its methods make. `&p.nodeName` is the address of the provider's own
`nodeName` field, kept beside its value because `GetPods` compares tag pointers with it. A method
that reaches the gateway records each call it makes, with its arguments, in its `Outcome`.
-/

namespace AzureAci

open V1

/-- A `PodsTracker`; the code modelled here only asks whether the provider has one. -/
structure PodsTracker where
  deriving DecidableEq, Repr

/-- `ACIProvider`. -/
structure ACIProvider where
  /-- `p.resourceGroup`. -/
  resourceGroup : String
  /-- `p.region`. -/
  region : String
  /-- `p.nodeName`. -/
  nodeName : String
  /-- The address `&p.nodeName`. -/
  nodeNameAddress : Nat
  /-- `p.operatingSystem`. -/
  operatingSystem : String
  /-- `p.gpuSKUs`, the GPU SKUs of the region. -/
  gpuSKUs : List String
  /-- `p.diagnostics`, or `nil`. -/
  diagnostics : Option Aci.ContainerGroupDiagnostics
  /-- `p.subnetName`; empty unless the provider runs in a delegated subnet. -/
  subnetName : String
  /-- `p.vnetName`. -/
  vnetName : String
  /-- `p.vnetResourceGroup`. -/
  vnetResourceGroup : String
  /-- `p.tracker`, or `nil` before `NotifyPods`. -/
  tracker : Option PodsTracker
  deriving DecidableEq, Repr

/-- The memory behind the diagnostics pointers: the `LogAnalytics` settings and the `Metadata`
maps, by address. -/
structure Heap where
  /-- The `LogAnalytics` value at each address. -/
  logAnalytics : Nat → Aci.LogAnalytics
  /-- The `Metadata` map at each address, with the strings its pointers point to. -/
  metadataMaps : Nat → List (String × String)

/-- `m[key] = value` on the `Metadata` map at `address`. -/
def Heap.insertMetadata (heap : Heap) (address : Nat) (key value : String) : Heap :=
  let updated := mapInsert (heap.metadataMaps address) key value
  { heap with metadataMaps := Function.update heap.metadataMaps address updated }

/-- A call the provider makes to the ACI gateway (`azClientsAPIs`) or to its pod tracker. -/
inductive Call where
  /-- `CreateContainerGroup(ctx, resourceGroup, namespace, name, cg)`. -/
  | createContainerGroup (resourceGroup podNamespace podName : String)
      (group : ContainerGroupWrapper)
  /-- `DeleteContainerGroup(ctx, resourceGroup, cgName)`. -/
  | deleteContainerGroup (resourceGroup containerGroupName : String)
  /-- `GetContainerGroupListResult(ctx, resourceGroup)`. -/
  | getContainerGroupListResult (resourceGroup : String)
  /-- `tracker.UpdatePodStatus(ctx, namespace, name, update, false)`; `update` reads the clock
  each time the tracker runs it. -/
  | updatePodStatus (podNamespace podName : String) (update : Time → PodStatus → PodStatus)

/-- Whether a call reaches the ACI gateway. -/
def Call.isGateway : Call → Bool
  | .updatePodStatus .. => false
  | _ => true

/-- What a provider method returns, with the calls it made on the way, in order. -/
structure Outcome (α : Type) where
  /-- The returned value, or the returned error. -/
  result : Except GoError α
  /-- The calls made. -/
  calls : List Call

/-- A Linux provider in resource group `rg`, not tracking pods, in a region with one GPU SKU,
`K80`. -/
def sampleProvider : ACIProvider :=
  { resourceGroup := "rg", region := "westus2", nodeName := "vk", nodeNameAddress := 0
    operatingSystem := "Linux", gpuSKUs := ["K80"], diagnostics := none, subnetName := ""
    vnetName := "", vnetResourceGroup := "rg", tracker := none }

end AzureAci
