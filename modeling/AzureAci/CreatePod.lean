import AzureAci.Containers
import AzureAci.Credentials
import AzureAci.WindowsFilter

/-!
# Creating a pod

`CreatePod` builds the container group from the pod: containers, pull credentials, volumes and
init containers, each of which may fail; then the diagnostics, the Windows filter, the public IP
address and the tags. It makes one gateway call with the group. `getDiagnostics` writes the pod's
UID into the metadata map that the provider's own diagnostics point to, and writing into a `nil`
map panics: a run that panics is `none`. `getVolumes`, `amendVnetResources` and the gateway's
answer are parameters. Successive calls share the memory the diagnostics point to, so a run of
calls threads it; none of them panics once every `ContainerInsights` settings has its map.
-/

namespace AzureAci

open V1

/-- `virtualKubeletDNSNameLabel`. -/
def virtualKubeletDNSNameLabel : String := "virtualkubelet.io/dnsnamelabel"

/-- `aci.LogAnalyticsMetadataKeyPodUUID`. -/
def logAnalyticsMetadataKeyPodUUID : String := "pod-uuid"

/-- What `CreatePod` calls that src does not define, and the gateway's answer. -/
structure CreatePodCollaborators where
  /-- `strings.EqualFold`. -/
  equalFold : String → String → Bool
  /-- `getProtocol`. -/
  getProtocol : String → String
  /-- How `getImagePullSecrets` reads secrets. -/
  readers : SecretReaders
  /-- `p.getVolumes(ctx, pod)`. -/
  getVolumes : Pod → Except GoError (List Aci.Volume)
  /-- `p.amendVnetResources(ctx, *cg, pod)`: it receives a copy of `cg` and changes the
  properties the copy shares with `cg`; this is the group with those properties. -/
  amendVnetResources : ContainerGroupWrapper → Pod → ContainerGroupWrapper
  /-- The gateway's answer to `CreateContainerGroup(ctx, resourceGroup, namespace, name, cg)`. -/
  createContainerGroup : String → String → String → ContainerGroupWrapper → Except GoError Unit

/-- `getDiagnostics`; `none` when it panics. The copy `d` shares its `LogAnalytics` pointer with
`p.diagnostics`, so the pod's UID goes into the map the provider's own settings point to. -/
def getDiagnostics (p : ACIProvider) (heap : Heap) (pod : Pod) :
    Option (Heap × Option Aci.ContainerGroupDiagnostics) :=
  match p.diagnostics with
  | some d =>
      match d.logAnalytics with
      | some logAnalytics =>
          if (heap.logAnalytics logAnalytics).logType =
              Aci.logAnalyticsLogTypeContainerInsights then
            match (heap.logAnalytics logAnalytics).metadata with
            | some metadata =>
                some (heap.insertMetadata metadata logAnalyticsMetadataKeyPodUUID pod.uid, some d)
            | none => none
          else some (heap, p.diagnostics)
      | none => some (heap, p.diagnostics)
  | none => some (heap, p.diagnostics)

/-- The port loops of `CreatePod`: each port of each container, in order, as a TCP port of the
group. -/
def groupPorts (containers : List Aci.Container) : List Aci.Port :=
  containers.foldl (fun ports container => container.ports.foldl
    (fun ports port =>
      ports ++ [{ port := port.port, protocol := Aci.containerGroupNetworkProtocolTCP }])
    ports) []

/-- The `IPAddress` statements of `CreatePod`: a public address exposing the ports, when there are
ports and the provider is not in a delegated subnet. -/
def groupIPAddress (p : ACIProvider) (pod : Pod) (ports : List Aci.Port) : Option Aci.IPAddress :=
  if 0 < ports.length ∧ p.subnetName = "" then
    let dnsNameLabel := pod.annotation virtualKubeletDNSNameLabel
    some { ports, type := Aci.containerGroupIPAddressTypePublic
           dnsNameLabel := if dnsNameLabel ≠ "" then some dnsNameLabel else none }
  else none

/-- `cg.Tags`, with the values its pointers point to. -/
def podTags (pod : Pod) : List (String × String) :=
  [("PodName", pod.name), ("ClusterName", pod.clusterName), ("NodeName", pod.spec.nodeName),
    ("Namespace", pod.namespace), ("UID", pod.uid), ("CreationTimestamp", pod.creationTimestamp)]

/-- The group of `CreatePod` once its parts are there: the Windows filter, then the IP address
over the filtered containers' ports, then the tags. -/
def assembleContainerGroup (c : CreatePodCollaborators) (p : ACIProvider) (pod : Pod)
    (containers : List Aci.Container) (creds : List Aci.ImageRegistryCredential)
    (volumes : List Aci.Volume) (initContainers : List Aci.InitContainerDefinition)
    (diagnostics : Option Aci.ContainerGroupDiagnostics) : ContainerGroupWrapper :=
  let cg : ContainerGroupWrapper :=
    { location := p.region, restartPolicy := pod.spec.restartPolicy, osType := p.operatingSystem
      containers, initContainers, volumes, imageRegistryCredentials := creds, diagnostics
      ipAddress := none, tags := [] }
  let cg := filterWindowsServiceAccountSecretVolume c.equalFold p.operatingSystem cg
  let cg := { cg with ipAddress := groupIPAddress p pod (groupPorts cg.containers) }
  { cg with tags := podTags pod }

/-- The statements of `CreatePod` before `amendVnetResources`: the group it builds, with the heap
after `getDiagnostics`, or `none` inside when `getDiagnostics` panics. -/
def buildContainerGroup (c : CreatePodCollaborators) (p : ACIProvider) (heap : Heap) (pod : Pod) :
    Except GoError (Option (Heap × ContainerGroupWrapper)) := do
  let containers ← getContainers c.equalFold c.getProtocol p pod
  let creds ← getImagePullSecrets c.readers pod
  let volumes ← c.getVolumes pod
  let initContainers ← getInitContainers pod
  pure <| (getDiagnostics p heap pod).map fun diagnosed =>
    (diagnosed.1,
      assembleContainerGroup c p pod containers creds volumes initContainers diagnosed.2)

/-- `CreatePod`: the heap after the call and its outcome, or `none` when it panics. -/
def createPod (c : CreatePodCollaborators) (p : ACIProvider) (heap : Heap) (pod : Pod) :
    Option (Heap × Outcome Unit) :=
  match buildContainerGroup c p heap pod with
  | .error err => some (heap, { result := .error err, calls := [] })
  | .ok none => none
  | .ok (some (heap, cg)) =>
      let amended := c.amendVnetResources cg pod
      let cg := { amended with location := cg.location, tags := cg.tags }
      some (heap, { result := c.createContainerGroup p.resourceGroup pod.namespace pod.name cg
                    calls := [.createContainerGroup p.resourceGroup pod.namespace pod.name cg] })

/-- The calls `CreatePod` makes before it returns or panics. -/
def createPodCalls (c : CreatePodCollaborators) (p : ACIProvider) (heap : Heap) (pod : Pod) :
    List Call :=
  ((createPod c p heap pod).map fun run => run.2.calls).getD []

/-- Collaborators for evaluating the model: no secrets, no volumes, no vnet changes, and a gateway
that accepts every group. -/
def sampleCollaborators : CreatePodCollaborators :=
  { equalFold := asciiEqualFold, getProtocol := id
    readers :=
      { getSecret := fun _ _ => .ok none
        unmarshalDockerCfg := fun _ => .error (newError "unexpected end of JSON input")
        unmarshalDockerConfigJSON := fun _ => .error (newError "unexpected end of JSON input") }
    getVolumes := fun _ => .ok [], amendVnetResources := fun cg _ => cg
    createContainerGroup := fun _ _ _ _ => .ok () }

/-- A container serving on port 80. -/
def webContainer : Container :=
  { name := "web", image := "nginx", command := [], args := [],
    ports := some [{ name := "http", containerPort := 80, protocol := "TCP" }], volumeMounts := [],
    env := [], resources := { requests := none, limits := none }, livenessProbe := none,
    readinessProbe := none }

/-- A pod with that one container. -/
def webPod : Pod := { samplePod with spec := { samplePod.spec with containers := [webContainer] } }

/-- What `getContainers` makes of the container of `webPod`. -/
def webTranslation : Aci.Container :=
  { name := "web", image := "nginx", command := [], ports := [{ port := 80, protocol := "TCP" }]
    environmentVariables := [], volumeMounts := [], livenessProbe := none, readinessProbe := none
    resources := some { requests := ⟨3 / 2, 1, none⟩, limits := none } }

/-- Log-analytics settings of type ContainerInsights without a metadata map, at every address. -/
def insightsWithoutMetadata : Heap :=
  { logAnalytics := fun _ =>
      { logType := Aci.logAnalyticsLogTypeContainerInsights, metadata := none }
    metadataMaps := fun _ => [] }

/-- `sampleProvider` with diagnostics pointing at address 0. -/
def insightsProvider : ACIProvider :=
  { sampleProvider with diagnostics := some { logAnalytics := some 0 } }

/-- `ContainerInsights` settings at every address, with an empty `Metadata` map at address 0. -/
def insightsWithMetadata : Heap :=
  { logAnalytics := fun _ =>
      { logType := Aci.logAnalyticsLogTypeContainerInsights, metadata := some 0 }
    metadataMaps := fun _ => [] }

section Parts

variable (c : CreatePodCollaborators) (p : ACIProvider) (heap : Heap) (pod : Pod)

/-- The four helpers `CreatePod` calls before it builds the group all succeed. -/
def PartsTranslate : Prop :=
  (∃ containers, getContainers c.equalFold c.getProtocol p pod = .ok containers) ∧
    (∃ creds, getImagePullSecrets c.readers pod = .ok creds) ∧
    (∃ volumes, c.getVolumes pod = .ok volumes) ∧
    (∃ initContainers, getInitContainers pod = .ok initContainers)

theorem buildContainerGroup_eq_ok {built : Option (Heap × ContainerGroupWrapper)}
    (run : buildContainerGroup c p heap pod = .ok built) :
    ∃ containers creds volumes initContainers,
      getContainers c.equalFold c.getProtocol p pod = .ok containers ∧
      getImagePullSecrets c.readers pod = .ok creds ∧ c.getVolumes pod = .ok volumes ∧
      getInitContainers pod = .ok initContainers ∧
      built = (getDiagnostics p heap pod).map fun diagnosed =>
        (diagnosed.1,
          assembleContainerGroup c p pod containers creds volumes initContainers diagnosed.2) := by
  simp only [buildContainerGroup, bind_eq_ok, pure, Except.pure, Except.ok.injEq] at run
  obtain ⟨containers, containersOk, creds, credsOk, volumes, volumesOk, initContainers, initOk,
    built⟩ := run
  exact ⟨containers, creds, volumes, initContainers, containersOk, credsOk, volumesOk, initOk,
    built.symm⟩

theorem buildContainerGroup_succeeds_iff :
    (∃ built, buildContainerGroup c p heap pod = .ok built) ↔ PartsTranslate c p pod := by
  constructor
  · rintro ⟨built, run⟩
    obtain ⟨_, _, _, _, containersOk, credsOk, volumesOk, initOk, -⟩ :=
      buildContainerGroup_eq_ok c p heap pod run
    exact ⟨⟨_, containersOk⟩, ⟨_, credsOk⟩, ⟨_, volumesOk⟩, ⟨_, initOk⟩⟩
  · rintro ⟨⟨_, containersOk⟩, ⟨_, credsOk⟩, ⟨_, volumesOk⟩, ⟨_, initOk⟩⟩
    simp only [buildContainerGroup, containersOk, credsOk, volumesOk, initOk, ok_bind]
    exact ⟨_, rfl⟩

/-- `CreatePod` ends in one of three ways: a helper's error with no call, a panic in
`getDiagnostics`, or the one gateway call with the group it built. -/
theorem createPod_cases :
    (∃ err, buildContainerGroup c p heap pod = .error err ∧
      createPod c p heap pod = some (heap, { result := .error err, calls := [] })) ∨
    (buildContainerGroup c p heap pod = .ok none ∧ createPod c p heap pod = none) ∨
    (∃ heap' cg, buildContainerGroup c p heap pod = .ok (some (heap', cg)) ∧
      createPodCalls c p heap pod = [.createContainerGroup p.resourceGroup pod.namespace pod.name
        { c.amendVnetResources cg pod with location := cg.location, tags := cg.tags }]) := by
  unfold createPodCalls createPod
  rcases buildContainerGroup c p heap pod with err | _ | ⟨heap', cg⟩
  · exact .inl ⟨err, rfl, rfl⟩
  · exact .inr (.inl ⟨rfl, rfl⟩)
  · exact .inr (.inr ⟨heap', cg, rfl, rfl⟩)

theorem createPodCalls_eq_nil_or_call :
    createPodCalls c p heap pod = [] ∨
      ∃ heap' cg, buildContainerGroup c p heap pod = .ok (some (heap', cg)) ∧
        createPodCalls c p heap pod = [.createContainerGroup p.resourceGroup pod.namespace pod.name
          { c.amendVnetResources cg pod with location := cg.location, tags := cg.tags }] := by
  rcases createPod_cases c p heap pod with ⟨_, -, ran⟩ | ⟨-, ran⟩ | called
  · exact .inl (by simp [createPodCalls, ran])
  · exact .inl (by simp [createPodCalls, ran])
  · exact .inr called

/-- `CreatePod` calls the gateway exactly when the four helpers succeed and `getDiagnostics` does
not panic. -/
theorem createPodCalls_ne_nil_iff :
    createPodCalls c p heap pod ≠ [] ↔
      PartsTranslate c p pod ∧ (getDiagnostics p heap pod).isSome := by
  have built := buildContainerGroup_succeeds_iff c p heap pod
  rcases createPod_cases c p heap pod with ⟨err, failed, ran⟩ | ⟨panicked, ran⟩ |
      ⟨heap', cg, succeeded, calls⟩
  · have broken : ¬ PartsTranslate c p pod := fun parts => by
      obtain ⟨_, ok⟩ := built.mpr parts
      rw [failed] at ok
      cases ok
    simp [createPodCalls, ran, broken]
  · obtain ⟨_, _, _, _, _, _, _, _, none⟩ := buildContainerGroup_eq_ok c p heap pod panicked
    simp [createPodCalls, ran, Option.map_eq_none'.mp none.symm]
  · obtain ⟨_, _, _, _, _, _, _, _, some⟩ := buildContainerGroup_eq_ok c p heap pod succeeded
    simp only [calls, ne_eq, reduceCtorEq, not_false_eq_true, true_iff]
    exact ⟨built.mp ⟨_, succeeded⟩, by simpa using (congrArg Option.isSome some).symm⟩

end Parts

theorem groupPorts_eq (containers : List Aci.Container) :
    groupPorts containers = (containers.flatMap Aci.Container.ports).map fun port =>
      { port := port.port, protocol := Aci.containerGroupNetworkProtocolTCP } := by
  suffices loop : ∀ init : List Aci.Port, containers.foldl (fun ports container =>
      container.ports.foldl (fun ports port =>
        ports ++ [{ port := port.port, protocol := Aci.containerGroupNetworkProtocolTCP }])
        ports) init =
      init ++ (containers.flatMap Aci.Container.ports).map fun port =>
        { port := port.port, protocol := Aci.containerGroupNetworkProtocolTCP } from loop []
  induction containers with
  | nil => simp
  | cons container containers induction =>
      intro init
      rw [List.foldl_cons, induction]
      simp [foldl_append_singleton]

theorem flatMap_ports_of_translated {containers : List Container} {acis : List Aci.Container}
    (translated : List.Forall₂ TranslatedFrom containers acis) :
    (acis.flatMap Aci.Container.ports).map Aci.ContainerPort.port =
      (containers.flatMap Container.portList).map ContainerPort.containerPort := by
  induction translated with
  | nil => rfl
  | cons head _ induction => simp only [List.flatMap_cons, List.map_append, head.2.2.2.1, induction]

/-- The `IPAddress` of a group exposes exactly the declared container ports of the pod: it is set
exactly when there are ports and no delegated subnet, lists each declared port number once, in
order, over TCP, and carries the DNS label annotation when that is not empty. -/
def ExposesDeclaredPorts (p : ACIProvider) (pod : Pod) (cg : ContainerGroupWrapper) : Prop :=
  let ports := (pod.spec.containers.flatMap Container.portList).map ContainerPort.containerPort
  let dnsNameLabel := pod.annotation virtualKubeletDNSNameLabel
  (cg.ipAddress.isSome ↔ ports ≠ [] ∧ p.subnetName = "") ∧
    ∀ ipAddress, cg.ipAddress = some ipAddress →
      ipAddress.ports.map Aci.Port.port = ports ∧
      (∀ port ∈ ipAddress.ports, port.protocol = Aci.containerGroupNetworkProtocolTCP) ∧
      ipAddress.dnsNameLabel = if dnsNameLabel = "" then none else some dnsNameLabel

theorem exposesDeclaredPorts_of_ports (p : ACIProvider) (pod : Pod) {ports : List Aci.Port}
    {cg : ContainerGroupWrapper}
    (tcp : ∀ port ∈ ports, port.protocol = Aci.containerGroupNetworkProtocolTCP)
    (numbers : ports.map Aci.Port.port =
      (pod.spec.containers.flatMap Container.portList).map ContainerPort.containerPort)
    (address : cg.ipAddress = groupIPAddress p pod ports) : ExposesDeclaredPorts p pod cg := by
  unfold ExposesDeclaredPorts
  rw [← numbers, address]
  by_cases exposed : 0 < ports.length ∧ p.subnetName = ""
  · have listed : ports ≠ [] := List.ne_nil_of_length_pos exposed.1
    simp only [groupIPAddress, exposed, and_self, if_true, Option.isSome_some, ne_eq,
      List.map_eq_nil_iff, listed, not_false_eq_true, true_and, Option.some.injEq]
    rintro _ rfl
    refine ⟨rfl, tcp, ?_⟩
    split <;> simp_all
  · simp only [groupIPAddress, exposed, if_false, Option.isSome_none, reduceCtorEq, false_imp_iff,
      implies_true, and_true, ne_eq, List.map_eq_nil_iff, false_iff, not_and]
    intro listed
    simpa [List.length_pos, listed] using exposed

theorem groupIPAddress_exposes (c : CreatePodCollaborators) (p : ACIProvider) (pod : Pod)
    {containers : List Aci.Container}
    (translated : List.Forall₂ TranslatedFrom pod.spec.containers containers)
    (creds : List Aci.ImageRegistryCredential) (volumes : List Aci.Volume)
    (initContainers : List Aci.InitContainerDefinition)
    (diagnostics : Option Aci.ContainerGroupDiagnostics) :
    ExposesDeclaredPorts p pod
      (assembleContainerGroup c p pod containers creds volumes initContainers diagnostics) := by
  let base : ContainerGroupWrapper :=
    { location := p.region, restartPolicy := pod.spec.restartPolicy, osType := p.operatingSystem
      containers, initContainers, volumes, imageRegistryCredentials := creds, diagnostics
      ipAddress := none, tags := [] }
  have kept := filterWindows_ports c.equalFold p.operatingSystem base
  refine @exposesDeclaredPorts_of_ports p pod
    (groupPorts
      (filterWindowsServiceAccountSecretVolume c.equalFold p.operatingSystem base).containers)
    _ ?_ ?_ rfl
  · simp only [groupPorts_eq, List.mem_map]
    rintro _ ⟨_, -, rfl⟩
    rfl
  · rw [← flatMap_ports_of_translated translated, groupPorts_eq, List.map_map]
    simp only [List.flatMap, kept]
    rfl

/-- On a pod whose containers translate, `getContainers` returns one container per pod container,
in order, each carrying what it was translated from, and the group `CreatePod` builds exposes
exactly the declared container ports. -/
theorem createPod_exposes_translated_ports (c : CreatePodCollaborators) (p : ACIProvider)
    (pod : Pod) {acis : List Aci.Container}
    (translated : getContainers c.equalFold c.getProtocol p pod = .ok acis) :
    List.Forall₂ TranslatedFrom pod.spec.containers acis ∧
      ∀ heap heap' cg, buildContainerGroup c p heap pod = .ok (some (heap', cg)) →
        ExposesDeclaredPorts p pod cg := by
  have each := getContainers_translatedFrom c.equalFold c.getProtocol p pod translated
  refine ⟨each, fun heap heap' cg run => ?_⟩
  obtain ⟨containers, creds, volumes, initContainers, containersOk, -, -, -, built⟩ :=
    buildContainerGroup_eq_ok c p heap pod run
  obtain rfl := Except.ok.inj (translated.symm.trans containersOk)
  cases diagnosed : getDiagnostics p heap pod with
  | none => simp [diagnosed] at built
  | some diagnosed =>
      simp only [diagnosed, Option.map_some', Option.some.injEq, Prod.mk.injEq] at built
      rw [built.2]
      exact groupIPAddress_exposes c p pod each creds volumes initContainers _

theorem webPod_exposes_port :
    getContainers sampleCollaborators.equalFold sampleCollaborators.getProtocol sampleProvider
        webPod = .ok [webTranslation] ∧
      List.Forall₂ TranslatedFrom webPod.spec.containers [webTranslation] ∧
      ∃ cg, buildContainerGroup sampleCollaborators sampleProvider insightsWithMetadata webPod =
          .ok (some (insightsWithMetadata, cg)) ∧ ExposesDeclaredPorts sampleProvider webPod cg :=
  have exposes := createPod_exposes_translated_ports sampleCollaborators sampleProvider webPod rfl
  ⟨rfl, exposes.1, _, rfl, exposes.2 _ _ _ rfl⟩

/-! ## Pods that `CreatePod` refuses -/

/-- A probe `getProbe` refuses: no handler or both, or an HTTP GET on a port name that the
declared ports do not resolve. -/
def ProbeRefused (probe : Probe) (ports : List ContainerPort) : Prop :=
  probe.handler.exec.isSome = probe.handler.httpGet.isSome ∨
    ∃ get portName, probe.handler.httpGet = some get ∧ get.port = .string portName ∧
      namedPortValue ports portName = 0

/-- A GPU SKU `getGPUSKU` cannot resolve: the region has none, or none equals the one the pod's
annotation asks for. -/
def GpuSkuUnresolvable (equalFold : String → String → Bool) (p : ACIProvider) (pod : Pod) : Prop :=
  p.gpuSKUs = [] ∨ ∃ desiredSKU, pod.annotations.lookup gpuTypeAnnotation = some desiredSKU ∧
    ∀ sku ∈ p.gpuSKUs, equalFold desiredSKU sku = false

/-- A pod container `getContainers` refuses: args without a command, a refused probe, or a GPU
limit whose SKU cannot be resolved. -/
def ContainerRefused (equalFold : String → String → Bool) (p : ACIProvider) (pod : Pod)
    (container : Container) : Prop :=
  (container.command = [] ∧ container.args ≠ []) ∨
    (∃ probe, (container.livenessProbe = some probe ∨ container.readinessProbe = some probe) ∧
      ProbeRefused probe container.portList) ∨
    (∃ limits gpu, container.resources.limits = some limits ∧
      limits.lookup gpuResourceName = some gpu ∧ GpuSkuUnresolvable equalFold p pod)

/-- An init container `getInitContainers` refuses: args without a command, or one of the fields
ACI does not support for init containers. -/
def InitContainerRefused (initContainer : Container) : Prop :=
  (initContainer.command = [] ∧ initContainer.args ≠ []) ∨ initContainer.ports.isSome ∨
    initContainer.resources.requests.isSome ∨ initContainer.resources.limits.isSome ∨
    initContainer.livenessProbe.isSome ∨ initContainer.readinessProbe.isSome

/-- A pod `CreatePod` must refuse: a container or init container it cannot translate, or a pull
secret it cannot read. -/
def PodRefused (c : CreatePodCollaborators) (p : ACIProvider) (pod : Pod) : Prop :=
  (∃ container ∈ pod.spec.containers, ContainerRefused c.equalFold p pod container) ∨
    (∃ initContainer ∈ pod.spec.initContainers, InitContainerRefused initContainer) ∨
    ∃ ref ∈ pod.spec.imagePullSecrets, ¬ PullSecretReadable c.readers pod ref

section Refusals

variable (equalFold : String → String → Bool) (getProtocol : String → String) (p : ACIProvider)
  (pod : Pod)

theorem getProbe_fails {probe : Probe} {ports : List ContainerPort}
    (refused : ProbeRefused probe ports) (out : Aci.ContainerProbe) :
    getProbe probe ports ≠ .ok out := by
  intro run
  obtain ⟨handlers, httpGet, translated, -⟩ := getProbe_eq_ok.mp run
  rcases refused with same | ⟨get, portName, set, named, unresolved⟩
  · exact handlers same
  · rw [set] at translated
    obtain ⟨aciGet, ok, -⟩ := translated
    obtain ⟨port, first, nonzero, -⟩ := (getHTTPGet_port ok).2 portName named
    exact nonzero ((namedPortValue_of_first first).symm.trans unresolved)

theorem getContainerProbe_fails {probe : Probe} {ports : List ContainerPort}
    (refused : ProbeRefused probe ports) (out : Option Aci.ContainerProbe) :
    getContainerProbe (some probe) ports ≠ .ok out := by
  unfold getContainerProbe
  cases translated : getProbe probe ports with
  | error e => simp [Functor.map, Except.map, translated]
  | ok probe' => exact absurd translated (getProbe_fails refused probe')

theorem getGPUSKU_fails (unresolvable : GpuSkuUnresolvable equalFold p pod) (sku : String) :
    getGPUSKU equalFold p pod ≠ .ok sku := by
  rw [Ne, getGPUSKU_eq_ok]
  rintro ⟨listed, resolved⟩
  rcases unresolvable with empty | ⟨desiredSKU, annotated, mismatched⟩
  · exact listed empty
  · rw [annotated] at resolved
    have found := List.find?_some resolved
    rw [mismatched sku (List.mem_of_find?_eq_some resolved)] at found
    cases found

theorem getContainer_fails {container : Container}
    (refused : ContainerRefused equalFold p pod container) (aci : Aci.Container) :
    getContainer equalFold getProtocol p pod container ≠ .ok aci := by
  intro run
  obtain ⟨accepted, resources, liveness, readiness, resourcesOk, livenessOk, readinessOk, -⟩ :=
    getContainer_eq_ok equalFold getProtocol p pod container run
  rcases refused with ⟨noCommand, args⟩ | ⟨probe, declared, probeRefused⟩ |
      ⟨limits, gpu, limitsSet, gpuSet, unresolvable⟩
  · exact accepted ⟨by simp [noCommand], List.length_pos.mpr args⟩
  · rcases declared with declared | declared
    · rw [declared] at livenessOk
      exact getContainerProbe_fails probeRefused _ livenessOk
    · rw [declared] at readinessOk
      exact getContainerProbe_fails probeRefused _ readinessOk
  · exact getResources_fails_of_sku equalFold p pod limitsSet gpuSet
      (getGPUSKU_fails equalFold p pod unresolvable) _ resourcesOk

theorem getInitContainer_fails {initContainer : Container}
    (refused : InitContainerRefused initContainer) (out : Aci.InitContainerDefinition) :
    getInitContainer initContainer ≠ .ok out := by
  simp only [getInitContainer, verifyContainer, refuseInitContainerField, ne_eq, bind_eq_ok,
    failIf_eq_ok, not_exists, not_and]
  intro _ accepted _ noPorts _ noRequests _ noLimits _ noLiveness _ noReadiness
  rcases refused with ⟨noCommand, args⟩ | set | set | set | set | set
  · exact absurd (List.length_pos.mpr args) (accepted (by simp [noCommand]))
  · exact (noPorts set).elim
  · exact (noRequests set).elim
  · exact (noLimits set).elim
  · exact (noLiveness set).elim
  · exact (noReadiness set).elim

theorem not_partsTranslate_of_refused (c : CreatePodCollaborators) (refused : PodRefused c p pod) :
    ¬ PartsTranslate c p pod := by
  rintro ⟨containersOk, credsOk, -, initOk⟩
  rcases refused with ⟨container, member, containerRefused⟩ | ⟨initContainer, member, initRefused⟩ |
      ⟨ref, member, unreadable⟩
  · obtain ⟨aci, translated⟩ :=
      (appendEach_succeeds_iff _ _ _).mp containersOk container member
    exact getContainer_fails c.equalFold c.getProtocol p pod containerRefused aci translated
  · obtain ⟨out, translated⟩ := (appendEach_succeeds_iff _ _ _).mp initOk initContainer member
    exact getInitContainer_fails initRefused out translated
  · exact unreadable ((readImagePullSecrets_succeeds_iff _ _ _ _).mp credsOk ref member)

end Refusals

/-- `CreatePod` makes no call, or the one call `CreateContainerGroup` on the provider's resource
group and the pod's namespace and name with the group it built, as `amendVnetResources` left it;
it makes that call exactly when the four helpers succeed and `getDiagnostics` does not panic; on
a pod it must refuse it returns an error, with no call and the heap as it was. -/
theorem createPod_calls_gateway_iff (c : CreatePodCollaborators) (p : ACIProvider) (heap : Heap)
    (pod : Pod) :
    (createPodCalls c p heap pod = [] ∨
      ∃ heap' cg, buildContainerGroup c p heap pod = .ok (some (heap', cg)) ∧
        createPodCalls c p heap pod = [.createContainerGroup p.resourceGroup pod.namespace pod.name
          { c.amendVnetResources cg pod with location := cg.location, tags := cg.tags }]) ∧
      (createPodCalls c p heap pod ≠ [] ↔
        PartsTranslate c p pod ∧ (getDiagnostics p heap pod).isSome) ∧
      (PodRefused c p pod →
        ∃ err, createPod c p heap pod = some (heap, { result := .error err, calls := [] })) := by
  refine ⟨createPodCalls_eq_nil_or_call c p heap pod, createPodCalls_ne_nil_iff c p heap pod,
    fun refused => ?_⟩
  have broken := not_partsTranslate_of_refused p pod c refused
  have built := buildContainerGroup_succeeds_iff c p heap pod
  rcases createPod_cases c p heap pod with ⟨err, -, ran⟩ | ⟨panicked, -⟩ | ⟨_, _, succeeded, -⟩
  · exact ⟨err, ran⟩
  · exact absurd (built.mp ⟨_, panicked⟩) broken
  · exact absurd (built.mp ⟨_, succeeded⟩) broken

/-- Every helper succeeds on `samplePod`, yet `CreatePod` makes no call: `getDiagnostics` panics
on the `nil` metadata map. -/
theorem createPod_panics_without_metadata :
    PartsTranslate sampleCollaborators insightsProvider samplePod ∧
      getDiagnostics insightsProvider insightsWithoutMetadata samplePod = none ∧
      createPodCalls sampleCollaborators insightsProvider insightsWithoutMetadata samplePod = [] :=
  have parts : PartsTranslate sampleCollaborators insightsProvider samplePod :=
    ⟨⟨[], rfl⟩, ⟨[], rfl⟩, ⟨[], rfl⟩, ⟨[], rfl⟩⟩
  have panics : getDiagnostics insightsProvider insightsWithoutMetadata samplePod = none := rfl
  ⟨parts, panics, not_not.mp fun called => by
    simpa [panics] using ((createPod_calls_gateway_iff sampleCollaborators insightsProvider
      insightsWithoutMetadata samplePod).2.1.mp called).2⟩

/-! ## Runs of `CreatePod` calls -/

/-- The `LogAnalytics` settings the diagnostics point to have a `Metadata` map when they are
`ContainerInsights` settings: what `getDiagnostics` needs not to panic. -/
def MetadataPresent (diagnostics : Option Aci.ContainerGroupDiagnostics) (heap : Heap) : Prop :=
  match diagnostics with
  | some ⟨some logAnalytics⟩ =>
      (heap.logAnalytics logAnalytics).logType = Aci.logAnalyticsLogTypeContainerInsights →
        (heap.logAnalytics logAnalytics).metadata ≠ none
  | _ => True

theorem MetadataPresent.of_logAnalytics {diagnostics : Option Aci.ContainerGroupDiagnostics}
    {heap heap' : Heap} (same : heap'.logAnalytics = heap.logAnalytics)
    (present : MetadataPresent diagnostics heap) : MetadataPresent diagnostics heap' := by
  unfold MetadataPresent at present ⊢
  rwa [same]

/-- `getDiagnostics` panics exactly when the `ContainerInsights` settings have no `Metadata`
map. -/
theorem getDiagnostics_isSome_iff (p : ACIProvider) (heap : Heap) (pod : V1.Pod) :
    (getDiagnostics p heap pod).isSome ↔ MetadataPresent p.diagnostics heap := by
  unfold getDiagnostics MetadataPresent
  rcases p.diagnostics with _ | ⟨_ | logAnalytics⟩
  · simp
  · simp
  · by_cases insights :
        (heap.logAnalytics logAnalytics).logType = Aci.logAnalyticsLogTypeContainerInsights
    · cases metadata : (heap.logAnalytics logAnalytics).metadata <;> simp [insights, metadata]
    · simp [insights]

theorem getDiagnostics_logAnalytics {p : ACIProvider} {heap heap' : Heap} {pod : V1.Pod}
    {d : Option Aci.ContainerGroupDiagnostics}
    (diagnosed : getDiagnostics p heap pod = some (heap', d)) :
    heap'.logAnalytics = heap.logAnalytics := by
  unfold getDiagnostics at diagnosed
  split at diagnosed
  · split at diagnosed
    · split at diagnosed
      · split at diagnosed
        · cases diagnosed; rfl
        · cases diagnosed
      · cases diagnosed; rfl
    · cases diagnosed; rfl
  · cases diagnosed; rfl

theorem createPod_logAnalytics {c : CreatePodCollaborators} {p : ACIProvider} {heap heap' : Heap}
    {pod : V1.Pod} {outcome : Outcome Unit}
    (created : createPod c p heap pod = some (heap', outcome)) :
    heap'.logAnalytics = heap.logAnalytics := by
  unfold createPod at created
  split at created
  · cases created; rfl
  · cases created
  · next heap₁ cg built =>
      cases created
      obtain ⟨_, _, _, _, -, -, -, -, assembled⟩ := buildContainerGroup_eq_ok c p heap pod built
      obtain ⟨⟨_, _⟩, diagnosed, same⟩ := Option.map_eq_some'.mp assembled.symm
      cases same
      exact getDiagnostics_logAnalytics diagnosed

/-- On memory where `getDiagnostics` cannot panic, `CreatePod` returns. -/
theorem createPod_isSome_of_metadataPresent (c : CreatePodCollaborators) {p : ACIProvider}
    {heap : Heap} (pod : V1.Pod) (present : MetadataPresent p.diagnostics heap) :
    (createPod c p heap pod).isSome := by
  obtain ⟨_, diagnosed⟩ :=
    Option.isSome_iff_exists.mp ((getDiagnostics_isSome_iff p heap pod).mpr present)
  rcases createPod_cases c p heap pod with ⟨_, -, ran⟩ | ⟨panicked, -⟩ | ⟨_, _, succeeded, -⟩
  · simp [ran]
  · obtain ⟨_, _, _, _, -, -, -, -, none⟩ := buildContainerGroup_eq_ok c p heap pod panicked
    rw [diagnosed] at none
    cases none
  · simp [createPod, succeeded]

/-- `CreatePod` on each pod in turn, each call on the memory the one before it left: the memory at
the end and each call's outcome, or `none` once a call panics. -/
def createPods (c : CreatePodCollaborators) (p : ACIProvider) :
    Heap → List V1.Pod → Option (Heap × List (Outcome Unit))
  | heap, [] => some (heap, [])
  | heap, pod :: pods =>
      createPod c p heap pod >>= fun (heap, outcome) =>
        (createPods c p heap pods).map fun (heap, outcomes) => (heap, outcome :: outcomes)

theorem createPods_logAnalytics (c : CreatePodCollaborators) (p : ACIProvider)
    (pods : List V1.Pod) :
    ∀ {heap heap' : Heap} {outcomes : List (Outcome Unit)},
      createPods c p heap pods = some (heap', outcomes) →
        heap'.logAnalytics = heap.logAnalytics := by
  induction pods with
  | nil => intro heap heap' outcomes ran; cases ran; rfl
  | cons pod pods induction =>
      intro heap heap' outcomes ran
      obtain ⟨⟨heap₁, outcome⟩, created, rest⟩ := Option.bind_eq_some.mp ran
      obtain ⟨⟨_, _⟩, ranRest, same⟩ := Option.map_eq_some'.mp rest
      cases same
      rw [induction ranRest, createPod_logAnalytics created]

/-- From memory where `getDiagnostics` cannot panic, no run of `CreatePod` calls panics. -/
theorem createPods_of_metadataPresent (c : CreatePodCollaborators) (p : ACIProvider)
    (pods : List V1.Pod) :
    ∀ {heap}, MetadataPresent p.diagnostics heap →
      ∃ heap' outcomes, createPods c p heap pods = some (heap', outcomes) ∧
        outcomes.length = pods.length := by
  induction pods with
  | nil => exact fun {heap} _ => ⟨heap, [], rfl, rfl⟩
  | cons pod pods induction =>
      intro heap present
      obtain ⟨⟨heap₁, outcome⟩, created⟩ :=
        Option.isSome_iff_exists.mp (createPod_isSome_of_metadataPresent c pod present)
      obtain ⟨heap', outcomes, rest, length⟩ :=
        induction (present.of_logAnalytics (createPod_logAnalytics created))
      refine ⟨heap', outcome :: outcomes, ?_, by simp [length]⟩
      simp [createPods, created, rest]

/-- `getDiagnostics` on each pod in turn, each call on the memory the one before it left: the
memory at the end and the diagnostics each call returned, or `none` once a call panics. -/
def getDiagnosticsEach (p : ACIProvider) :
    Heap → List V1.Pod → Option (Heap × List (Option Aci.ContainerGroupDiagnostics))
  | heap, [] => some (heap, [])
  | heap, pod :: pods =>
      getDiagnostics p heap pod >>= fun (heap, d) =>
        (getDiagnosticsEach p heap pods).map fun (heap, ds) => (heap, d :: ds)

/-- The pod UID that diagnostics carry in `heap`: the `pod-uuid` entry of the `Metadata` map their
`LogAnalytics` settings point to. -/
def carriedPodUUID (heap : Heap) : Option Aci.ContainerGroupDiagnostics → Option String
  | some ⟨some logAnalytics⟩ =>
      (heap.logAnalytics logAnalytics).metadata.bind fun metadata =>
        (heap.metadataMaps metadata).lookup logAnalyticsMetadataKeyPodUUID
  | _ => none

section Insights

variable {p : ACIProvider} {logAnalytics metadata : Nat}

theorem getDiagnostics_of_insights {heap : Heap}
    (configured : p.diagnostics = some ⟨some logAnalytics⟩)
    (insights : (heap.logAnalytics logAnalytics).logType = Aci.logAnalyticsLogTypeContainerInsights)
    (mapped : (heap.logAnalytics logAnalytics).metadata = some metadata) (pod : V1.Pod) :
    getDiagnostics p heap pod = some
      (heap.insertMetadata metadata logAnalyticsMetadataKeyPodUUID pod.uid, p.diagnostics) := by
  simp [getDiagnostics, configured, insights, mapped]

theorem carriedPodUUID_insertMetadata {heap : Heap}
    (configured : p.diagnostics = some ⟨some logAnalytics⟩)
    (mapped : (heap.logAnalytics logAnalytics).metadata = some metadata) (uid : String) :
    carriedPodUUID (heap.insertMetadata metadata logAnalyticsMetadataKeyPodUUID uid)
      p.diagnostics = some uid := by
  simp [carriedPodUUID, configured, Heap.insertMetadata, mapped]

/-- Every call of a run returns the provider's own diagnostics, and after the run the provider's
settings, and so every value a call returned, carry the UID of the last pod. -/
theorem getDiagnosticsEach_shares_metadata (configured : p.diagnostics = some ⟨some logAnalytics⟩)
    (pods : List V1.Pod) (last : V1.Pod) :
    ∀ {heap : Heap},
      (heap.logAnalytics logAnalytics).logType = Aci.logAnalyticsLogTypeContainerInsights →
      (heap.logAnalytics logAnalytics).metadata = some metadata →
        ∃ heap', getDiagnosticsEach p heap (pods ++ [last]) =
            some (heap', List.replicate (pods.length + 1) p.diagnostics) ∧
          carriedPodUUID heap' p.diagnostics = some last.uid := by
  induction pods with
  | nil =>
      intro heap insights mapped
      exact ⟨_, by simp [getDiagnosticsEach, getDiagnostics_of_insights configured insights mapped],
        carriedPodUUID_insertMetadata configured mapped last.uid⟩
  | cons pod pods induction =>
      intro heap insights mapped
      obtain ⟨heap', run, carried⟩ :=
        @induction (heap.insertMetadata metadata logAnalyticsMetadataKeyPodUUID pod.uid)
          insights mapped
      refine ⟨heap', ?_, carried⟩
      simp [getDiagnosticsEach, getDiagnostics_of_insights configured insights mapped, run,
        List.replicate_succ]

end Insights

/-- Two pods, with UIDs `0` and `1`, on settings with a `Metadata` map: the value returned for the
first pod reads the second pod's UID. -/
theorem insightsProvider_returns_last_uid :
    insightsProvider.diagnostics = some ⟨some 0⟩ ∧
      (insightsWithMetadata.logAnalytics 0).logType = Aci.logAnalyticsLogTypeContainerInsights ∧
      (insightsWithMetadata.logAnalytics 0).metadata = some 0 ∧
      ∃ heap', getDiagnosticsEach insightsProvider insightsWithMetadata
          ([samplePod] ++ [{ samplePod with uid := "1" }]) =
          some (heap', List.replicate 2 insightsProvider.diagnostics) ∧
        carriedPodUUID heap' insightsProvider.diagnostics = some "1" :=
  ⟨rfl, rfl, rfl, getDiagnosticsEach_shares_metadata rfl [samplePod] _ rfl rfl⟩

section LastUID

variable (c : CreatePodCollaborators) {p : ACIProvider} {logAnalytics metadata : Nat}

theorem createPod_of_not_partsTranslate (heap : Heap) {pod : V1.Pod}
    (untranslated : ¬ PartsTranslate c p pod) :
    ∃ outcome, createPod c p heap pod = some (heap, outcome) := by
  rcases createPod_cases c p heap pod with ⟨_, -, ran⟩ | ⟨panicked, -⟩ | ⟨_, _, built, -⟩
  · exact ⟨_, ran⟩
  · exact absurd ((buildContainerGroup_succeeds_iff c p heap pod).mp ⟨_, panicked⟩) untranslated
  · exact absurd ((buildContainerGroup_succeeds_iff c p heap pod).mp ⟨_, built⟩) untranslated

/-- A pod whose helpers succeed writes its UID into the `Metadata` map, whatever the gateway
answers. -/
theorem createPod_of_partsTranslate {heap : Heap}
    (configured : p.diagnostics = some ⟨some logAnalytics⟩)
    (insights : (heap.logAnalytics logAnalytics).logType = Aci.logAnalyticsLogTypeContainerInsights)
    (mapped : (heap.logAnalytics logAnalytics).metadata = some metadata) {pod : V1.Pod}
    (translated : PartsTranslate c p pod) :
    ∃ outcome, createPod c p heap pod =
      some (heap.insertMetadata metadata logAnalyticsMetadataKeyPodUUID pod.uid, outcome) := by
  obtain ⟨built, run⟩ := (buildContainerGroup_succeeds_iff c p heap pod).mpr translated
  obtain ⟨_, _, _, _, -, -, -, -, rfl⟩ := buildContainerGroup_eq_ok c p heap pod run
  rw [getDiagnostics_of_insights configured insights mapped] at run
  unfold createPod
  rw [run]
  exact ⟨_, rfl⟩

theorem createPods_of_not_partsTranslate :
    ∀ (heap : Heap) {pods : List V1.Pod}, (∀ pod ∈ pods, ¬ PartsTranslate c p pod) →
      ∃ outcomes, createPods c p heap pods = some (heap, outcomes)
  | _, [], _ => ⟨[], rfl⟩
  | heap, pod :: pods, untranslated => by
      obtain ⟨outcome, created⟩ :=
        createPod_of_not_partsTranslate c heap (untranslated pod (List.mem_cons_self _ _))
      obtain ⟨outcomes, rest⟩ := createPods_of_not_partsTranslate heap
        fun other member => untranslated other (List.mem_cons_of_mem _ member)
      exact ⟨outcome :: outcomes, by simp [createPods, created, rest]⟩

/-- On `ContainerInsights` settings with a `Metadata` map, every run of `CreatePod` calls returns,
and the map then holds the UID of the last pod whose helpers succeeded: a pod the gateway rejected
still wrote its UID, and a pod refused before its group was built wrote nothing. -/
theorem createPods_writes_last_translated_uid
    (configured : p.diagnostics = some ⟨some logAnalytics⟩) (pre : List V1.Pod) (last : V1.Pod)
    (post : List V1.Pod) (translated : PartsTranslate c p last)
    (untranslated : ∀ pod ∈ post, ¬ PartsTranslate c p pod) :
    ∀ {heap : Heap},
      (heap.logAnalytics logAnalytics).logType = Aci.logAnalyticsLogTypeContainerInsights →
      (heap.logAnalytics logAnalytics).metadata = some metadata →
        ∃ heap' outcomes, createPods c p heap (pre ++ last :: post) = some (heap', outcomes) ∧
          carriedPodUUID heap' p.diagnostics = some last.uid := by
  induction pre with
  | nil =>
      intro heap insights mapped
      obtain ⟨outcome, created⟩ :=
        createPod_of_partsTranslate c configured insights mapped translated
      obtain ⟨outcomes, rest⟩ := createPods_of_not_partsTranslate c
        (heap.insertMetadata metadata logAnalyticsMetadataKeyPodUUID last.uid) untranslated
      exact ⟨_, outcome :: outcomes, by simp [createPods, created, rest],
        carriedPodUUID_insertMetadata configured mapped last.uid⟩
  | cons pod pre induction =>
      intro heap insights mapped
      have present : MetadataPresent p.diagnostics heap := by
        simp [MetadataPresent, configured, mapped]
      obtain ⟨⟨heap₁, outcome⟩, created⟩ :=
        Option.isSome_iff_exists.mp (createPod_isSome_of_metadataPresent c pod present)
      have same := createPod_logAnalytics created
      obtain ⟨heap', outcomes, rest, carried⟩ := @induction heap₁ (same ▸ insights) (same ▸ mapped)
      exact ⟨heap', outcome :: outcomes, by simp [createPods, created, rest], carried⟩

end LastUID

/-- Two pods with UIDs `0` and `1`, both built: the map then holds `1`. -/
theorem insightsProvider_createPods_last_uid :
    insightsProvider.diagnostics = some ⟨some 0⟩ ∧
      PartsTranslate sampleCollaborators insightsProvider { samplePod with uid := "1" } ∧
      (∀ pod ∈ ([] : List V1.Pod), ¬ PartsTranslate sampleCollaborators insightsProvider pod) ∧
      (insightsWithMetadata.logAnalytics 0).logType = Aci.logAnalyticsLogTypeContainerInsights ∧
      (insightsWithMetadata.logAnalytics 0).metadata = some 0 ∧
      ∃ heap' outcomes, createPods sampleCollaborators insightsProvider insightsWithMetadata
          ([samplePod] ++ { samplePod with uid := "1" } :: []) = some (heap', outcomes) ∧
        carriedPodUUID heap' insightsProvider.diagnostics = some "1" :=
  have translated : PartsTranslate sampleCollaborators insightsProvider
      { samplePod with uid := "1" } := ⟨⟨[], rfl⟩, ⟨[], rfl⟩, ⟨[], rfl⟩, ⟨[], rfl⟩⟩
  have untranslated :
      ∀ pod ∈ ([] : List V1.Pod), ¬ PartsTranslate sampleCollaborators insightsProvider pod :=
    fun _ member => absurd member (List.not_mem_nil _)
  ⟨rfl, translated, untranslated, rfl, rfl,
    createPods_writes_last_translated_uid sampleCollaborators rfl [samplePod] _ [] translated
      untranslated rfl rfl⟩

end AzureAci
