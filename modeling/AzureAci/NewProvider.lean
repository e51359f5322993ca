import AzureAci.CreatePod

/-!
# Creating the provider

`NewACIProvider` fills the zero provider from, in this order: the config file, the AKS
credential, the log-analytics settings (a settings file, then a workspace ID and key), and the
environment variables `ACI_RESOURCE_GROUP` and `ACI_REGION`, which win over all of them. It then
checks that a resource group and a supported region are set. `os.Getenv` is the function
`getenv`, which is `""` for a variable that is not set, and `strings.ToLower` is `toLower`.

The code it calls that is not in this repository is a parameter. `loadConfig` gives the resource
group and the region the file names; the two `analytics` constructors allocate their settings in
the heap; `setupNodeCapacity` gives the GPU SKUs and `setVNETConfig` the VNET fields of the
model. `CLUSTER_RESOURCE_ID` turns the log-analytics settings into `ContainerInsights` settings
with a fresh `Metadata` map, so `getDiagnostics` never panics on such a provider, in any run of
`CreatePod` calls, and each call reaches the gateway exactly when its pod translates.
-/

namespace AzureAci

namespace Auth

/-- `auth.AKSCredential`, with the fields `NewACIProvider` reads. -/
structure AKSCredential where
  /-- `ResourceGroup`. -/
  resourceGroup : String
  /-- `Region`. -/
  region : String
  /-- `VNetName`. -/
  vnetName : String
  /-- `VNetResourceGroup`. -/
  vnetResourceGroup : String
  deriving DecidableEq, Repr

/-- `auth.Config`. -/
structure Config where
  /-- `AKSCredential`, or `nil`. -/
  aksCredential : Option AKSCredential
  deriving DecidableEq, Repr

end Auth

/-- `LogAnalyticsMetadataKeyNodeName`. -/
def logAnalyticsMetadataKeyNodeName : String := "node-name"

/-- `LogAnalyticsMetadataKeyClusterResourceID`. -/
def logAnalyticsMetadataKeyClusterResourceID : String := "cluster-resource-id"

/-- `validAciRegions`. -/
def validAciRegions : List String :=
  ["australiaeast", "australiasoutheast", "brazilsouth", "canadacentral", "canadaeast",
    "centralindia", "centralus", "centraluseuap", "eastasia", "eastus", "eastus2", "eastus2euap",
    "francecentral", "germanywestcentral", "japaneast", "japanwest", "jioindiawest",
    "koreacentral", "northcentralus", "northeurope", "norwayeast", "norwaywest",
    "southafricanorth", "southcentralus", "southindia", "southeastasia", "swedencentral",
    "swedensouth", "switzerlandnorth", "switzerlandwest", "uaenorth", "uksouth", "ukwest",
    "westcentralus", "westeurope", "westindia", "westus", "westus2", "westus3", "usgovvirginia",
    "usgovarizona"]

/-- `isValidACIRegion`: the region, lower-cased and with every space removed (what
`strings.Replace(regionLower, " ", "", -1)` does), is one of `validAciRegions`. -/
def isValidACIRegion (toLower : String → String) (region : String) : Bool :=
  let regionLower := toLower region
  let regionTrimmed : String := ⟨regionLower.data.filter fun c => c != ' '⟩
  validAciRegions.any fun validRegion => regionTrimmed == validRegion

/-- The error for a region `isValidACIRegion` refuses. -/
def unsupportedRegionMessage (region : String) : String :=
  "Region " ++ region ++ " is invalid. Current supported regions are: " ++
    String.intercalate ", " validAciRegions

/-- `if v := os.Getenv(name); v != "" { field = v }`. -/
def fromEnv (getenv : String → String) (name current : String) : String :=
  if getenv name ≠ "" then getenv name else current

/-- The fields of the provider the config file sets that the model holds. -/
structure ProviderConfig where
  /-- The resource group the file names. -/
  resourceGroup : String
  /-- The region the file names. -/
  region : String
  deriving DecidableEq, Repr

/-- The VNET fields of the provider that the model holds. -/
structure VnetConfig where
  /-- `vnetName`. -/
  vnetName : String
  /-- `vnetResourceGroup`. -/
  vnetResourceGroup : String
  /-- `subnetName`. -/
  subnetName : String
  deriving DecidableEq, Repr

/-- What `NewACIProvider` calls that is not in this repository. -/
structure NewProviderCollaborators where
  /-- `os.Open(config)` and `p.loadConfig(f)`. -/
  loadConfig : String → Except GoError ProviderConfig
  /-- `analytics.NewContainerGroupDiagnosticsFromFile(file)`, allocating in the heap. -/
  newContainerGroupDiagnosticsFromFile :
    String → Heap → Except GoError (Heap × Option Aci.ContainerGroupDiagnostics)
  /-- `analytics.NewContainerGroupDiagnostics(id, key)`, allocating in the heap. -/
  newContainerGroupDiagnostics :
    String → String → Heap → Except GoError (Heap × Option Aci.ContainerGroupDiagnostics)
  /-- `p.setupNodeCapacity(ctx)`: the GPU SKUs it records for the region. -/
  setupNodeCapacity : ACIProvider → Except GoError (List String)
  /-- `p.setVNETConfig(ctx, &azConfig)`: the VNET fields as it leaves them. -/
  setVNETConfig : ACIProvider → Auth.Config → Except GoError VnetConfig

/-- `var p ACIProvider`: the zero provider, whose `nodeName` field is at `nodeNameAddress`. -/
def zeroProvider (nodeNameAddress : Nat) : ACIProvider :=
  { resourceGroup := "", region := "", nodeName := "", nodeNameAddress, operatingSystem := ""
    gpuSKUs := [], diagnostics := none, subnetName := "", vnetName := "", vnetResourceGroup := ""
    tracker := none }

section Stages

variable (c : NewProviderCollaborators) (getenv toLower : String → String)

/-- The config-file block: with a path, the file is opened and loaded into the provider. -/
def loadConfigFile (config : String) (p : ACIProvider) : Except GoError ACIProvider :=
  if config ≠ "" then
    (fun file => { p with resourceGroup := file.resourceGroup, region := file.region }) <$>
      c.loadConfig config
  else pure p

/-- The `azConfig.AKSCredential` block. -/
def applyAKSCredential (azConfig : Auth.Config) (p : ACIProvider) : ACIProvider :=
  match azConfig.aksCredential with
  | some credential =>
      { p with resourceGroup := credential.resourceGroup, region := credential.region
               vnetName := credential.vnetName
               vnetResourceGroup := credential.vnetResourceGroup }
  | none => p

/-- `if p.vnetResourceGroup == "" { p.vnetResourceGroup = p.resourceGroup }`. -/
def defaultVnetResourceGroup (p : ACIProvider) : ACIProvider :=
  if p.vnetResourceGroup = "" then { p with vnetResourceGroup := p.resourceGroup } else p

/-- A log-analytics block: when `set`, the provider's diagnostics become what `construct`
allocates, and its error is returned. -/
def replaceDiagnostics (set : Prop) [Decidable set]
    (construct : Heap → Except GoError (Heap × Option Aci.ContainerGroupDiagnostics))
    (heap : Heap) (p : ACIProvider) : Except GoError (Heap × ACIProvider) :=
  if set then (fun made => (made.1, { p with diagnostics := made.2 })) <$> construct heap
  else pure (heap, p)

/-- The two log-analytics blocks: the settings file `LOG_ANALYTICS_AUTH_LOCATION` names, then the
workspace `LOG_ANALYTICS_ID` and `LOG_ANALYTICS_KEY` name when both are set, which replaces it. -/
def loadDiagnostics (heap : Heap) (p : ACIProvider) : Except GoError (Heap × ACIProvider) := do
  let (heap, p) ← replaceDiagnostics (getenv "LOG_ANALYTICS_AUTH_LOCATION" ≠ "")
    (c.newContainerGroupDiagnosticsFromFile (getenv "LOG_ANALYTICS_AUTH_LOCATION")) heap p
  replaceDiagnostics (getenv "LOG_ANALYTICS_ID" ≠ "" ∧ getenv "LOG_ANALYTICS_KEY" ≠ "")
    (c.newContainerGroupDiagnostics (getenv "LOG_ANALYTICS_ID") (getenv "LOG_ANALYTICS_KEY"))
    heap p

/-- The `CLUSTER_RESOURCE_ID` block: when the variable is set and the provider has log-analytics
settings, they become `ContainerInsights` settings whose `Metadata` is a new map, allocated at
`metadataAddress`, holding the cluster's resource ID and the node's name. -/
def setClusterResourceID (metadataAddress : Nat) (nodeName : String) (heap : Heap)
    (p : ACIProvider) : Heap :=
  let clusterResourceID := getenv "CLUSTER_RESOURCE_ID"
  if clusterResourceID ≠ "" then
    match p.diagnostics with
    | some ⟨some logAnalytics⟩ =>
        let settings := { heap.logAnalytics logAnalytics with
          logType := Aci.logAnalyticsLogTypeContainerInsights, metadata := some metadataAddress }
        { logAnalytics := Function.update heap.logAnalytics logAnalytics settings
          metadataMaps := Function.update heap.metadataMaps metadataAddress
            [(logAnalyticsMetadataKeyClusterResourceID, clusterResourceID),
              (logAnalyticsMetadataKeyNodeName, nodeName)] }
    | _ => heap
  else heap

/-- The statements of `NewACIProvider` up to the `CLUSTER_RESOURCE_ID` block. -/
def configure (heap : Heap) (nodeNameAddress metadataAddress : Nat) (config : String)
    (azConfig : Auth.Config) (nodeName operatingSystem : String) :
    Except GoError (Heap × ACIProvider) := do
  let p ← loadConfigFile c config (zeroProvider nodeNameAddress)
  let p := { p with nodeName := nodeName, operatingSystem := operatingSystem }
  let p := defaultVnetResourceGroup (applyAKSCredential azConfig p)
  let (heap, p) ← loadDiagnostics c getenv heap p
  pure (setClusterResourceID getenv metadataAddress nodeName heap p, p)

/-- The `ACI_RESOURCE_GROUP` and `ACI_REGION` blocks and the region check. -/
def resolveLocation (p : ACIProvider) : Except GoError ACIProvider := do
  let p := { p with resourceGroup := fromEnv getenv "ACI_RESOURCE_GROUP" p.resourceGroup }
  failIf (p.resourceGroup = "")
    (newError "Resource group can not be empty please set ACI_RESOURCE_GROUP")
  let p := { p with region := fromEnv getenv "ACI_REGION" p.region }
  failIf (p.region = "") (newError "Region can not be empty please set ACI_REGION")
  failIf (isValidACIRegion toLower p.region = false)
    (newError (unsupportedRegionMessage p.region))
  pure p

/-- `NewACIProvider`: the heap after it and the provider, whose `nodeName` field is at
`nodeNameAddress`; the map the `CLUSTER_RESOURCE_ID` block makes is allocated at
`metadataAddress`. -/
def newACIProvider (heap : Heap) (nodeNameAddress metadataAddress : Nat) (config : String)
    (azConfig : Auth.Config) (nodeName operatingSystem : String) :
    Except GoError (Heap × ACIProvider) := do
  let (heap, p) ← configure c getenv heap nodeNameAddress metadataAddress config azConfig
    nodeName operatingSystem
  let p ← resolveLocation getenv toLower p
  let gpuSKUs ← c.setupNodeCapacity p
  let p := { p with gpuSKUs := gpuSKUs }
  let vnet ← c.setVNETConfig p azConfig
  pure (heap, { p with vnetName := vnet.vnetName, vnetResourceGroup := vnet.vnetResourceGroup
                       subnetName := vnet.subnetName })

end Stages

/-! ## What `NewACIProvider` guarantees -/

/-- What `NewACIProvider` checks of the provider it returns. -/
structure LocationValid (toLower : String → String) (p : ACIProvider) : Prop where
  /-- A resource group is set. -/
  resourceGroupSet : p.resourceGroup ≠ ""
  /-- A region is set. -/
  regionSet : p.region ≠ ""
  /-- The region is one ACI supports. -/
  regionSupported : isValidACIRegion toLower p.region = true

section Lemmas

variable {c : NewProviderCollaborators} {getenv toLower : String → String}

theorem resolveLocation_eq_ok {p p' : ACIProvider} :
    resolveLocation getenv toLower p = .ok p' ↔
      p' = { p with resourceGroup := fromEnv getenv "ACI_RESOURCE_GROUP" p.resourceGroup,
                    region := fromEnv getenv "ACI_REGION" p.region } ∧
        LocationValid toLower p' := by
  unfold resolveLocation
  simp only [bind_eq_ok, failIf_eq_ok, pure, Except.pure, Except.ok.injEq]
  constructor
  · rintro ⟨-, rgSet, -, regionSet, -, supported, rfl⟩
    exact ⟨rfl, rgSet, regionSet, by simpa using supported⟩
  · rintro ⟨rfl, rgSet, regionSet, supported⟩
    exact ⟨(), rgSet, (), regionSet, (), by simpa using supported, rfl⟩

/-- The environment blocks fail with the error of the first check the location fails, and each
error names what it checks. -/
theorem resolveLocation_eq_error {p : ACIProvider} {e : GoError} :
    resolveLocation getenv toLower p = .error e ↔
      fromEnv getenv "ACI_RESOURCE_GROUP" p.resourceGroup = "" ∧
          e = newError "Resource group can not be empty please set ACI_RESOURCE_GROUP" ∨
        fromEnv getenv "ACI_RESOURCE_GROUP" p.resourceGroup ≠ "" ∧
          fromEnv getenv "ACI_REGION" p.region = "" ∧
          e = newError "Region can not be empty please set ACI_REGION" ∨
        fromEnv getenv "ACI_RESOURCE_GROUP" p.resourceGroup ≠ "" ∧
          fromEnv getenv "ACI_REGION" p.region ≠ "" ∧
          isValidACIRegion toLower (fromEnv getenv "ACI_REGION" p.region) = false ∧
          e = newError (unsupportedRegionMessage (fromEnv getenv "ACI_REGION" p.region)) := by
  unfold resolveLocation
  simp only [bind_eq_error, failIf_eq_error, failIf_eq_ok, pure, Except.pure, exists_const,
    reduceCtorEq, and_false, or_false, and_or_left, and_assoc, ne_eq, @eq_comm GoError e]

theorem defaultVnetResourceGroup_eq (p : ACIProvider) :
    defaultVnetResourceGroup p = { p with vnetResourceGroup :=
      if p.vnetResourceGroup = "" then p.resourceGroup else p.vnetResourceGroup } := by
  unfold defaultVnetResourceGroup; split <;> simp_all

theorem replaceDiagnostics_frame {set : Prop} [Decidable set]
    {construct : Heap → Except GoError (Heap × Option Aci.ContainerGroupDiagnostics)}
    {heap heap' : Heap} {p p' : ACIProvider}
    (run : replaceDiagnostics set construct heap p = .ok (heap', p')) :
    p' = { p with diagnostics := p'.diagnostics } := by
  unfold replaceDiagnostics at run
  split at run
  · obtain ⟨_, -, made⟩ := map_eq_ok.mp run
    cases made; rfl
  · cases run; rfl

theorem loadDiagnostics_frame {heap heap' : Heap} {p p' : ACIProvider}
    (run : loadDiagnostics c getenv heap p = .ok (heap', p')) :
    p' = { p with diagnostics := p'.diagnostics } := by
  obtain ⟨⟨heap₁, p₁⟩, first, second⟩ := bind_eq_ok.mp run
  rw [replaceDiagnostics_frame second, replaceDiagnostics_frame first]

variable {heap heap' : Heap} {nodeNameAddress metadataAddress : Nat} {config : String}
  {azConfig : Auth.Config} {nodeName operatingSystem : String}

theorem configure_eq_ok {p : ACIProvider}
    (run : configure c getenv heap nodeNameAddress metadataAddress config azConfig nodeName
      operatingSystem = .ok (heap', p)) :
    ∃ loaded heap₁, loadConfigFile c config (zeroProvider nodeNameAddress) = .ok loaded ∧
      loadDiagnostics c getenv heap (defaultVnetResourceGroup (applyAKSCredential azConfig
        { loaded with nodeName := nodeName, operatingSystem := operatingSystem })) =
          .ok (heap₁, p) ∧
      heap' = setClusterResourceID getenv metadataAddress nodeName heap₁ p := by
  obtain ⟨loaded, loadedOk, rest⟩ := bind_eq_ok.mp run
  obtain ⟨⟨heap₁, p₁⟩, diagnosed, done⟩ := bind_eq_ok.mp rest
  cases done
  exact ⟨loaded, heap₁, loadedOk, diagnosed, rfl⟩

/-- The provider `NewACIProvider` returns is the one the statements before the environment blocks
make, with the environment's location, which is valid; the memory is the one the
`CLUSTER_RESOURCE_ID` block leaves. -/
theorem newACIProvider_eq_ok {p : ACIProvider}
    (run : newACIProvider c getenv toLower heap nodeNameAddress metadataAddress config azConfig
      nodeName operatingSystem = .ok (heap', p)) :
    ∃ loaded heap₁ configured,
      loadConfigFile c config (zeroProvider nodeNameAddress) = .ok loaded ∧
      loadDiagnostics c getenv heap (defaultVnetResourceGroup (applyAKSCredential azConfig
        { loaded with nodeName := nodeName, operatingSystem := operatingSystem })) =
          .ok (heap₁, configured) ∧
      heap' = setClusterResourceID getenv metadataAddress nodeName heap₁ configured ∧
      LocationValid toLower p ∧
      p = { configured with
        resourceGroup := fromEnv getenv "ACI_RESOURCE_GROUP" configured.resourceGroup
        region := fromEnv getenv "ACI_REGION" configured.region
        gpuSKUs := p.gpuSKUs, vnetName := p.vnetName, vnetResourceGroup := p.vnetResourceGroup
        subnetName := p.subnetName } := by
  obtain ⟨⟨heap₁, configured⟩, configuredOk, rest⟩ := bind_eq_ok.mp run
  obtain ⟨located, locatedOk, rest⟩ := bind_eq_ok.mp rest
  obtain ⟨gpuSKUs, -, rest⟩ := bind_eq_ok.mp rest
  obtain ⟨vnet, -, done⟩ := bind_eq_ok.mp rest
  cases done
  obtain ⟨rfl, valid⟩ := resolveLocation_eq_ok.mp locatedOk
  obtain ⟨loaded, heap₂, loadedOk, diagnosed, rfl⟩ := configure_eq_ok configuredOk
  exact ⟨loaded, heap₂, configured, loadedOk, diagnosed, rfl,
    ⟨valid.resourceGroupSet, valid.regionSet, valid.regionSupported⟩, rfl⟩

theorem setClusterResourceID_of_set (set : getenv "CLUSTER_RESOURCE_ID" ≠ "") {p : ACIProvider}
    {d : Aci.ContainerGroupDiagnostics} {logAnalytics : Nat} (diagnosed : p.diagnostics = some d)
    (workspace : d.logAnalytics = some logAnalytics) :
    setClusterResourceID getenv metadataAddress nodeName heap p =
      { logAnalytics := Function.update heap.logAnalytics logAnalytics
          { heap.logAnalytics logAnalytics with
            logType := Aci.logAnalyticsLogTypeContainerInsights, metadata := some metadataAddress }
        metadataMaps := Function.update heap.metadataMaps metadataAddress
          [(logAnalyticsMetadataKeyClusterResourceID, getenv "CLUSTER_RESOURCE_ID"),
            (logAnalyticsMetadataKeyNodeName, nodeName)] } := by
  obtain ⟨_⟩ := d
  cases workspace
  simp only [setClusterResourceID, set, diagnosed, ne_eq, not_false_eq_true, if_true]

end Lemmas

/-- An environment naming a resource group, a region in its display form, a log-analytics
workspace and the cluster. -/
def sampleEnvironment (name : String) : String :=
  if name = "ACI_RESOURCE_GROUP" then "rg"
  else if name = "ACI_REGION" then "West US 2"
  else if name = "LOG_ANALYTICS_ID" then "workspace"
  else if name = "LOG_ANALYTICS_KEY" then "key"
  else if name = "CLUSTER_RESOURCE_ID" then "cluster"
  else ""

/-- An AKS credential in another resource group and region, naming no VNET resource group. -/
def sampleAuthConfig : Auth.Config :=
  { aksCredential := some
      { resourceGroup := "aks-rg", region := "westeurope", vnetName := "vnet"
        vnetResourceGroup := "" } }

/-- The code `NewACIProvider` calls: the workspace is allocated at address 1. -/
def sampleSetup : NewProviderCollaborators :=
  { loadConfig := fun _ => .error (newError "no config file")
    newContainerGroupDiagnosticsFromFile := fun _ _ => .error (newError "no settings file")
    newContainerGroupDiagnostics := fun _ _ heap => .ok (heap, some ⟨some 1⟩)
    setupNodeCapacity := fun _ => .ok ["K80"]
    setVNETConfig := fun p _ => .ok ⟨p.vnetName, p.vnetResourceGroup, ""⟩ }

/-- Memory with no settings in it. -/
def emptyHeap : Heap := { logAnalytics := fun _ => ⟨"", none⟩, metadataMaps := fun _ => [] }

/-- The memory after `NewACIProvider`: the workspace at address 1 holds `ContainerInsights`
settings whose map, at address 2, names the cluster and the node. -/
def sampleHeap : Heap :=
  { logAnalytics := Function.update emptyHeap.logAnalytics 1 ⟨"ContainerInsights", some 2⟩
    metadataMaps := Function.update emptyHeap.metadataMaps 2
      [("cluster-resource-id", "cluster"), ("node-name", "vk")] }

/-- The provider `NewACIProvider` makes: the environment's resource group and region, the
credential's VNET, and the credential's resource group as VNET resource group. -/
def sampleNewProvider : ACIProvider :=
  { resourceGroup := "rg", region := "West US 2", nodeName := "vk", nodeNameAddress := 0
    operatingSystem := "Linux", gpuSKUs := ["K80"], diagnostics := some ⟨some 1⟩, subnetName := ""
    vnetName := "vnet", vnetResourceGroup := "aks-rg", tracker := none }

theorem sampleSetup_newACIProvider :
    newACIProvider sampleSetup sampleEnvironment asciiToLower emptyHeap 0 2 "" sampleAuthConfig "vk"
      "Linux" = .ok (sampleHeap, sampleNewProvider) := rfl

section Guarantees

variable {c : NewProviderCollaborators} {getenv toLower : String → String} {heap heap' : Heap}
  {nodeNameAddress metadataAddress : Nat} {config : String} {azConfig : Auth.Config}
  {nodeName operatingSystem : String}

/-- The provider `NewACIProvider` returns has a resource group and a supported region, and the
environment wins over the AKS credential for both. -/
theorem newACIProvider_location_valid {p : ACIProvider}
    (run : newACIProvider c getenv toLower heap nodeNameAddress metadataAddress config azConfig
      nodeName operatingSystem = .ok (heap', p)) :
    LocationValid toLower p ∧
      ∀ credential, azConfig.aksCredential = some credential →
        p.resourceGroup = fromEnv getenv "ACI_RESOURCE_GROUP" credential.resourceGroup ∧
          p.region = fromEnv getenv "ACI_REGION" credential.region := by
  obtain ⟨loaded, heap₁, configured, -, diagnosed, -, valid, same⟩ := newACIProvider_eq_ok run
  refine ⟨valid, fun credential given => ?_⟩
  rw [same, loadDiagnostics_frame diagnosed]
  simp [defaultVnetResourceGroup_eq, applyAKSCredential, given]

/-- With `CLUSTER_RESOURCE_ID` set, the log-analytics settings of the provider
`NewACIProvider` returns are `ContainerInsights` settings whose `Metadata` map holds the cluster's
resource ID and the node's name. -/
theorem newACIProvider_cluster_settings {p : ACIProvider}
    (run : newACIProvider c getenv toLower heap nodeNameAddress metadataAddress config azConfig
      nodeName operatingSystem = .ok (heap', p))
    (set : getenv "CLUSTER_RESOURCE_ID" ≠ "") {d : Aci.ContainerGroupDiagnostics}
    {logAnalytics : Nat} (diagnosed : p.diagnostics = some d)
    (workspace : d.logAnalytics = some logAnalytics) :
    (heap'.logAnalytics logAnalytics).logType = Aci.logAnalyticsLogTypeContainerInsights ∧
      (heap'.logAnalytics logAnalytics).metadata = some metadataAddress ∧
      heap'.metadataMaps metadataAddress =
        [(logAnalyticsMetadataKeyClusterResourceID, getenv "CLUSTER_RESOURCE_ID"),
          (logAnalyticsMetadataKeyNodeName, nodeName)] := by
  obtain ⟨-, heap₁, configured, -, -, rfl, -, same⟩ := newACIProvider_eq_ok run
  have configuredDiagnostics : configured.diagnostics = some d := by rwa [same] at diagnosed
  rw [setClusterResourceID_of_set set configuredDiagnostics workspace]
  simp

end Guarantees

/-! ## `CreatePod` on a configured provider -/

/-- The `CLUSTER_RESOURCE_ID` block leaves every provider's diagnostics with a `Metadata` map. -/
theorem setClusterResourceID_metadataPresent {getenv : String → String}
    (set : getenv "CLUSTER_RESOURCE_ID" ≠ "") (metadataAddress : Nat) (nodeName : String)
    (heap : Heap) (p : ACIProvider) :
    MetadataPresent p.diagnostics
      (setClusterResourceID getenv metadataAddress nodeName heap p) := by
  unfold MetadataPresent
  split
  · next logAnalytics diagnosed =>
      rw [setClusterResourceID_of_set set diagnosed rfl]
      simp
  · trivial

section Configured

variable {c : NewProviderCollaborators} {getenv toLower : String → String} {heap heap' : Heap}
  {nodeNameAddress metadataAddress : Nat} {config : String} {azConfig : Auth.Config}
  {nodeName operatingSystem : String} {p : ACIProvider}

/-- `NewACIProvider` with `CLUSTER_RESOURCE_ID` set leaves memory where `getDiagnostics` cannot
panic. -/
theorem newACIProvider_metadataPresent
    (run : newACIProvider c getenv toLower heap nodeNameAddress metadataAddress config azConfig
      nodeName operatingSystem = .ok (heap', p))
    (set : getenv "CLUSTER_RESOURCE_ID" ≠ "") : MetadataPresent p.diagnostics heap' := by
  obtain ⟨-, heap₁, configured, -, -, rfl, -, same⟩ := newACIProvider_eq_ok run
  rw [same]
  exact setClusterResourceID_metadataPresent set metadataAddress nodeName heap₁ configured

/-- On a provider `NewACIProvider` made with `CLUSTER_RESOURCE_ID` set, no run of `CreatePod`
calls panics: each pod gets an outcome. -/
theorem newACIProvider_createPods_never_panic
    (run : newACIProvider c getenv toLower heap nodeNameAddress metadataAddress config azConfig
      nodeName operatingSystem = .ok (heap', p))
    (set : getenv "CLUSTER_RESOURCE_ID" ≠ "") (createCollaborators : CreatePodCollaborators)
    (pods : List V1.Pod) :
    ∃ heap'' outcomes, createPods createCollaborators p heap' pods = some (heap'', outcomes) ∧
      outcomes.length = pods.length :=
  createPods_of_metadataPresent createCollaborators p pods (newACIProvider_metadataPresent run set)

theorem sampleNewProvider_createPods_never_panic :
    newACIProvider sampleSetup sampleEnvironment asciiToLower emptyHeap 0 2 "" sampleAuthConfig "vk"
      "Linux" = .ok (sampleHeap, sampleNewProvider) ∧
      sampleEnvironment "CLUSTER_RESOURCE_ID" ≠ "" ∧
      ∀ (createCollaborators : CreatePodCollaborators) (pods : List V1.Pod),
        ∃ heap'' outcomes,
          createPods createCollaborators sampleNewProvider sampleHeap pods =
            some (heap'', outcomes) ∧
            outcomes.length = pods.length :=
  ⟨sampleSetup_newACIProvider, by decide,
    newACIProvider_createPods_never_panic sampleSetup_newACIProvider (by decide)⟩

/-- On a provider `NewACIProvider` made with `CLUSTER_RESOURCE_ID` set, after any run of
`CreatePod` calls, the next call reaches the gateway exactly when the four helpers succeed on its
pod, and then its one call is `CreateContainerGroup` with the group it built. -/
theorem newACIProvider_createPod_calls_gateway_iff
    (run : newACIProvider c getenv toLower heap nodeNameAddress metadataAddress config azConfig
      nodeName operatingSystem = .ok (heap', p))
    (set : getenv "CLUSTER_RESOURCE_ID" ≠ "") (createCollaborators : CreatePodCollaborators)
    {pods : List V1.Pod} {heap₁ : Heap} {outcomes : List (Outcome Unit)}
    (earlier : createPods createCollaborators p heap' pods = some (heap₁, outcomes))
    (pod : V1.Pod) :
    (createPodCalls createCollaborators p heap₁ pod ≠ [] ↔
      PartsTranslate createCollaborators p pod) ∧
    (PartsTranslate createCollaborators p pod →
      ∃ heap₂ cg,
        buildContainerGroup createCollaborators p heap₁ pod = .ok (some (heap₂, cg)) ∧
        createPodCalls createCollaborators p heap₁ pod =
          [.createContainerGroup p.resourceGroup pod.namespace pod.name
            { createCollaborators.amendVnetResources cg pod with
              location := cg.location, tags := cg.tags }]) := by
  have present := (newACIProvider_metadataPresent run set).of_logAnalytics
    (createPods_logAnalytics createCollaborators p pods earlier)
  have called : createPodCalls createCollaborators p heap₁ pod ≠ [] ↔
      PartsTranslate createCollaborators p pod := by
    rw [createPodCalls_ne_nil_iff, (getDiagnostics_isSome_iff p heap₁ pod).mpr present]
    exact and_iff_left rfl
  refine ⟨called, fun translated => ?_⟩
  rcases createPodCalls_eq_nil_or_call createCollaborators p heap₁ pod with none | call
  · exact absurd none (called.mpr translated)
  · exact call

theorem sampleNewProvider_createPod_calls_gateway_iff :
    newACIProvider sampleSetup sampleEnvironment asciiToLower emptyHeap 0 2 "" sampleAuthConfig "vk"
      "Linux" = .ok (sampleHeap, sampleNewProvider) ∧
      sampleEnvironment "CLUSTER_RESOURCE_ID" ≠ "" ∧
      createPods sampleCollaborators sampleNewProvider sampleHeap [] = some (sampleHeap, []) ∧
      (createPodCalls sampleCollaborators sampleNewProvider sampleHeap samplePod ≠ [] ↔
        PartsTranslate sampleCollaborators sampleNewProvider samplePod) ∧
      (PartsTranslate sampleCollaborators sampleNewProvider samplePod →
        ∃ heap₂ cg,
          buildContainerGroup sampleCollaborators sampleNewProvider sampleHeap samplePod =
            .ok (some (heap₂, cg)) ∧
          createPodCalls sampleCollaborators sampleNewProvider sampleHeap samplePod =
            [.createContainerGroup "rg" "default" "app"
              { sampleCollaborators.amendVnetResources cg samplePod with
                location := cg.location, tags := cg.tags }]) :=
  have earlier :
      createPods sampleCollaborators sampleNewProvider sampleHeap [] = some (sampleHeap, []) := rfl
  ⟨sampleSetup_newACIProvider, by decide, earlier,
    newACIProvider_createPod_calls_gateway_iff sampleSetup_newACIProvider (by decide)
      sampleCollaborators earlier samplePod⟩

end Configured

end AzureAci
