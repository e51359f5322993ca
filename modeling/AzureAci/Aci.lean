import AzureAci.Kube

/-!
# Azure Container Instances request objects

The fields of the `containerinstance` (2021-10-01) objects the provider builds, and the
client's `ContainerGroupWrapper`. Go keeps most of them behind pointers; a pointer that the code
always sets is a plain field here and one it may leave `nil` is an `Option`. Float amounts are
the exact rationals the code computes them from.
-/

namespace AzureAci
namespace Aci

/-- `azaci.ContainerPort`. -/
structure ContainerPort where
  /-- The `int32` port number. -/
  port : Int
  /-- `azaci.ContainerNetworkProtocol`. -/
  protocol : String
  deriving DecidableEq, Repr

/-- `azaci.VolumeMount`. -/
structure VolumeMount where
  /-- The volume the mount names. -/
  name : String
  /-- Where it is mounted. -/
  mountPath : String
  /-- Whether it is mounted read-only. -/
  readOnly : Bool
  deriving DecidableEq, Repr

/-- `azaci.EnvironmentVariable`: exactly one of the two values is set by the provider. -/
structure EnvironmentVariable where
  /-- Variable name. -/
  name : String
  /-- Plain value. -/
  value : Option String
  /-- Value the backend keeps secret. -/
  secureValue : Option String
  deriving DecidableEq, Repr

/-- `azaci.GpuResource`. -/
structure GpuResource where
  /-- The `int32` number of GPUs. -/
  count : Int
  /-- `azaci.GpuSku`. -/
  sku : String
  deriving DecidableEq, Repr

/-- `azaci.ResourceRequests`. -/
structure ResourceRequests where
  /-- Memory in GB. -/
  memoryInGB : ℚ
  /-- Cores. -/
  cpu : ℚ
  /-- GPUs, if any. -/
  gpu : Option GpuResource
  deriving DecidableEq, Repr

/-- `azaci.ResourceLimits`. -/
structure ResourceLimits where
  /-- Memory in GB. -/
  memoryInGB : ℚ
  /-- Cores. -/
  cpu : ℚ
  /-- GPUs, if any. -/
  gpu : Option GpuResource
  deriving DecidableEq, Repr

/-- `azaci.ResourceRequirements`. -/
structure ResourceRequirements where
  /-- Requests. -/
  requests : ResourceRequests
  /-- Limits, set only when the pod declares limits. -/
  limits : Option ResourceLimits
  deriving DecidableEq, Repr

/-- `azaci.ContainerExec`. -/
structure ContainerExec where
  /-- Command line. -/
  command : List String
  deriving DecidableEq, Repr

/-- `azaci.ContainerHTTPGet`. -/
structure ContainerHTTPGet where
  /-- Request path. -/
  path : String
  /-- The `int32` port. -/
  port : Int
  /-- `azaci.Scheme`. -/
  scheme : String
  deriving DecidableEq, Repr

/-- `azaci.ContainerProbe`. -/
structure ContainerProbe where
  /-- Exec handler. -/
  exec : Option ContainerExec
  /-- HTTP GET handler. -/
  httpGet : Option ContainerHTTPGet
  /-- Seconds before the first probe. -/
  initialDelaySeconds : Int
  /-- Seconds between probes. -/
  periodSeconds : Int
  /-- Failures that count as failure. -/
  failureThreshold : Int
  /-- Successes that count as success. -/
  successThreshold : Int
  /-- Seconds before a probe times out. -/
  timeoutSeconds : Int
  deriving DecidableEq, Repr

/-- `azaci.Container`, with its `ContainerProperties` flattened. -/
structure Container where
  /-- Container name. -/
  name : String
  /-- Image reference. -/
  image : String
  /-- Command line. -/
  command : List String
  /-- Exposed ports. -/
  ports : List ContainerPort
  /-- Environment variables. -/
  environmentVariables : List EnvironmentVariable
  /-- Requests and limits; `nil` until `getContainers` sets them. -/
  resources : Option ResourceRequirements
  /-- Volume mounts. -/
  volumeMounts : List VolumeMount
  /-- Liveness probe. -/
  livenessProbe : Option ContainerProbe
  /-- Readiness probe. -/
  readinessProbe : Option ContainerProbe
  deriving DecidableEq, Repr

/-- `azaci.InitContainerDefinition`, with its properties flattened. -/
structure InitContainerDefinition where
  /-- Container name. -/
  name : String
  /-- Image reference. -/
  image : String
  /-- Command line. -/
  command : List String
  /-- Environment variables. -/
  environmentVariables : List EnvironmentVariable
  /-- Volume mounts. -/
  volumeMounts : List VolumeMount
  deriving DecidableEq, Repr

/-- `azaci.Volume`, by the name mounts refer to; what backs it is not read by the provider. -/
structure Volume where
  /-- Volume name. -/
  name : String
  deriving DecidableEq, Repr

/-- `azaci.Port`. -/
structure Port where
  /-- The `int32` port number. -/
  port : Int
  /-- `azaci.ContainerGroupNetworkProtocol`. -/
  protocol : String
  deriving DecidableEq, Repr

/-- `azaci.IPAddress`. -/
structure IPAddress where
  /-- Exposed ports. -/
  ports : List Port
  /-- `azaci.ContainerGroupIPAddressType`. -/
  type : String
  /-- DNS label, if any. -/
  dnsNameLabel : Option String
  deriving DecidableEq, Repr

/-- `azaci.ImageRegistryCredential`; user name and password are Go strings of any bytes. -/
structure ImageRegistryCredential where
  /-- Registry server. -/
  server : String
  /-- User name. -/
  username : Bytes
  /-- Password. -/
  password : Bytes
  deriving DecidableEq, Repr

/-- `azaci.LogAnalytics`, with the fields `getDiagnostics` reads. -/
structure LogAnalytics where
  /-- `LogType`. -/
  logType : String
  /-- Address of the `Metadata` map, or `nil`. -/
  metadata : Option Nat
  deriving DecidableEq, Repr

/-- `azaci.LogAnalyticsLogTypeContainerInsights`. -/
def logAnalyticsLogTypeContainerInsights : String := "ContainerInsights"

/-- `azaci.ContainerGroupDiagnostics`; its `LogAnalytics` is a pointer, here an address. -/
structure ContainerGroupDiagnostics where
  /-- Address of the `LogAnalytics` workspace settings, or `nil`. -/
  logAnalytics : Option Nat
  deriving DecidableEq, Repr

/-- `azaci.ContainerGroupNetworkProtocolTCP`. -/
def containerGroupNetworkProtocolTCP : String := "TCP"

/-- `azaci.ContainerGroupIPAddressTypePublic`. -/
def containerGroupIPAddressTypePublic : String := "Public"

end Aci

/-- The client's `ContainerGroupWrapper`, with `ContainerGroupProperties` flattened. `Tags` hold
the values the wrapper's pointers point to. -/
structure ContainerGroupWrapper where
  /-- `cg.Location`. -/
  location : String
  /-- `RestartPolicy`. -/
  restartPolicy : String
  /-- `OsType`. -/
  osType : String
  /-- `Containers`. -/
  containers : List Aci.Container
  /-- `InitContainers`. -/
  initContainers : List Aci.InitContainerDefinition
  /-- `Volumes`. -/
  volumes : List Aci.Volume
  /-- `ImageRegistryCredentials`. -/
  imageRegistryCredentials : List Aci.ImageRegistryCredential
  /-- `Diagnostics`. -/
  diagnostics : Option Aci.ContainerGroupDiagnostics
  /-- `IPAddress`. -/
  ipAddress : Option Aci.IPAddress
  /-- `cg.Tags`. -/
  tags : List (String × String)
  deriving DecidableEq, Repr

end AzureAci
