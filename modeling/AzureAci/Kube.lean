import Mathlib.Data.Rat.Floor
import AzureAci.Go

/-!
# Kubernetes API objects

The fields of the `k8s.io/api/core/v1` objects the provider reads. A Go map is an association
list read by its first binding, and a slice or map that Go can leave `nil` is an `Option`: the
provider checks `initContainer.Ports != nil` and `Resources.Limits != nil`, so an empty slice and
a missing one differ. A `resource.Quantity` is the exact rational it denotes; its `int64`
readings wrap past `2 ^ 63`.
-/

namespace AzureAci
namespace V1

/-- A `resource.Quantity`, read as the exact rational it denotes. -/
structure Quantity where
  /-- The denoted amount. -/
  amount : ℚ
  deriving DecidableEq, Repr

namespace Quantity

/-- The zero quantity that `ResourceList.Cpu()` returns for a missing entry. -/
def zero : Quantity := ⟨0⟩

/-- `q.MilliValue()`: the amount in thousandths, rounded up, returned as an `int64`, which keeps
the low 64 bits of the exact value. -/
def milliValue (q : Quantity) : Int := toInt64 ⌈q.amount * 1000⌉

/-- `q.Value()`: the amount rounded up to an integer, returned as an `int64`. -/
def value (q : Quantity) : Int := toInt64 ⌈q.amount⌉

end Quantity

/-- `v1.ResourceList`: a resource name to its quantity. -/
abbrev ResourceList := List (String × Quantity)

/-- `v1.ResourceCPU`. -/
def resourceCPU : String := "cpu"

/-- `v1.ResourceMemory`. -/
def resourceMemory : String := "memory"

/-- `ResourceList.Cpu()`: the CPU entry, or zero. -/
def ResourceList.cpu (list : ResourceList) : Quantity := (list.lookup resourceCPU).getD .zero

/-- `ResourceList.Memory()`: the memory entry, or zero. -/
def ResourceList.memory (list : ResourceList) : Quantity :=
  (list.lookup resourceMemory).getD .zero

/-- `v1.ResourceRequirements`; either map may be `nil`. -/
structure ResourceRequirements where
  /-- Requested amounts. -/
  requests : Option ResourceList
  /-- Limits. -/
  limits : Option ResourceList
  deriving DecidableEq, Repr

/-- `v1.ContainerPort`. -/
structure ContainerPort where
  /-- The port's name, for probes that name it. -/
  name : String
  /-- The `int32` port number. -/
  containerPort : Int
  /-- `v1.Protocol`. -/
  protocol : String
  deriving DecidableEq, Repr

/-- `v1.VolumeMount`. -/
structure VolumeMount where
  /-- The volume the mount names. -/
  name : String
  /-- Where it is mounted. -/
  mountPath : String
  /-- Whether it is mounted read-only. -/
  readOnly : Bool
  deriving DecidableEq, Repr

/-- `v1.SecretKeySelector`; the provider only checks that one is present. -/
structure SecretKeySelector where
  deriving DecidableEq, Repr

/-- `v1.EnvVarSource`, with the one source the provider looks at. -/
structure EnvVarSource where
  /-- A reference to a key of a secret. -/
  secretKeyRef : Option SecretKeySelector
  deriving DecidableEq, Repr

/-- `v1.EnvVar`. -/
structure EnvVar where
  /-- Variable name. -/
  name : String
  /-- Literal value. -/
  value : String
  /-- Where the value comes from, if not literal. -/
  valueFrom : Option EnvVarSource
  deriving DecidableEq, Repr

/-- `intstr.IntOrString`, by its `Type`. -/
inductive IntOrString where
  /-- `intstr.Int`. -/
  | int (value : Int)
  /-- `intstr.String`. -/
  | string (value : String)
  deriving DecidableEq, Repr

/-- `v1.ExecAction`. -/
structure ExecAction where
  /-- Command line. -/
  command : List String
  deriving DecidableEq, Repr

/-- `v1.HTTPGetAction`. -/
structure HTTPGetAction where
  /-- Request path. -/
  path : String
  /-- Port number or port name. -/
  port : IntOrString
  /-- `v1.URIScheme`. -/
  scheme : String
  deriving DecidableEq, Repr

/-- `v1.Handler`, with the two handlers the provider translates. -/
structure Handler where
  /-- Exec handler. -/
  exec : Option ExecAction
  /-- HTTP GET handler. -/
  httpGet : Option HTTPGetAction
  deriving DecidableEq, Repr

/-- `v1.Probe`; the counts are `int32`. -/
structure Probe where
  /-- The action the probe takes. -/
  handler : Handler
  /-- Seconds before the first probe. -/
  initialDelaySeconds : Int
  /-- Seconds before a probe times out. -/
  timeoutSeconds : Int
  /-- Seconds between probes. -/
  periodSeconds : Int
  /-- Successes that count as success. -/
  successThreshold : Int
  /-- Failures that count as failure. -/
  failureThreshold : Int
  deriving DecidableEq, Repr

/-- `v1.Container`. -/
structure Container where
  /-- Container name. -/
  name : String
  /-- Image reference. -/
  image : String
  /-- Entrypoint. -/
  command : List String
  /-- Arguments to the entrypoint. -/
  args : List String
  /-- Declared ports; `none` is a `nil` slice. -/
  ports : Option (List ContainerPort)
  /-- Volume mounts. -/
  volumeMounts : List VolumeMount
  /-- Environment variables. -/
  env : List EnvVar
  /-- Requests and limits. -/
  resources : ResourceRequirements
  /-- Liveness probe. -/
  livenessProbe : Option Probe
  /-- Readiness probe. -/
  readinessProbe : Option Probe
  deriving DecidableEq, Repr

/-- The declared ports as `range` visits them: a `nil` slice has none. -/
def Container.portList (container : Container) : List ContainerPort :=
  container.ports.getD []

/-- `v1.LocalObjectReference`. -/
structure LocalObjectReference where
  /-- Name of the referenced object. -/
  name : String
  deriving DecidableEq, Repr

/-- `v1.PodSpec`. -/
structure PodSpec where
  /-- Application containers. -/
  containers : List Container
  /-- Init containers. -/
  initContainers : List Container
  /-- Image pull secrets, by name. -/
  imagePullSecrets : List LocalObjectReference
  /-- `v1.RestartPolicy`. -/
  restartPolicy : String
  /-- The node the pod is bound to. -/
  nodeName : String
  deriving DecidableEq, Repr

/-- `v1.Pod`; the `ObjectMeta` fields are flattened, as Go's embedding reads them. -/
structure Pod where
  /-- `pod.Name`. -/
  name : String
  /-- `pod.Namespace`. -/
  «namespace» : String
  /-- `pod.UID`. -/
  uid : String
  /-- `pod.ClusterName`. -/
  clusterName : String
  /-- `pod.CreationTimestamp.String()`. -/
  creationTimestamp : String
  /-- `pod.Annotations`. -/
  annotations : List (String × String)
  /-- `pod.Spec`. -/
  spec : PodSpec
  deriving DecidableEq, Repr

/-- `pod.Annotations[key]`: the empty string for a missing key. -/
def Pod.annotation (pod : Pod) (key : String) : String := (pod.annotations.lookup key).getD ""

/-- `v1.Secret`. -/
structure Secret where
  /-- `v1.SecretType`. -/
  type : String
  /-- `secret.Data`. -/
  data : List (String × Bytes)
  deriving DecidableEq, Repr

/-- `v1.SecretTypeDockercfg`. -/
def secretTypeDockercfg : String := "kubernetes.io/dockercfg"

/-- `v1.SecretTypeDockerConfigJson`. -/
def secretTypeDockerConfigJson : String := "kubernetes.io/dockerconfigjson"

/-- `v1.DockerConfigKey`. -/
def dockerConfigKey : String := ".dockercfg"

/-- `v1.DockerConfigJsonKey`. -/
def dockerConfigJsonKey : String := ".dockerconfigjson"

/-- A `metav1.Time`, in seconds. -/
abbrev Time := Int

/-- `v1.ContainerStateWaiting`. -/
structure ContainerStateWaiting where
  /-- Why the container waits. -/
  reason : String
  /-- Detail. -/
  message : String
  deriving DecidableEq, Repr

/-- `v1.ContainerStateRunning`. -/
structure ContainerStateRunning where
  /-- When the container started. -/
  startedAt : Time
  deriving DecidableEq, Repr

/-- `v1.ContainerStateTerminated`. -/
structure ContainerStateTerminated where
  /-- The `int32` exit code. -/
  exitCode : Int
  /-- Why the container ended. -/
  reason : String
  /-- Detail. -/
  message : String
  /-- When it started. -/
  startedAt : Time
  /-- When it ended. -/
  finishedAt : Time
  /-- The container runtime's id. -/
  containerID : String
  deriving DecidableEq, Repr

/-- `v1.ContainerState`: Go sets at most one of the three in a well-formed status. -/
structure ContainerState where
  /-- Waiting details. -/
  waiting : Option ContainerStateWaiting
  /-- Running details. -/
  running : Option ContainerStateRunning
  /-- Termination details. -/
  terminated : Option ContainerStateTerminated
  deriving DecidableEq, Repr

/-- `v1.ContainerStatus`. -/
structure ContainerStatus where
  /-- Container name. -/
  name : String
  /-- Current state. -/
  state : ContainerState
  /-- The container runtime's id. -/
  containerID : String
  deriving DecidableEq, Repr

/-- `v1.PodStatus`, with the container statuses the provider rewrites. -/
structure PodStatus where
  /-- `v1.PodPhase`. -/
  phase : String
  /-- One status per container. -/
  containerStatuses : List ContainerStatus
  deriving DecidableEq, Repr

end V1
end AzureAci
