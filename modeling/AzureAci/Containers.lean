import AzureAci.Provider

/-!
# Translating pod containers

`getContainers` and `getInitContainers` with the helpers they call. `getContainers` builds each
container inline, appending ports, mounts and variables to the fields of the container it is
building; `getInitContainers` calls `getCommand`, `getVolumeMounts` and
`getEnvironmentVariables`. Requests are quantised as the code does it: a Go integer division,
then a float division read as the exact rational.
-/

namespace AzureAci

open V1

/-- `gpuResourceName`. -/
def gpuResourceName : String := "nvidia.com/gpu"

/-- `gpuTypeAnnotation`. -/
def gpuTypeAnnotation : String := "virtual-kubelet.io/gpu-type"

/-- The message of `verifyContainer`, which `getContainers` repeats inline. -/
def argsWithoutCommandMessage : String :=
  "ACI does not support providing args without specifying the command. " ++
    "Please supply both command and args to the pod spec."

/-- `verifyContainer`. -/
def verifyContainer (container : Container) : Except GoError Unit :=
  failIf (container.command.length = 0 ∧ 0 < container.args.length)
    (invalidInput argsWithoutCommandMessage)

/-- `getCommand`. -/
def getCommand (container : Container) : List String := container.command ++ container.args

/-- `getACIEnvVar`: a variable read from a secret becomes a secure value. -/
def getACIEnvVar (e : EnvVar) : Aci.EnvironmentVariable :=
  match e.valueFrom with
  | some { secretKeyRef := some _ } =>
      { name := e.name, value := none, secureValue := some e.value }
  | _ => { name := e.name, value := some e.value, secureValue := none }

/-- `getVolumeMounts`. -/
def getVolumeMounts (container : Container) : List Aci.VolumeMount :=
  container.volumeMounts.foldl
    (fun volumeMounts mount =>
      volumeMounts ++
        [{ name := mount.name, mountPath := mount.mountPath, readOnly := mount.readOnly }])
    []

/-- `getEnvironmentVariables`: variables with an empty value are dropped. -/
def getEnvironmentVariables (container : Container) : List Aci.EnvironmentVariable :=
  container.env.foldl
    (fun environmentVariable e =>
      if e.value ≠ "" then environmentVariable ++ [getACIEnvVar e] else environmentVariable)
    []

/-- One of the checks of `getInitContainers`: a field that is set is refused. -/
def refuseInitContainerField (isSet : Bool) (field : String) : Except GoError Unit :=
  failIf isSet (invalidInput ("azure container instances initContainers do not support " ++ field))

/-- The body of the loop of `getInitContainers`, for one init container. -/
def getInitContainer (initContainer : Container) : Except GoError Aci.InitContainerDefinition := do
  verifyContainer initContainer
  refuseInitContainerField initContainer.ports.isSome "ports"
  refuseInitContainerField initContainer.resources.requests.isSome "resources requests"
  refuseInitContainerField initContainer.resources.limits.isSome "resources limits"
  refuseInitContainerField initContainer.livenessProbe.isSome "livenessProbe"
  refuseInitContainerField initContainer.readinessProbe.isSome "readinessProbe"
  pure
    { name := initContainer.name
      image := initContainer.image
      command := getCommand initContainer
      volumeMounts := getVolumeMounts initContainer
      environmentVariables := getEnvironmentVariables initContainer }

/-- `getInitContainers`. -/
def getInitContainers (pod : Pod) : Except GoError (List Aci.InitContainerDefinition) :=
  appendEach getInitContainer [] pod.spec.initContainers

/-- How `%s` prints a Go slice of strings. -/
def goSliceString (items : List String) : String := "[" ++ " ".intercalate items ++ "]"

/-- `getGPUSKU`. The last message passes the region and the SKU list in swapped order, as the
code does. -/
def getGPUSKU (equalFold : String → String → Bool) (p : ACIProvider) (pod : Pod) :
    Except GoError String :=
  match p.gpuSKUs with
  | [] => .error (newError
      ("the pod requires GPU resource, but ACI doesn\x27t provide GPU enabled container group " ++
        "in region " ++ p.region))
  | first :: _ =>
      match pod.annotations.lookup gpuTypeAnnotation with
      | none => .ok first
      | some desiredSKU =>
          match p.gpuSKUs.find? (fun supportedSKU => equalFold desiredSKU supportedSKU) with
          | some supportedSKU => .ok supportedSKU
          | none => .error (newError ("the pod requires GPU SKU " ++ desiredSKU ++
              ", but ACI only supports SKUs " ++ p.region ++ " in region " ++
              goSliceString p.gpuSKUs))

/-- The named-port search of `getProbe`: the first declared port of that name, else `0`. -/
def namedPortValue (ports : List ContainerPort) (portName : String) : Int :=
  ((ports.find? (fun port => portName == port.name)).map (·.containerPort)).getD 0

/-- The HTTP GET part of `getProbe`. `int32(port.IntValue())` gives back the `int32` value. -/
def getHTTPGet (get : HTTPGetAction) (ports : List ContainerPort) :
    Except GoError Aci.ContainerHTTPGet := do
  let portValue ← (match get.port with
    | .int value => pure value
    | .string portName =>
        let portValue := namedPortValue ports portName
        if portValue = 0 then .error (newError ("unable to find named port: " ++ portName))
        else pure portValue : Except GoError Int)
  pure { port := portValue, path := get.path, scheme := get.scheme }

/-- `getProbe`. -/
def getProbe (probe : Probe) (ports : List ContainerPort) : Except GoError Aci.ContainerProbe := do
  failIf (probe.handler.exec.isSome ∧ probe.handler.httpGet.isSome)
    (newError "probe may not specify more than one of \"exec\" and \"httpGet\"")
  failIf (probe.handler.exec.isNone ∧ probe.handler.httpGet.isNone)
    (newError "probe must specify one of \"exec\" and \"httpGet\"")
  let exec := probe.handler.exec.map fun exec => ({ command := exec.command } : Aci.ContainerExec)
  let httpGet ← (match probe.handler.httpGet with
    | none => pure none
    | some get => some <$> getHTTPGet get ports : Except GoError (Option Aci.ContainerHTTPGet))
  pure
    { exec, httpGet
      initialDelaySeconds := probe.initialDelaySeconds
      failureThreshold := probe.failureThreshold
      successThreshold := probe.successThreshold
      timeoutSeconds := probe.timeoutSeconds
      periodSeconds := probe.periodSeconds }

/-- The probe statements of `getContainers`: a declared probe is translated. -/
def getContainerProbe (probe : Option Probe) (ports : List ContainerPort) :
    Except GoError (Option Aci.ContainerProbe) :=
  match probe with
  | none => .ok none
  | some probe => some <$> getProbe probe ports

/-- The request statements of `getContainers`, for CPU and memory alike: `read` of the requested
quantity, Go-divided by `divisor`, divided by `scale`, and raised to `minimum`; `default` when
nothing is requested. -/
def quantizedRequest (requests : ResourceList) (name : String) (read : Quantity → Int)
    (divisor : Int) (scale minimum default : ℚ) : ℚ :=
  match requests.lookup name with
  | some quantity =>
      let request : ℚ := ((read quantity).tdiv divisor : ℚ) / scale
      if request < minimum then minimum else request
  | none => default

/-- `cpuRequest`: hundredths of a core, at least `0.01`, one core by default. -/
def cpuRequest (requests : ResourceList) : ℚ :=
  quantizedRequest requests resourceCPU Quantity.milliValue 10 100 (1 / 100) 1

/-- `memoryRequest`: tenths of a GB, at least `0.1`, `1.5` by default. -/
def memoryRequest (requests : ResourceList) : ℚ :=
  quantizedRequest requests resourceMemory Quantity.value 100000000 10 (1 / 10) (3 / 2)

/-- `cpuLimit`: the limit in cores, unquantised; the request when no CPU limit is declared. -/
def cpuLimit (limits : ResourceList) (cpuRequest : ℚ) : ℚ :=
  match limits.lookup resourceCPU with
  | some quantity => (quantity.milliValue : ℚ) / 1000
  | none => cpuRequest

/-- `memoryLimit`: tenths of a GB, rounded down; the request when no memory limit is declared. -/
def memoryLimit (limits : ResourceList) (memoryRequest : ℚ) : ℚ :=
  match limits.lookup resourceMemory with
  | some quantity => ((quantity.value.tdiv 100000000 : Int) : ℚ) / 10
  | none => memoryRequest

/-- The resource statements of `getContainers`, from the requests to the GPU. -/
def getResources (equalFold : String → String → Bool) (p : ACIProvider) (pod : Pod)
    (resources : ResourceRequirements) : Except GoError Aci.ResourceRequirements := do
  let requests := resources.requests.getD []
  let cpuRequest := cpuRequest requests
  let memoryRequest := memoryRequest requests
  match resources.limits with
  | none => pure { requests := ⟨memoryRequest, cpuRequest, none⟩, limits := none }
  | some limits =>
      let cpuLimit := cpuLimit limits cpuRequest
      let memoryLimit := memoryLimit limits memoryRequest
      match limits.lookup gpuResourceName with
      | none =>
          pure { requests := ⟨memoryRequest, cpuRequest, none⟩
                 limits := some ⟨memoryLimit, cpuLimit, none⟩ }
      | some gpu => do
          let sku ← getGPUSKU equalFold p pod
          failIf (gpu.value = 0) (newError "GPU must be a integer number")
          let gpuResource : Aci.GpuResource := { count := toInt32 gpu.value, sku }
          pure { requests := ⟨memoryRequest, cpuRequest, some gpuResource⟩
                 limits := some ⟨memoryLimit, cpuLimit, some gpuResource⟩ }

/-- The statements of `getContainers` before the resources: the args check, then the ports,
mounts and variables appended one by one to the container being built. -/
def translateContainer (getProtocol : String → String) (container : Container) :
    Except GoError Aci.Container := do
  failIf (container.command.length = 0 ∧ 0 < container.args.length)
    (invalidInput argsWithoutCommandMessage)
  let aciContainer : Aci.Container :=
    { name := container.name, image := container.image
      command := container.command ++ container.args
      ports := [], environmentVariables := [], resources := none, volumeMounts := []
      livenessProbe := none, readinessProbe := none }
  let aciContainer := container.portList.foldl
    (fun aciContainer port => { aciContainer with
      ports := aciContainer.ports ++
        [{ port := port.containerPort, protocol := getProtocol port.protocol }] })
    aciContainer
  let aciContainer := container.volumeMounts.foldl
    (fun aciContainer mount => { aciContainer with
      volumeMounts := aciContainer.volumeMounts ++
        [{ name := mount.name, mountPath := mount.mountPath, readOnly := mount.readOnly }] })
    aciContainer
  pure <| container.env.foldl
    (fun aciContainer e =>
      if e.value ≠ "" then
        { aciContainer with
          environmentVariables := aciContainer.environmentVariables ++ [getACIEnvVar e] }
      else aciContainer)
    aciContainer

/-- The body of the loop of `getContainers`, for one pod container. -/
def getContainer (equalFold : String → String → Bool) (getProtocol : String → String)
    (p : ACIProvider) (pod : Pod) (container : Container) : Except GoError Aci.Container := do
  let aciContainer ← translateContainer getProtocol container
  let resources ← getResources equalFold p pod container.resources
  let livenessProbe ← getContainerProbe container.livenessProbe container.portList
  let readinessProbe ← getContainerProbe container.readinessProbe container.portList
  pure { aciContainer with resources := some resources, livenessProbe, readinessProbe }

/-- `getContainers`. -/
def getContainers (equalFold : String → String → Bool) (getProtocol : String → String)
    (p : ACIProvider) (pod : Pod) : Except GoError (List Aci.Container) :=
  appendEach (getContainer equalFold getProtocol p pod) [] pod.spec.containers

namespace V1.Quantity

theorem toInt64_ceil_bounds {x y : ℚ} (nonneg : 0 ≤ x) (le : x ≤ y)
    (fits : ⌈y⌉ < 9223372036854775808) : 0 ≤ toInt64 ⌈x⌉ ∧ toInt64 ⌈x⌉ ≤ toInt64 ⌈y⌉ := by
  have lower : 0 ≤ ⌈x⌉ := Int.ceil_nonneg nonneg
  have upper : ⌈x⌉ ≤ ⌈y⌉ := Int.ceil_mono le
  rw [toInt64_of_lt (by omega) (by omega), toInt64_of_lt (by omega) fits]
  exact ⟨lower, upper⟩

theorem milliValue_bounds {q q' : Quantity} (nonneg : 0 ≤ q.amount) (le : q.amount ≤ q'.amount)
    (fits : ⌈q'.amount * 1000⌉ < 9223372036854775808) :
    0 ≤ q.milliValue ∧ q.milliValue ≤ q'.milliValue :=
  toInt64_ceil_bounds (by positivity) (by linarith) fits

theorem value_bounds {q q' : Quantity} (nonneg : 0 ≤ q.amount) (le : q.amount ≤ q'.amount)
    (fits : ⌈q'.amount⌉ < 9223372036854775808) : 0 ≤ q.value ∧ q.value ≤ q'.value :=
  toInt64_ceil_bounds nonneg le fits

end V1.Quantity

section Resources

variable (equalFold : String → String → Bool) (p : ACIProvider) (pod : Pod)

theorem getResources_eq_ok {resources : ResourceRequirements} {out : Aci.ResourceRequirements}
    (run : getResources equalFold p pod resources = .ok out) :
    let requests := resources.requests.getD []
    (resources.limits = none ∧
      out = { requests := ⟨memoryRequest requests, cpuRequest requests, none⟩, limits := none }) ∨
    (∃ limits, resources.limits = some limits ∧ limits.lookup gpuResourceName = none ∧
      out = { requests := ⟨memoryRequest requests, cpuRequest requests, none⟩
              limits := some ⟨memoryLimit limits (memoryRequest requests),
                cpuLimit limits (cpuRequest requests), none⟩ }) ∨
    (∃ limits gpu sku, resources.limits = some limits ∧ limits.lookup gpuResourceName = some gpu ∧
      getGPUSKU equalFold p pod = .ok sku ∧ gpu.value ≠ 0 ∧
      out = { requests :=
                ⟨memoryRequest requests, cpuRequest requests, some ⟨toInt32 gpu.value, sku⟩⟩
              limits := some ⟨memoryLimit limits (memoryRequest requests),
                cpuLimit limits (cpuRequest requests), some ⟨toInt32 gpu.value, sku⟩⟩ }) := by
  unfold getResources at run
  split at run
  · exact .inl ⟨‹_›, by simpa [pure, Except.pure] using run.symm⟩
  · rename_i limits limitsSet
    split at run
    · exact .inr (.inl ⟨limits, limitsSet, ‹_›, by simpa [pure, Except.pure] using run.symm⟩)
    · rename_i gpu gpuSet
      simp only [bind_eq_ok, failIf_eq_ok] at run
      obtain ⟨sku, skuOk, _, nonzero, built⟩ := run
      exact .inr (.inr ⟨limits, gpu, sku, limitsSet, gpuSet, skuOk, nonzero,
        by simpa [pure, Except.pure] using built.symm⟩)

/-- With a request no greater than the limit, the CPU limit covers the CPU request exactly when
the declared CPU limit is at least 10m, the request's floor. -/
theorem cpuRequest_le_cpuLimit_iff {requests limits : ResourceList}
    (covered : ∀ limit, limits.lookup resourceCPU = some limit →
      ∃ request, requests.lookup resourceCPU = some request ∧ request.amount ≤ limit.amount)
    (nonneg : ∀ request, requests.lookup resourceCPU = some request → 0 ≤ request.amount)
    (fits : ∀ limit, limits.lookup resourceCPU = some limit →
      ⌈limit.amount * 1000⌉ < 9223372036854775808) :
    cpuRequest requests ≤ cpuLimit limits (cpuRequest requests) ↔
      ∀ limit, limits.lookup resourceCPU = some limit → 10 ≤ limit.milliValue := by
  cases declared : limits.lookup resourceCPU with
  | none => simp [cpuLimit, declared]
  | some limit =>
      obtain ⟨request, requested, bounded⟩ := covered limit declared
      obtain ⟨lower, upper⟩ :=
        Quantity.milliValue_bounds (nonneg request requested) bounded (fits limit declared)
      simp only [cpuRequest, quantizedRequest, cpuLimit, requested, declared,
        Int.tdiv_eq_ediv lower (by decide : (0 : Int) ≤ 10), Option.some.injEq, forall_eq']
      have scaled : ∀ n : Int,
          ((n : ℚ) / 100 ≤ (limit.milliValue : ℚ) / 1000 ↔ 10 * n ≤ limit.milliValue) := by
        intro n
        rw [div_le_div_iff₀ (by norm_num) (by norm_num)]
        norm_cast
        omega
      have floor : ((request.milliValue / 10 : Int) : ℚ) / 100 < 1 / 100 ↔
          request.milliValue / 10 < 1 := by
        rw [div_lt_div_iff_of_pos_right (by norm_num)]
        norm_cast
      split_ifs with small
      · rw [show (1 : ℚ) / 100 = ((1 : Int) : ℚ) / 100 by norm_num, scaled]
        omega
      · rw [scaled]
        rw [floor] at small
        omega

/-- With a request no greater than the limit, the memory limit covers the memory request exactly
when the declared memory limit is at least 1e8 bytes, the request's floor. -/
theorem memoryRequest_le_memoryLimit_iff {requests limits : ResourceList}
    (covered : ∀ limit, limits.lookup resourceMemory = some limit →
      ∃ request, requests.lookup resourceMemory = some request ∧ request.amount ≤ limit.amount)
    (nonneg : ∀ request, requests.lookup resourceMemory = some request → 0 ≤ request.amount)
    (fits : ∀ limit, limits.lookup resourceMemory = some limit →
      ⌈limit.amount⌉ < 9223372036854775808) :
    memoryRequest requests ≤ memoryLimit limits (memoryRequest requests) ↔
      ∀ limit, limits.lookup resourceMemory = some limit → 100000000 ≤ limit.value := by
  cases declared : limits.lookup resourceMemory with
  | none => simp [memoryLimit, declared]
  | some limit =>
      obtain ⟨request, requested, bounded⟩ := covered limit declared
      obtain ⟨lower, upper⟩ :=
        Quantity.value_bounds (nonneg request requested) bounded (fits limit declared)
      simp only [memoryRequest, quantizedRequest, memoryLimit, requested, declared,
        Int.tdiv_eq_ediv lower (by decide : (0 : Int) ≤ 100000000),
        Int.tdiv_eq_ediv (lower.trans upper) (by decide : (0 : Int) ≤ 100000000),
        Option.some.injEq, forall_eq']
      have scaled : ∀ m n : Int, ((m : ℚ) / 10 ≤ (n : ℚ) / 10 ↔ m ≤ n) := by
        intro m n
        rw [div_le_div_iff_of_pos_right (by norm_num)]
        norm_cast
      have floor : ((request.value / 100000000 : Int) : ℚ) / 10 < 1 / 10 ↔
          request.value / 100000000 < 1 := by
        rw [div_lt_div_iff_of_pos_right (by norm_num)]
        norm_cast
      split_ifs with small
      · rw [show (1 : ℚ) / 10 = ((1 : Int) : ℚ) / 10 by norm_num, scaled]
        omega
      · rw [scaled]
        rw [floor] at small
        omega

/-- A clamped request whose minimum and default are whole numbers `m` and `d ≥ m` of `1 / scale`
units is itself a whole number, at least `m`, of those units. -/
theorem quantizedRequest_units (requests : ResourceList) (name : String) (read : Quantity → Int)
    (divisor : Int) {scale minimum default : ℚ} {m d : Int} (positive : 0 < scale)
    (atMinimum : minimum = m / scale) (atDefault : default = d / scale) (defaultAbove : m ≤ d) :
    ∃ k : Int, m ≤ k ∧
      quantizedRequest requests name read divisor scale minimum default = k / scale := by
  unfold quantizedRequest
  split
  · rename_i quantity _
    dsimp only
    split_ifs with below
    · exact ⟨m, le_rfl, atMinimum⟩
    · rw [atMinimum, div_lt_div_iff_of_pos_right positive] at below
      exact ⟨_, by exact_mod_cast not_lt.mp below, rfl⟩
  · exact ⟨d, defaultAbove, atDefault⟩

theorem cpuRequest_hundredths (requests : ResourceList) :
    ∃ k : Int, 1 ≤ k ∧ cpuRequest requests = k / 100 :=
  quantizedRequest_units requests resourceCPU Quantity.milliValue 10 (by norm_num) (by norm_num)
    (by norm_num : (1 : ℚ) = ((100 : Int) : ℚ) / 100) (by norm_num)

theorem memoryRequest_tenths (requests : ResourceList) :
    ∃ k : Int, 1 ≤ k ∧ memoryRequest requests = k / 10 :=
  quantizedRequest_units requests resourceMemory Quantity.value 100000000 (by norm_num)
    (by norm_num) (by norm_num : (3 / 2 : ℚ) = ((15 : Int) : ℚ) / 10) (by norm_num)

theorem cpuLimit_thousandths (limits requests : ResourceList) :
    ∃ k : Int, cpuLimit limits (cpuRequest requests) = k / 1000 := by
  unfold cpuLimit
  split
  · exact ⟨_, rfl⟩
  · obtain ⟨k, -, request⟩ := cpuRequest_hundredths requests
    exact ⟨10 * k, by rw [request]; push_cast; ring⟩

theorem memoryLimit_tenths (limits requests : ResourceList) :
    ∃ k : Int, memoryLimit limits (memoryRequest requests) = k / 10 := by
  unfold memoryLimit
  split
  · exact ⟨_, rfl⟩
  · obtain ⟨k, -, request⟩ := memoryRequest_tenths requests
    exact ⟨k, request⟩

/-- The units of the resources `getContainers` sends: requests in positive whole hundredths of a
core and tenths of a GB, CPU limits in thousandths of a core, memory limits in tenths of a GB. -/
def InAciUnits (resources : Aci.ResourceRequirements) : Prop :=
  (∃ k : Int, 1 ≤ k ∧ resources.requests.cpu = k / 100) ∧
    (∃ k : Int, 1 ≤ k ∧ resources.requests.memoryInGB = k / 10) ∧
    ∀ limits, resources.limits = some limits →
      (∃ k : Int, limits.cpu = k / 1000) ∧ ∃ k : Int, limits.memoryInGB = k / 10

theorem getResources_inAciUnits {resources : ResourceRequirements}
    {out : Aci.ResourceRequirements} (run : getResources equalFold p pod resources = .ok out) :
    InAciUnits out := by
  have cpu := cpuRequest_hundredths (resources.requests.getD [])
  have memory := memoryRequest_tenths (resources.requests.getD [])
  rcases getResources_eq_ok equalFold p pod run with
    ⟨-, rfl⟩ | ⟨limits, -, -, rfl⟩ | ⟨limits, _, _, -, -, -, -, rfl⟩
  · exact ⟨cpu, memory, fun _ unset => by cases unset⟩
  all_goals
    refine ⟨cpu, memory, fun _ set => ?_⟩
    cases set
    exact ⟨cpuLimit_thousandths limits _, memoryLimit_tenths limits _⟩

end Resources

section Translation

variable (getProtocol : String → String) (container : Container)

theorem getVolumeMounts_eq :
    getVolumeMounts container = container.volumeMounts.map fun mount =>
      { name := mount.name, mountPath := mount.mountPath, readOnly := mount.readOnly } := by
  simp [getVolumeMounts, foldl_append_singleton]

private theorem foldl_append_filter {α β : Type} (keep : α → Prop) [DecidablePred keep] (f : α → β)
    (xs : List α) (init : List β) :
    xs.foldl (fun acc x => if keep x then acc ++ [f x] else acc) init =
      init ++ (xs.filter fun x => decide (keep x)).map f := by
  induction xs generalizing init with
  | nil => simp
  | cons x xs induction => by_cases kept : keep x <;> simp [kept, induction, List.filter_cons]

theorem getEnvironmentVariables_eq :
    getEnvironmentVariables container = (container.env.filter (·.value ≠ "")).map getACIEnvVar := by
  simp only [getEnvironmentVariables, foldl_append_filter, List.nil_append]

private theorem foldl_ports (f : ContainerPort → Aci.ContainerPort) (ports : List ContainerPort)
    (aci : Aci.Container) :
    ports.foldl (fun aci port => { aci with ports := aci.ports ++ [f port] }) aci =
      { aci with ports := aci.ports ++ ports.map f } := by
  induction ports generalizing aci with
  | nil => simp
  | cons port ports induction => simp [induction]

private theorem foldl_volumeMounts (f : VolumeMount → Aci.VolumeMount) (mounts : List VolumeMount)
    (aci : Aci.Container) :
    mounts.foldl (fun aci mount => { aci with volumeMounts := aci.volumeMounts ++ [f mount] }) aci =
      { aci with volumeMounts := aci.volumeMounts ++ mounts.map f } := by
  induction mounts generalizing aci with
  | nil => simp
  | cons mount mounts induction => simp [induction]

private theorem foldl_environmentVariables (env : List EnvVar) (aci : Aci.Container) :
    env.foldl (fun aci e => if e.value ≠ "" then
        { aci with environmentVariables := aci.environmentVariables ++ [getACIEnvVar e] }
      else aci) aci =
      { aci with environmentVariables :=
          aci.environmentVariables ++ (env.filter (·.value ≠ "")).map getACIEnvVar } := by
  induction env generalizing aci with
  | nil => simp
  | cons e env induction =>
      rw [List.foldl_cons, induction]
      by_cases empty : e.value = "" <;> simp [empty, List.filter_cons]

theorem translateContainer_eq_ok
    (accepted : ¬ (container.command.length = 0 ∧ 0 < container.args.length)) :
    translateContainer getProtocol container = .ok
      { name := container.name, image := container.image, command := getCommand container
        ports := container.portList.map fun port =>
          { port := port.containerPort, protocol := getProtocol port.protocol }
        environmentVariables := getEnvironmentVariables container, resources := none
        volumeMounts := getVolumeMounts container, livenessProbe := none
        readinessProbe := none } := by
  simp only [translateContainer, failIf, accepted, if_false, ok_bind, foldl_ports,
    foldl_volumeMounts, foldl_environmentVariables, getVolumeMounts_eq, getEnvironmentVariables_eq,
    getCommand]
  rfl

theorem translateContainer_eq_error
    (refused : container.command.length = 0 ∧ 0 < container.args.length) :
    translateContainer getProtocol container = .error (invalidInput argsWithoutCommandMessage) := by
  simp [translateContainer, failIf, refused]
end Translation

/-- `port` is the first of `ports` named `portName`: the one the search of `getProbe` stops at. -/
def FirstNamedPort (ports : List ContainerPort) (portName : String) (port : ContainerPort) : Prop :=
  ∃ before after, ports = before ++ port :: after ∧ port.name = portName ∧
    ∀ other ∈ before, other.name ≠ portName

theorem find?_eq_some_iff_firstNamedPort {ports : List ContainerPort} {portName : String}
    {port : ContainerPort} :
    ports.find? (fun port => portName == port.name) = some port ↔
      FirstNamedPort ports portName port := by
  induction ports with
  | nil => simp [FirstNamedPort, -IsEmpty.exists_iff]
  | cons head ports induction =>
      by_cases named : head.name = portName
      · have found : (portName == head.name) = true := beq_iff_eq.mpr named.symm
        simp only [List.find?_cons, found, Option.some.injEq]
        constructor
        · rintro rfl
          exact ⟨[], ports, rfl, named, nofun⟩
        · rintro ⟨_ | ⟨first, before⟩, after, split, own, earlier⟩
          · exact (List.cons.inj split).1
          · exact absurd ((List.cons.inj split).1 ▸ named) (earlier first (List.mem_cons_self _ _))
      · have skipped : (portName == head.name) = false := beq_eq_false_iff_ne.mpr (Ne.symm named)
        simp only [List.find?_cons, skipped, induction]
        constructor
        · rintro ⟨before, after, split, own, earlier⟩
          refine ⟨head :: before, after, by rw [split]; rfl, own, ?_⟩
          exact List.forall_mem_cons.mpr ⟨named, earlier⟩
        · rintro ⟨_ | ⟨first, before⟩, after, split, own, earlier⟩
          · exact absurd ((List.cons.inj split).1 ▸ own) named
          · obtain ⟨rfl, rest⟩ := List.cons.inj split
            exact ⟨before, after, rest, own,
              fun other member => earlier other (List.mem_cons_of_mem _ member)⟩

/-- The named-port search gives the first declared port of the name, and `0` when none has it. -/
theorem namedPortValue_ne_zero_iff {ports : List ContainerPort} {portName : String} :
    namedPortValue ports portName ≠ 0 ↔
      ∃ port, FirstNamedPort ports portName port ∧ port.containerPort ≠ 0 := by
  unfold namedPortValue
  cases found : ports.find? (fun port => portName == port.name) with
  | none =>
      simp only [Option.map_none', Option.getD_none, ne_eq, not_true_eq_false, false_iff]
      rintro ⟨port, first, -⟩
      rw [← find?_eq_some_iff_firstNamedPort, found] at first
      cases first
  | some port =>
      simp only [Option.map_some', Option.getD_some]
      constructor
      · exact fun nonzero => ⟨port, find?_eq_some_iff_firstNamedPort.mp found, nonzero⟩
      · rintro ⟨other, first, nonzero⟩
        rw [← find?_eq_some_iff_firstNamedPort, found] at first
        cases first
        exact nonzero

theorem namedPortValue_of_first {ports : List ContainerPort} {portName : String}
    {port : ContainerPort} (first : FirstNamedPort ports portName port) :
    namedPortValue ports portName = port.containerPort := by
  simp [namedPortValue, find?_eq_some_iff_firstNamedPort.mpr first]

theorem getHTTPGet_eq_ok {get : HTTPGetAction} {ports : List ContainerPort}
    {out : Aci.ContainerHTTPGet} :
    getHTTPGet get ports = .ok out ↔
      out.path = get.path ∧ out.scheme = get.scheme ∧
        ((∃ value, get.port = .int value ∧ out.port = value) ∨
          ∃ portName port, get.port = .string portName ∧ FirstNamedPort ports portName port ∧
            port.containerPort ≠ 0 ∧ out.port = port.containerPort) := by
  obtain ⟨path, port, scheme⟩ := get
  obtain ⟨outPath, outPort, outScheme⟩ := out
  cases port with
  | int value =>
      simp only [getHTTPGet, pure, Except.pure, ok_bind, Except.ok.injEq,
        Aci.ContainerHTTPGet.mk.injEq, IntOrString.int.injEq, exists_eq_left', reduceCtorEq,
        false_and, exists_false, or_false]
      tauto
  | string portName =>
      by_cases zero : namedPortValue ports portName = 0
      · simp only [getHTTPGet, zero, if_true, error_bind, reduceCtorEq, false_iff]
        rintro ⟨-, -, ⟨_, absurd, -⟩ | ⟨_, port, named, first, nonzero, -⟩⟩
        · cases absurd
        · cases named
          exact namedPortValue_ne_zero_iff.mpr ⟨port, first, nonzero⟩ zero
      · obtain ⟨port, first, nonzero⟩ := namedPortValue_ne_zero_iff.mp zero
        simp only [getHTTPGet, namedPortValue_of_first first, nonzero, if_false, pure, Except.pure,
          ok_bind, Except.ok.injEq, Aci.ContainerHTTPGet.mk.injEq, reduceCtorEq, false_and,
          exists_false, false_or, IntOrString.string.injEq, exists_eq_left, exists_eq_left']
        constructor
        · rintro ⟨rfl, rfl, rfl⟩
          exact ⟨rfl, rfl, portName, port, rfl, first, nonzero, rfl⟩
        · rintro ⟨rfl, rfl, _, other, rfl, otherFirst, -, rfl⟩
          rw [← find?_eq_some_iff_firstNamedPort] at first otherFirst
          rw [first] at otherFirst
          cases otherFirst
          exact ⟨rfl, rfl, rfl⟩

/-- The port of a translated HTTP GET: a numeric port as it is, a named one the number of the
first declared port of the name, which is not `0`. -/
theorem getHTTPGet_port {get : HTTPGetAction} {ports : List ContainerPort}
    {aciGet : Aci.ContainerHTTPGet} (ok : getHTTPGet get ports = .ok aciGet) :
    (∀ value, get.port = .int value → aciGet.port = value) ∧
      ∀ portName, get.port = .string portName → ∃ port, FirstNamedPort ports portName port ∧
        port.containerPort ≠ 0 ∧ aciGet.port = port.containerPort := by
  rcases (getHTTPGet_eq_ok.mp ok).2.2 with
    ⟨value, int, same⟩ | ⟨portName, port, string, first, nonzero, same⟩
  · refine ⟨fun _ set => ?_, fun _ set => (nomatch int.symm.trans set)⟩
    cases int.symm.trans set
    exact same
  · refine ⟨fun _ set => (nomatch string.symm.trans set), fun _ set => ?_⟩
    cases string.symm.trans set
    exact ⟨port, first, nonzero, same⟩

theorem getProbe_eq_ok {probe : Probe} {ports : List ContainerPort} {out : Aci.ContainerProbe} :
    getProbe probe ports = .ok out ↔
      probe.handler.exec.isSome ≠ probe.handler.httpGet.isSome ∧
        ∃ httpGet, (match probe.handler.httpGet with
            | none => httpGet = none
            | some get => ∃ aciGet, getHTTPGet get ports = .ok aciGet ∧ httpGet = some aciGet) ∧
          out = { exec := probe.handler.exec.map fun exec => { command := exec.command }, httpGet
                  initialDelaySeconds := probe.initialDelaySeconds
                  failureThreshold := probe.failureThreshold
                  successThreshold := probe.successThreshold
                  timeoutSeconds := probe.timeoutSeconds
                  periodSeconds := probe.periodSeconds } := by
  obtain ⟨⟨exec, httpGet⟩, _, _, _, _, _⟩ := probe
  cases exec <;> cases httpGet
  · simp [getProbe, failIf, -IsEmpty.exists_iff]
  · simp [getProbe, failIf, map_eq_ok, -IsEmpty.exists_iff]
    constructor
    · rintro ⟨aciGet, translated, rfl⟩
      exact ⟨_, ⟨aciGet, translated, rfl⟩, rfl⟩
    · rintro ⟨_, ⟨aciGet, translated, rfl⟩, rfl⟩
      exact ⟨aciGet, translated, rfl⟩
  · simp [getProbe, failIf, eq_comm, -IsEmpty.exists_iff]
  · simp [getProbe, failIf, -IsEmpty.exists_iff]

/-- `getProbe` succeeds exactly when the probe has one handler and, for an HTTP GET on a port
name, the first declared port of that name has a non-zero number; the probe it builds carries the
handler, with the port resolved, and every count over unchanged. -/
theorem getProbe_translates (probe : Probe) (ports : List ContainerPort) :
    ((∃ out, getProbe probe ports = .ok out) ↔
      probe.handler.exec.isSome ≠ probe.handler.httpGet.isSome ∧
        ∀ get portName, probe.handler.httpGet = some get → get.port = .string portName →
          ∃ port, FirstNamedPort ports portName port ∧ port.containerPort ≠ 0) ∧
    ∀ out, getProbe probe ports = .ok out →
      out.exec = probe.handler.exec.map (fun exec => { command := exec.command }) ∧
      (probe.handler.httpGet = none → out.httpGet = none) ∧
      (∀ get, probe.handler.httpGet = some get → ∃ aciGet, out.httpGet = some aciGet ∧
        aciGet.path = get.path ∧ aciGet.scheme = get.scheme ∧
        (∀ value, get.port = .int value → aciGet.port = value) ∧
        ∀ portName, get.port = .string portName →
          ∃ port, FirstNamedPort ports portName port ∧ aciGet.port = port.containerPort) ∧
      out.initialDelaySeconds = probe.initialDelaySeconds ∧
      out.failureThreshold = probe.failureThreshold ∧
      out.successThreshold = probe.successThreshold ∧
      out.timeoutSeconds = probe.timeoutSeconds ∧ out.periodSeconds = probe.periodSeconds := by
  refine ⟨⟨fun ⟨out, run⟩ => ?_, fun ⟨handlers, named⟩ => ?_⟩, fun out run => ?_⟩
  · obtain ⟨handlers, httpGet, translated, -⟩ := getProbe_eq_ok.mp run
    refine ⟨handlers, fun get portName set named => ?_⟩
    rw [set] at translated
    obtain ⟨aciGet, ok, -⟩ := translated
    obtain ⟨port, first, nonzero, -⟩ := (getHTTPGet_port ok).2 portName named
    exact ⟨port, first, nonzero⟩
  · cases set : probe.handler.httpGet with
    | none => exact ⟨_, getProbe_eq_ok.mpr ⟨handlers, none, by rw [set], rfl⟩⟩
    | some get =>
        have translated : ∃ aciGet, getHTTPGet get ports = .ok aciGet := by
          cases port : get.port with
          | int value =>
              exact ⟨⟨get.path, value, get.scheme⟩,
                getHTTPGet_eq_ok.mpr ⟨rfl, rfl, .inl ⟨value, port, rfl⟩⟩⟩
          | string portName =>
              obtain ⟨declared, first, nonzero⟩ := named get portName set port
              exact ⟨⟨get.path, declared.containerPort, get.scheme⟩,
                getHTTPGet_eq_ok.mpr
                  ⟨rfl, rfl, .inr ⟨portName, declared, port, first, nonzero, rfl⟩⟩⟩
        obtain ⟨aciGet, ok⟩ := translated
        exact ⟨_, getProbe_eq_ok.mpr
          ⟨handlers, some aciGet, by rw [set]; exact ⟨aciGet, ok, rfl⟩, rfl⟩⟩
  · obtain ⟨-, httpGet, translated, rfl⟩ := getProbe_eq_ok.mp run
    refine ⟨rfl, fun unset => ?_, fun get set => ?_, rfl, rfl, rfl, rfl, rfl⟩
    · rw [unset] at translated
      exact translated
    · rw [set] at translated
      obtain ⟨aciGet, ok, rfl⟩ := translated
      obtain ⟨path, scheme, -⟩ := getHTTPGet_eq_ok.mp ok
      obtain ⟨int, string⟩ := getHTTPGet_port ok
      refine ⟨aciGet, rfl, path, scheme, int, fun portName named => ?_⟩
      obtain ⟨port, first, -, same⟩ := string portName named
      exact ⟨port, first, same⟩

section Container

variable (equalFold : String → String → Bool) (getProtocol : String → String) (p : ACIProvider)
  (pod : Pod) (container : Container)

theorem getContainer_eq_ok {aci : Aci.Container}
    (run : getContainer equalFold getProtocol p pod container = .ok aci) :
    ¬ (container.command.length = 0 ∧ 0 < container.args.length) ∧
      ∃ resources livenessProbe readinessProbe,
        getResources equalFold p pod container.resources = .ok resources ∧
        getContainerProbe container.livenessProbe container.portList = .ok livenessProbe ∧
        getContainerProbe container.readinessProbe container.portList = .ok readinessProbe ∧
        aci = { name := container.name, image := container.image, command := getCommand container
                ports := container.portList.map fun port =>
                  { port := port.containerPort, protocol := getProtocol port.protocol }
                environmentVariables := getEnvironmentVariables container
                resources := some resources, volumeMounts := getVolumeMounts container
                livenessProbe, readinessProbe } := by
  by_cases refused : container.command.length = 0 ∧ 0 < container.args.length
  · simp [getContainer, translateContainer_eq_error _ _ refused] at run
  · simp only [getContainer, translateContainer_eq_ok _ _ refused, ok_bind, bind_eq_ok] at run
    obtain ⟨resources, resourcesOk, livenessProbe, livenessOk, readinessProbe, readinessOk,
      built⟩ := run
    exact ⟨refused, resources, livenessProbe, readinessProbe, resourcesOk, livenessOk, readinessOk,
      by simpa [pure, Except.pure] using built.symm⟩

theorem getACIEnvVar_eq (e : EnvVar) :
    getACIEnvVar e = if (e.valueFrom.bind (·.secretKeyRef)).isSome then
      { name := e.name, value := none, secureValue := some e.value }
    else { name := e.name, value := some e.value, secureValue := none } := by
  rcases e with ⟨_, _, _ | ⟨_ | _⟩⟩ <;> rfl

/-- The fields `getContainers` copies from a pod container into the ACI container it builds:
name, image, `Command ++ Args`, the declared port numbers, the mounts, and the variables with a
non-empty value, those read from a secret as secure values. -/
def TranslatedFrom (container : Container) (aci : Aci.Container) : Prop :=
  aci.name = container.name ∧ aci.image = container.image ∧
    aci.command = container.command ++ container.args ∧
    aci.ports.map (·.port) = container.portList.map (·.containerPort) ∧
    aci.volumeMounts = container.volumeMounts.map (fun mount =>
      { name := mount.name, mountPath := mount.mountPath, readOnly := mount.readOnly }) ∧
    aci.environmentVariables = (container.env.filter (·.value ≠ "")).map fun e =>
      if (e.valueFrom.bind (·.secretKeyRef)).isSome then
        { name := e.name, value := none, secureValue := some e.value }
      else { name := e.name, value := some e.value, secureValue := none }

theorem getContainer_translatedFrom {aci : Aci.Container}
    (run : getContainer equalFold getProtocol p pod container = .ok aci) :
    TranslatedFrom container aci := by
  obtain ⟨-, _, _, _, -, -, -, rfl⟩ := getContainer_eq_ok equalFold getProtocol p pod container run
  simp [TranslatedFrom, getCommand, getVolumeMounts_eq, getEnvironmentVariables_eq, getACIEnvVar_eq,
    Function.comp_def]

theorem getContainers_translatedFrom {acis : List Aci.Container}
    (run : getContainers equalFold getProtocol p pod = .ok acis) :
    List.Forall₂ TranslatedFrom pod.spec.containers acis := by
  obtain ⟨translations, translated, settled⟩ := (appendEach_eq_ok _ _ _ _).mp run
  rw [settled, List.nil_append]
  exact translated.imp fun container _ =>
    getContainer_translatedFrom equalFold getProtocol p pod container

/-! ## Requests against limits -/

/-- Every declared limit has a declared request no greater than it, as Kubernetes defaulting
and validation ensure for the pods that reach the provider. -/
def RequestsWithinLimits (resources : ResourceRequirements) : Prop :=
  ∀ limits, resources.limits = some limits → ∀ name limit, limits.lookup name = some limit →
    ∃ request, (resources.requests.getD []).lookup name = some request ∧
      request.amount ≤ limit.amount

/-- The declared CPU and memory quantities are non-negative. -/
def NonnegativeCpuMemory (resources : ResourceRequirements) : Prop :=
  ∀ name ∈ [resourceCPU, resourceMemory], ∀ quantity,
    ((resources.requests.getD []).lookup name = some quantity ∨
      (resources.limits.getD []).lookup name = some quantity) → 0 ≤ quantity.amount

/-- The declared CPU limit's `MilliValue` and memory limit's `Value` fit in an `int64`: below
`2 ^ 63` thousandths of a core and `2 ^ 63` bytes. -/
def LimitsFitInt64 (resources : ResourceRequirements) : Prop :=
  (∀ limit, (resources.limits.getD []).lookup resourceCPU = some limit →
    ⌈limit.amount * 1000⌉ < 9223372036854775808) ∧
  ∀ limit, (resources.limits.getD []).lookup resourceMemory = some limit →
    ⌈limit.amount⌉ < 9223372036854775808

/-- When a container declares limits, its CPU limit covers its CPU request exactly when no CPU
limit is declared or it is at least 10m, and its memory limit covers its memory request exactly
when no memory limit is declared or it is at least 1e8 bytes. -/
theorem getContainer_limits_cover_requests_iff {aci : Aci.Container} {limits : ResourceList}
    (covered : RequestsWithinLimits container.resources)
    (nonneg : NonnegativeCpuMemory container.resources)
    (fits : LimitsFitInt64 container.resources)
    (run : getContainer equalFold getProtocol p pod container = .ok aci)
    (limitsSet : container.resources.limits = some limits) :
    ∃ resources aciLimits, aci.resources = some resources ∧ resources.limits = some aciLimits ∧
      (resources.requests.cpu ≤ aciLimits.cpu ↔
        ∀ limit, limits.lookup resourceCPU = some limit → 10 ≤ limit.milliValue) ∧
      (resources.requests.memoryInGB ≤ aciLimits.memoryInGB ↔
        ∀ limit, limits.lookup resourceMemory = some limit → 100000000 ≤ limit.value) := by
  obtain ⟨-, resources, _, _, resourcesOk, -, -, rfl⟩ :=
    getContainer_eq_ok equalFold getProtocol p pod container run
  simp only [LimitsFitInt64, limitsSet, Option.getD_some] at fits
  have cpu := cpuRequest_le_cpuLimit_iff (covered limits limitsSet resourceCPU)
    (fun request found => nonneg resourceCPU (by simp) request (.inl found)) fits.1
  have memory := memoryRequest_le_memoryLimit_iff (covered limits limitsSet resourceMemory)
    (fun request found => nonneg resourceMemory (by simp) request (.inl found)) fits.2
  rcases getResources_eq_ok equalFold p pod resourcesOk with
    ⟨unset, -⟩ | ⟨limits', limitsSet', -, rfl⟩ | ⟨limits', _, _, limitsSet', -, -, -, rfl⟩
  · simp [limitsSet] at unset
  all_goals
    cases limitsSet.symm.trans limitsSet'
    exact ⟨_, _, rfl, rfl, cpu, memory⟩

/-- Every container `getContainers` returns carries resources in ACI's units: requests in
positive whole hundredths of a core and tenths of a GB, as the code's notes ask, memory limits in
tenths of a GB, and CPU limits in thousandths of a core, not rounded to hundredths. -/
theorem getContainers_inAciUnits {acis : List Aci.Container}
    (run : getContainers equalFold getProtocol p pod = .ok acis) :
    ∀ aci ∈ acis, ∃ resources, aci.resources = some resources ∧ InAciUnits resources := by
  intro aci member
  rcases appendEach_mem run aci member with none | ⟨container, -, made⟩
  · cases none
  · obtain ⟨-, resources, _, _, resourcesOk, -, -, rfl⟩ :=
      getContainer_eq_ok equalFold getProtocol p pod container made
    exact ⟨resources, rfl, getResources_inAciUnits equalFold p pod resourcesOk⟩

theorem getGPUSKU_eq_ok {sku : String} :
    getGPUSKU equalFold p pod = .ok sku ↔
      p.gpuSKUs ≠ [] ∧
        match pod.annotations.lookup gpuTypeAnnotation with
        | none => p.gpuSKUs.head? = some sku
        | some desiredSKU =>
            p.gpuSKUs.find? (fun supportedSKU => equalFold desiredSKU supportedSKU) = some sku := by
  unfold getGPUSKU
  split
  · rename_i empty
    simp [empty]
  · rename_i first rest listed
    simp only [listed, ne_eq, reduceCtorEq, not_false_eq_true, true_and]
    split
    · simp only [List.head?_cons, Except.ok.injEq, Option.some.injEq, eq_comm]
    · split <;> rename_i found <;>
        simp only [found, Except.ok.injEq, Option.some.injEq, reduceCtorEq]

theorem getResources_gpu {resources : ResourceRequirements} {out : Aci.ResourceRequirements}
    {limits : ResourceList} {gpu : Quantity}
    (run : getResources equalFold p pod resources = .ok out)
    (limitsSet : resources.limits = some limits)
    (gpuSet : limits.lookup gpuResourceName = some gpu) :
    ∃ sku, getGPUSKU equalFold p pod = .ok sku ∧ gpu.value ≠ 0 ∧
      out.requests.gpu = some ⟨toInt32 gpu.value, sku⟩ ∧
      ∃ aciLimits, out.limits = some aciLimits ∧ aciLimits.gpu = some ⟨toInt32 gpu.value, sku⟩ := by
  rcases getResources_eq_ok equalFold p pod run with
    ⟨unset, -⟩ | ⟨limits', limitsSet', unset, -⟩ |
      ⟨limits', gpu', sku, limitsSet', gpuSet', skuOk, nonzero, rfl⟩
  · simp [limitsSet] at unset
  · cases limitsSet.symm.trans limitsSet'
    simp [gpuSet] at unset
  · cases limitsSet.symm.trans limitsSet'
    cases gpuSet.symm.trans gpuSet'
    exact ⟨sku, skuOk, nonzero, rfl, _, rfl, rfl⟩

theorem getResources_fails_of_sku {resources : ResourceRequirements} {limits : ResourceList}
    {gpu : Quantity} (limitsSet : resources.limits = some limits)
    (gpuSet : limits.lookup gpuResourceName = some gpu)
    (unresolved : ∀ sku, getGPUSKU equalFold p pod ≠ .ok sku) (out : Aci.ResourceRequirements) :
    getResources equalFold p pod resources ≠ .ok out := fun run =>
  let ⟨sku, resolved, _⟩ := getResources_gpu equalFold p pod run limitsSet gpuSet
  unresolved sku resolved

theorem getResources_gpu_count {resources : ResourceRequirements} {out : Aci.ResourceRequirements}
    {limits : ResourceList} {gpu : Quantity}
    (run : getResources equalFold p pod resources = .ok out)
    (limitsSet : resources.limits = some limits)
    (gpuSet : limits.lookup gpuResourceName = some gpu)
    (positive : 0 < gpu.value) (small : gpu.value < 2 ^ 31) :
    out.requests.gpu.map (·.count) = some gpu.value := by
  obtain ⟨sku, -, -, requested, -⟩ := getResources_gpu equalFold p pod run limitsSet gpuSet
  simp [requested, toInt32_of_lt (by omega) small]

end Container

/-! ## Fixed inputs -/

/-- A pod with no annotations. -/
def samplePod : Pod :=
  { name := "app", «namespace» := "default", uid := "0", clusterName := "", creationTimestamp := ""
    annotations := []
    spec := { containers := [], initContainers := [], imagePullSecrets := []
              restartPolicy := "Always", nodeName := "vk" } }

/-- 5m of CPU and 2 GB of memory. -/
def tinyCpuResources : ResourceList := [(resourceCPU, ⟨5 / 1000⟩), (resourceMemory, ⟨2000000000⟩)]

/-- A container requesting and limited to `tinyCpuResources`. -/
def tinyCpuContainer : Container :=
  { name := "app", image := "nginx", command := [], args := [], ports := none, volumeMounts := []
    env := [], resources := { requests := some tinyCpuResources, limits := some tinyCpuResources }
    livenessProbe := none, readinessProbe := none }

/-- What `getContainers` makes of `tinyCpuContainer`. -/
def tinyCpuTranslation : Aci.Container :=
  { name := "app", image := "nginx", command := [], ports := [], environmentVariables := []
    volumeMounts := [], livenessProbe := none, readinessProbe := none
    resources := some { requests := ⟨2, 1 / 100, none⟩, limits := some ⟨2, 1 / 200, none⟩ } }

theorem getContainer_tinyCpuContainer :
    getContainer (· == ·) id sampleProvider samplePod tinyCpuContainer =
      .ok tinyCpuTranslation := by
  simp +decide [getContainer, translateContainer, failIf, tinyCpuContainer, Container.portList,
    getResources, cpuRequest, memoryRequest, quantizedRequest, cpuLimit, memoryLimit,
    tinyCpuResources, resourceCPU, resourceMemory, gpuResourceName, Quantity.milliValue,
    Quantity.value, List.lookup_cons, getContainerProbe, tinyCpuTranslation, toInt64]
  norm_num [show Int.tdiv 2000000000 100000000 = 20 by decide, show Int.tdiv 5 10 = 0 by decide]

theorem tinyCpuContainer_requestsWithinLimits :
    RequestsWithinLimits tinyCpuContainer.resources := by
  rintro limits ⟨⟩ name limit declared
  exact ⟨limit, declared, le_rfl⟩

theorem tinyCpuContainer_nonnegative : NonnegativeCpuMemory tinyCpuContainer.resources := by
  intro name member quantity found
  simp only [List.mem_cons, List.mem_singleton, List.not_mem_nil, or_false] at member
  rcases member with rfl | rfl <;>
    simp [tinyCpuContainer, tinyCpuResources, resourceCPU, resourceMemory, List.lookup_cons]
      at found <;>
    subst found <;> norm_num

theorem tinyCpuContainer_limitsFitInt64 : LimitsFitInt64 tinyCpuContainer.resources := by
  constructor <;> rintro limit ⟨⟩ <;> norm_num

/-- One core requested, and `2 ^ 64 + 500` thousandths of a core as the limit. -/
def hugeCpuResources : ResourceList := [(resourceCPU, ⟨18446744073709552116 / 1000⟩)]

/-- A container requesting one core and limited to `hugeCpuResources`. -/
def hugeCpuContainer : Container :=
  { tinyCpuContainer with
    resources := { requests := some [(resourceCPU, ⟨1⟩)], limits := some hugeCpuResources } }

theorem getContainer_hugeCpuContainer :
    getContainer (· == ·) id sampleProvider samplePod hugeCpuContainer = .ok
      { tinyCpuTranslation with
        resources := some
          { requests := ⟨3 / 2, 1, none⟩, limits := some ⟨3 / 2, 1 / 2, none⟩ } } := by
  simp +decide [getContainer, translateContainer, failIf, hugeCpuContainer, tinyCpuContainer,
    Container.portList, getResources, cpuRequest, memoryRequest, quantizedRequest, cpuLimit,
    memoryLimit, hugeCpuResources, resourceCPU, resourceMemory, gpuResourceName,
    Quantity.milliValue, List.lookup_cons, getContainerProbe, tinyCpuTranslation, toInt64]
  norm_num [show Int.bmod 1000 18446744073709551616 = 1000 by decide,
    show Int.bmod 18446744073709552116 18446744073709551616 = 500 by decide,
    show Int.tdiv 1000 10 = 100 by decide]

/-- A 5m request and a 5m limit: the request is raised to 0.01 cores, the limit stays 0.005. And
a limit of `2 ^ 64 + 500` thousandths of a core over a one-core request: its `MilliValue` wraps to
500, so the limit is sent as half a core. -/
theorem getContainer_cpu_limit_below_request :
    RequestsWithinLimits tinyCpuContainer.resources ∧
      NonnegativeCpuMemory tinyCpuContainer.resources ∧
      (∃ aci resources limits,
        getContainer (· == ·) id sampleProvider samplePod tinyCpuContainer = .ok aci ∧
          aci.resources = some resources ∧ resources.limits = some limits ∧
          limits.cpu < resources.requests.cpu) ∧
      RequestsWithinLimits hugeCpuContainer.resources ∧
      NonnegativeCpuMemory hugeCpuContainer.resources ∧
      (∀ limit, hugeCpuResources.lookup resourceCPU = some limit → limit.milliValue = 500) ∧
      ∃ aci resources limits,
        getContainer (· == ·) id sampleProvider samplePod hugeCpuContainer = .ok aci ∧
          aci.resources = some resources ∧ resources.limits = some limits ∧
          limits.cpu < resources.requests.cpu :=
  have hugeWithin : RequestsWithinLimits hugeCpuContainer.resources := by
    rintro limits ⟨⟩ name limit declared
    by_cases cpu : name = resourceCPU
    · subst cpu
      cases declared
      exact ⟨_, rfl, by norm_num⟩
    · have other : (name == resourceCPU) = false := by simpa using cpu
      simp [hugeCpuResources, List.lookup_cons, other] at declared
  have hugeNonneg : NonnegativeCpuMemory hugeCpuContainer.resources := by
    intro name member quantity found
    simp only [List.mem_cons, List.mem_singleton, List.not_mem_nil, or_false] at member
    rcases member with rfl | rfl <;>
      simp [hugeCpuContainer, hugeCpuResources, resourceCPU, resourceMemory, List.lookup_cons]
        at found
    rcases found with rfl | rfl <;> norm_num
  ⟨tinyCpuContainer_requestsWithinLimits, tinyCpuContainer_nonnegative,
    ⟨_, _, _, getContainer_tinyCpuContainer, rfl, rfl, by norm_num⟩, hugeWithin, hugeNonneg,
    by rintro limit ⟨⟩; norm_num [Quantity.milliValue, toInt64]; decide,
    ⟨_, _, _, getContainer_hugeCpuContainer, rfl, rfl, by norm_num⟩⟩

theorem tinyCpu_limits_cover_requests_iff :
    RequestsWithinLimits tinyCpuContainer.resources ∧
      NonnegativeCpuMemory tinyCpuContainer.resources ∧
      LimitsFitInt64 tinyCpuContainer.resources ∧
      getContainer (· == ·) id sampleProvider samplePod tinyCpuContainer = .ok tinyCpuTranslation ∧
      tinyCpuContainer.resources.limits = some tinyCpuResources ∧
      ∃ resources aciLimits, tinyCpuTranslation.resources = some resources ∧
        resources.limits = some aciLimits ∧
        (resources.requests.cpu ≤ aciLimits.cpu ↔
          ∀ limit, tinyCpuResources.lookup resourceCPU = some limit → 10 ≤ limit.milliValue) ∧
        (resources.requests.memoryInGB ≤ aciLimits.memoryInGB ↔
          ∀ limit, tinyCpuResources.lookup resourceMemory = some limit → 100000000 ≤ limit.value) :=
  ⟨tinyCpuContainer_requestsWithinLimits, tinyCpuContainer_nonnegative,
    tinyCpuContainer_limitsFitInt64, getContainer_tinyCpuContainer, rfl,
    getContainer_limits_cover_requests_iff _ _ _ _ _ tinyCpuContainer_requestsWithinLimits
      tinyCpuContainer_nonnegative tinyCpuContainer_limitsFitInt64 getContainer_tinyCpuContainer
      rfl⟩

/-- A container limited to `2 ^ 32` GPUs. -/
def gpuContainer : Container :=
  { name := "cuda", image := "cuda", command := [], args := [], ports := none, volumeMounts := []
    env := [], resources := { requests := none, limits := some [(gpuResourceName, ⟨4294967296⟩)] }
    livenessProbe := none, readinessProbe := none }

/-- `2 ^ 32` GPUs pass the zero check and become a count of `int32(2 ^ 32) = 0`. -/
theorem getContainer_gpu_count_wraps (equalFold : String → String → Bool)
    (getProtocol : String → String) :
    getContainer equalFold getProtocol sampleProvider samplePod gpuContainer = .ok
      { name := "cuda", image := "cuda", command := [], ports := [], environmentVariables := []
        volumeMounts := [], livenessProbe := none, readinessProbe := none
        resources := some
          { requests := ⟨3 / 2, 1, some ⟨0, "K80"⟩⟩
            limits := some ⟨3 / 2, 1, some ⟨0, "K80"⟩⟩ } } :=
  rfl

end AzureAci
