import AzureAci.Aci

/-!
# The Windows service-account filter

`filterWindowsServiceAccountSecretVolume`, which `CreatePod` applies to every group before
creating it. ACI has no secret volumes for Windows, so on a Windows provider the filter drops every
mount at the service-account path, and every volume that such a mount named. The Go map of the
names it collects is the list of the names in the order the loop meets them: the code only asks
whether it is empty and whether a name is in it. `strings.EqualFold` is the parameter `equalFold`.
-/

namespace AzureAci

/-- `serviceAccountSecretMountPath`. -/
def serviceAccountSecretMountPath : String := "/var/run/secrets/kubernetes.io/serviceaccount"

section Filter

variable (equalFold : String → String → Bool)

/-- One iteration of the loop over a container's mounts: a mount elsewhere is kept, a mount at the
service-account path is dropped and the name of its volume noted. -/
def filterVolumeMount (state : List Aci.VolumeMount × List String) (volumeMount : Aci.VolumeMount) :
    List Aci.VolumeMount × List String :=
  if !equalFold serviceAccountSecretMountPath volumeMount.mountPath then
    (state.1 ++ [volumeMount], state.2)
  else (state.1, state.2 ++ [volumeMount.name])

/-- One iteration of the loop over the containers: the container's mounts are filtered in place. -/
def filterContainerVolumeMounts (state : List Aci.Container × List String)
    (container : Aci.Container) : List Aci.Container × List String :=
  let (volumeMounts, names) :=
    container.volumeMounts.foldl (filterVolumeMount equalFold) ([], state.2)
  (state.1 ++ [{ container with volumeMounts }], names)

/-- `filterWindowsServiceAccountSecretVolume`. -/
def filterWindowsServiceAccountSecretVolume (osType : String) (cgw : ContainerGroupWrapper) :
    ContainerGroupWrapper :=
  if equalFold osType "Windows" then
    let (containers, serviceAccountSecretVolumeName) :=
      cgw.containers.foldl (filterContainerVolumeMounts equalFold) ([], [])
    let cgw := { cgw with containers }
    if serviceAccountSecretVolumeName.length = 0 then cgw
    else
      { cgw with
        volumes := cgw.volumes.filter (fun volume => volume.name ∉ serviceAccountSecretVolumeName) }
  else cgw

/-! ## What the filter removes -/

/-- Whether a mount is at the service-account path. -/
def isServiceAccountMount (volumeMount : Aci.VolumeMount) : Bool :=
  equalFold serviceAccountSecretMountPath volumeMount.mountPath

/-- A container without its mounts at the service-account path. -/
def withoutServiceAccountMounts (container : Aci.Container) : Aci.Container :=
  { container with
    volumeMounts := container.volumeMounts.filter (fun m => !isServiceAccountMount equalFold m) }

/-- The names of the volumes that some container mounts at the service-account path. -/
def serviceAccountVolumeNames (containers : List Aci.Container) : List String :=
  ((containers.flatMap Aci.Container.volumeMounts).filter (isServiceAccountMount equalFold)).map
    Aci.VolumeMount.name

theorem foldl_filterVolumeMount (mounts kept : List Aci.VolumeMount) (names : List String) :
    mounts.foldl (filterVolumeMount equalFold) (kept, names) =
      (kept ++ mounts.filter (fun m => !isServiceAccountMount equalFold m),
        names ++ ((mounts.filter (isServiceAccountMount equalFold)).map Aci.VolumeMount.name)) := by
  induction mounts generalizing kept names with
  | nil => simp
  | cons m mounts induction =>
      by_cases atPath : isServiceAccountMount equalFold m <;>
        simp_all [filterVolumeMount, isServiceAccountMount, List.filter_cons]

/-- The loop over the containers filters each container's mounts and notes the names of all the
service-account mounts. -/
theorem foldl_filterContainerVolumeMounts (containers done : List Aci.Container)
    (names : List String) :
    containers.foldl (filterContainerVolumeMounts equalFold) (done, names) =
      (done ++ containers.map (withoutServiceAccountMounts equalFold),
        names ++ serviceAccountVolumeNames equalFold containers) := by
  induction containers generalizing done names with
  | nil => simp [serviceAccountVolumeNames]
  | cons c containers induction =>
      simp [filterContainerVolumeMounts, foldl_filterVolumeMount, induction,
        withoutServiceAccountMounts, serviceAccountVolumeNames, List.filter_append]

/-- On a Windows provider the filter drops, in every container, exactly the mounts at the
service-account path, keeping the others in order, and drops exactly the volumes that some
container mounted there, also those that a kept mount still names. Any other OS type leaves
the group as it is. -/
theorem filterWindowsServiceAccountSecretVolume_eq (osType : String) (cgw : ContainerGroupWrapper) :
    filterWindowsServiceAccountSecretVolume equalFold osType cgw =
      if equalFold osType "Windows" then
        { cgw with
          containers := cgw.containers.map (withoutServiceAccountMounts equalFold)
          volumes := cgw.volumes.filter
            (fun volume => volume.name ∉ serviceAccountVolumeNames equalFold cgw.containers) }
      else cgw := by
  unfold filterWindowsServiceAccountSecretVolume
  split
  · simp only [foldl_filterContainerVolumeMounts, List.nil_append, List.length_eq_zero]
    split
    · rename_i noNames
      simp [noNames]
    · rfl
  · rfl

/-- On a Windows provider a kept mount still names a volume of the filtered group exactly when it
named one before and no container mounted that volume at the service-account path. -/
theorem filterWindows_keptMount_names_volume_iff (osType : String) (cgw : ContainerGroupWrapper)
    (windows : equalFold osType "Windows") (volumeMount : Aci.VolumeMount) :
    volumeMount.name ∈ (filterWindowsServiceAccountSecretVolume equalFold osType cgw).volumes.map
        Aci.Volume.name ↔
      volumeMount.name ∈ cgw.volumes.map Aci.Volume.name ∧
        volumeMount.name ∉ serviceAccountVolumeNames equalFold cgw.containers := by
  rw [filterWindowsServiceAccountSecretVolume_eq, if_pos windows]
  simp only [List.mem_map, List.mem_filter, decide_eq_true_eq]
  constructor
  · rintro ⟨volume, ⟨member, free⟩, named⟩
    exact ⟨⟨volume, member, named⟩, named ▸ free⟩
  · rintro ⟨⟨volume, member, named⟩, free⟩
    exact ⟨volume, ⟨member, named ▸ free⟩, named⟩

theorem filterWindows_ports (osType : String) (cgw : ContainerGroupWrapper) :
    (filterWindowsServiceAccountSecretVolume equalFold osType cgw).containers.map
        Aci.Container.ports = cgw.containers.map Aci.Container.ports := by
  rw [filterWindowsServiceAccountSecretVolume_eq]
  split <;> simp [Function.comp_def, withoutServiceAccountMounts]

end Filter

/-- A container that mounts its token volume both at the service-account path and at `/data`. -/
def sharedTokenContainer : Aci.Container :=
  { name := "app", image := "app", command := [], ports := [], environmentVariables := [],
    resources := none, livenessProbe := none, readinessProbe := none,
    volumeMounts :=
      [{ name := "token", mountPath := serviceAccountSecretMountPath, readOnly := true },
        { name := "token", mountPath := "/data", readOnly := false }] }

/-- A Windows group of that one container and its one volume. -/
def sharedTokenGroup : ContainerGroupWrapper :=
  { location := "westus2", restartPolicy := "Always", osType := "Windows",
    containers := [sharedTokenContainer], initContainers := [], volumes := [{ name := "token" }],
    imageRegistryCredentials := [], diagnostics := none, ipAddress := none, tags := [] }

/-- The filter removes the token volume although the kept mount at `/data` still names it. -/
theorem filterWindows_leaves_dangling_mount :
    (filterWindowsServiceAccountSecretVolume asciiEqualFold "Windows"
        sharedTokenGroup).volumes = [] ∧
      (filterWindowsServiceAccountSecretVolume asciiEqualFold "Windows"
        sharedTokenGroup).containers.map Aci.Container.volumeMounts =
        [[{ name := "token", mountPath := "/data", readOnly := false }]] := by
  decide

theorem sharedTokenGroup_token_volume_removed :
    asciiEqualFold "Windows" "Windows" = true ∧
      ("token" ∈ (filterWindowsServiceAccountSecretVolume asciiEqualFold "Windows"
          sharedTokenGroup).volumes.map Aci.Volume.name ↔
        "token" ∈ sharedTokenGroup.volumes.map Aci.Volume.name ∧
          "token" ∉ serviceAccountVolumeNames asciiEqualFold sharedTokenGroup.containers) :=
  ⟨by decide, filterWindows_keptMount_names_volume_iff asciiEqualFold "Windows" sharedTokenGroup
    (by decide) { name := "token", mountPath := "/data", readOnly := false }⟩

end AzureAci
