import Mathlib.Data.List.Basic
import AzureAci.Aci
import AzureAci.Base64

/-!
# Image pull secrets

`getImagePullSecrets` and the two readers it dispatches to by secret type. A `dockercfg`
secret maps registries to `AuthConfig`s, whose `auth` field holds `base64(user:password)`; a
`dockerconfigjson` secret maps them to entries with a user name. The resource manager's
`GetSecret` and `json.Unmarshal` are parameters; a decoded map is a `GoMap`, its entries in the
order the `range` over it visits them.
-/

namespace AzureAci

open V1

/-- `AuthConfig`, with the fields `makeRegistryCredential` reads. -/
structure AuthConfig where
  /-- `username`. -/
  username : Bytes
  /-- `password`. -/
  password : Bytes
  /-- `auth`: `base64(username:password)`. -/
  auth : Bytes
  deriving DecidableEq, Repr

/-- `DockerConfigEntry`, with the fields `makeRegistryCredentialFromDockerConfig` reads. -/
structure DockerConfigEntry where
  /-- `Username`. -/
  username : Bytes
  /-- `Password`. -/
  password : Bytes
  deriving DecidableEq, Repr

/-- The byte `:` that separates user name and password in `auth`. -/
def authSeparator : UInt8 := 58

/-- `makeRegistryCredential`. -/
def makeRegistryCredential (server : String) (authConfig : AuthConfig) :
    Except GoError Aci.ImageRegistryCredential :=
  if authConfig.username = [] then
    if authConfig.auth = [] then
      .error (newError ("no username present in auth config for server: " ++ server))
    else
      match Base64.decodeString authConfig.auth with
      | .error offset =>
          .error (newError ("error decoding the auth for server: " ++ server ++
            " Error: illegal base64 data at input byte " ++ toString offset))
      | .ok decoded =>
          match decoded.splitOn authSeparator with
          | [username, password] => .ok { server, username, password }
          | _ => .error (newError ("malformed auth for server: " ++ server))
  else .ok { server, username := authConfig.username, password := authConfig.password }

/-- `makeRegistryCredentialFromDockerConfig`. -/
def makeRegistryCredentialFromDockerConfig (server : String) (configEntry : DockerConfigEntry) :
    Except GoError Aci.ImageRegistryCredential :=
  if configEntry.username = [] then
    .error (newError ("no username present in auth config for server: " ++ server))
  else .ok { server, username := configEntry.username, password := configEntry.password }

/-- `readDockerCfgSecret`: one credential per registry, appended to `ips`. -/
def readDockerCfgSecret (unmarshal : Bytes → Except GoError (GoMap AuthConfig)) (secret : Secret)
    (ips : List Aci.ImageRegistryCredential) :
    Except GoError (List Aci.ImageRegistryCredential) := do
  let repoData ← (secret.data.lookup dockerConfigKey).elim
    (.error (newError "no dockercfg present in secret")) pure
  let authConfigs ← unmarshal repoData
  appendEach (fun entry => makeRegistryCredential entry.1 entry.2) ips authConfigs.entries

/-- `readDockerConfigJSONSecret`: one credential per entry of `auths`, appended to `ips`. -/
def readDockerConfigJSONSecret (unmarshal : Bytes → Except GoError (GoMap DockerConfigEntry))
    (secret : Secret) (ips : List Aci.ImageRegistryCredential) :
    Except GoError (List Aci.ImageRegistryCredential) := do
  let repoData ← (secret.data.lookup dockerConfigJsonKey).elim
    (.error (newError "no dockerconfigjson present in secret")) pure
  let auths ← unmarshal repoData
  failIf (auths.entries = []) (newError "malformed dockerconfigjson in secret")
  appendEach (fun entry => makeRegistryCredentialFromDockerConfig entry.1 entry.2) ips auths.entries

/-- The collaborators `getImagePullSecrets` reads secrets through. -/
structure SecretReaders where
  /-- `p.resourceManager.GetSecret(name, namespace)`; `none` is a `nil` secret. -/
  getSecret : String → String → Except GoError (Option Secret)
  /-- `json.Unmarshal` into `map[string]AuthConfig`. -/
  unmarshalDockerCfg : Bytes → Except GoError (GoMap AuthConfig)
  /-- `json.Unmarshal` into `DockerConfigJSON`, giving its `Auths`. -/
  unmarshalDockerConfigJSON : Bytes → Except GoError (GoMap DockerConfigEntry)

/-- The body of the loop of `getImagePullSecrets`, for one reference. -/
def readImagePullSecret (readers : SecretReaders) (pod : Pod)
    (ips : List Aci.ImageRegistryCredential) (ref : LocalObjectReference) :
    Except GoError (List Aci.ImageRegistryCredential) := do
  let secret ← readers.getSecret ref.name pod.namespace
  match secret with
  | none => .error (newError "error getting image pull secret")
  | some secret =>
      if secret.type = secretTypeDockercfg then
        readDockerCfgSecret readers.unmarshalDockerCfg secret ips
      else if secret.type = secretTypeDockerConfigJson then
        readDockerConfigJSONSecret readers.unmarshalDockerConfigJSON secret ips
      else .error (newError ("image pull secret type is not one of kubernetes.io/dockercfg or " ++
        "kubernetes.io/dockerconfigjson"))

/-- The loop of `getImagePullSecrets` over the references, with the credentials so far. -/
def readImagePullSecrets (readers : SecretReaders) (pod : Pod) :
    List Aci.ImageRegistryCredential → List LocalObjectReference →
      Except GoError (List Aci.ImageRegistryCredential)
  | ips, [] => .ok ips
  | ips, ref :: refs => do
      let ips ← readImagePullSecret readers pod ips ref
      readImagePullSecrets readers pod ips refs

/-- `getImagePullSecrets`. -/
def getImagePullSecrets (readers : SecretReaders) (pod : Pod) :
    Except GoError (List Aci.ImageRegistryCredential) :=
  readImagePullSecrets readers pod [] pod.spec.imagePullSecrets

end AzureAci

namespace AzureAci

open V1

section Splitting

theorem length_splitOn (sep : UInt8) (bytes : Bytes) :
    (bytes.splitOn sep).length = bytes.count sep + 1 := by
  induction bytes with
  | nil => rfl
  | cons b bytes induction =>
      simp only [List.splitOn] at induction ⊢
      by_cases separator : b = sep <;> simp [separator, List.count_cons, induction]

theorem splitOn_first (sep : UInt8) (first rest : Bytes) (free : sep ∉ first) :
    (first ++ sep :: rest).splitOn sep = first :: rest.splitOn sep :=
  List.splitOnP_first _ _ (fun x member => by simpa using ne_of_mem_of_not_mem member free) sep
    (by simp) rest

theorem splitOn_of_not_mem (sep : UInt8) (bytes : Bytes) (free : sep ∉ bytes) :
    bytes.splitOn sep = [bytes] :=
  List.splitOnP_eq_single _ _ (fun x member => by simpa using ne_of_mem_of_not_mem member free)

end Splitting

/-! ## When a pull secret can be read -/

/-- An `AuthConfig` that `makeRegistryCredential` cannot turn into a credential: no user name,
and an `auth` that is empty, or that does not decode to exactly one `:`-separated pair. -/
def AuthConfigMalformed (authConfig : AuthConfig) : Prop :=
  authConfig.username = [] ∧
    (authConfig.auth = [] ∨ ∀ decoded, Base64.decodeString authConfig.auth = .ok decoded →
      (decoded.splitOn authSeparator).length ≠ 2)

/-- A referenced secret that `getImagePullSecrets` can read: it exists, has one of the two
supported types and its data key, parses, and yields a credential for every registry entry (and,
for `dockerconfigjson`, has at least one entry). -/
def PullSecretReadable (readers : SecretReaders) (pod : Pod) (ref : LocalObjectReference) : Prop :=
  ∃ secret, readers.getSecret ref.name pod.namespace = .ok (some secret) ∧
    ((secret.type = secretTypeDockercfg ∧
        ∃ data, secret.data.lookup dockerConfigKey = some data ∧
          ∃ authConfigs, readers.unmarshalDockerCfg data = .ok authConfigs ∧
            ∀ entry ∈ authConfigs.entries, ¬ AuthConfigMalformed entry.2) ∨
      (secret.type = secretTypeDockerConfigJson ∧
        ∃ data, secret.data.lookup dockerConfigJsonKey = some data ∧
          ∃ auths, readers.unmarshalDockerConfigJSON data = .ok auths ∧ auths.entries ≠ [] ∧
            ∀ entry ∈ auths.entries, entry.2.username ≠ []))

theorem makeRegistryCredential_succeeds_iff (server : String) (authConfig : AuthConfig) :
    (∃ cred, makeRegistryCredential server authConfig = .ok cred) ↔
      ¬ AuthConfigMalformed authConfig := by
  unfold makeRegistryCredential AuthConfigMalformed
  by_cases named : authConfig.username = []
  · by_cases empty : authConfig.auth = []
    · simp [named, empty, -IsEmpty.exists_iff]
    · simp only [named, empty, if_true, if_false, true_and, false_or, not_forall, exists_prop]
      cases Base64.decodeString authConfig.auth with
      | error offset => simp [-IsEmpty.exists_iff]
      | ok decoded =>
          simp only [Except.ok.injEq, exists_eq_left', not_not]
          split
          · simp_all [-IsEmpty.exists_iff]
          · rename_i notPair
            simp only [reduceCtorEq, exists_false, false_iff]
            exact fun two => let ⟨username, password, pair⟩ := List.length_eq_two.mp two
              notPair username password pair
  · simp [named, -IsEmpty.exists_iff]

theorem makeRegistryCredentialFromDockerConfig_succeeds_iff (server : String)
    (configEntry : DockerConfigEntry) :
    (∃ cred, makeRegistryCredentialFromDockerConfig server configEntry = .ok cred) ↔
      configEntry.username ≠ [] := by
  by_cases named : configEntry.username = [] <;>
    simp [makeRegistryCredentialFromDockerConfig, named]

theorem readDockerCfgSecret_succeeds_iff (unmarshal : Bytes → Except GoError (GoMap AuthConfig))
    (secret : Secret) (ips : List Aci.ImageRegistryCredential) :
    (∃ ips', readDockerCfgSecret unmarshal secret ips = .ok ips') ↔
      ∃ data, secret.data.lookup dockerConfigKey = some data ∧ ∃ authConfigs,
        unmarshal data = .ok authConfigs ∧
          ∀ entry ∈ authConfigs.entries, ¬ AuthConfigMalformed entry.2 := by
  unfold readDockerCfgSecret
  cases secret.data.lookup dockerConfigKey with
  | none => simp only [Option.elim, error_bind, reduceCtorEq, exists_false, false_and, iff_self]
  | some data =>
      simp only [Option.elim, pure, Except.pure, ok_bind, Option.some.injEq, exists_eq_left']
      cases unmarshal data with
      | error e =>
          simp only [Option.elim, error_bind, reduceCtorEq, exists_false, false_and, iff_self]
      | ok authConfigs =>
          simp only [ok_bind, appendEach_succeeds_iff, makeRegistryCredential_succeeds_iff,
            Except.ok.injEq, exists_eq_left']

theorem readDockerConfigJSONSecret_succeeds_iff
    (unmarshal : Bytes → Except GoError (GoMap DockerConfigEntry)) (secret : Secret)
    (ips : List Aci.ImageRegistryCredential) :
    (∃ ips', readDockerConfigJSONSecret unmarshal secret ips = .ok ips') ↔
      ∃ data, secret.data.lookup dockerConfigJsonKey = some data ∧ ∃ auths,
        unmarshal data = .ok auths ∧ auths.entries ≠ [] ∧
          ∀ entry ∈ auths.entries, entry.2.username ≠ [] := by
  unfold readDockerConfigJSONSecret
  cases secret.data.lookup dockerConfigJsonKey with
  | none => simp only [Option.elim, error_bind, reduceCtorEq, exists_false, false_and, iff_self]
  | some data =>
      simp only [Option.elim, pure, Except.pure, ok_bind, Option.some.injEq, exists_eq_left']
      cases unmarshal data with
      | error e =>
          simp only [Option.elim, error_bind, reduceCtorEq, exists_false, false_and, iff_self]
      | ok auths =>
          by_cases empty : auths.entries = []
          · simp only [ok_bind, failIf, empty, if_true, error_bind, reduceCtorEq, exists_false,
              Except.ok.injEq, exists_eq_left', ne_eq, not_true_eq_false, false_and, iff_self]
          · simp only [ok_bind, failIf, empty, if_false, appendEach_succeeds_iff,
              makeRegistryCredentialFromDockerConfig_succeeds_iff, Except.ok.injEq, exists_eq_left',
              ne_eq, not_false_eq_true, true_and]

theorem readImagePullSecret_succeeds_iff (readers : SecretReaders) (pod : Pod)
    (ips : List Aci.ImageRegistryCredential) (ref : LocalObjectReference) :
    (∃ ips', readImagePullSecret readers pod ips ref = .ok ips') ↔
      PullSecretReadable readers pod ref := by
  have distinct : secretTypeDockercfg ≠ secretTypeDockerConfigJson := by decide
  unfold readImagePullSecret PullSecretReadable
  cases readers.getSecret ref.name pod.namespace with
  | error e => simp only [error_bind, reduceCtorEq, false_and, exists_false, iff_self]
  | ok secret =>
      cases secret with
      | none =>
          simp only [ok_bind, reduceCtorEq, exists_false, Except.ok.injEq, false_and, iff_self]
      | some secret =>
          simp only [ok_bind, Except.ok.injEq, Option.some.injEq, exists_eq_left']
          by_cases dockercfg : secret.type = secretTypeDockercfg
          · rw [if_pos dockercfg, readDockerCfgSecret_succeeds_iff]
            simp only [dockercfg, true_and, distinct, false_and, or_false]
          · rw [if_neg dockercfg]
            by_cases json : secret.type = secretTypeDockerConfigJson
            · rw [if_pos json, readDockerConfigJSONSecret_succeeds_iff]
              simp only [json, distinct.symm, false_and, false_or, true_and]
            · rw [if_neg json]
              simp only [reduceCtorEq, exists_false, dockercfg, json, false_and, or_self]

/-- The loop of `getImagePullSecrets` succeeds exactly when every referenced secret can be read. -/
theorem readImagePullSecrets_succeeds_iff (readers : SecretReaders) (pod : Pod)
    (ips : List Aci.ImageRegistryCredential) (refs : List LocalObjectReference) :
    (∃ ips', readImagePullSecrets readers pod ips refs = .ok ips') ↔
      ∀ ref ∈ refs, PullSecretReadable readers pod ref := by
  induction refs generalizing ips with
  | nil => simp [readImagePullSecrets]
  | cons ref refs induction =>
      simp only [readImagePullSecrets, bind_eq_ok, List.mem_cons, forall_eq_or_imp,
        ← readImagePullSecret_succeeds_iff readers pod ips ref]
      constructor
      · rintro ⟨ips', read, readOk, rest⟩
        exact ⟨⟨read, readOk⟩, (induction read).mp ⟨ips', rest⟩⟩
      · rintro ⟨⟨read, readOk⟩, others⟩
        obtain ⟨ips', rest⟩ := (induction read).mpr others
        exact ⟨ips', read, readOk, rest⟩

/-- The credentials `getImagePullSecrets` takes from one referenced secret: it reads the secret as
`PullSecretReadable` says, and `block` holds the credential built from each registry entry, in the
order the `range` over the entries visits them. -/
def SecretCredentials (readers : SecretReaders) (pod : Pod) (ref : LocalObjectReference)
    (block : List Aci.ImageRegistryCredential) : Prop :=
  ∃ secret, readers.getSecret ref.name pod.namespace = .ok (some secret) ∧
    ((secret.type = secretTypeDockercfg ∧
        ∃ data, secret.data.lookup dockerConfigKey = some data ∧
          ∃ authConfigs, readers.unmarshalDockerCfg data = .ok authConfigs ∧
            List.Forall₂ (fun entry cred => makeRegistryCredential entry.1 entry.2 = .ok cred)
              authConfigs.entries block) ∨
      (secret.type = secretTypeDockerConfigJson ∧
        ∃ data, secret.data.lookup dockerConfigJsonKey = some data ∧
          ∃ auths, readers.unmarshalDockerConfigJSON data = .ok auths ∧ auths.entries ≠ [] ∧
            List.Forall₂
              (fun entry cred => makeRegistryCredentialFromDockerConfig entry.1 entry.2 = .ok cred)
              auths.entries block))

theorem readDockerCfgSecret_eq_ok {unmarshal : Bytes → Except GoError (GoMap AuthConfig)}
    {secret : Secret} {ips ips' : List Aci.ImageRegistryCredential} :
    readDockerCfgSecret unmarshal secret ips = .ok ips' ↔
      ∃ data, secret.data.lookup dockerConfigKey = some data ∧ ∃ authConfigs,
        unmarshal data = .ok authConfigs ∧ ∃ block,
          List.Forall₂ (fun entry cred => makeRegistryCredential entry.1 entry.2 = .ok cred)
            authConfigs.entries block ∧ ips' = ips ++ block := by
  unfold readDockerCfgSecret
  cases secret.data.lookup dockerConfigKey with
  | none => simp [Option.elim, -IsEmpty.exists_iff]
  | some data =>
      simp [Option.elim, pure, Except.pure, bind_eq_ok, appendEach_eq_ok, -IsEmpty.exists_iff]

theorem readDockerConfigJSONSecret_eq_ok
    {unmarshal : Bytes → Except GoError (GoMap DockerConfigEntry)} {secret : Secret}
    {ips ips' : List Aci.ImageRegistryCredential} :
    readDockerConfigJSONSecret unmarshal secret ips = .ok ips' ↔
      ∃ data, secret.data.lookup dockerConfigJsonKey = some data ∧ ∃ auths,
        unmarshal data = .ok auths ∧ auths.entries ≠ [] ∧ ∃ block,
          List.Forall₂
            (fun entry cred => makeRegistryCredentialFromDockerConfig entry.1 entry.2 = .ok cred)
            auths.entries block ∧ ips' = ips ++ block := by
  unfold readDockerConfigJSONSecret
  cases secret.data.lookup dockerConfigJsonKey with
  | none => simp [Option.elim, -IsEmpty.exists_iff]
  | some data =>
      simp [Option.elim, pure, Except.pure, bind_eq_ok, appendEach_eq_ok, -IsEmpty.exists_iff]

theorem readImagePullSecret_appends {readers : SecretReaders} {pod : Pod}
    {ips ips' : List Aci.ImageRegistryCredential} {ref : LocalObjectReference}
    (read : readImagePullSecret readers pod ips ref = .ok ips') :
    ∃ block, SecretCredentials readers pod ref block ∧ ips' = ips ++ block := by
  unfold readImagePullSecret at read
  obtain ⟨secret, fetched, read⟩ := bind_eq_ok.mp read
  cases secret with
  | none => cases read
  | some secret =>
      dsimp only at read
      split_ifs at read with dockercfg json
      · obtain ⟨data, key, authConfigs, parsed, block, made, rfl⟩ :=
          readDockerCfgSecret_eq_ok.mp read
        exact ⟨block, ⟨secret, fetched, .inl ⟨dockercfg, data, key, authConfigs, parsed, made⟩⟩,
          rfl⟩
      · obtain ⟨data, key, auths, parsed, nonempty, block, made, rfl⟩ :=
          readDockerConfigJSONSecret_eq_ok.mp read
        exact ⟨block, ⟨secret, fetched, .inr ⟨json, data, key, auths, parsed, nonempty, made⟩⟩, rfl⟩

theorem readImagePullSecrets_appends {readers : SecretReaders} {pod : Pod}
    {refs : List LocalObjectReference} :
    ∀ {ips ips' : List Aci.ImageRegistryCredential},
      readImagePullSecrets readers pod ips refs = .ok ips' →
        ∃ blocks, List.Forall₂ (SecretCredentials readers pod) refs blocks ∧
          ips' = ips ++ blocks.flatten := by
  induction refs with
  | nil =>
      intro ips ips' read
      cases read
      exact ⟨[], .nil, by simp⟩
  | cons ref refs induction =>
      intro ips ips' read
      obtain ⟨_, first, rest⟩ := bind_eq_ok.mp read
      obtain ⟨block, credentials, rfl⟩ := readImagePullSecret_appends first
      obtain ⟨blocks, others, rfl⟩ := induction rest
      exact ⟨block :: blocks, .cons credentials others, by simp⟩

/-- `getImagePullSecrets` succeeds exactly when every referenced secret can be read, and it then
returns, reference after reference, the credential of each registry entry of each secret. -/
theorem getImagePullSecrets_reads_every_entry (readers : SecretReaders) (pod : Pod) :
    ((∃ ips, getImagePullSecrets readers pod = .ok ips) ↔
      ∀ ref ∈ pod.spec.imagePullSecrets, PullSecretReadable readers pod ref) ∧
    ∀ ips, getImagePullSecrets readers pod = .ok ips →
      ∃ blocks, List.Forall₂ (SecretCredentials readers pod) pod.spec.imagePullSecrets blocks ∧
        ips = blocks.flatten :=
  ⟨readImagePullSecrets_succeeds_iff readers pod [] _,
    fun _ read => by simpa using readImagePullSecrets_appends read⟩

/-- `makeRegistryCredential` on an `auth` field that encodes `username:password`, for a user name
without `:`: Go's `strings.Split` cuts the password at each of its own colons, so the credential
is built exactly when the password has none. -/
theorem makeRegistryCredential_encoded_auth (server : String) (username password : Bytes)
    (colonFree : authSeparator ∉ username) :
    makeRegistryCredential server
        { username := [], password := []
          auth := Base64.encode (username ++ authSeparator :: password) } =
      if authSeparator ∈ password then .error (newError ("malformed auth for server: " ++ server))
      else .ok { server, username, password } := by
  simp only [makeRegistryCredential, Base64.encode_eq_nil, Base64.decodeString,
    Base64.decodeFrom_encode, List.nil_append,
    splitOn_first _ _ _ colonFree, List.append_eq_nil, reduceCtorEq, and_false, if_true, if_false]
  by_cases colon : authSeparator ∈ password
  · have parts := length_splitOn authSeparator password
    have occurs : 0 < password.count authSeparator := List.count_pos_iff.mpr colon
    match password.splitOn authSeparator, parts with
    | [], parts | [_], parts => simp only [List.length_cons, List.length_nil] at parts; omega
    | _ :: _ :: _, _ => simp [colon]
  · have single : password.splitOn authSeparator = [password] :=
      List.splitOnP_eq_single _ _ (fun x member => by simpa using ne_of_mem_of_not_mem member colon)
    simp [single, colon]

/-- The encoded auth of user `u` with password `p`, on the server `registry`, is split back into
the credential. -/
theorem makeRegistryCredential_encoded_auth_colon_free :
    authSeparator ∉ [117] ∧
      makeRegistryCredential "registry"
          { username := [], password := []
            auth := Base64.encode ([117] ++ authSeparator :: [112]) } =
        .ok { server := "registry", username := [117], password := [112] } :=
  ⟨by decide, (makeRegistryCredential_encoded_auth "registry" [117] [112] (by decide)).trans
    (if_neg (by decide))⟩

/-- The password `a:b` of user `u` is cut at its colon: the auth `dTphOmI=` is rejected as
malformed. -/
theorem makeRegistryCredential_rejects_colon_password :
    makeRegistryCredential "registry"
        { username := [], password := [], auth := Base64.encode [117, 58, 97, 58, 98] } =
      .error (newError "malformed auth for server: registry") := by
  decide

/-! ## Logins written as `auth` fields -/

/-- The `AuthConfig` of a login written, as in a legacy `.dockercfg` file, by its `auth` field
alone: `base64(username:password)`. -/
def encodedAuthConfig (username password : Bytes) : AuthConfig :=
  { username := [], password := [], auth := Base64.encode (username ++ authSeparator :: password) }

/-- The credential of a login: registry, user name and password. -/
def loginCredential (login : String × Bytes × Bytes) : Aci.ImageRegistryCredential :=
  { server := login.1, username := login.2.1, password := login.2.2 }

/-- A colon-free login written as its `auth` field is read back as its credential. -/
theorem makeRegistryCredential_encodedAuthConfig {server : String} {username password : Bytes}
    (freeUser : authSeparator ∉ username) (freePassword : authSeparator ∉ password) :
    makeRegistryCredential server (encodedAuthConfig username password) =
      .ok (loginCredential (server, username, password)) := by
  simp [makeRegistryCredential, encodedAuthConfig, loginCredential, Base64.decodeString,
    Base64.decodeFrom_encode, splitOn_first _ _ _ freeUser,
    splitOn_of_not_mem _ _ freePassword]

/-- Line breaks in an `auth` field never change what `makeRegistryCredential` builds: it builds a
credential from the field exactly when it builds one from the field without its `\r` and `\n`
bytes, and the same credential. -/
theorem makeRegistryCredential_dropNewlines (server : String) (authConfig : AuthConfig) :
    (makeRegistryCredential server
        { authConfig with auth := Base64.dropNewlines authConfig.auth }).toOption =
      (makeRegistryCredential server authConfig).toOption := by
  have decoded := Base64.decodeString_dropNewlines authConfig.auth
  unfold makeRegistryCredential
  by_cases user : authConfig.username = []
  · simp only [user, if_true]
    by_cases empty : Base64.dropNewlines authConfig.auth = []
    · rw [empty] at decoded
      simp only [empty, if_true]
      split_ifs
      · rfl
      · cases read : Base64.decodeString authConfig.auth with
        | error offset => rfl
        | ok bytes =>
            rw [read] at decoded
            cases decoded
            rfl
    · have present : authConfig.auth ≠ [] := fun absent => empty (by simp [absent,
        Base64.dropNewlines])
      simp only [empty, present, if_false]
      cases read : Base64.decodeString authConfig.auth <;>
        cases read' : Base64.decodeString (Base64.dropNewlines authConfig.auth) <;>
        simp only [read, read', Except.toOption, Option.some.injEq, reduceCtorEq] at decoded ⊢
      subst decoded
      rfl
  · simp [user]

/-- `dTpw`, the auth of `u:p`, broken over two lines. -/
example :
    makeRegistryCredential "registry"
        { username := [], password := [], auth := [100, 84, 10, 112, 119] } =
    .ok { server := "registry", username := [117], password := [112] } := by
  decide

/-- The referenced secret is a `dockercfg` secret whose registries, in the order the `range` over
them visits them, hold `logins`, each written as its `auth` field. -/
def DockerCfgHolds (readers : SecretReaders) (pod : Pod) (ref : LocalObjectReference)
    (logins : List (String × Bytes × Bytes)) : Prop :=
  ∃ secret, readers.getSecret ref.name pod.namespace = .ok (some secret) ∧
    secret.type = secretTypeDockercfg ∧
    ∃ data, secret.data.lookup dockerConfigKey = some data ∧
      ∃ authConfigs, readers.unmarshalDockerCfg data = .ok authConfigs ∧
        authConfigs.entries = logins.map fun login =>
          (login.1, encodedAuthConfig login.2.1 login.2.2)

/-- A login neither of whose parts has a colon. -/
def ColonFree (login : String × Bytes × Bytes) : Prop :=
  authSeparator ∉ login.2.1 ∧ authSeparator ∉ login.2.2

theorem readImagePullSecret_of_dockerCfgHolds {readers : SecretReaders} {pod : Pod}
    {ref : LocalObjectReference} {logins : List (String × Bytes × Bytes)}
    (held : DockerCfgHolds readers pod ref logins) (colonFree : ∀ login ∈ logins, ColonFree login)
    (ips : List Aci.ImageRegistryCredential) :
    readImagePullSecret readers pod ips ref = .ok (ips ++ logins.map loginCredential) := by
  obtain ⟨secret, fetched, dockercfg, data, key, authConfigs, parsed, entries⟩ := held
  have made : List.Forall₂ (fun entry cred => makeRegistryCredential entry.1 entry.2 = .ok cred)
      authConfigs.entries (logins.map loginCredential) := by
    rw [entries, List.forall₂_map_left_iff, List.forall₂_map_right_iff, List.forall₂_same]
    exact fun login member => makeRegistryCredential_encodedAuthConfig (colonFree login member).1
      (colonFree login member).2
  have read : readDockerCfgSecret readers.unmarshalDockerCfg secret ips =
      .ok (ips ++ logins.map loginCredential) :=
    readDockerCfgSecret_eq_ok.mpr ⟨data, key, authConfigs, parsed, _, made, rfl⟩
  simp [readImagePullSecret, fetched, dockercfg, read]

theorem readImagePullSecrets_of_dockerCfgHolds {readers : SecretReaders} {pod : Pod}
    {logins : LocalObjectReference → List (String × Bytes × Bytes)} :
    ∀ {refs : List LocalObjectReference} (ips : List Aci.ImageRegistryCredential),
      (∀ ref ∈ refs, DockerCfgHolds readers pod ref (logins ref)) →
      (∀ ref ∈ refs, ∀ login ∈ logins ref, ColonFree login) →
        readImagePullSecrets readers pod ips refs =
          .ok (ips ++ refs.flatMap fun ref => (logins ref).map loginCredential)
  | [], ips, _, _ => by simp [readImagePullSecrets]
  | ref :: refs, ips, held, colonFree => by
      have rest := readImagePullSecrets_of_dockerCfgHolds (ips ++ (logins ref).map loginCredential)
        (fun other member => held other (List.mem_cons_of_mem ref member))
        (fun other member => colonFree other (List.mem_cons_of_mem ref member))
      simp [readImagePullSecrets, readImagePullSecret_of_dockerCfgHolds (held ref (by simp))
        (colonFree ref (by simp)), rest]

/-- Logins written as `auth` fields round-trip through the pull secrets: when every referenced
secret is a `dockercfg` secret whose registries hold colon-free logins that way,
`getImagePullSecrets` succeeds and returns, reference after reference and registry after registry
in the order the `range` visits them, exactly the registry, user name and password of each. -/
theorem getImagePullSecrets_decodes_logins (readers : SecretReaders) (pod : Pod)
    (logins : LocalObjectReference → List (String × Bytes × Bytes))
    (held : ∀ ref ∈ pod.spec.imagePullSecrets, DockerCfgHolds readers pod ref (logins ref))
    (colonFree : ∀ ref ∈ pod.spec.imagePullSecrets, ∀ login ∈ logins ref, ColonFree login) :
    getImagePullSecrets readers pod =
      .ok (pod.spec.imagePullSecrets.flatMap fun ref => (logins ref).map loginCredential) := by
  simpa using readImagePullSecrets_of_dockerCfgHolds [] held colonFree

/-- A pod pulling with one secret. -/
def loginPod : Pod :=
  { name := "app", «namespace» := "default", uid := "0", clusterName := "", creationTimestamp := ""
    annotations := []
    spec := { containers := [], initContainers := [], imagePullSecrets := [⟨"registry-login"⟩]
              restartPolicy := "Always", nodeName := "vk" } }

/-- A `dockercfg` secret whose two registries hold the logins `u`/`p` and `v`/`q` as `auth`
fields. -/
def loginReaders : SecretReaders :=
  { getSecret := fun _ _ =>
      .ok (some { type := secretTypeDockercfg, data := [(dockerConfigKey, [])] })
    unmarshalDockerCfg := fun _ =>
      .ok ⟨[("a.io", encodedAuthConfig [117] [112]), ("b.io", encodedAuthConfig [118] [113])],
        by decide⟩
    unmarshalDockerConfigJSON := fun _ => .error (newError "unexpected end of JSON input") }

theorem loginReaders_decode_logins :
    (∀ ref ∈ loginPod.spec.imagePullSecrets, DockerCfgHolds loginReaders loginPod ref
        [("a.io", [117], [112]), ("b.io", [118], [113])]) ∧
      (∀ ref ∈ loginPod.spec.imagePullSecrets,
        ∀ login ∈ [("a.io", [117], [112]), ("b.io", [118], [113])], ColonFree login) ∧
      getImagePullSecrets loginReaders loginPod =
        .ok (loginPod.spec.imagePullSecrets.flatMap fun _ =>
          [("a.io", [117], [112]), ("b.io", [118], [113])].map loginCredential) :=
  have held : ∀ ref ∈ loginPod.spec.imagePullSecrets, DockerCfgHolds loginReaders loginPod ref
      [("a.io", [117], [112]), ("b.io", [118], [113])] :=
    fun _ _ => ⟨_, rfl, rfl, _, rfl, _, rfl, rfl⟩
  have colonFree : ∀ ref ∈ loginPod.spec.imagePullSecrets,
      ∀ login ∈ [("a.io", [117], [112]), ("b.io", [118], [113])], ColonFree login := by
    simp [ColonFree, authSeparator]
  ⟨held, colonFree, getImagePullSecrets_decodes_logins loginReaders loginPod _ held colonFree⟩

end AzureAci
