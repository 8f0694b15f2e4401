import InfrastructureManager.Controller.Objects
import InfrastructureManager.Runtime.CreateShoot

/-!
# The migrator

The command of `src/unnamed/part_000` (lines 28–153) writes, for each shoot of a Gardener
project, the `Runtime` that declares it as a YAML file; its clients, `yaml.Marshal` and
`os.WriteFile` are the answers of a `MigratorEnv`. A completed run leaves each shoot's file
holding the YAML of its runtime (`main_completed_lookup`), and a second run with the same
answers writes the same files (`main_rerun`).
-/

namespace InfrastructureManager.Migrator

/-- `migratorLabel` (line 25). -/
def migratorLabel : String := "operator.kyma-project.io/created-by-migrator"

/-- The annotation `main` reads the licence type from (line 58). -/
def licenceTypeAnnotation : String := "kcp.provisioner.kyma-project.io/licence-type"

/-- The label selector of the role bindings whose subjects are the administrators (line 186). -/
def administratorsSelector : String :=
  "reconciler.kyma-project.io/managed-by=reconciler,app=kyma"

/-- How the program ends before its loop does: `log.Fatal` with its message, or a panic. -/
inductive Exit
  | fatal (msg : String)
  | panic
  deriving DecidableEq, Repr

/-- A dereference, or a selector through a pointer: a `nil` pointer panics. -/
def deref {α : Type} : Option α → Except Exit α
  | some a => .ok a
  | none => .error .panic

@[simp] theorem deref_some_bind {α β : Type} (a : α) (f : α → Except Exit β) :
    deref (some a) >>= f = f a := rfl

@[simp] theorem deref_none_bind {α β : Type} (f : α → Except Exit β) :
    deref none >>= f = .error .panic := rfl

@[simp] theorem deref_some_map {α β : Type} (a : α) (f : α → β) :
    f <$> deref (some a) = .ok (f a) := rfl

@[simp] theorem deref_none_map {α β : Type} (f : α → β) :
    f <$> deref none = (.error .panic : Except Exit β) := rfl

/-! ### The objects -/

/-- `v1beta1.OIDCConfig`, without `ClientAuthentication`, which is copied unread. -/
structure OIDCConfig where
  caBundle : Option String
  clientID : Option String
  groupsClaim : Option String
  groupsPrefix : Option String
  issuerURL : Option String
  requiredClaims : StringMap
  signingAlgs : List String
  usernameClaim : Option String
  usernamePrefix : Option String
  deriving DecidableEq

/-- `v1beta1.KubeAPIServerConfig`, by its `OIDCConfig` pointer. -/
structure KubeAPIServerConfig where
  oidcConfig : Option OIDCConfig
  deriving DecidableEq

/-- `runtime.RawExtension`, by its bytes. -/
structure RawExtension where
  raw : String
  deriving DecidableEq

/-- `v1beta1.Provider`, without `Workers`, which are copied unread. -/
structure Provider where
  type : String
  controlPlaneConfig : Option RawExtension
  infrastructureConfig : Option RawExtension
  deriving DecidableEq

/-- `v1beta1.Networking`, by its three address ranges. `Spec.Networking` is a pointer in the
gardener API the sources select through; a shoot of an API where it is not has `some`. -/
structure Networking where
  pods : Option String
  nodes : Option String
  services : Option String
  deriving DecidableEq

/-- `v1beta1.Addons`, by its `NginxIngress` pointer and that addon's `Enabled`. -/
structure Addons where
  nginxIngress : Option Bool
  deriving DecidableEq

/-- `v1beta1.ControlPlane`, by its `HighAvailability` pointer and that one's failure
tolerance type. -/
structure ControlPlane where
  highAvailability : Option String
  deriving DecidableEq

/-- The fields of a `v1beta1.Shoot` that `main` reads. -/
structure Shoot where
  name : String
  generateName : String
  labels : StringMap
  annotations : StringMap
  finalizers : List String
  purpose : Option String
  region : String
  secretBindingName : Option String
  kubernetesVersion : String
  kubeAPIServer : Option KubeAPIServerConfig
  provider : Provider
  networking : Option Networking
  addons : Option Addons
  controlPlane : Option ControlPlane
  deriving DecidableEq

/-- The fields of a `v1.Runtime` that the migrator sets, `EnforceSeedLocation` included,
which it leaves `nil`. The status is the pair the state machine reads: the state and the
`RuntimeProvisioned` condition. -/
structure Runtime where
  kind : String
  apiVersion : String
  name : String
  generateName : String
  ns : String
  labels : StringMap
  annotations : StringMap
  finalizers : List String
  shootName : String
  purpose : String
  region : String
  licenceType : Option String
  secretBindingName : String
  kubernetesVersion : Option String
  enforceSeedLocation : Option Bool
  oidcConfig : OIDCConfig
  providerType : String
  controlPlaneConfig : RawExtension
  infrastructureConfig : RawExtension
  pods : String
  nodes : String
  services : String
  failureToleranceType : Option String
  administrators : List String
  ingressEnabled : Option Bool
  egressEnabled : Bool
  state : String
  provisioned : Option Fsm.ProvisionedCondition
  deriving DecidableEq

/-- What `os.WriteFile` does to the file it names: it opens it with `O_TRUNC`, writes the data
and closes it. -/
inductive WriteResult
  /-- `OpenFile` failed: the file is as it was. -/
  | openFailed (err : String)
  /-- `Write` or `Close` failed after the file was truncated and the first `n` characters of the
  data written. -/
  | failed (n : Nat) (err : String)
  /-- The data was written whole. -/
  | written
  deriving DecidableEq

/-- The answers `main` gets from outside, each call by its results and its error. -/
structure MigratorEnv where
  /-- `gardener.NewRestConfigFromFile`, by its error. -/
  newRestConfigFromFile : String → Option String
  /-- `gardener_types.NewForConfig`, by its error. -/
  newForConfig : Option String
  /-- `client.New`, by its error. -/
  clientNew : Option String
  /-- `v1beta1.AddToScheme`, by its error. -/
  addToScheme : Option String
  /-- `Shoots(namespace).List`: the shoots of the namespace, or the error. -/
  listShoots : String → Except String (List Shoot)
  /-- `provider.Fetch`: the kubeconfig of a shoot; `main` never reads the error. -/
  fetch : String → String
  /-- `clientcmd.RESTConfigFromKubeConfig`, by its error. -/
  restConfigFromKubeConfig : String → Option String
  /-- `kubernetes.NewForConfig`, by its error. -/
  kubernetesNewForConfig : String → Option String
  /-- `ClusterRoleBindings().List` by a label selector: the subject names of each binding. -/
  clusterRoleBindings : String → String → List (List String)
  /-- `yaml.Marshal`: the bytes, or the error. -/
  marshal : Runtime → Except String String
  /-- `os.WriteFile`: what it did to the file. -/
  writeFile : String → String → WriteResult

/-- The files of the output directory, by name. -/
abbrev Files := StringMap

variable (env : MigratorEnv)

/-! ### The helpers -/

/-- `isNginxIngressEnabled` (lines 155–157); `Spec.Addons` is a pointer too. -/
def isNginxIngressEnabled (shoot : Shoot) : Except Exit Bool := do
  let addons ← deref shoot.addons
  pure (addons.nginxIngress.getD false)

/-- `getFailureToleranceType` (lines 159–166). -/
def getFailureToleranceType (shoot : Shoot) : String :=
  match shoot.controlPlane with
  | some controlPlane =>
    match controlPlane.highAvailability with
    | some failureToleranceType => failureToleranceType
    | none => ""
  | none => ""

/-- `getAdministratorsList` (lines 168–196): the subject names of the shoot's administrator
bindings, in order. The errors of `Fetch` and of the listing are not read. -/
def getAdministratorsList (shootName : String) : Except Exit (List String) :=
  let kubeconfig := env.fetch shootName
  if kubeconfig = "" then .error (.fatal "failed to get dynamic kubeconfig")
  else if (env.restConfigFromKubeConfig kubeconfig).isSome then
    .error (.fatal "failed to create REST client from kubeconfig")
  else if (env.kubernetesNewForConfig kubeconfig).isSome then
    .error (.fatal "failed to create clientset from restconfig")
  else .ok (env.clusterRoleBindings kubeconfig administratorsSelector).flatten

/-- `appendMigratorLabel` (lines 198–205): a copy of the labels with the migrator label set. -/
def appendMigratorLabel (shootLabels : StringMap) : StringMap :=
  shootLabels.insert migratorLabel "true"

/-- The runtime `main` builds for a shoot (lines 57–147): the calls first, then the
dereferences of the literal. -/
def buildRuntime (shoot : Shoot) : Except Exit Runtime := do
  let subjects ← getAdministratorsList env shoot.name
  let licenceType := (shoot.annotations.lookup licenceTypeAnnotation).getD ""
  let nginxIngressEnabled ← isNginxIngressEnabled shoot
  let hAFailureToleranceType := getFailureToleranceType shoot
  let purpose ← deref shoot.purpose
  let secretBindingName ← deref shoot.secretBindingName
  let kubeAPIServer ← deref shoot.kubeAPIServer
  let oidcConfig ← deref kubeAPIServer.oidcConfig
  let controlPlaneConfig ← deref shoot.provider.controlPlaneConfig
  let infrastructureConfig ← deref shoot.provider.infrastructureConfig
  let pods ← deref (← deref shoot.networking).pods
  let nodes ← deref (← deref shoot.networking).nodes
  let services ← deref (← deref shoot.networking).services
  pure
    { kind := "Runtime"
      apiVersion := "infrastructuremanager.kyma-project.io/v1"
      name := shoot.name
      generateName := shoot.generateName
      ns := "kcp-system"
      labels := appendMigratorLabel shoot.labels
      annotations := shoot.annotations
      finalizers := shoot.finalizers
      shootName := shoot.name
      purpose := purpose
      region := shoot.region
      licenceType := some licenceType
      secretBindingName := secretBindingName
      kubernetesVersion := some shoot.kubernetesVersion
      enforceSeedLocation := none
      oidcConfig := { oidcConfig with caBundle := none }
      providerType := shoot.provider.type
      controlPlaneConfig := controlPlaneConfig
      infrastructureConfig := infrastructureConfig
      pods := pods
      nodes := nodes
      services := services
      failureToleranceType := some hAFailureToleranceType
      administrators := subjects
      ingressEnabled := some nginxIngressEnabled
      egressEnabled := false
      state := ""
      provisioned := none }

/-- `getYamlSpec` (lines 207–210): the bytes and the error; `yaml.Marshal` gives no bytes
with an error. -/
def getYamlSpec (runtime : Runtime) : String × Option String :=
  match env.marshal runtime with
  | .ok shootAsYaml => (shootAsYaml, none)
  | .error err => ("", some err)

/-- The name `writeSpecToFile` writes to: `fmt.Sprintf("%sshoot-%s.yaml", ...)` (line 213),
with the output path put before it as it is, without a separator. -/
def fileName (outputPath shootName : String) : String :=
  outputPath ++ "shoot-" ++ shootName ++ ".yaml"

/-- `writeSpecToFile` (lines 212–221): the error it is given is overwritten unread, and a failed
write ends the program with the file as `os.WriteFile` left it. -/
def writeSpecToFile (outputPath : String) (shoot : Shoot) (_err : Option String)
    (shootAsYaml : String) (files : Files) : Option Exit × Files :=
  let name := fileName outputPath shoot.name
  match env.writeFile name shootAsYaml with
  | .openFailed err => (some (.fatal err), files)
  | .failed n err => (some (.fatal err), files.insert name (shootAsYaml.take n))
  | .written => (none, files.insert name shootAsYaml)

/-- One turn of the loop of `main` (lines 57–150): how it ends, and the files it leaves. -/
def migrateShoot (outputPath : String) (shoot : Shoot) (files : Files) : Option Exit × Files :=
  match buildRuntime env shoot with
  | .error e => (some e, files)
  | .ok runtime =>
    let (shootAsYaml, err) := getYamlSpec env runtime
    writeSpecToFile env outputPath shoot err shootAsYaml files

/-- The loop of `main` (lines 56–151): how it ends, and the files it leaves. -/
def migrate (outputPath : String) : List Shoot → Files → Option Exit × Files
  | [], files => (none, files)
  | shoot :: shoots, files =>
    match migrateShoot env outputPath shoot files with
    | (none, files') => migrate outputPath shoots files'
    | (some e, files') => (some e, files')

/-! ### Setting up -/

/-- `setupGardenerShootClient` (lines 223–238): the shoot client of the namespace, `nil`
when a step fails. -/
def setupGardenerShootClient (kubeconfigPath gardenerNamespace : String) : Option String :=
  if (env.newRestConfigFromFile kubeconfigPath).isSome ∨ env.newForConfig.isSome then none
  else some gardenerNamespace

/-- `setupKubernetesKubeconfigProvider` (lines 240–268), by its error; the provider it
returns is the environment's `fetch`. -/
def setupKubernetesKubeconfigProvider (kubeconfigPath : String) : Option String :=
  env.newRestConfigFromFile kubeconfigPath <|> env.newForConfig <|> env.clientNew <|>
    env.addToScheme.map ("failed to register Gardener schema: " ++ ·)

/-- The command-line flags of `main` (lines 29–36), with their defaults. -/
structure Flags where
  gardenerKubeconfigPath : String := "/gardener/kubeconfig/kubeconfig"
  gardenerProjectName : String := "gardener-project"
  outputPath : String := ""

/-- `main` (lines 28–153), from the files of the output directory before the run. A `nil`
shoot client panics at its `List`. -/
def main (flags : Flags) (files : Files) : Option Exit × Files :=
  let gardenerNamespace := "garden-" ++ flags.gardenerProjectName
  match setupGardenerShootClient env flags.gardenerKubeconfigPath gardenerNamespace with
  | none => (some .panic, files)
  | some gardenerShootClient =>
    match env.listShoots gardenerShootClient with
    | .error err => (some (.fatal err), files)
    | .ok list =>
      match setupKubernetesKubeconfigProvider env flags.gardenerKubeconfigPath with
      | some _ => (some (.fatal "Failed to create kubeconfig provider"), files)
      | none => migrate env flags.outputPath list files

/-- A shoot with every pointer the migrator reads set, and no control plane. -/
def sampleShoot : Shoot where
  name := "s"
  generateName := ""
  labels := ∅
  annotations := ∅
  finalizers := []
  purpose := some "production"
  region := "eu"
  secretBindingName := some "binding"
  kubernetesVersion := "1.30"
  kubeAPIServer := some ⟨some ⟨none, none, none, none, none, ∅, [], none, none⟩⟩
  provider := ⟨"aws", some ⟨""⟩, some ⟨""⟩⟩
  networking := some ⟨some "10.250.0.0/16", some "10.180.0.0/16", some "10.104.0.0/13"⟩
  addons := some ⟨none⟩
  controlPlane := none

/-- An environment where every call succeeds, listing `sampleShoot` alone, with one
administrator, and marshalling a runtime to its name. -/
def sampleEnv : MigratorEnv where
  newRestConfigFromFile _ := none
  newForConfig := none
  clientNew := none
  addToScheme := none
  listShoots _ := .ok [sampleShoot]
  fetch _ := "kubeconfig"
  restConfigFromKubeConfig _ := none
  kubernetesNewForConfig _ := none
  clusterRoleBindings _ _ := [["admin"]]
  marshal r := .ok r.name
  writeFile _ _ := .written

/-! ### One turn of the loop -/

/-- A turn of the loop writes no file but the shoot's. -/
theorem migrateShoot_lookup_of_ne {outputPath k : String} {shoot : Shoot} (files : Files)
    (hk : fileName outputPath shoot.name ≠ k) :
    (migrateShoot env outputPath shoot files).2.lookup k = files.lookup k := by
  unfold migrateShoot writeSpecToFile
  cases buildRuntime env shoot with
  | error e => rfl
  | ok runtime =>
    dsimp only
    split <;> simp [Finmap.lookup_insert_of_ne _ hk.symm]

/-- A turn of the loop that goes on has built the shoot's runtime and written its YAML whole to
the shoot's file. -/
theorem migrateShoot_eq_none {outputPath : String} {shoot : Shoot} {files files' : Files} :
    migrateShoot env outputPath shoot files = (none, files') ↔
      ∃ runtime, buildRuntime env shoot = .ok runtime ∧
        env.writeFile (fileName outputPath shoot.name) (getYamlSpec env runtime).1 = .written ∧
        files' = files.insert (fileName outputPath shoot.name) (getYamlSpec env runtime).1 := by
  unfold migrateShoot writeSpecToFile
  cases buildRuntime env shoot with
  | error e => simp
  | ok runtime =>
    dsimp only
    split <;> rename_i h <;> simp [h, eq_comm]

/-! ### The loop -/

/-- The loop writes no file but those of its shoots. -/
theorem migrate_lookup_of_forall_ne {outputPath k : String} :
    ∀ (shoots : List Shoot) (files : Files),
      (∀ shoot ∈ shoots, fileName outputPath shoot.name ≠ k) →
      (migrate env outputPath shoots files).2.lookup k = files.lookup k
  | [], _, _ => rfl
  | shoot :: shoots, files, h => by
    have hone := migrateShoot_lookup_of_ne env files (h shoot (.head _))
    rcases hm : migrateShoot env outputPath shoot files with ⟨_ | e, files'⟩
    all_goals rw [hm] at hone; simp only [migrate, hm]
    · rw [migrate_lookup_of_forall_ne shoots files' fun s hs => h s (.tail _ hs), hone]
    · exact hone

example : migrate sampleEnv "" [sampleShoot, { sampleShoot with name := "t", addons := none },
    { sampleShoot with name := "u" }] ∅ = (some .panic, (∅ : Files).insert "shoot-s.yaml" "s") := by
  decide

/-- Distinct shoots are written to distinct files. -/
theorem fileName_injective (outputPath : String) : Function.Injective (fileName outputPath) := by
  intro a b h
  have h' := congrArg String.data h
  simp only [fileName, String.data_append, List.append_assoc, List.append_cancel_left_eq,
    List.append_cancel_right_eq] at h'
  exact String.ext h'

/-- After a run that completes over shoots of distinct names, the file of each shoot holds
the YAML of its runtime, which is empty when marshalling failed. -/
theorem migrate_completed_lookup (outputPath : String) :
    ∀ (shoots : List Shoot) (files : Files), (shoots.map (·.name)).Nodup →
      (migrate env outputPath shoots files).1 = none →
      ∀ shoot ∈ shoots, ∃ runtime, buildRuntime env shoot = .ok runtime ∧
        (migrate env outputPath shoots files).2.lookup (fileName outputPath shoot.name) =
          some (getYamlSpec env runtime).1
  | [], _, _, _, _, h => nomatch h
  | s :: shoots, files, hn, hc, shoot, hs => by
    rw [List.map_cons, List.nodup_cons] at hn
    rcases hok : migrateShoot env outputPath s files with ⟨_ | e, files'⟩
    · simp only [migrate, hok] at hc ⊢
      rcases List.mem_cons.mp hs with rfl | hs
      · obtain ⟨runtime, hr, -, rfl⟩ := (migrateShoot_eq_none env).mp hok
        have hfresh : ∀ t ∈ shoots, fileName outputPath t.name ≠ fileName outputPath shoot.name :=
          fun t ht he => hn.1 (fileName_injective outputPath he ▸ List.mem_map_of_mem (·.name) ht)
        exact ⟨runtime, hr, by
          rw [migrate_lookup_of_forall_ne env shoots _ hfresh, Finmap.lookup_insert]⟩
      · exact migrate_completed_lookup outputPath shoots files' hn.2 hc shoot hs
    · simp only [migrate, hok] at hc
      cases hc

/-! ### What the directory held before -/

/-- A turn of the loop does not depend on the files already there: it writes over them. -/
theorem migrateShoot_eq_union (outputPath : String) (shoot : Shoot) (files : Files) :
    migrateShoot env outputPath shoot files =
      ((migrateShoot env outputPath shoot ∅).1, (migrateShoot env outputPath shoot ∅).2 ∪ files) := by
  unfold migrateShoot writeSpecToFile
  cases buildRuntime env shoot with
  | error e => simp only [Finmap.empty_union]
  | ok runtime =>
    dsimp only
    split <;> simp only [← Finmap.insert_union, Finmap.empty_union]

/-- The loop writes the same files whatever the directory held, over what it held. -/
theorem migrate_eq_union (outputPath : String) :
    ∀ (shoots : List Shoot) (files : Files), migrate env outputPath shoots files =
      ((migrate env outputPath shoots ∅).1, (migrate env outputPath shoots ∅).2 ∪ files)
  | [], files => by simp only [migrate, Finmap.empty_union]
  | shoot :: shoots, files => by
    rw [migrate, migrate, migrateShoot_eq_union env outputPath shoot files]
    rcases migrateShoot env outputPath shoot ∅ with ⟨_ | e, written⟩
    · dsimp only
      rw [migrate_eq_union outputPath shoots, migrate_eq_union outputPath shoots written,
        Finmap.union_assoc]
    · rfl

/-! ### The program -/

theorem setupGardenerShootClient_eq_some {kubeconfigPath gardenerNamespace client : String}
    (h : setupGardenerShootClient env kubeconfigPath gardenerNamespace = some client) :
    client = gardenerNamespace := by
  unfold setupGardenerShootClient at h
  split_ifs at h
  exact (Option.some.inj h).symm

/-- `main` writes in its loop only: it stops before the loop, with the directory as it was,
or it is the loop over the shoots of the project's namespace. -/
theorem main_cases (flags : Flags) (files : Files) :
    ((main env flags files).1.isSome ∧ (main env flags files).2 = files) ∨
      ∃ shoots, env.listShoots ("garden-" ++ flags.gardenerProjectName) = .ok shoots ∧
        main env flags files = migrate env flags.outputPath shoots files := by
  dsimp only [main]
  cases hclient : setupGardenerShootClient env flags.gardenerKubeconfigPath
    ("garden-" ++ flags.gardenerProjectName) with
  | none => exact .inl ⟨rfl, rfl⟩
  | some client =>
    obtain rfl := setupGardenerShootClient_eq_some env hclient
    dsimp only
    cases hl : env.listShoots ("garden-" ++ flags.gardenerProjectName) with
    | error err => exact .inl ⟨rfl, rfl⟩
    | ok shoots =>
      cases setupKubernetesKubeconfigProvider env flags.gardenerKubeconfigPath with
      | some _ => exact .inl ⟨rfl, rfl⟩
      | none => exact .inr ⟨shoots, rfl, rfl⟩

/-- A run of `main` that completes has listed the shoots of the project's namespace and,
when their names are distinct, left the file of each holding the YAML of its runtime. -/
theorem main_completed_lookup (flags : Flags) (files : Files)
    (hc : (main env flags files).1 = none) :
    ∃ shoots, env.listShoots ("garden-" ++ flags.gardenerProjectName) = .ok shoots ∧
      ((shoots.map (·.name)).Nodup → ∀ shoot ∈ shoots, ∃ runtime,
        buildRuntime env shoot = .ok runtime ∧
          (main env flags files).2.lookup (fileName flags.outputPath shoot.name) =
            some (getYamlSpec env runtime).1) := by
  rcases main_cases env flags files with ⟨hs, -⟩ | ⟨shoots, hl, hm⟩
  · simp [hc] at hs
  · rw [hm] at hc ⊢
    exact ⟨shoots, hl, fun hn => migrate_completed_lookup env flags.outputPath shoots files hn hc⟩

theorem main_completed_lookup_sample :
    (main sampleEnv {} ∅).1 = none ∧
      ∃ shoots, sampleEnv.listShoots ("garden-" ++ ({} : Flags).gardenerProjectName) = .ok shoots ∧
        ((shoots.map (·.name)).Nodup → ∀ shoot ∈ shoots, ∃ runtime,
          buildRuntime sampleEnv shoot = .ok runtime ∧
            (main sampleEnv {} ∅).2.lookup (fileName ({} : Flags).outputPath shoot.name) =
              some (getYamlSpec sampleEnv runtime).1) :=
  ⟨rfl, main_completed_lookup sampleEnv {} ∅ rfl⟩

/-! ### Running it again -/

private theorem union_union_self (s t : Files) : s ∪ (s ∪ t) = s ∪ t :=
  Finmap.ext_lookup fun k => by
    by_cases hk : k ∈ s
    · rw [Finmap.lookup_union_left hk, Finmap.lookup_union_left hk]
    · rw [Finmap.lookup_union_right hk]

/-- `main` writes the same files whatever the directory held, over what it held. -/
theorem main_eq_union (flags : Flags) (files : Files) :
    main env flags files = ((main env flags ∅).1, (main env flags ∅).2 ∪ files) := by
  dsimp only [main]
  cases setupGardenerShootClient env flags.gardenerKubeconfigPath
    ("garden-" ++ flags.gardenerProjectName) with
  | none => simp only [Finmap.empty_union]
  | some client =>
    dsimp only
    cases env.listShoots client with
    | error err => simp only [Finmap.empty_union]
    | ok shoots =>
      dsimp only
      cases setupKubernetesKubeconfigProvider env flags.gardenerKubeconfigPath with
      | some _ => simp only [Finmap.empty_union]
      | none => exact migrate_eq_union env _ shoots files

/-- Running the migrator again with the same answers changes nothing: it ends the same way
and writes the same files over the ones it wrote. -/
theorem main_rerun (flags : Flags) (files : Files) :
    main env flags (main env flags files).2 = main env flags files := by
  rw [main_eq_union env flags files, main_eq_union env flags (_ ∪ files), union_union_self]

end InfrastructureManager.Migrator
