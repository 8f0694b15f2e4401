import InfrastructureManager.Controller.Client
import InfrastructureManager.Time.Minutes

/-!
# The rotation reconciler

`src/internal/controller/gardener_cluster_controller.go`, function by function. A
reconcile reads the `GardenerCluster` at the request; when it is gone, the secret
labelled with its name is deleted. Otherwise `handleKubeconfig` finds the secret
labelled with the shoot name, fetches a fresh kubeconfig, and either invalidates the
secret (forced rotation), leaves it (not due), overwrites it, or creates it.

A reconcile reads the clock twice: for the last-sync time it writes (line 99), and in
`secretRotationTimePassed` (line 269), after the secret is listed and the kubeconfig fetched.
The two readings are a `Clock`; a `Time` where a `Clock` is expected stands for both readings
at that instant. Logging is not modelled.
-/

namespace InfrastructureManager

/-- `GardenerClusterController`: the rotation period it was built with. Its client and
kubeconfig provider are the `Env` of each reconcile. -/
structure GardenerClusterController where
  rotationPeriod : Duration

/-- `ctrl.Result`. -/
structure Result where
  requeue : Bool
  requeueAfter : Duration
  deriving DecidableEq, Repr

/-- `resultWithRequeue` (`gardener_cluster_controller.go:135–140`). -/
def GardenerClusterController.resultWithRequeue (controller : GardenerClusterController) :
    Result :=
  ⟨true, controller.rotationPeriod⟩

/-- `resultWithoutRequeue` (`gardener_cluster_controller.go:142–144`). -/
def resultWithoutRequeue : Result := ⟨false, Duration.zero⟩

/-- `kubeconfigStatus` (`gardener_cluster_controller.go:197–204`). -/
inductive KubeconfigStatus
  | ksZero
  | ksCreated
  | ksModified
  | ksRotated
  deriving DecidableEq, Repr

/-- `rotationPeriodRatio = 0.95` (`gardener_cluster_controller.go:250`), an untyped constant that
the product at line 272 converts to `float64`. -/
def rotationPeriodRatio : ℚ := roundRatio 95 100

/-- `alreadyValidFor.Minutes() >= rotationPeriodRatio*rotationPeriod.Minutes()`
(`gardener_cluster_controller.go:272`), in `float64`. -/
def rotationPeriodPassed (alreadyValidFor rotationPeriod : Duration) : Bool :=
  decide (mulFloat64 rotationPeriodRatio rotationPeriod.minutes ≤ alreadyValidFor.minutes)

/-- The two readings of `time.Now()` in one reconcile: `lastSyncTime` (line 99), written to the
secret, and `now` (line 269), which the due check compares with. -/
structure Clock where
  lastSyncTime : Time
  now : Time
  deriving DecidableEq, Repr

/-- Both readings at one instant. -/
@[coe, reducible] def Clock.ofTime (t : Time) : Clock := ⟨t, t⟩

instance : Coe Time Clock := ⟨Clock.ofTime⟩

@[simp] theorem Clock.ofTime_lastSyncTime (t : Time) : (Clock.ofTime t).lastSyncTime = t := rfl

@[simp] theorem Clock.ofTime_now (t : Time) : (Clock.ofTime t).now = t := rfl

/-- `deleteKubeconfigSecret` (`gardener_cluster_controller.go:154–170`). -/
def deleteKubeconfigSecret (env : Env) (clusterCRName : String) :
    ControllerM (Option Error) := do
  match ← listSecrets env (matchingLabels clusterCRNameLabel clusterCRName) with
  | .error err => return some err
  | .ok [secret] => deleteSecret env secret
  | .ok _ => return some (.errorf (unexpectedSecretsForClusterCR clusterCRName))

/-- `getSecret` (`gardener_cluster_controller.go:172–195`). -/
def getSecret (env : Env) (shootName : String) : ControllerM (Except Error Secret) := do
  match ← listSecrets env (matchingLabels shootNameLabel shootName) with
  | .error err => return .error err
  | .ok [] => return .error .notFound
  | .ok [secret] => return .ok secret
  | .ok _ => return .error (.errorf (unexpectedSecretsForShoot shootName))

/-- `secretRotationTimePassed` (`gardener_cluster_controller.go:249–273`). -/
def secretRotationTimePassed (now : Time) (secret : Option Secret) (rotationPeriod : Duration) :
    Bool :=
  match secret with
  | none => true
  | some secret =>
    match secret.annotations.lookup lastKubeconfigSyncAnnotation with
    | none => true
    | some lastSyncTimeString =>
      match parseRFC3339 lastSyncTimeString with
      | none => true
      | some lastSyncTime => rotationPeriodPassed (now.sub lastSyncTime) rotationPeriod

/-- `secretRotationForced` (`gardener_cluster_controller.go:275–283`). -/
def secretRotationForced (cluster : GardenerCluster) : Bool :=
  (cluster.annotations.lookup forceKubeconfigRotationAnnotation).isSome

/-- `secretNeedsToBeRotated` (`gardener_cluster_controller.go:245–247`). -/
def secretNeedsToBeRotated (now : Time) (cluster : GardenerCluster) (secret : Option Secret)
    (rotationPeriod : Duration) : Bool :=
  secretRotationTimePassed now secret rotationPeriod || secretRotationForced cluster

/-- `newSecret` (`gardener_cluster_controller.go:368–386`): the access object's labels,
with the ownership label and the access object's name added. -/
def newSecret (cluster : GardenerCluster) (kubeconfig : String) (lastSyncTime : Time) : Secret where
  name := cluster.spec.kubeconfig.secret.name
  ns := cluster.spec.kubeconfig.secret.ns
  labels := (cluster.labels.insert managedByLabel "infrastructure-manager").insert
    clusterCRNameLabel cluster.name
  annotations := Finmap.singleton lastKubeconfigSyncAnnotation (formatRFC3339 lastSyncTime)
  data := ∅
  stringData := Finmap.singleton cluster.spec.kubeconfig.secret.key kubeconfig

/-- `newSecret` labels the secret with the access object's name. -/
@[simp] theorem newSecret_clusterCRName (cluster : GardenerCluster) (kubeconfig : String)
    (lastSyncTime : Time) :
    (newSecret cluster kubeconfig lastSyncTime).labels.lookup clusterCRNameLabel =
      some cluster.name :=
  Finmap.lookup_insert _

/-- `newSecret` copies the shoot-name label of the access object, whatever it is. -/
@[simp] theorem newSecret_shootName (cluster : GardenerCluster) (kubeconfig : String)
    (lastSyncTime : Time) :
    (newSecret cluster kubeconfig lastSyncTime).labels.lookup shootNameLabel =
      cluster.labels.lookup shootNameLabel := by
  simp only [newSecret]
  rw [Finmap.lookup_insert_of_ne _ (by decide), Finmap.lookup_insert_of_ne _ (by decide)]

/-- `createNewSecret` (`gardener_cluster_controller.go:285–299`). -/
def createNewSecret (env : Env) (kubeconfig : String) (cluster : GardenerCluster)
    (lastSyncTime : Time) : ControllerM (Option Error × GardenerCluster) := do
  match ← createSecret env (newSecret cluster kubeconfig lastSyncTime) with
  | some err =>
    return (some err, cluster.updateConditionForErrorState .kubeconfigManagement
      .failedToCreateSecret)
  | none =>
    return (none, cluster.updateConditionForReadyState .kubeconfigManagement
      .kubeconfigSecretCreated .conditionTrue)

/-- The secret with its kubeconfig and last-sync annotation removed
(`gardener_cluster_controller.go:306–310`). -/
def withoutKubeconfig (cluster : GardenerCluster) (secret : Secret) : Secret :=
  { secret with
    data := secret.data.erase cluster.spec.kubeconfig.secret.key
    annotations := secret.annotations.erase lastKubeconfigSyncAnnotation }

@[simp] theorem withoutKubeconfig_key (cluster : GardenerCluster) (secret : Secret) :
    (withoutKubeconfig cluster secret).key = secret.key := rfl

@[simp] theorem withoutKubeconfig_labels (cluster : GardenerCluster) (secret : Secret) :
    (withoutKubeconfig cluster secret).labels = secret.labels := rfl

/-- `removeKubeconfig` (`gardener_cluster_controller.go:301–313`). -/
def removeKubeconfig (env : Env) (cluster : GardenerCluster) (existingSecret : Option Secret) :
    ControllerM (Option Error) :=
  match existingSecret with
  | none => return none
  | some secret => updateSecret env (withoutKubeconfig cluster secret)

/-- The secret with a fresh kubeconfig and last-sync annotation
(`gardener_cluster_controller.go:316–326`). -/
def withKubeconfig (kubeconfig : String) (cluster : GardenerCluster) (secret : Secret)
    (lastSyncTime : Time) : Secret :=
  { secret with
    data := secret.data.insert cluster.spec.kubeconfig.secret.key kubeconfig
    annotations := secret.annotations.insert lastKubeconfigSyncAnnotation
      (formatRFC3339 lastSyncTime) }

@[simp] theorem withKubeconfig_key (kubeconfig : String) (cluster : GardenerCluster)
    (secret : Secret) (lastSyncTime : Time) :
    (withKubeconfig kubeconfig cluster secret lastSyncTime).key = secret.key := rfl

@[simp] theorem withKubeconfig_labels (kubeconfig : String) (cluster : GardenerCluster)
    (secret : Secret) (lastSyncTime : Time) :
    (withKubeconfig kubeconfig cluster secret lastSyncTime).labels = secret.labels := rfl

/-- `updateExistingSecret` (`gardener_cluster_controller.go:315–341`). -/
def updateExistingSecret (env : Env) (kubeconfig : String) (cluster : GardenerCluster)
    (existingSecret : Secret) (lastSyncTime : Time) :
    ControllerM (Option Error × GardenerCluster) := do
  match ← updateSecret env (withKubeconfig kubeconfig cluster existingSecret lastSyncTime) with
  | some err =>
    return (some err, cluster.updateConditionForErrorState .kubeconfigManagement
      .failedToUpdateSecret)
  | none =>
    return (none, cluster.updateConditionForReadyState .kubeconfigManagement
      .kubeconfigSecretRotated .conditionTrue)

/-- `removeForceRotationAnnotation` (`gardener_cluster_controller.go:343–366`): read the
stored access object again and drop its force-rotation annotation. -/
def removeForceRotationAnnotation (env : Env) (cluster : GardenerCluster) :
    ControllerM (Option Error) :=
  if secretRotationForced cluster then do
    match ← getGardenerCluster env .getGardenerClusterToUpdate cluster.key with
    | .error err => return some err
    | .ok clusterToUpdate =>
      updateGardenerCluster env { clusterToUpdate with
        annotations := clusterToUpdate.annotations.erase forceKubeconfigRotationAnnotation }
  else return none

/-- `handleKubeconfig` from the fetch on (`gardener_cluster_controller.go:213–242`), for
the secret `getSecret` found, if any. -/
def handleExistingSecret (controller : GardenerClusterController) (env : Env)
    (cluster : GardenerCluster) (existingSecret : Option Secret) (clock : Clock) :
    ControllerM (KubeconfigStatus × Option Error × GardenerCluster) := do
  match ← fetchKubeconfig env cluster.spec.shoot.name with
  | .error err =>
    return (.ksZero, some err, cluster.updateConditionForErrorState .kubeconfigManagement
      .failedToGetKubeconfig)
  | .ok kubeconfig =>
    if secretRotationForced cluster then
      match ← removeKubeconfig env cluster existingSecret with
      | some err =>
        return (.ksZero, some err, cluster.updateConditionForErrorState .kubeconfigManagement
          .failedToDeleteSecret)
      | none => return (.ksRotated, none, cluster)
    else if !secretNeedsToBeRotated clock.now cluster existingSecret
        controller.rotationPeriod then
      return (.ksZero, none, cluster)
    else
      match existingSecret with
      | some secret => do
        let (err, cluster) ← updateExistingSecret env kubeconfig cluster secret clock.lastSyncTime
        return (.ksModified, err, cluster)
      | none => do
        let (err, cluster) ← createNewSecret env kubeconfig cluster clock.lastSyncTime
        return (.ksCreated, err, cluster)

/-- `handleKubeconfig` (`gardener_cluster_controller.go:206–243`), given `lastSyncTime` and the
later reading of the clock as `clock`. It returns the access object with the conditions it
recorded. -/
def handleKubeconfig (controller : GardenerClusterController) (env : Env)
    (cluster : GardenerCluster) (clock : Clock) :
    ControllerM (KubeconfigStatus × Option Error × GardenerCluster) := do
  match ← getSecret env cluster.spec.shoot.name with
  | .error err =>
    if err.isNotFound then handleExistingSecret controller env cluster none clock
    else
      return (.ksZero, some err, cluster.updateConditionForErrorState .kubeconfigManagement
        .failedToGetSecret)
  | .ok secret => handleExistingSecret controller env cluster (some secret) clock

/-- `persistStatusChange` (`gardener_cluster_controller.go:146–152`). -/
def persistStatusChange (env : Env) (cluster : GardenerCluster) :
    ControllerM (Option Error) :=
  updateGardenerClusterStatus env cluster

/-- The end of `Reconcile` (`gardener_cluster_controller.go:119–124`): persist the status
after a write and stop, or requeue after a rotation period. -/
def requeueUnlessWritten (controller : GardenerClusterController) (env : Env)
    (kubeconfigStatus : KubeconfigStatus) (cluster : GardenerCluster) :
    ControllerM (Result × Option Error) :=
  if kubeconfigStatus = .ksCreated ∨ kubeconfigStatus = .ksModified then do
    let _ ← persistStatusChange env cluster
    return (resultWithoutRequeue, none)
  else return (controller.resultWithRequeue, none)

/-- `Reconcile` after `handleKubeconfig` (`gardener_cluster_controller.go:101–124`). -/
def handleKubeconfigResult (controller : GardenerClusterController) (env : Env) :
    KubeconfigStatus × Option Error × GardenerCluster → ControllerM (Result × Option Error)
  | (_, some err, cluster) => do
    let _ ← persistStatusChange env cluster
    return (resultWithoutRequeue, if err.isNotFound then none else some err)
  | (kubeconfigStatus, none, cluster) =>
    if kubeconfigStatus = .ksRotated then do
      match ← removeForceRotationAnnotation env cluster with
      | some err => return (resultWithoutRequeue, some err)
      | none => requeueUnlessWritten controller env kubeconfigStatus cluster
    else requeueUnlessWritten controller env kubeconfigStatus cluster

/-- `Reconcile` (`gardener_cluster_controller.go:81–125`), reading the clock as `clock`. -/
def reconcile (controller : GardenerClusterController) (env : Env) (clock : Clock)
    (req : NamespacedName) : ControllerM (Result × Option Error) := do
  match ← getGardenerCluster env .getGardenerCluster req with
  | .error err =>
    if err.isNotFound then do
      let err ← deleteKubeconfigSecret env req.name
      return (resultWithoutRequeue, err)
    else return (resultWithoutRequeue, some err)
  | .ok cluster =>
    handleKubeconfig controller env cluster clock >>= handleKubeconfigResult controller env

end InfrastructureManager
