import InfrastructureManager.Time.Calendar
import InfrastructureManager.Shoot.Auditlog

/-!
# Creating the shoot of a runtime

`sFnCreateShoot` (`runtime_fsm_create_shoot.go:16–111`) is the state of the runtime's
state machine that has no shoot yet. When the runtime asks for it, it checks that a seed
serves its region; it fetches the audit-log data, reads the maintenance window of a
production runtime, converts the runtime into a shoot (`convertCreate`, lines 113–125) and
creates it.

The collaborators are not in the sources: the seed check, the audit-log and
maintenance-window lookups, the label validation, the converter and the shoot client are
the answers of a `CreateShootEnv`, each with the results and the error the Go call
returns; the status helpers follow the spec. The sources carry, after `convertCreate`, the
extender `ExtendWithExposureClassName` (lines 135–141, of the package `extender`), which
sets the exposure class of an OpenStack runtime's shoot.
-/

namespace InfrastructureManager.Fsm

/-- The `imv1.ConditionReason`s `sFnCreateShoot` writes. -/
inductive ConditionReason
  | gardenerError
  | seedNotFound
  | auditLogError
  | conversionError
  | shootCreationPending
  deriving DecidableEq, Repr

/-- The condition of type `RuntimeProvisioned`: its reason, status and message. -/
structure ProvisionedCondition where
  reason : ConditionReason
  status : String
  message : String
  deriving DecidableEq, Repr

/-- The part of `imv1.Runtime` that `sFnCreateShoot` reads and writes. -/
structure Runtime where
  enforceSeedLocation : Option Bool
  providerType : String
  region : String
  purpose : String
  state : String
  provisioned : Option ProvisionedCondition
  deriving DecidableEq, Repr

/-- `UpdateStatePending`, which is not in the sources: it records the given `RuntimeProvisioned`
condition. The spec names no state value for it; the state `Pending` is this model's choice, and
no statement reads it. -/
def Runtime.updateStatePending (r : Runtime) (reason : ConditionReason)
    (status message : String) : Runtime :=
  { r with state := "Pending", provisioned := some ⟨reason, status, message⟩ }

/-- `gardener.MaintenanceTimeWindow`. -/
structure MaintenanceTimeWindow where
  windowBegin : String
  windowEnd : String
  deriving DecidableEq, Repr

/-- `gardener_shoot.CreateOpts`, without the converter configuration, which only the
converter reads. -/
structure CreateOpts where
  auditLogData : AuditLogData
  maintenanceTimeWindow : Option MaintenanceTimeWindow
  deriving DecidableEq, Repr

/-- The configuration of the state machine that `sFnCreateShoot` reads:
`RCCfg.AuditLogMandatory`, `GardenerRequeueDuration` and
`ConverterConfig.MaintenanceWindow.WindowMapPath`. -/
structure FsmConfig where
  auditLogMandatory : Bool
  gardenerRequeueDuration : Duration
  windowMapPath : String

/-- The answers of the collaborators of `sFnCreateShoot`, each with the results and the
error of the Go call: `seedForRegionAvailable`, `GetAuditLogData`, `GetMaintenanceWindow`,
`ValidateRequiredLabels`, the converter's `ToShoot` and the shoot client's `Create`. -/
structure CreateShootEnv where
  seedForRegionAvailable : String → String → Bool × List String × Option String
  getAuditLogData : String → String → AuditLogData × Option String
  getMaintenanceWindow : String → String → Option MaintenanceTimeWindow × Option String
  validateRequiredLabels : Runtime → Option String
  toShoot : CreateOpts → Runtime → Except String Shoot
  create : Shoot → Option String

/-- What a state function hands the machine next; only the two helpers `sFnCreateShoot`
ends with occur. Modelled from the spec: `updateStatusAndRequeueAfter` writes the status and
requeues after the duration, `updateStatePendingWithErrorAndStop` writes it and stops. -/
inductive Next
  | requeueAfter (d : Duration)
  | stop
  deriving DecidableEq

/-- A run of `sFnCreateShoot`: the runtime with its new status, what comes next, how often
the stop counter was incremented, and the shoots handed to the shoot client's `Create`. -/
structure Step where
  runtime : Runtime
  next : Next
  stops : Nat
  created : List Shoot

/-- `msgFailedToConfigureAuditlogs`. -/
def msgFailedToConfigureAuditlogs : String := "Failed to configure audit logs"

/-- `%v` of a `[]string`: the elements between brackets, separated by blanks. -/
def formatStrings (l : List String) : String := "[" ++ " ".intercalate l ++ "]"

/-- `updateStatusAndRequeueAfter`, modelled from the spec. -/
def updateStatusAndRequeueAfter (r : Runtime) (d : Duration) (created : List Shoot) : Step :=
  ⟨r, .requeueAfter d, 0, created⟩

/-- `updateStatePendingWithErrorAndStop` after `IncRuntimeFSMStopCounter`, modelled from the
spec: the runtime pending with a `False` condition, one more stop counted. -/
def stopWithError (r : Runtime) (reason : ConditionReason) (message : String) : Step :=
  ⟨r.updateStatePending reason "False" message, .stop, 1, []⟩

/-- `convertCreate` (`runtime_fsm_create_shoot.go:113–125`); the shoot returned beside an
error is dropped, since the caller never reads it. -/
def convertCreate (env : CreateShootEnv) (runtime : Runtime) (opts : CreateOpts) :
    Except String Shoot :=
  match env.validateRequiredLabels runtime with
  | some err => .error err
  | none => env.toShoot opts runtime

/-- The seed check of `sFnCreateShoot` (lines 19–43): the step it ends with, if any. -/
def checkSeed (config : FsmConfig) (env : CreateShootEnv) (r : Runtime) : Option Step :=
  if r.enforceSeedLocation = some true then
    match env.seedForRegionAvailable r.providerType r.region with
    | (_, _, some _) =>
      some (updateStatusAndRequeueAfter
        (r.updateStatePending .gardenerError "False"
          ("Failed to verify whether seed is available for the region " ++ r.region ++ "."))
        config.gardenerRequeueDuration [])
    | (seedAvailable, regionsWithSeeds, none) =>
      if !seedAvailable then
        some (stopWithError r .seedNotFound
          ("Cannot find available seed for the region " ++ r.region ++
            ". The followig regions have seeds ready: " ++ formatStrings regionsWithSeeds ++ "."))
      else none
  else none

/-- The maintenance window `sFnCreateShoot` passes on (lines 62–68): looked up for a
production runtime when a window map is configured, whatever the lookup's error. -/
def maintenanceWindow (config : FsmConfig) (env : CreateShootEnv) (r : Runtime) :
    Option MaintenanceTimeWindow :=
  if r.purpose = "production" ∧ config.windowMapPath ≠ "" then
    (env.getMaintenanceWindow config.windowMapPath r.region).1
  else none

/-- `sFnCreateShoot` (`runtime_fsm_create_shoot.go:16–111`). Logging is not modelled. -/
def sFnCreateShoot (config : FsmConfig) (env : CreateShootEnv) (r : Runtime) : Step :=
  match checkSeed config env r with
  | some step => step
  | none =>
    let (data, err) := env.getAuditLogData r.providerType r.region
    if err.isSome ∧ config.auditLogMandatory then
      stopWithError r .auditLogError msgFailedToConfigureAuditlogs
    else
      match convertCreate env r ⟨data, maintenanceWindow config env r⟩ with
      | .error _ => stopWithError r .conversionError "Runtime conversion error"
      | .ok shoot =>
        match env.create shoot with
        | some err =>
          updateStatusAndRequeueAfter
            (r.updateStatePending .gardenerError "False" ("Gardener API create error: " ++ err))
            config.gardenerRequeueDuration [shoot]
        | none =>
          updateStatusAndRequeueAfter
            (r.updateStatePending .shootCreationPending "Unknown" "Shoot is pending")
            config.gardenerRequeueDuration [shoot]

/-! ### The exposure-class extender -/

/-- `hyperscaler.TypeOpenStack`, not in the sources: the provider type Gardener gives
OpenStack. -/
def typeOpenStack : String := "openstack"

/-- `ExtendWithExposureClassName`, which the sources carry after `convertCreate`: the
exposure class `converged-cloud-internet` for an OpenStack runtime. -/
def extendWithExposureClassName : Extend Runtime := fun runtime shoot =>
  if runtime.providerType = typeOpenStack then
    .ok { shoot with exposureClassName := some "converged-cloud-internet" }
  else .ok shoot

end InfrastructureManager.Fsm
