import InfrastructureManager.Controller.Objects

/-!
# The API server as the controller sees it

A reconcile runs in `ControllerM`, a state monad over the server's objects and the
log of the calls issued so far (`gardener_cluster_controller.go:86,147,160,169,179,213,
287,312,328,353,362`). Each call may be rejected by the environment, which answers
`failed` and changes nothing; otherwise the server answers from the objects it holds.
`NotFound` and `AlreadyExists` therefore come from the stored objects, never from a
fault. The kubeconfig provider answers `Fetch` with any kubeconfig or any error.
-/

namespace InfrastructureManager

/-- The objects the API server holds. -/
structure Server where
  clusters : Store GardenerCluster GardenerCluster.key
  secrets : Store Secret Secret.key
  /-- `StringData` is write-only: the server merges it into `Data` and stores none. -/
  secretsStored : ∀ x ∈ secrets.items, x.stringData = ∅

/-- The server with the secrets a write of the stored form of `x` produced: every secret
is the written one or was stored before. -/
def Server.withSecrets (s : Server) (x : Secret) (st : Store Secret Secret.key)
    (h : ∀ y ∈ st.items, y = x.normalize ∨ y ∈ s.secrets.items) : Server :=
  ⟨s.clusters, st, fun y hy => (h y hy).elim (fun e => e ▸ rfl) (s.secretsStored y)⟩

/-- The server with other access objects. -/
def Server.withClusters (s : Server) (st : Store GardenerCluster GardenerCluster.key) : Server :=
  { s with clusters := st }

/-- Two servers holding the same objects are equal. -/
@[ext] theorem Server.ext {s₁ s₂ : Server} (hc : s₁.clusters = s₂.clusters)
    (hs : s₁.secrets = s₂.secrets) : s₁ = s₂ := by
  cases s₁; cases s₂; cases hc; cases hs; rfl

@[simp] theorem Server.withSecrets_clusters (s : Server) (x st h) :
    (s.withSecrets x st h).clusters = s.clusters := rfl

@[simp] theorem Server.withSecrets_secrets (s : Server) (x st h) :
    (s.withSecrets x st h).secrets = st := rfl

@[simp] theorem Server.withClusters_clusters (s : Server) (st) :
    (s.withClusters st).clusters = st := rfl

@[simp] theorem Server.withClusters_secrets (s : Server) (st) :
    (s.withClusters st).secrets = s.secrets := rfl

/-- The API calls of the controller, by call site where one kind of call is made at two
places. -/
inductive Call
  | getGardenerCluster
  | listSecrets
  | deleteSecret
  | fetchKubeconfig
  | createSecret
  | updateSecret
  | getGardenerClusterToUpdate
  | updateGardenerCluster
  | updateGardenerClusterStatus
  deriving DecidableEq, Repr

/-- Whether a call writes a secret. -/
def Call.writesSecret : Call → Bool
  | .createSecret | .updateSecret | .deleteSecret => true
  | _ => false

/-- What the world answers during one reconcile. -/
structure Env where
  /-- `KubeconfigProvider.Fetch`: a kubeconfig for a shoot, or its error. -/
  fetch : String → Except Error String
  /-- The calls the API server rejects (a transport error, a conflict, a server error). -/
  fails : Call → Bool

/-- The environment that rejects no call and fetches `kubeconfig` for every shoot. -/
def Env.faultless (kubeconfig : String) : Env := ⟨fun _ => .ok kubeconfig, fun _ => false⟩

/-- A call and the error it answered, if any. -/
abbrev CallRecord := Call × Option Error

/-- The controller's computations: from the server's objects, a result, the objects
afterwards, and the calls issued, in order. A computation cannot read the calls made
before it. -/
structure ControllerM (α : Type) where
  run : Server → α × Server × List CallRecord

instance : Monad ControllerM where
  pure a := ⟨fun s => (a, s, [])⟩
  bind x f := ⟨fun s =>
    let r := x.run s
    let r' := (f r.1).run r.2.1
    (r'.1, r'.2.1, r.2.2 ++ r'.2.2)⟩

/-- The error a call answered, if any. -/
def errorOf {α : Type} : Except Error α → Option Error
  | .ok _ => none
  | .error e => some e

/-- Issue a read: a rejected call answers `failed`; otherwise the server answers from its
objects. Either way the objects are unchanged and the call is logged with its error. -/
def issueRead {α : Type} (env : Env) (call : Call) (answer : Server → Except Error α) :
    ControllerM (Except Error α) :=
  ⟨fun s =>
    let r := if env.fails call then .error .failed else answer s
    (r, s, [(call, errorOf r)])⟩

/-- Issue a write: a rejected call answers `failed` and changes nothing; otherwise the
server applies `answer` to its objects, or answers its error. The call is logged with
its error. -/
def issueWrite (env : Env) (call : Call) (answer : Server → Except Error Server) :
    ControllerM (Option Error) :=
  ⟨fun s =>
    match (if env.fails call then .error .failed else answer s) with
    | .ok s' => (none, s', [(call, none)])
    | .error e => (some e, s, [(call, some e)])⟩

/-! ### The server's answers -/

/-- The server's answer to a `Get` of an access object. -/
def Server.getGardenerCluster (s : Server) (key : NamespacedName) :
    Except Error GardenerCluster :=
  match s.clusters.find? key with
  | some c => .ok c
  | none => .error .notFound

/-- The server with the stored form of `x` added at its free key. -/
def Server.addSecret (s : Server) (x : Secret) (h : s.secrets.contains x.key = false) : Server :=
  s.withSecrets x (s.secrets.cons x.normalize h) fun _ => List.mem_cons.mp

/-- The server with the stored form of `x` at the key of `x`. -/
def Server.replaceSecret (s : Server) (x : Secret) : Server :=
  s.withSecrets x (s.secrets.replace x.normalize) fun _ => Store.mem_replace

/-- The server without the secret at the key of `x`. -/
def Server.removeSecret (s : Server) (x : Secret) : Server :=
  s.withSecrets x (s.secrets.remove x) fun _ hy => .inr (Store.mem_remove hy)

@[simp] theorem Server.addSecret_clusters (s : Server) (x : Secret) (h) :
    (s.addSecret x h).clusters = s.clusters := rfl

@[simp] theorem Server.addSecret_items (s : Server) (x : Secret) (h) :
    (s.addSecret x h).secrets.items = x.normalize :: s.secrets.items := rfl

@[simp] theorem Server.replaceSecret_clusters (s : Server) (x : Secret) :
    (s.replaceSecret x).clusters = s.clusters := rfl

@[simp] theorem Server.replaceSecret_secrets (s : Server) (x : Secret) :
    (s.replaceSecret x).secrets = s.secrets.replace x.normalize := rfl

@[simp] theorem Server.removeSecret_clusters (s : Server) (x : Secret) :
    (s.removeSecret x).clusters = s.clusters := rfl

@[simp] theorem Server.removeSecret_secrets (s : Server) (x : Secret) :
    (s.removeSecret x).secrets = s.secrets.remove x := rfl

/-- The server's answer to a `Create` of a secret: `AlreadyExists` at a taken key. -/
def Server.createSecret (s : Server) (x : Secret) : Except Error Server :=
  if h : s.secrets.contains x.key then .error .alreadyExists
  else .ok (s.addSecret x (by simpa using h))

/-- The server's answer to an `Update` of a secret: `NotFound` at a free key. -/
def Server.updateSecret (s : Server) (x : Secret) : Except Error Server :=
  if s.secrets.contains x.key then .ok (s.replaceSecret x) else .error .notFound

/-- The server's answer to a `Delete` of a secret: `NotFound` at a free key. -/
def Server.deleteSecret (s : Server) (x : Secret) : Except Error Server :=
  if s.secrets.contains x.key then .ok (s.removeSecret x) else .error .notFound

/-- The server's answer to an `Update` of an access object: the status subresource keeps
the stored status. -/
def Server.updateGardenerCluster (s : Server) (c : GardenerCluster) : Except Error Server :=
  match s.clusters.find? c.key with
  | some stored => (s.clusters.update { c with status := stored.status }).map s.withClusters
  | none => .error .notFound

/-- The server's answer to a `Status().Update` of an access object: only the status is
written. -/
def Server.updateGardenerClusterStatus (s : Server) (c : GardenerCluster) :
    Except Error Server :=
  match s.clusters.find? c.key with
  | some stored => (s.clusters.update { stored with status := c.status }).map s.withClusters
  | none => .error .notFound

/-- A `Get` finds exactly the stored access object. -/
theorem Server.getGardenerCluster_eq_ok {s : Server} {k : NamespacedName} {c : GardenerCluster} :
    s.getGardenerCluster k = .ok c ↔ s.clusters.find? k = some c := by
  unfold getGardenerCluster; split <;> simp_all

/-- A `Get` fails only with `NotFound`, when nothing is stored at the key. -/
theorem Server.getGardenerCluster_eq_error {s : Server} {k : NamespacedName} {e : Error} :
    s.getGardenerCluster k = .error e ↔ s.clusters.find? k = none ∧ e = .notFound := by
  unfold getGardenerCluster
  cases h : s.clusters.find? k
  · simp only [Except.error.injEq, true_and]; exact eq_comm
  · simp

/-- A secret `Create` succeeds exactly at a free key, adding the stored form first. -/
theorem Server.createSecret_eq_ok {s s' : Server} {x : Secret} :
    s.createSecret x = .ok s' ↔ s.secrets.contains x.key = false ∧ s'.clusters = s.clusters ∧
      s'.secrets.items = x.normalize :: s.secrets.items := by
  unfold createSecret
  split
  · simp_all
  · rename_i h
    simp only [Except.ok.injEq]
    constructor
    · rintro rfl; exact ⟨by simpa using h, rfl, rfl⟩
    · rintro ⟨-, h₁, h₂⟩; exact Server.ext h₁.symm (Store.ext h₂.symm)

/-- A secret `Create` fails only at a taken key, with `AlreadyExists`. -/
theorem Server.createSecret_eq_error {s : Server} {x : Secret} {e : Error} :
    s.createSecret x = .error e ↔ s.secrets.contains x.key = true ∧ e = .alreadyExists := by
  unfold createSecret
  split
  · rename_i h; simp only [h, true_and, Except.error.injEq]; exact eq_comm
  · simp_all

/-- A secret `Update` succeeds exactly at a taken key, replacing it by the stored form. -/
theorem Server.updateSecret_eq_ok {s s' : Server} {x : Secret} :
    s.updateSecret x = .ok s' ↔ s.secrets.contains x.key = true ∧ s' = s.replaceSecret x := by
  unfold updateSecret
  split
  · rename_i h; simp only [h, true_and, Except.ok.injEq]; exact eq_comm
  · simp_all

/-- A secret `Delete` succeeds exactly at a taken key, removing the secret there. -/
theorem Server.deleteSecret_eq_ok {s s' : Server} {x : Secret} :
    s.deleteSecret x = .ok s' ↔ s.secrets.contains x.key = true ∧ s' = s.removeSecret x := by
  unfold deleteSecret
  split
  · rename_i h; simp only [h, true_and, Except.ok.injEq]; exact eq_comm
  · simp_all

/-- An access-object `Update` succeeds exactly when the object is stored, and writes it
with the stored status. -/
theorem Server.updateGardenerCluster_eq_ok {s s' : Server} {c : GardenerCluster} :
    s.updateGardenerCluster c = .ok s' ↔ ∃ stored, s.clusters.find? c.key = some stored ∧
      s' = s.withClusters (s.clusters.replace { c with status := stored.status }) := by
  unfold updateGardenerCluster
  cases h : s.clusters.find? c.key with
  | none => simp
  | some stored =>
    have hc : s.clusters.contains c.key = true :=
      Store.contains_iff.mpr ⟨stored, (Store.find?_eq_some.mp h).1, (Store.find?_eq_some.mp h).2⟩
    simp only [Store.update, GardenerCluster.key] at hc ⊢
    simp [hc, Except.map, eq_comm]

/-- A status `Update` succeeds exactly when the object is stored, and writes the stored
object with the new status. -/
theorem Server.updateGardenerClusterStatus_eq_ok {s s' : Server} {c : GardenerCluster} :
    s.updateGardenerClusterStatus c = .ok s' ↔ ∃ stored, s.clusters.find? c.key = some stored ∧
      s' = s.withClusters (s.clusters.replace { stored with status := c.status }) := by
  unfold updateGardenerClusterStatus
  cases h : s.clusters.find? c.key with
  | none => simp
  | some stored =>
    obtain ⟨hm, hk⟩ := Store.find?_eq_some.mp h
    have hc : s.clusters.contains stored.key = true := Store.contains_iff.mpr ⟨stored, hm, rfl⟩
    simp only [Store.update, GardenerCluster.key] at hc ⊢
    simp [hc, Except.map, eq_comm]

/-! ### The calls -/

/-- `Get` of a `GardenerCluster`, at one of the two call sites. -/
def getGardenerCluster (env : Env) (call : Call) (key : NamespacedName) :
    ControllerM (Except Error GardenerCluster) :=
  issueRead env call (·.getGardenerCluster key)

/-- `List` of secrets with a label selector. -/
def listSecrets (env : Env) (sel : StringMap → Bool) : ControllerM (Except Error (List Secret)) :=
  issueRead env .listSecrets fun s => .ok (s.secrets.list (sel ·.labels))

/-- `Create` of a secret. -/
def createSecret (env : Env) (x : Secret) : ControllerM (Option Error) :=
  issueWrite env .createSecret (·.createSecret x)

/-- `Update` of a secret. -/
def updateSecret (env : Env) (x : Secret) : ControllerM (Option Error) :=
  issueWrite env .updateSecret (·.updateSecret x)

/-- `Delete` of a secret. -/
def deleteSecret (env : Env) (x : Secret) : ControllerM (Option Error) :=
  issueWrite env .deleteSecret (·.deleteSecret x)

/-- `Update` of a `GardenerCluster`. -/
def updateGardenerCluster (env : Env) (c : GardenerCluster) : ControllerM (Option Error) :=
  issueWrite env .updateGardenerCluster (·.updateGardenerCluster c)

/-- `Status().Update` of a `GardenerCluster`. -/
def updateGardenerClusterStatus (env : Env) (c : GardenerCluster) : ControllerM (Option Error) :=
  issueWrite env .updateGardenerClusterStatus (·.updateGardenerClusterStatus c)

/-- `KubeconfigProvider.Fetch`: the environment's answer, logged. -/
def fetchKubeconfig (env : Env) (shootName : String) : ControllerM (Except Error String) :=
  ⟨fun s => (env.fetch shootName, s, [(.fetchKubeconfig, errorOf (env.fetch shootName))])⟩

/-! ### Running computations -/

/-- A returned value leaves the objects as they are and issues no call. -/
@[simp] theorem run_pure {α : Type} (a : α) (s : Server) :
    (pure a : ControllerM α).run s = (a, s, []) := rfl

/-- A bind runs its first computation, then the continuation from the objects it leaves;
the calls of both are issued in order. -/
@[simp] theorem run_bind {α β : Type} (x : ControllerM α) (f : α → ControllerM β) (s : Server) :
    (x >>= f).run s =
      (((f (x.run s).1).run (x.run s).2.1).1, ((f (x.run s).1).run (x.run s).2.1).2.1,
        (x.run s).2.2 ++ ((f (x.run s).1).run (x.run s).2.1).2.2) := rfl

end InfrastructureManager
