import InfrastructureManager.Controller.GardenerCluster

/-!
# What each step of a reconcile can do

One lemma per function of `gardener_cluster_controller.go`, saying what it answers and
what it can do to the objects of the API server, so that no later proof unfolds the
controller. Reads change nothing. A rejected or refused write changes nothing; a secret
write changes the secret store only, and an access-object write the access objects only.

`reconcile_secrets` collects them: one reconcile leaves the secrets as they are, adds the
stored form of `newSecret` when no secret carried the shoot-name label, rewrites the data
and annotations of the one secret that did, or deletes the one secret labelled with the
name of an access object that is gone. `reconcile_clusters` says that it changes at most
the annotations and status of stored access objects. Every invariant over runs is derived
from these two.
-/

namespace InfrastructureManager

/-! ### Calls -/

section Calls

variable (env : Env) (s : Server)

/-- A read changes no object. -/
@[simp] theorem issueRead_server {α : Type} (call : Call) (answer : Server → Except Error α) :
    ((issueRead env call answer).run s).2.1 = s := rfl

/-- A write is rejected or refused, answering an error and changing nothing, or it succeeds
and the objects afterwards are the server's answer. -/
theorem issueWrite_cases (call : Call) (answer : Server → Except Error Server) :
    (∃ e, ((issueWrite env call answer).run s).1 = some e ∧
        ((issueWrite env call answer).run s).2.1 = s) ∨
      (((issueWrite env call answer).run s).1 = none ∧ env.fails call = false ∧
        answer s = .ok ((issueWrite env call answer).run s).2.1) := by
  simp only [issueWrite]
  cases env.fails call
  · cases answer s <;> simp
  · simp

/-- A write that is not rejected and that the server accepts succeeds. -/
theorem issueWrite_of_ok {call : Call} {answer : Server → Except Error Server} {s' : Server}
    (hf : env.fails call = false) (h : answer s = .ok s') :
    (issueWrite env call answer).run s = (none, s', [(call, none)]) := by
  simp [issueWrite, hf, h]

@[simp] theorem getGardenerCluster_server (call : Call) (k : NamespacedName) :
    ((getGardenerCluster env call k).run s).2.1 = s := rfl

@[simp] theorem listSecrets_server (sel : StringMap → Bool) :
    ((listSecrets env sel).run s).2.1 = s := rfl

@[simp] theorem fetchKubeconfig_run (n : String) :
    (fetchKubeconfig env n).run s = (env.fetch n, s, [(.fetchKubeconfig, errorOf (env.fetch n))]) :=
  rfl

/-- A `Get` that is not rejected answers from the stored access objects. -/
theorem getGardenerCluster_run {call : Call} (hf : env.fails call = false) (k : NamespacedName) :
    (getGardenerCluster env call k).run s =
      (s.getGardenerCluster k, s, [(call, errorOf (s.getGardenerCluster k))]) := by
  simp [getGardenerCluster, issueRead, hf]

/-- A `List` that is not rejected answers the selected secrets. -/
theorem listSecrets_run (hf : env.fails .listSecrets = false) (sel : StringMap → Bool) :
    (listSecrets env sel).run s = (.ok (s.secrets.list (sel ·.labels)), s, [(.listSecrets, none)]) := by
  simp [listSecrets, issueRead, hf, errorOf]

theorem createSecret_run {x : Secret} {s' : Server} (hf : env.fails .createSecret = false)
    (h : s.createSecret x = .ok s') : (createSecret env x).run s = (none, s', [(.createSecret, none)]) :=
  issueWrite_of_ok env s hf h

theorem updateSecret_run {x : Secret} {s' : Server} (hf : env.fails .updateSecret = false)
    (h : s.updateSecret x = .ok s') : (updateSecret env x).run s = (none, s', [(.updateSecret, none)]) :=
  issueWrite_of_ok env s hf h

theorem deleteSecret_run {x : Secret} {s' : Server} (hf : env.fails .deleteSecret = false)
    (h : s.deleteSecret x = .ok s') : (deleteSecret env x).run s = (none, s', [(.deleteSecret, none)]) :=
  issueWrite_of_ok env s hf h

theorem updateGardenerCluster_run {c : GardenerCluster} {s' : Server}
    (hf : env.fails .updateGardenerCluster = false) (h : s.updateGardenerCluster c = .ok s') :
    (updateGardenerCluster env c).run s = (none, s', [(.updateGardenerCluster, none)]) :=
  issueWrite_of_ok env s hf h

theorem updateGardenerClusterStatus_run {c : GardenerCluster} {s' : Server}
    (hf : env.fails .updateGardenerClusterStatus = false)
    (h : s.updateGardenerClusterStatus c = .ok s') :
    (updateGardenerClusterStatus env c).run s = (none, s', [(.updateGardenerClusterStatus, none)]) :=
  issueWrite_of_ok env s hf h

/-- A secret `Create` changes nothing, or adds the stored form of the secret at a free key. -/
theorem createSecret_server (x : Secret) :
    ((createSecret env x).run s).2.1 = s ∨
      (s.secrets.contains x.key = false ∧ ((createSecret env x).run s).2.1.clusters = s.clusters ∧
        ((createSecret env x).run s).2.1.secrets.items = x.normalize :: s.secrets.items) := by
  rcases issueWrite_cases env s .createSecret (·.createSecret x) with ⟨-, -, h⟩ | ⟨-, -, h⟩
  · exact .inl h
  · exact .inr (Server.createSecret_eq_ok.mp h)

/-- A secret `Update` changes nothing, or replaces the secret at a taken key by the stored
form. -/
theorem updateSecret_server (x : Secret) :
    ((updateSecret env x).run s).2.1 = s ∨
      (s.secrets.contains x.key = true ∧ ((updateSecret env x).run s).2.1.clusters = s.clusters ∧
        ((updateSecret env x).run s).2.1.secrets = s.secrets.replace x.normalize) := by
  rcases issueWrite_cases env s .updateSecret (·.updateSecret x) with ⟨-, -, h⟩ | ⟨-, -, h⟩
  · exact .inl h
  · obtain ⟨hk, h'⟩ := Server.updateSecret_eq_ok.mp h
    exact .inr ⟨hk, (congrArg Server.clusters h').trans (Server.replaceSecret_clusters s x),
      (congrArg Server.secrets h').trans (Server.replaceSecret_secrets s x)⟩

/-- A secret `Delete` changes nothing, or removes the secret at a taken key. -/
theorem deleteSecret_server (x : Secret) :
    ((deleteSecret env x).run s).2.1 = s ∨
      (s.secrets.contains x.key = true ∧ ((deleteSecret env x).run s).2.1.clusters = s.clusters ∧
        ((deleteSecret env x).run s).2.1.secrets = s.secrets.remove x) := by
  rcases issueWrite_cases env s .deleteSecret (·.deleteSecret x) with ⟨-, -, h⟩ | ⟨-, -, h⟩
  · exact .inl h
  · obtain ⟨hk, h'⟩ := Server.deleteSecret_eq_ok.mp h
    exact .inr ⟨hk, (congrArg Server.clusters h').trans (Server.removeSecret_clusters s x),
      (congrArg Server.secrets h').trans (Server.removeSecret_secrets s x)⟩

/-- An access-object `Update` leaves the secrets as they are. -/
@[simp] theorem updateGardenerCluster_secrets (c : GardenerCluster) :
    ((updateGardenerCluster env c).run s).2.1.secrets = s.secrets := by
  rcases issueWrite_cases env s .updateGardenerCluster (·.updateGardenerCluster c) with
    ⟨-, -, h⟩ | ⟨-, -, h⟩
  · exact congrArg Server.secrets h
  · obtain ⟨_, _, h'⟩ := Server.updateGardenerCluster_eq_ok.mp h
    exact (congrArg Server.secrets h').trans (Server.withClusters_secrets _ _)

/-- A status `Update` leaves the secrets as they are. -/
@[simp] theorem updateGardenerClusterStatus_secrets (c : GardenerCluster) :
    ((updateGardenerClusterStatus env c).run s).2.1.secrets = s.secrets := by
  rcases issueWrite_cases env s .updateGardenerClusterStatus (·.updateGardenerClusterStatus c)
    with ⟨-, -, h⟩ | ⟨-, -, h⟩
  · exact congrArg Server.secrets h
  · obtain ⟨_, _, h'⟩ := Server.updateGardenerClusterStatus_eq_ok.mp h
    exact (congrArg Server.secrets h').trans (Server.withClusters_secrets _ _)

end Calls

/-! ### Secrets and their lookups -/

section Functions

variable (env : Env) (s : Server)

@[simp] theorem getSecret_server (n : String) : ((getSecret env n).run s).2.1 = s := by
  simp only [getSecret, run_bind, listSecrets_server]
  split <;> rfl

/-- `getSecret` answers a secret exactly when the `List` succeeds with that one secret. -/
theorem getSecret_eq_ok {n : String} {x : Secret} :
    ((getSecret env n).run s).1 = .ok x ↔ env.fails .listSecrets = false ∧
      s.secrets.list (matchingLabels shootNameLabel n ·.labels) = [x] := by
  cases hf : env.fails .listSecrets
  · simp only [getSecret, run_bind, listSecrets_run env s hf, true_and]
    split <;> simp_all
  · simp [getSecret, listSecrets, issueRead, hf]

/-- `getSecret` answers `NotFound` exactly when the `List` succeeds with no secret. -/
theorem getSecret_eq_notFound {n : String} :
    ((getSecret env n).run s).1 = .error .notFound ↔ env.fails .listSecrets = false ∧
      s.secrets.list (matchingLabels shootNameLabel n ·.labels) = [] := by
  cases hf : env.fails .listSecrets
  · simp only [getSecret, run_bind, listSecrets_run env s hf, true_and]
    split <;> simp_all
  · simp [getSecret, listSecrets, issueRead, hf]

/-- `deleteKubeconfigSecret` changes nothing, or deletes the one secret labelled with the
name. -/
theorem deleteKubeconfigSecret_server (n : String) :
    ((deleteKubeconfigSecret env n).run s).2.1 = s ∨
      ∃ x, s.secrets.list (matchingLabels clusterCRNameLabel n ·.labels) = [x] ∧
        s.secrets.contains x.key = true ∧
        ((deleteKubeconfigSecret env n).run s).2.1.clusters = s.clusters ∧
        ((deleteKubeconfigSecret env n).run s).2.1.secrets = s.secrets.remove x := by
  cases hf : env.fails .listSecrets
  · simp only [deleteKubeconfigSecret, run_bind, listSecrets_run env s hf]
    rcases hl : s.secrets.list (matchingLabels clusterCRNameLabel n ·.labels) with _ | ⟨x, _ | ⟨y, l⟩⟩
    · exact .inl rfl
    · exact (deleteSecret_server env s x).imp_right fun h => ⟨x, rfl, h⟩
    · exact .inl rfl
  · simp [deleteKubeconfigSecret, listSecrets, issueRead, hf]

/-! ### Writing the kubeconfig -/

@[simp] theorem createNewSecret_server (kubeconfig : String) (c : GardenerCluster) (t : Time) :
    ((createNewSecret env kubeconfig c t).run s).2.1 =
      ((createSecret env (newSecret c kubeconfig t)).run s).2.1 := by
  simp only [createNewSecret, run_bind]
  split <;> rfl

@[simp] theorem updateExistingSecret_server (kubeconfig : String) (c : GardenerCluster)
    (x : Secret) (t : Time) :
    ((updateExistingSecret env kubeconfig c x t).run s).2.1 =
      ((updateSecret env (withKubeconfig kubeconfig c x t)).run s).2.1 := by
  simp only [updateExistingSecret, run_bind]
  split <;> rfl

/-- What `handleExistingSecret` can do: nothing; rewrite the secret it was given, keeping
its key and labels; or, given none, create the stored form of `newSecret` at a free key. -/
theorem handleExistingSecret_server (controller : GardenerClusterController)
    (c : GardenerCluster) (existing : Option Secret) (t : Clock) :
    ((handleExistingSecret controller env c existing t).run s).2.1 = s ∨
      (∃ x, existing = some x ∧ ∃ y : Secret, y.key = x.key ∧ y.labels = x.labels ∧
        s.secrets.contains x.key = true ∧
        ((handleExistingSecret controller env c existing t).run s).2.1.clusters = s.clusters ∧
        ((handleExistingSecret controller env c existing t).run s).2.1.secrets =
          s.secrets.replace y.normalize) ∨
      (existing = none ∧ ∃ kubeconfig,
        s.secrets.contains (newSecret c kubeconfig t.lastSyncTime).key = false ∧
        ((handleExistingSecret controller env c existing t).run s).2.1.clusters = s.clusters ∧
        ((handleExistingSecret controller env c existing t).run s).2.1.secrets.items =
          (newSecret c kubeconfig t.lastSyncTime).normalize :: s.secrets.items) := by
  simp only [handleExistingSecret, run_bind, run_pure, fetchKubeconfig_run]
  cases env.fetch c.spec.shoot.name with
  | error e => exact .inl rfl
  | ok kubeconfig =>
    simp only
    split_ifs
    · cases existing with
      | none => exact .inl rfl
      | some x =>
        simp only [removeKubeconfig, run_bind]
        split <;>
        · simp only [run_pure]
          exact (updateSecret_server env s _).imp_right
            fun h => .inl ⟨x, rfl, withoutKubeconfig c x, rfl, rfl, h⟩
    · exact .inl rfl
    · cases existing with
      | none =>
        simp only [run_bind, run_pure, createNewSecret_server]
        exact (createSecret_server env s _).imp_right fun h => .inr ⟨trivial, kubeconfig, h⟩
      | some x =>
        simp only [run_bind, run_pure, updateExistingSecret_server]
        exact (updateSecret_server env s _).imp_right
          fun h => .inl ⟨x, rfl, withKubeconfig kubeconfig c x t.lastSyncTime, rfl, rfl, h⟩

/-- What `handleKubeconfig` can do: nothing; rewrite the one secret carrying the shoot-name
label, keeping its key and labels; or, when no secret carries it, create the stored form of
`newSecret` at a free key. -/
theorem handleKubeconfig_server (controller : GardenerClusterController) (c : GardenerCluster)
    (t : Clock) :
    ((handleKubeconfig controller env c t).run s).2.1 = s ∨
      (∃ x y : Secret,
        s.secrets.list (matchingLabels shootNameLabel c.spec.shoot.name ·.labels) = [x] ∧
        y.key = x.key ∧ y.labels = x.labels ∧ s.secrets.contains x.key = true ∧
        ((handleKubeconfig controller env c t).run s).2.1.clusters = s.clusters ∧
        ((handleKubeconfig controller env c t).run s).2.1.secrets = s.secrets.replace y.normalize) ∨
      (s.secrets.list (matchingLabels shootNameLabel c.spec.shoot.name ·.labels) = [] ∧
        ∃ kubeconfig, s.secrets.contains (newSecret c kubeconfig t.lastSyncTime).key = false ∧
        ((handleKubeconfig controller env c t).run s).2.1.clusters = s.clusters ∧
        ((handleKubeconfig controller env c t).run s).2.1.secrets.items =
          (newSecret c kubeconfig t.lastSyncTime).normalize :: s.secrets.items) := by
  simp only [handleKubeconfig, run_bind, getSecret_server]
  cases h : ((getSecret env c.spec.shoot.name).run s).1 with
  | error e =>
    simp only
    split_ifs with he
    · rw [Error.isNotFound_iff] at he
      have hl := ((getSecret_eq_notFound env s).mp (he ▸ h)).2
      rcases handleExistingSecret_server env s controller c none t with h' | ⟨x, hx, -⟩ | ⟨-, h'⟩
      · exact .inl h'
      · cases hx
      · exact .inr (.inr ⟨hl, h'⟩)
    · exact .inl rfl
  | ok x =>
    have hl := ((getSecret_eq_ok env s).mp h).2
    rcases handleExistingSecret_server env s controller c (some x) t with
      h' | ⟨x', hx, y, h'⟩ | ⟨hx, -⟩
    · exact .inl h'
    · cases hx; exact .inr (.inl ⟨x, y, hl, h'⟩)
    · cases hx

/-! ### Access objects -/

/-- `handleExistingSecret` hands back the access object with at most its status changed. -/
theorem handleExistingSecret_cluster (controller : GardenerClusterController)
    (c : GardenerCluster) (existing : Option Secret) (t : Clock) :
    ∃ status, ((handleExistingSecret controller env c existing t).run s).1.2.2 =
      { c with status := status } := by
  simp only [handleExistingSecret, run_bind, run_pure, fetchKubeconfig_run]
  cases env.fetch c.spec.shoot.name with
  | error e => exact ⟨_, rfl⟩
  | ok kubeconfig =>
    simp only
    split_ifs
    · simp only [run_bind]; split <;> exact ⟨_, rfl⟩
    · exact ⟨_, rfl⟩
    · cases existing <;> simp only [createNewSecret, updateExistingSecret, run_bind] <;> split <;>
        exact ⟨_, rfl⟩

/-- `handleKubeconfig` hands back the access object with at most its status changed. -/
theorem handleKubeconfig_cluster (controller : GardenerClusterController) (c : GardenerCluster)
    (t : Clock) :
    ∃ status, ((handleKubeconfig controller env c t).run s).1.2.2 = { c with status := status } := by
  simp only [handleKubeconfig, run_bind]
  split
  · split_ifs
    · exact handleExistingSecret_cluster env _ controller c none t
    · exact ⟨_, rfl⟩
  · exact handleExistingSecret_cluster env _ controller c _ t

/-- The access objects of `st'` stand at the keys of `st`, each with the labels and spec of
the one of `st` at its key. -/
def SpecsKept (st st' : Store GardenerCluster GardenerCluster.key) : Prop :=
  (∀ c' ∈ st'.items, ∃ c ∈ st.items, c'.key = c.key ∧ c'.labels = c.labels ∧ c'.spec = c.spec) ∧
    st'.items.map GardenerCluster.key = st.items.map GardenerCluster.key

theorem SpecsKept.refl (st : Store GardenerCluster GardenerCluster.key) : SpecsKept st st :=
  ⟨fun c hc => ⟨c, hc, rfl, rfl, rfl⟩, rfl⟩

theorem SpecsKept.trans {st₁ st₂ st₃ : Store GardenerCluster GardenerCluster.key}
    (h₁ : SpecsKept st₁ st₂) (h₂ : SpecsKept st₂ st₃) : SpecsKept st₁ st₃ := by
  refine ⟨fun c₃ hc₃ => ?_, h₂.2.trans h₁.2⟩
  obtain ⟨c₂, hc₂, h₃⟩ := h₂.1 c₃ hc₃
  obtain ⟨c₁, hc₁, h₄⟩ := h₁.1 c₂ hc₂
  exact ⟨c₁, hc₁, h₃.1.trans h₄.1, h₃.2.1.trans h₄.2.1, h₃.2.2.trans h₄.2.2⟩

/-- An access object `Get` finds after the specs are kept has the labels and spec of the one
stored before at its key. -/
theorem SpecsKept.exists_of_find? {st st' : Store GardenerCluster GardenerCluster.key}
    (h : SpecsKept st st') {k : NamespacedName} {c' : GardenerCluster}
    (hc' : st'.find? k = some c') :
    ∃ c, st.find? k = some c ∧ c'.labels = c.labels ∧ c'.spec = c.spec := by
  obtain ⟨hm, rfl⟩ := Store.find?_eq_some.mp hc'
  obtain ⟨c, hc, hk, hl, hs⟩ := h.1 c' hm
  exact ⟨c, Store.find?_eq_some.mpr ⟨hc, hk.symm⟩, hl, hs⟩

/-- Keeping the specs keeps the taken keys. -/
theorem SpecsKept.contains {st st' : Store GardenerCluster GardenerCluster.key}
    (h : SpecsKept st st') (k : NamespacedName) : st'.contains k = st.contains k :=
  Bool.eq_iff_iff.mpr (by simp only [Store.contains_iff, ← List.mem_map, h.2])

/-- The access objects of `st'` are those of `st` with at most the one at `k` rewritten,
keeping its key, labels and spec: the specs are kept, and `Get` answers as in `st` at every
other key. -/
def Retouched (k : NamespacedName) (st st' : Store GardenerCluster GardenerCluster.key) : Prop :=
  SpecsKept st st' ∧ ∀ k', k' ≠ k → st'.find? k' = st.find? k'

theorem Retouched.refl (k : NamespacedName) (st : Store GardenerCluster GardenerCluster.key) :
    Retouched k st st :=
  ⟨.refl st, fun _ _ => rfl⟩

theorem Retouched.trans {k : NamespacedName} {st₁ st₂ st₃ : Store GardenerCluster GardenerCluster.key}
    (h₁ : Retouched k st₁ st₂) (h₂ : Retouched k st₂ st₃) : Retouched k st₁ st₃ :=
  ⟨h₁.1.trans h₂.1, fun k' hk => (h₂.2 k' hk).trans (h₁.2 k' hk)⟩

/-- Writing a stored access object with its key, labels and spec retouches the store at
its key. -/
theorem retouched_replace {st : Store GardenerCluster GardenerCluster.key} {c x : GardenerCluster}
    (hc : st.find? c.key = some c) (hk : x.key = c.key) (hx : x.labels = c.labels ∧ x.spec = c.spec) :
    Retouched c.key st (st.replace x) := by
  refine ⟨⟨fun c' hc' => ?_, Store.map_key_replace st x⟩,
    fun k' h => Store.find?_replace_of_ne (hk ▸ h)⟩
  rcases Store.mem_replace hc' with rfl | h
  · exact ⟨c, (Store.find?_eq_some.mp hc).1, hk, hx⟩
  · exact ⟨c', h, rfl, rfl, rfl⟩

/-- A status `Update` only retouches the access object at the key of `c`. -/
theorem persistStatusChange_clusters (c : GardenerCluster) :
    Retouched c.key s.clusters ((persistStatusChange env c).run s).2.1.clusters := by
  rcases issueWrite_cases env s .updateGardenerClusterStatus (·.updateGardenerClusterStatus c)
    with ⟨-, -, h⟩ | ⟨-, -, h⟩
  · rw [show ((persistStatusChange env c).run s).2.1 = s from h]
    exact Retouched.refl _ _
  · obtain ⟨stored, hs, h'⟩ := Server.updateGardenerClusterStatus_eq_ok.mp h
    have hk := (Store.find?_eq_some.mp hs).2
    rw [show ((persistStatusChange env c).run s).2.1 = _ from h', ← hk]
    exact retouched_replace (hk ▸ hs) rfl ⟨rfl, rfl⟩

@[simp] theorem persistStatusChange_secrets (c : GardenerCluster) :
    ((persistStatusChange env c).run s).2.1.secrets = s.secrets :=
  updateGardenerClusterStatus_secrets env s c

/-- Dropping the force-rotation annotation only retouches the access object at the key of
`c`. -/
theorem removeForceRotationAnnotation_clusters (c : GardenerCluster) :
    Retouched c.key s.clusters (( removeForceRotationAnnotation env c).run s).2.1.clusters := by
  unfold removeForceRotationAnnotation
  split_ifs
  · simp only [run_bind, getGardenerCluster_server]
    cases hg : ((getGardenerCluster env .getGardenerClusterToUpdate c.key).run s).1 with
    | error e => exact Retouched.refl _ _
    | ok stored =>
      have hs : s.clusters.find? c.key = some stored ∧ stored.key = c.key := by
        cases hf : env.fails .getGardenerClusterToUpdate
        · rw [getGardenerCluster_run env s hf] at hg
          have h := Server.getGardenerCluster_eq_ok.mp hg
          exact ⟨h, (Store.find?_eq_some.mp h).2⟩
        · simp [getGardenerCluster, issueRead, hf] at hg
      let x := { stored with annotations := stored.annotations.erase forceKubeconfigRotationAnnotation }
      show Retouched c.key s.clusters ((updateGardenerCluster env x).run s).2.1.clusters
      rcases issueWrite_cases env s .updateGardenerCluster (·.updateGardenerCluster x)
        with ⟨-, -, h⟩ | ⟨-, -, h⟩
      · rw [show ((updateGardenerCluster env x).run s).2.1 = s from h]
        exact Retouched.refl _ _
      · obtain ⟨stored', -, h'⟩ := Server.updateGardenerCluster_eq_ok.mp h
        rw [show ((updateGardenerCluster env x).run s).2.1 = _ from h', ← hs.2]
        exact retouched_replace (hs.2 ▸ hs.1) rfl ⟨rfl, rfl⟩
  · exact Retouched.refl _ _

@[simp] theorem removeForceRotationAnnotation_secrets (c : GardenerCluster) :
    (( removeForceRotationAnnotation env c).run s).2.1.secrets = s.secrets := by
  unfold removeForceRotationAnnotation
  split_ifs
  · simp only [run_bind, getGardenerCluster_server]
    split
    · rfl
    · exact updateGardenerCluster_secrets env s _
  · rfl

/-! ### Reconcile -/

@[simp] theorem requeueUnlessWritten_secrets (controller : GardenerClusterController)
    (ks : KubeconfigStatus) (c : GardenerCluster) :
    ((requeueUnlessWritten controller env ks c).run s).2.1.secrets = s.secrets := by
  unfold requeueUnlessWritten; split_ifs <;> simp

theorem requeueUnlessWritten_clusters (controller : GardenerClusterController)
    (ks : KubeconfigStatus) (c : GardenerCluster) :
    Retouched c.key s.clusters ((requeueUnlessWritten controller env ks c).run s).2.1.clusters := by
  unfold requeueUnlessWritten
  split_ifs
  · exact persistStatusChange_clusters env s c
  · exact Retouched.refl _ _

/-- After `handleKubeconfig`, `Reconcile` writes no secret. -/
@[simp] theorem handleKubeconfigResult_secrets (controller : GardenerClusterController)
    (r : KubeconfigStatus × Option Error × GardenerCluster) :
    ((handleKubeconfigResult controller env r).run s).2.1.secrets = s.secrets := by
  obtain ⟨ks, _ | e, c⟩ := r
  · simp only [handleKubeconfigResult]
    split_ifs
    · simp only [run_bind]; split <;> simp
    · simp
  · simp [handleKubeconfigResult]

/-- After `handleKubeconfig`, `Reconcile` at most retouches the access object it was
handed back. -/
theorem handleKubeconfigResult_clusters (controller : GardenerClusterController)
    (r : KubeconfigStatus × Option Error × GardenerCluster) :
    Retouched r.2.2.key s.clusters ((handleKubeconfigResult controller env r).run s).2.1.clusters := by
  obtain ⟨ks, _ | e, c⟩ := r
  · simp only [handleKubeconfigResult]
    split_ifs
    · simp only [run_bind]
      split
      · exact removeForceRotationAnnotation_clusters env s c
      · exact (removeForceRotationAnnotation_clusters env s c).trans
          (requeueUnlessWritten_clusters env _ controller ks c)
    · exact requeueUnlessWritten_clusters env s controller ks c
  · exact persistStatusChange_clusters env s c

/-- A reconcile of `req` at most retouches the access object at `req`. -/
theorem reconcile_clusters (controller : GardenerClusterController) (now : Clock)
    (req : NamespacedName) :
    Retouched req s.clusters ((reconcile controller env now req).run s).2.1.clusters := by
  simp only [reconcile, run_bind, getGardenerCluster_server]
  split
  · split_ifs
    · simp only [run_bind, run_pure]
      rcases deleteKubeconfigSecret_server env s req.name with h | ⟨-, -, -, h, -⟩
      · rw [h]; exact Retouched.refl _ _
      · rw [h]; exact Retouched.refl _ _
    · exact Retouched.refl _ _
  · rename_i c hg
    have hk : c.key = req := by
      cases hf : env.fails .getGardenerCluster
      · rw [getGardenerCluster_run env s hf] at hg
        exact (Store.find?_eq_some.mp (Server.getGardenerCluster_eq_ok.mp hg)).2
      · simp [getGardenerCluster, issueRead, hf] at hg
    have hc : ((handleKubeconfig controller env c now).run s).2.1.clusters = s.clusters := by
      rcases handleKubeconfig_server env s controller c now with h | ⟨-, -, -, -, -, -, h, -⟩ |
        ⟨-, -, -, h, -⟩
      all_goals rw [h]
    obtain ⟨status, hr⟩ := handleKubeconfig_cluster env s controller c now
    have h := handleKubeconfigResult_clusters env ((handleKubeconfig controller env c now).run s).2.1
      controller ((handleKubeconfig controller env c now).run s).1
    rw [hc, hr] at h
    simp only [run_bind]
    exact hk ▸ h

/-- How one reconcile of `req` at `now` can change the secrets `st` of a server holding the
access objects `cs`. -/
inductive SecretsStep (cs : Store GardenerCluster GardenerCluster.key) (req : NamespacedName)
    (now : Clock) (st : Store Secret Secret.key) : Store Secret Secret.key → Prop
  /-- No secret is written, or every write failed. -/
  | unchanged : SecretsStep cs req now st st
  /-- The one secret carrying the shoot-name label of the access object is rewritten with
  its key and labels. -/
  | rewrite (c : GardenerCluster) (x y : Secret) :
      cs.find? req = some c →
      st.list (matchingLabels shootNameLabel c.spec.shoot.name ·.labels) = [x] →
      y.key = x.key → y.labels = x.labels → st.contains x.key = true →
      SecretsStep cs req now st (st.replace y.normalize)
  /-- No secret carries the shoot-name label, and `newSecret` is created at a free key. -/
  | create (c : GardenerCluster) (kubeconfig : String) (st' : Store Secret Secret.key) :
      cs.find? req = some c →
      st.list (matchingLabels shootNameLabel c.spec.shoot.name ·.labels) = [] →
      st.contains (newSecret c kubeconfig now.lastSyncTime).key = false →
      st'.items = (newSecret c kubeconfig now.lastSyncTime).normalize :: st.items →
      SecretsStep cs req now st st'
  /-- The access object is gone, and the one secret labelled with its name is deleted. -/
  | delete (x : Secret) :
      cs.find? req = none →
      st.list (matchingLabels clusterCRNameLabel req.name ·.labels) = [x] →
      st.contains x.key = true →
      SecretsStep cs req now st (st.remove x)

/-- What a reconcile can do to the secrets. -/
theorem reconcile_secrets (controller : GardenerClusterController) (now : Clock)
    (req : NamespacedName) :
    SecretsStep s.clusters req now s.secrets ((reconcile controller env now req).run s).2.1.secrets := by
  simp only [reconcile, run_bind, getGardenerCluster_server]
  cases hf : env.fails .getGardenerCluster
  · simp only [getGardenerCluster_run env s hf]
    cases hc : s.clusters.find? req with
    | none =>
      have hg : s.getGardenerCluster req = .error .notFound :=
        Server.getGardenerCluster_eq_error.mpr ⟨hc, rfl⟩
      simp only [hg, Error.isNotFound, if_true, run_bind, run_pure]
      rcases deleteKubeconfigSecret_server env s req.name with h | ⟨x, hl, hk, -, h⟩
      · rw [h]; exact .unchanged
      · rw [h]; exact .delete x hc hl hk
    | some c =>
      have hg : s.getGardenerCluster req = .ok c := Server.getGardenerCluster_eq_ok.mpr hc
      simp only [hg, run_bind, handleKubeconfigResult_secrets]
      rcases handleKubeconfig_server env s controller c now with h | ⟨x, y, hl, hk, hy, hx, -, h⟩ |
        ⟨hl, kubeconfig, hfree, -, h⟩
      · rw [h]; exact .unchanged
      · rw [h]; exact .rewrite c x y hc hl hk hy hx
      · exact .create c kubeconfig _ hc hl hfree h
  · simp [getGardenerCluster, issueRead, hf, Error.isNotFound]
    exact .unchanged

/-- A reconcile of `req` writes no access object but the one at `req`, and the secret at
one key at most: whatever its calls answer, `Get` answers as before everywhere else. -/
theorem reconcile_local_writes (controller : GardenerClusterController) (now : Clock)
    (req : NamespacedName) :
    (∀ k, k ≠ req →
      ((reconcile controller env now req).run s).2.1.clusters.find? k = s.clusters.find? k) ∧
    ∃ k, ∀ k', k' ≠ k →
      ((reconcile controller env now req).run s).2.1.secrets.find? k' = s.secrets.find? k' := by
  refine ⟨(reconcile_clusters env s controller now req).2, ?_⟩
  have step := reconcile_secrets env s controller now req
  generalize ((reconcile controller env now req).run s).2.1.secrets = st' at step ⊢
  cases step with
  | unchanged => exact ⟨req, fun _ _ => rfl⟩
  | rewrite c x y _ _ _ _ _ =>
    exact ⟨y.normalize.key, fun _ hk => Store.find?_replace_of_ne hk⟩
  | create c kubeconfig st' _ _ _ h =>
    exact ⟨(newSecret c kubeconfig now.lastSyncTime).normalize.key,
      fun _ hk => Store.find?_of_items_cons h hk⟩
  | delete x _ _ _ => exact ⟨x.key, fun _ hk => Store.find?_remove_of_ne hk⟩

end Functions

end InfrastructureManager
