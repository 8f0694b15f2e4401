import InfrastructureManager.Controller.Steps

/-!
# The successful paths of a reconcile

What a reconcile computes when its calls are answered, branch by branch of
`handleExistingSecret`, `handleKubeconfig` and the end of `Reconcile`
(`gardener_cluster_controller.go:101–124,206–243`): the kubeconfig status, the error, the
access object with its conditions, the objects afterwards and the calls issued. Each
lemma is one branch, so that a proof about two reconciles in a row rewrites with them and
never unfolds the controller.
-/

namespace InfrastructureManager

section Paths

variable (controller : GardenerClusterController) (env : Env) (s : Server) (c : GardenerCluster)
  (t : Clock)

/-! ### `handleExistingSecret` -/

/-- A forced rotation drops the kubeconfig and the last-sync annotation of the secret
`getSecret` found, and reports `ksRotated`. -/
theorem handleExistingSecret_forced {kubeconfig : String} {x : Secret}
    (hf : env.fetch c.spec.shoot.name = .ok kubeconfig) (hforced : secretRotationForced c = true)
    (hu : env.fails .updateSecret = false) (hk : s.secrets.contains x.key = true) :
    (handleExistingSecret controller env c (some x) t).run s =
      ((.ksRotated, none, c), s.replaceSecret (withoutKubeconfig c x),
        [(.fetchKubeconfig, none), (.updateSecret, none)]) := by
  have h : s.updateSecret (withoutKubeconfig c x) = .ok (s.replaceSecret (withoutKubeconfig c x)) :=
    Server.updateSecret_eq_ok.mpr ⟨hk, rfl⟩
  simp [handleExistingSecret, hf, hforced, removeKubeconfig, updateSecret_run env s hu h, errorOf]

/-- A forced rotation without a secret changes nothing, and reports `ksRotated`. -/
theorem handleExistingSecret_forced_none {kubeconfig : String}
    (hf : env.fetch c.spec.shoot.name = .ok kubeconfig) (hforced : secretRotationForced c = true) :
    (handleExistingSecret controller env c none t).run s =
      ((.ksRotated, none, c), s, [(.fetchKubeconfig, none)]) := by
  simp [handleExistingSecret, hf, hforced, removeKubeconfig, errorOf]

/-- A secret whose rotation is neither due nor forced is left alone. -/
theorem handleExistingSecret_not_due {kubeconfig : String} {existing : Option Secret}
    (hf : env.fetch c.spec.shoot.name = .ok kubeconfig) (hforced : secretRotationForced c = false)
    (hdue : secretRotationTimePassed t.now existing controller.rotationPeriod = false) :
    (handleExistingSecret controller env c existing t).run s =
      ((.ksZero, none, c), s, [(.fetchKubeconfig, none)]) := by
  simp [handleExistingSecret, hf, hforced, hdue, secretNeedsToBeRotated, errorOf]

/-- A secret due for rotation gets the fresh kubeconfig and last-sync annotation, and the
access object the condition `KubeconfigSecretRotated`. -/
theorem handleExistingSecret_rotate {kubeconfig : String} {x : Secret}
    (hf : env.fetch c.spec.shoot.name = .ok kubeconfig) (hforced : secretRotationForced c = false)
    (hdue : secretRotationTimePassed t.now (some x) controller.rotationPeriod = true)
    (hu : env.fails .updateSecret = false) (hk : s.secrets.contains x.key = true) :
    (handleExistingSecret controller env c (some x) t).run s =
      ((.ksModified, none, c.updateConditionForReadyState .kubeconfigManagement
          .kubeconfigSecretRotated .conditionTrue),
        s.replaceSecret (withKubeconfig kubeconfig c x t.lastSyncTime),
        [(.fetchKubeconfig, none), (.updateSecret, none)]) := by
  have h : s.updateSecret (withKubeconfig kubeconfig c x t.lastSyncTime) =
      .ok (s.replaceSecret (withKubeconfig kubeconfig c x t.lastSyncTime)) :=
    Server.updateSecret_eq_ok.mpr ⟨hk, rfl⟩
  simp [handleExistingSecret, hf, hforced, hdue, secretNeedsToBeRotated, updateExistingSecret,
    updateSecret_run env s hu h, errorOf]

/-- Without a secret, `newSecret` is created at its free coordinates, and the access object
gets the condition `KubeconfigSecretCreated`. -/
theorem handleExistingSecret_create {kubeconfig : String}
    (hf : env.fetch c.spec.shoot.name = .ok kubeconfig) (hforced : secretRotationForced c = false)
    (hc : env.fails .createSecret = false)
    (hfree : s.secrets.contains (newSecret c kubeconfig t.lastSyncTime).key = false) :
    (handleExistingSecret controller env c none t).run s =
      ((.ksCreated, none, c.updateConditionForReadyState .kubeconfigManagement
          .kubeconfigSecretCreated .conditionTrue),
        s.addSecret (newSecret c kubeconfig t.lastSyncTime) hfree,
        [(.fetchKubeconfig, none), (.createSecret, none)]) := by
  have h : s.createSecret (newSecret c kubeconfig t.lastSyncTime) =
      .ok (s.addSecret (newSecret c kubeconfig t.lastSyncTime) hfree) := by
    simp [Server.createSecret, hfree]
  simp [handleExistingSecret, hf, hforced, secretNeedsToBeRotated, secretRotationTimePassed,
    createNewSecret, createSecret_run env s hc h, errorOf]

/-- Without a secret, the status is `ksCreated` whatever the `Create` answers. -/
theorem handleExistingSecret_none_status {kubeconfig : String}
    (hf : env.fetch c.spec.shoot.name = .ok kubeconfig) (hforced : secretRotationForced c = false) :
    ((handleExistingSecret controller env c none t).run s).1.1 = .ksCreated := by
  simp [handleExistingSecret, hf, hforced, secretNeedsToBeRotated, secretRotationTimePassed]

/-! ### `handleKubeconfig` -/

/-- `handleKubeconfig` goes on with the one secret carrying the shoot-name label. -/
theorem handleKubeconfig_found {x : Secret} (hl : env.fails .listSecrets = false)
    (hx : s.secrets.list (matchingLabels shootNameLabel c.spec.shoot.name ·.labels) = [x]) :
    (handleKubeconfig controller env c t).run s =
      (((handleExistingSecret controller env c (some x) t).run s).1,
        ((handleExistingSecret controller env c (some x) t).run s).2.1,
        (.listSecrets, none) :: ((handleExistingSecret controller env c (some x) t).run s).2.2) := by
  simp [handleKubeconfig, getSecret, listSecrets_run env s hl, hx]

/-- `handleKubeconfig` goes on without a secret when none carries the shoot-name label. -/
theorem handleKubeconfig_not_found (hl : env.fails .listSecrets = false)
    (hx : s.secrets.list (matchingLabels shootNameLabel c.spec.shoot.name ·.labels) = []) :
    (handleKubeconfig controller env c t).run s =
      (((handleExistingSecret controller env c none t).run s).1,
        ((handleExistingSecret controller env c none t).run s).2.1,
        (.listSecrets, none) :: ((handleExistingSecret controller env c none t).run s).2.2) := by
  simp [handleKubeconfig, getSecret, listSecrets_run env s hl, hx, Error.isNotFound]

/-- With no call rejected, `handleKubeconfig` reports `ksModified` only after rotating the
one secret carrying the shoot-name label, due for rotation, with a fetched kubeconfig. -/
theorem handleKubeconfig_modified (hok : ∀ call, env.fails call = false)
    (hforced : secretRotationForced c = false)
    (h : ((handleKubeconfig controller env c t).run s).1.1 = .ksModified) :
    ∃ x kubeconfig,
      s.secrets.list (matchingLabels shootNameLabel c.spec.shoot.name ·.labels) = [x] ∧
      env.fetch c.spec.shoot.name = .ok kubeconfig ∧
      secretRotationTimePassed t.now (some x) controller.rotationPeriod = true := by
  rcases hl : s.secrets.list (matchingLabels shootNameLabel c.spec.shoot.name ·.labels) with
    _ | ⟨x, _ | ⟨y, l⟩⟩
  · rw [handleKubeconfig_not_found controller env s c t (hok _) hl] at h
    cases hf : env.fetch c.spec.shoot.name with
    | error e => simp [handleExistingSecret, hf] at h
    | ok kubeconfig =>
      rw [handleExistingSecret_none_status controller env s c t hf hforced] at h
      cases h
  · rw [handleKubeconfig_found controller env s c t (hok _) hl] at h
    cases hf : env.fetch c.spec.shoot.name with
    | error e => simp [handleExistingSecret, hf] at h
    | ok kubeconfig =>
      cases hdue : secretRotationTimePassed t.now (some x) controller.rotationPeriod
      · rw [handleExistingSecret_not_due controller env s c t hf hforced hdue] at h
        cases h
      · exact ⟨x, kubeconfig, rfl, rfl, hdue⟩
  · simp [handleKubeconfig, getSecret, listSecrets_run env s (hok _), hl] at h

/-- With no call rejected, `handleKubeconfig` reports `ksCreated` without error only after
creating `newSecret` at free coordinates, no secret carrying the shoot-name label, with a
fetched kubeconfig. -/
theorem handleKubeconfig_created (hok : ∀ call, env.fails call = false)
    (hforced : secretRotationForced c = false)
    (h : ((handleKubeconfig controller env c t).run s).1.1 = .ksCreated)
    (he : ((handleKubeconfig controller env c t).run s).1.2.1 = none) :
    ∃ kubeconfig,
      s.secrets.list (matchingLabels shootNameLabel c.spec.shoot.name ·.labels) = [] ∧
      env.fetch c.spec.shoot.name = .ok kubeconfig ∧
      s.secrets.contains (newSecret c kubeconfig t.lastSyncTime).key = false := by
  rcases hl : s.secrets.list (matchingLabels shootNameLabel c.spec.shoot.name ·.labels) with
    _ | ⟨x, _ | ⟨y, l⟩⟩
  · rw [handleKubeconfig_not_found controller env s c t (hok _) hl] at h he
    cases hf : env.fetch c.spec.shoot.name with
    | error e => simp [handleExistingSecret, hf] at h
    | ok kubeconfig =>
      refine ⟨kubeconfig, rfl, rfl, ?_⟩
      cases hfree : s.secrets.contains (newSecret c kubeconfig t.lastSyncTime).key
      · rfl
      · have hc : s.createSecret (newSecret c kubeconfig t.lastSyncTime) = .error .alreadyExists :=
          Server.createSecret_eq_error.mpr ⟨hfree, rfl⟩
        simp [handleExistingSecret, hf, hforced, secretNeedsToBeRotated, secretRotationTimePassed,
          createNewSecret, createSecret, issueWrite, hok, hc] at he
  · rw [handleKubeconfig_found controller env s c t (hok _) hl] at h
    cases hf : env.fetch c.spec.shoot.name with
    | error e => simp [handleExistingSecret, hf] at h
    | ok kubeconfig =>
      cases hdue : secretRotationTimePassed t.now (some x) controller.rotationPeriod
      · rw [handleExistingSecret_not_due controller env s c t hf hforced hdue] at h
        cases h
      · simp [handleExistingSecret, hf, hforced, hdue, secretNeedsToBeRotated] at h
  · simp [handleKubeconfig, getSecret, listSecrets_run env s (hok _), hl] at h

/-! ### The end of `Reconcile` -/

/-- After a rotation, the force-rotation annotation is dropped from the stored access
object, and the reconcile is requeued. -/
theorem handleKubeconfigResult_rotated {stored : GardenerCluster}
    (hforced : secretRotationForced c = true) (hg : env.fails .getGardenerClusterToUpdate = false)
    (hu : env.fails .updateGardenerCluster = false) (hc : s.clusters.find? c.key = some stored) :
    (handleKubeconfigResult controller env (.ksRotated, none, c)).run s =
      ((controller.resultWithRequeue, none),
        s.withClusters (s.clusters.replace
          { stored with annotations := stored.annotations.erase forceKubeconfigRotationAnnotation }),
        [(.getGardenerClusterToUpdate, none), (.updateGardenerCluster, none)]) := by
  have hk : stored.key = c.key := (Store.find?_eq_some.mp hc).2
  have h : s.updateGardenerCluster
      { stored with annotations := stored.annotations.erase forceKubeconfigRotationAnnotation } =
      .ok (s.withClusters (s.clusters.replace
        { stored with annotations := stored.annotations.erase forceKubeconfigRotationAnnotation })) :=
    Server.updateGardenerCluster_eq_ok.mpr ⟨stored, hk ▸ hc, rfl⟩
  have hget : s.getGardenerCluster c.key = .ok stored := Server.getGardenerCluster_eq_ok.mpr hc
  simp [handleKubeconfigResult, removeForceRotationAnnotation, hforced, getGardenerCluster_run env s hg,
    hget, updateGardenerCluster_run env s hu h, requeueUnlessWritten, errorOf]

/-- After a write, the status is persisted and the reconcile is not requeued. -/
theorem handleKubeconfigResult_written {ks : KubeconfigStatus} {stored : GardenerCluster}
    (hks : ks = .ksCreated ∨ ks = .ksModified) (hp : env.fails .updateGardenerClusterStatus = false)
    (hc : s.clusters.find? c.key = some stored) :
    (handleKubeconfigResult controller env (ks, none, c)).run s =
      ((resultWithoutRequeue, none),
        s.withClusters (s.clusters.replace { stored with status := c.status }),
        [(.updateGardenerClusterStatus, none)]) := by
  have h : s.updateGardenerClusterStatus c =
      .ok (s.withClusters (s.clusters.replace { stored with status := c.status })) :=
    Server.updateGardenerClusterStatus_eq_ok.mpr ⟨stored, hc, rfl⟩
  have hr : ks ≠ .ksRotated := by rcases hks with rfl | rfl <;> decide
  simp [handleKubeconfigResult, hr, requeueUnlessWritten, hks, persistStatusChange,
    updateGardenerClusterStatus_run env s hp h]

/-- When nothing was written, the reconcile is requeued after a rotation period. -/
theorem handleKubeconfigResult_zero :
    (handleKubeconfigResult controller env (.ksZero, none, c)).run s =
      ((controller.resultWithRequeue, none), s, []) := by
  simp [handleKubeconfigResult, requeueUnlessWritten]

/-! ### `Reconcile` -/

/-- A reconcile of a stored access object is `handleKubeconfig` on it, then the end of
`Reconcile`. -/
theorem reconcile_of_found {req : NamespacedName} (hg : env.fails .getGardenerCluster = false)
    (hc : s.clusters.find? req = some c) :
    (reconcile controller env t req).run s =
      (((handleKubeconfigResult controller env ((handleKubeconfig controller env c t).run s).1).run
          ((handleKubeconfig controller env c t).run s).2.1).1,
        ((handleKubeconfigResult controller env ((handleKubeconfig controller env c t).run s).1).run
          ((handleKubeconfig controller env c t).run s).2.1).2.1,
        (.getGardenerCluster, none) :: (((handleKubeconfig controller env c t).run s).2.2 ++
          ((handleKubeconfigResult controller env ((handleKubeconfig controller env c t).run s).1).run
            ((handleKubeconfig controller env c t).run s).2.1).2.2)) := by
  have h : s.getGardenerCluster req = .ok c := Server.getGardenerCluster_eq_ok.mpr hc
  simp [reconcile, getGardenerCluster_run env s hg, h, errorOf]

/-- A forced rotation of a stored access object whose secret `getSecret` finds, every call
answered: the secret loses its kubeconfig and last-sync annotation, the access object its
force-rotation annotation, and the reconcile is requeued. -/
theorem reconcile_forced {kubeconfig : String} {x : Secret} (hok : ∀ call, env.fails call = false)
    (hf : env.fetch c.spec.shoot.name = .ok kubeconfig) (hforced : secretRotationForced c = true)
    (hc : s.clusters.find? c.key = some c)
    (hx : s.secrets.list (matchingLabels shootNameLabel c.spec.shoot.name ·.labels) = [x]) :
    (reconcile controller env t c.key).run s =
      ((controller.resultWithRequeue, none),
        (s.replaceSecret (withoutKubeconfig c x)).withClusters (s.clusters.replace
          { c with annotations := c.annotations.erase forceKubeconfigRotationAnnotation }),
        [(.getGardenerCluster, none), (.listSecrets, none), (.fetchKubeconfig, none),
          (.updateSecret, none), (.getGardenerClusterToUpdate, none),
          (.updateGardenerCluster, none)]) := by
  have hk : s.secrets.contains x.key = true :=
    Store.contains_of_mem (Store.mem_of_mem_list (hx ▸ List.mem_singleton_self x))
  rw [reconcile_of_found controller env s c t (hok _) hc,
    handleKubeconfig_found controller env s c t (hok _) hx,
    handleExistingSecret_forced controller env s c t hf hforced (hok _) hk]
  simp only
  rw [handleKubeconfigResult_rotated controller env (s.replaceSecret (withoutKubeconfig c x)) c
    hforced (hok _) (hok _) hc]
  rfl

/-- A forced rotation of a stored access object without a secret, every call answered:
only the force-rotation annotation is dropped, and the reconcile is requeued. -/
theorem reconcile_forced_none {kubeconfig : String} (hok : ∀ call, env.fails call = false)
    (hf : env.fetch c.spec.shoot.name = .ok kubeconfig) (hforced : secretRotationForced c = true)
    (hc : s.clusters.find? c.key = some c)
    (hx : s.secrets.list (matchingLabels shootNameLabel c.spec.shoot.name ·.labels) = []) :
    (reconcile controller env t c.key).run s =
      ((controller.resultWithRequeue, none),
        s.withClusters (s.clusters.replace
          { c with annotations := c.annotations.erase forceKubeconfigRotationAnnotation }),
        [(.getGardenerCluster, none), (.listSecrets, none), (.fetchKubeconfig, none),
          (.getGardenerClusterToUpdate, none), (.updateGardenerCluster, none)]) := by
  rw [reconcile_of_found controller env s c t (hok _) hc,
    handleKubeconfig_not_found controller env s c t (hok _) hx,
    handleExistingSecret_forced_none controller env s c t hf hforced]
  simp only
  rw [handleKubeconfigResult_rotated controller env _ c hforced (hok _) (hok _) hc]
  rfl

/-- A due rotation of the secret of a stored access object, every call answered: the
secret gets the fresh kubeconfig and last-sync annotation, the access object the
condition `KubeconfigSecretRotated`, and the reconcile is not requeued. -/
theorem reconcile_rotate {kubeconfig : String} {x : Secret} (hok : ∀ call, env.fails call = false)
    (hf : env.fetch c.spec.shoot.name = .ok kubeconfig) (hforced : secretRotationForced c = false)
    (hdue : secretRotationTimePassed t.now (some x) controller.rotationPeriod = true)
    (hc : s.clusters.find? c.key = some c)
    (hx : s.secrets.list (matchingLabels shootNameLabel c.spec.shoot.name ·.labels) = [x]) :
    (reconcile controller env t c.key).run s =
      ((resultWithoutRequeue, none),
        (s.replaceSecret (withKubeconfig kubeconfig c x t.lastSyncTime)).withClusters (s.clusters.replace
          { c with status := (c.updateConditionForReadyState .kubeconfigManagement
            .kubeconfigSecretRotated .conditionTrue).status }),
        [(.getGardenerCluster, none), (.listSecrets, none), (.fetchKubeconfig, none),
          (.updateSecret, none), (.updateGardenerClusterStatus, none)]) := by
  have hk : s.secrets.contains x.key = true :=
    Store.contains_of_mem (Store.mem_of_mem_list (hx ▸ List.mem_singleton_self x))
  rw [reconcile_of_found controller env s c t (hok _) hc,
    handleKubeconfig_found controller env s c t (hok _) hx,
    handleExistingSecret_rotate controller env s c t hf hforced hdue (hok _) hk]
  simp only
  rw [handleKubeconfigResult_written controller env
    (s.replaceSecret (withKubeconfig kubeconfig c x t.lastSyncTime))
    (c.updateConditionForReadyState .kubeconfigManagement .kubeconfigSecretRotated .conditionTrue)
    (.inr rfl) (hok _) hc]
  rfl

/-- The first reconcile of a stored access object without a secret, every call answered:
`newSecret` is created at its free coordinates, the access object gets the condition
`KubeconfigSecretCreated`, and the reconcile is not requeued. -/
theorem reconcile_create {kubeconfig : String} (hok : ∀ call, env.fails call = false)
    (hf : env.fetch c.spec.shoot.name = .ok kubeconfig) (hforced : secretRotationForced c = false)
    (hc : s.clusters.find? c.key = some c)
    (hx : s.secrets.list (matchingLabels shootNameLabel c.spec.shoot.name ·.labels) = [])
    (hfree : s.secrets.contains (newSecret c kubeconfig t.lastSyncTime).key = false) :
    (reconcile controller env t c.key).run s =
      ((resultWithoutRequeue, none),
        (s.addSecret (newSecret c kubeconfig t.lastSyncTime) hfree).withClusters (s.clusters.replace
          { c with status := (c.updateConditionForReadyState .kubeconfigManagement
            .kubeconfigSecretCreated .conditionTrue).status }),
        [(.getGardenerCluster, none), (.listSecrets, none), (.fetchKubeconfig, none),
          (.createSecret, none), (.updateGardenerClusterStatus, none)]) := by
  rw [reconcile_of_found controller env s c t (hok _) hc,
    handleKubeconfig_not_found controller env s c t (hok _) hx,
    handleExistingSecret_create controller env s c t hf hforced (hok _) hfree]
  simp only
  rw [handleKubeconfigResult_written controller env
    (s.addSecret (newSecret c kubeconfig t.lastSyncTime) hfree)
    (c.updateConditionForReadyState .kubeconfigManagement .kubeconfigSecretCreated .conditionTrue)
    (.inl rfl) (hok _) hc]
  rfl

/-- A reconcile of a stored access object whose secret is not due for rotation, every call
answered, changes nothing and is requeued after a rotation period. -/
theorem reconcile_not_due {kubeconfig : String} {x : Secret} (hok : ∀ call, env.fails call = false)
    (hf : env.fetch c.spec.shoot.name = .ok kubeconfig) (hforced : secretRotationForced c = false)
    (hdue : secretRotationTimePassed t.now (some x) controller.rotationPeriod = false)
    (hc : s.clusters.find? c.key = some c)
    (hx : s.secrets.list (matchingLabels shootNameLabel c.spec.shoot.name ·.labels) = [x]) :
    (reconcile controller env t c.key).run s =
      ((controller.resultWithRequeue, none), s,
        [(.getGardenerCluster, none), (.listSecrets, none), (.fetchKubeconfig, none)]) := by
  rw [reconcile_of_found controller env s c t (hok _) hc,
    handleKubeconfig_found controller env s c t (hok _) hx,
    handleExistingSecret_not_due controller env s c t hf hforced hdue]
  simp only
  rw [handleKubeconfigResult_zero]
  rfl

end Paths

/-- The access object `kcp-system/n` of the shoot `s`, with the given labels, keeping its
kubeconfig in the secret `kcp-system/kubeconfig-n` under `config`. -/
def accessObject (labels : StringMap) : GardenerCluster :=
  { name := "n", ns := "kcp-system", labels := labels, annotations := ∅,
    spec := ⟨⟨"s"⟩, ⟨⟨"kubeconfig-n", "kcp-system", "config"⟩⟩⟩, status := ⟨none, []⟩ }

/-- A server holding only that access object, and no secret. -/
def accessServer (labels : StringMap) : Server :=
  ⟨⟨[accessObject labels], List.nodup_singleton _⟩, Store.empty, by simp [Store.empty]⟩

end InfrastructureManager
