import InfrastructureManager.Controller.Steps

/-!
# Cleaning up after a deleted access object

`Reconcile` of a name whose access object is gone lists the secrets labelled
`operator.kyma-project.io/cluster-name` with that name and deletes the one it finds
(`gardener_cluster_controller.go:87–97,154–170`). The check `len(secretList.Items) != 1`
treats no secret like several secrets: `reconcile_gone_deletes_secret` is the one-secret
case, and `reconcile_gone_without_secret` the no-secret case, which fails with the
ambiguity error. So once the secret is gone every further reconcile of the name fails,
and a redelivered deletion never succeeds (`reconcile_gone_redelivered`).
-/

namespace InfrastructureManager

section Gone

variable (env : Env) (s : Server)

/-- `deleteKubeconfigSecret` deletes the one secret labelled with the name. -/
theorem deleteKubeconfigSecret_of_singleton {n : String} {x : Secret}
    (hl : env.fails .listSecrets = false) (hd : env.fails .deleteSecret = false)
    (hx : s.secrets.list (matchingLabels clusterCRNameLabel n ·.labels) = [x]) :
    ((deleteKubeconfigSecret env n).run s).1 = none ∧
      ((deleteKubeconfigSecret env n).run s).2.1.clusters = s.clusters ∧
      ((deleteKubeconfigSecret env n).run s).2.1.secrets = s.secrets.remove x ∧
      ((deleteKubeconfigSecret env n).run s).2.2 = [(.listSecrets, none), (.deleteSecret, none)] := by
  have hk : s.secrets.contains x.key = true :=
    Store.contains_of_mem (Store.mem_of_mem_list (hx ▸ List.mem_singleton_self x))
  have hs : s.deleteSecret x = .ok (s.removeSecret x) := Server.deleteSecret_eq_ok.mpr ⟨hk, rfl⟩
  simp only [deleteKubeconfigSecret, run_bind, listSecrets_run env s hl, hx,
    deleteSecret_run env s hd hs]
  exact ⟨trivial, rfl, rfl, rfl⟩

/-- `deleteKubeconfigSecret` reports the ambiguity error whenever it does not find exactly
one secret, none included, and changes nothing. -/
theorem deleteKubeconfigSecret_of_not_singleton {n : String}
    (hl : env.fails .listSecrets = false)
    (hx : ∀ x, s.secrets.list (matchingLabels clusterCRNameLabel n ·.labels) ≠ [x]) :
    (deleteKubeconfigSecret env n).run s =
      (some (.errorf (unexpectedSecretsForClusterCR n)), s, [(.listSecrets, none)]) := by
  simp only [deleteKubeconfigSecret, run_bind, listSecrets_run env s hl]
  rfl

/-- A reconcile of a name whose access object is gone is the cleanup of its secret. -/
theorem reconcile_of_gone (controller : GardenerClusterController) (now : Clock)
    {req : NamespacedName} (hg : env.fails .getGardenerCluster = false)
    (hgone : s.clusters.find? req = none) :
    (reconcile controller env now req).run s =
      ((resultWithoutRequeue, ((deleteKubeconfigSecret env req.name).run s).1),
        ((deleteKubeconfigSecret env req.name).run s).2.1,
        (.getGardenerCluster, some .notFound) :: ((deleteKubeconfigSecret env req.name).run s).2.2) := by
  have h : s.getGardenerCluster req = .error .notFound :=
    Server.getGardenerCluster_eq_error.mpr ⟨hgone, rfl⟩
  simp [reconcile, getGardenerCluster_run env s hg, h, errorOf, Error.isNotFound]

/-- With the access object gone and exactly one secret labelled with its name, a reconcile
whose calls are not rejected deletes that secret and succeeds; none is left. -/
theorem reconcile_gone_deletes_secret (controller : GardenerClusterController) (now : Clock)
    {req : NamespacedName} {x : Secret} (hg : env.fails .getGardenerCluster = false)
    (hl : env.fails .listSecrets = false) (hd : env.fails .deleteSecret = false)
    (hgone : s.clusters.find? req = none)
    (hx : s.secrets.list (matchingLabels clusterCRNameLabel req.name ·.labels) = [x]) :
    ((reconcile controller env now req).run s).1 = (resultWithoutRequeue, none) ∧
      ((reconcile controller env now req).run s).2.1.clusters = s.clusters ∧
      ((reconcile controller env now req).run s).2.1.secrets = s.secrets.remove x ∧
      ((reconcile controller env now req).run s).2.1.secrets.list
        (matchingLabels clusterCRNameLabel req.name ·.labels) = [] := by
  obtain ⟨h₁, h₂, h₃, -⟩ := deleteKubeconfigSecret_of_singleton env s hl hd hx
  rw [reconcile_of_gone env s controller now hg hgone]
  refine ⟨by rw [h₁], h₂, h₃, ?_⟩
  simp [h₃, Store.list_remove, hx]

/-- The secret of the access object `kcp-system/n`, labelled with its name. -/
def orphanSecret : Secret :=
  ⟨"kubeconfig-n", "kcp-system", Finmap.singleton clusterCRNameLabel "n", ∅, ∅, ∅⟩

/-- A server holding that secret, and no access object. -/
def orphanServer : Server := ⟨Store.empty, ⟨[orphanSecret], by decide⟩, by decide⟩

example :
    orphanServer.clusters.find? ⟨"kcp-system", "n"⟩ = none ∧
      orphanServer.secrets.list (matchingLabels clusterCRNameLabel "n" ·.labels) = [orphanSecret] ∧
      ((reconcile ⟨Duration.zero⟩ (Env.faultless "") (Clock.ofTime ⟨0⟩) ⟨"kcp-system", "n"⟩).run
        orphanServer).1 = (resultWithoutRequeue, none) ∧
      ((reconcile ⟨Duration.zero⟩ (Env.faultless "") (Clock.ofTime ⟨0⟩) ⟨"kcp-system", "n"⟩).run
        orphanServer).2.1.clusters = orphanServer.clusters ∧
      ((reconcile ⟨Duration.zero⟩ (Env.faultless "") (Clock.ofTime ⟨0⟩) ⟨"kcp-system", "n"⟩).run
        orphanServer).2.1.secrets = orphanServer.secrets.remove orphanSecret ∧
      ((reconcile ⟨Duration.zero⟩ (Env.faultless "") (Clock.ofTime ⟨0⟩) ⟨"kcp-system", "n"⟩).run
        orphanServer).2.1.secrets.list (matchingLabels clusterCRNameLabel "n" ·.labels) = [] :=
  ⟨by decide, by decide, reconcile_gone_deletes_secret (Env.faultless "") orphanServer ⟨Duration.zero⟩
    (Clock.ofTime ⟨0⟩) rfl rfl rfl (by decide) (by decide)⟩

/-- With the access object gone and no secret labelled with its name, a reconcile whose
calls are not rejected fails with the ambiguity error and changes nothing. -/
theorem reconcile_gone_without_secret (controller : GardenerClusterController) (now : Clock)
    {req : NamespacedName} (hg : env.fails .getGardenerCluster = false)
    (hl : env.fails .listSecrets = false) (hgone : s.clusters.find? req = none)
    (hnone : s.secrets.list (matchingLabels clusterCRNameLabel req.name ·.labels) = []) :
    (reconcile controller env now req).run s =
      ((resultWithoutRequeue, some (.errorf (unexpectedSecretsForClusterCR req.name))), s,
        [(.getGardenerCluster, some .notFound), (.listSecrets, none)]) := by
  rw [reconcile_of_gone env s controller now hg hgone,
    deleteKubeconfigSecret_of_not_singleton env s hl (by simp [hnone])]

end Gone

/-- A deletion reconcile is not idempotent: after a reconcile that deleted the one secret
of a gone access object and succeeded, the same reconcile again fails with the ambiguity
error. -/
theorem reconcile_gone_redelivered (controller : GardenerClusterController) (env₁ env₂ : Env)
    (now₁ now₂ : Time) (s : Server) (req : NamespacedName) (x : Secret)
    (hg₁ : env₁.fails .getGardenerCluster = false) (hl₁ : env₁.fails .listSecrets = false)
    (hd₁ : env₁.fails .deleteSecret = false) (hg₂ : env₂.fails .getGardenerCluster = false)
    (hl₂ : env₂.fails .listSecrets = false) (hgone : s.clusters.find? req = none)
    (hx : s.secrets.list (matchingLabels clusterCRNameLabel req.name ·.labels) = [x]) :
    ((reconcile controller env₁ now₁ req).run s).1 = (resultWithoutRequeue, none) ∧
      ((reconcile controller env₂ now₂ req).run ((reconcile controller env₁ now₁ req).run s).2.1).1 =
        (resultWithoutRequeue, some (.errorf (unexpectedSecretsForClusterCR req.name))) := by
  obtain ⟨h₁, h₂, -, h₄⟩ := reconcile_gone_deletes_secret env₁ s controller now₁ hg₁ hl₁ hd₁ hgone hx
  refine ⟨h₁, ?_⟩
  rw [reconcile_gone_without_secret env₂ _ controller now₂ hg₂ hl₂ (h₂ ▸ hgone) h₄]

theorem reconcile_gone_redelivered_orphan :
    orphanServer.clusters.find? ⟨"kcp-system", "n"⟩ = none ∧
      orphanServer.secrets.list (matchingLabels clusterCRNameLabel "n" ·.labels) = [orphanSecret] ∧
      ((reconcile ⟨Duration.zero⟩ (Env.faultless "") (Clock.ofTime ⟨0⟩) ⟨"kcp-system", "n"⟩).run
        orphanServer).1 = (resultWithoutRequeue, none) ∧
      ((reconcile ⟨Duration.zero⟩ (Env.faultless "") (Clock.ofTime ⟨1⟩) ⟨"kcp-system", "n"⟩).run
        ((reconcile ⟨Duration.zero⟩ (Env.faultless "") (Clock.ofTime ⟨0⟩) ⟨"kcp-system", "n"⟩).run
          orphanServer).2.1).1 =
        (resultWithoutRequeue, some (.errorf (unexpectedSecretsForClusterCR "n"))) :=
  ⟨by decide, by decide, reconcile_gone_redelivered ⟨Duration.zero⟩ (Env.faultless "")
    (Env.faultless "") ⟨0⟩ ⟨1⟩ orphanServer ⟨"kcp-system", "n"⟩ orphanSecret rfl rfl rfl rfl rfl
    (by decide) (by decide)⟩

end InfrastructureManager
