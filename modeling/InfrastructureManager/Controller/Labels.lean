import InfrastructureManager.Controller.Paths

/-!
# The labels of the secrets a reconcile writes

Two selectors find the secret of an access object: `getSecret` selects
`kyma-project.io/shoot-name` with the shoot name of its spec, and `deleteKubeconfigSecret`
selects `operator.kyma-project.io/cluster-name` with its name
(`gardener_cluster_controller.go:154–195`). `newSecret` labels a created secret with the
access object's labels, the ownership label and the name (lines 368–386), and
`updateExistingSecret` leaves the labels of the secret it overwrites (lines 315–341).

So the cleanup selector always finds a created secret, but `getSecret` finds it only when
the access object's own labels carry the shoot name of its spec
(`created_secret_unlabelled`); and an overwritten secret keeps the labels it had.
`reconcile_written_labels` says this of every secret a reconcile writes.
-/

namespace InfrastructureManager

/-- Every secret present after a reconcile of the access object `c` and not before is the
created `newSecret`, labelled with the name of `c` and with the shoot-name label of `c`,
or has the key and labels of a secret that `getSecret` selected for `c`, and so the
same answers to both selectors. -/
theorem reconcile_written_labels (controller : GardenerClusterController) (env : Env)
    (now : Time) (s : Server) (req : NamespacedName) (c : GardenerCluster)
    (hc : s.clusters.find? req = some c) (y : Secret)
    (hy : y ∈ ((reconcile controller env now req).run s).2.1.secrets.items)
    (hnew : y ∉ s.secrets.items) :
    (matchingLabels clusterCRNameLabel c.name y.labels = true ∧
      matchingLabels shootNameLabel c.spec.shoot.name y.labels =
        matchingLabels shootNameLabel c.spec.shoot.name c.labels) ∨
    (∃ x ∈ s.secrets.items, y.key = x.key ∧ y.labels = x.labels ∧
      matchingLabels shootNameLabel c.spec.shoot.name x.labels = true) := by
  have step := reconcile_secrets env s controller now req
  generalize ((reconcile controller env now req).run s).2.1.secrets = st' at step hy
  cases step with
  | unchanged => exact absurd hy hnew
  | rewrite c' x y' hc' hl hk hlab _ =>
    obtain rfl : c' = c := Option.some_injective _ (hc'.symm.trans hc)
    have hx : x ∈ s.secrets.list (matchingLabels shootNameLabel c'.spec.shoot.name ·.labels) :=
      hl ▸ List.mem_singleton_self x
    rcases Store.mem_replace hy with rfl | hy'
    · exact .inr ⟨x, Store.mem_of_mem_list hx, hk, hlab, (List.mem_filter.mp hx).2⟩
    · exact absurd hy' hnew
  | create c' kubeconfig st' hc' _ _ h =>
    obtain rfl : c' = c := Option.some_injective _ (hc'.symm.trans hc)
    rw [h] at hy
    rcases List.mem_cons.mp hy with rfl | hy'
    · left; simp [matchingLabels, Secret.normalize]
    · exact absurd hy' hnew
  | delete x hgone _ _ => simp [hgone] at hc

theorem reconcile_written_labels_created :
    (accessServer (Finmap.singleton shootNameLabel "s")).clusters.find? ⟨"kcp-system", "n"⟩ =
        some (accessObject (Finmap.singleton shootNameLabel "s")) ∧
      ((matchingLabels clusterCRNameLabel "n"
          (newSecret (accessObject (Finmap.singleton shootNameLabel "s")) "kubeconfig" ⟨0⟩).labels =
          true ∧
        matchingLabels shootNameLabel "s"
            (newSecret (accessObject (Finmap.singleton shootNameLabel "s")) "kubeconfig" ⟨0⟩).labels =
          matchingLabels shootNameLabel "s" (Finmap.singleton shootNameLabel "s")) ∨
      (∃ x ∈ (accessServer (Finmap.singleton shootNameLabel "s")).secrets.items,
        (newSecret (accessObject (Finmap.singleton shootNameLabel "s")) "kubeconfig" ⟨0⟩).key =
          x.key ∧
        (newSecret (accessObject (Finmap.singleton shootNameLabel "s")) "kubeconfig" ⟨0⟩).labels =
          x.labels ∧ matchingLabels shootNameLabel "s" x.labels = true)) :=
  ⟨by decide, reconcile_written_labels ⟨Duration.zero⟩ (Env.faultless "kubeconfig") ⟨0⟩
    (accessServer (Finmap.singleton shootNameLabel "s")) ⟨"kcp-system", "n"⟩
    (accessObject (Finmap.singleton shootNameLabel "s")) (by decide)
    (newSecret (accessObject (Finmap.singleton shootNameLabel "s")) "kubeconfig" ⟨0⟩).normalize
    (by decide) (by decide)⟩

/-- A reconcile of an access object whose labels do not carry its shoot name creates a
secret that `getSecret`'s selector does not select. -/
theorem created_secret_unlabelled :
    ((reconcile ⟨Duration.zero⟩ (Env.faultless "kubeconfig") (Clock.ofTime ⟨0⟩) ⟨"kcp-system", "n"⟩).run
        (accessServer ∅)).2.1.secrets.items.length = 1 ∧
      ((reconcile ⟨Duration.zero⟩ (Env.faultless "kubeconfig") (Clock.ofTime ⟨0⟩) ⟨"kcp-system", "n"⟩).run
        (accessServer ∅)).2.1.secrets.list (matchingLabels shootNameLabel "s" ·.labels) = [] := by
  decide

end InfrastructureManager
