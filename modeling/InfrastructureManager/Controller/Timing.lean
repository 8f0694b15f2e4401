import InfrastructureManager.Controller.Deletion
import InfrastructureManager.Controller.Rotation
import InfrastructureManager.Controller.AccessObjects

/-!
# When the controller rotates a kubeconfig

`handleKubeconfig` rewrites a secret only when `secretNeedsToBeRotated` holds
(`gardener_cluster_controller.go:219–273`). Along runs without forced rotations a secret is
never rewritten before 95 % of the period, less the 5 µs `float64` rounding may take
(`runEvents_rotation_not_early`); a reconcile that finds it not due requeues after one period,
and the requeued reconcile rotates it (`reconcile_requeue_rotates`, lines 119–140).
-/

namespace InfrastructureManager

/-! ### What a reconcile rewrites -/

section Timing

variable (controller : GardenerClusterController) (env : Env) (s : Server)

/-- `handleExistingSecret` writes nothing unless the secret needs rotation. -/
theorem handleExistingSecret_server_or_due (c : GardenerCluster) (existing : Option Secret)
    (t : Clock) :
    ((handleExistingSecret controller env c existing t).run s).2.1 = s ∨
      secretNeedsToBeRotated t.now c existing controller.rotationPeriod = true := by
  simp only [handleExistingSecret, run_bind, run_pure, fetchKubeconfig_run]
  cases env.fetch c.spec.shoot.name with
  | error e => exact .inl rfl
  | ok kubeconfig =>
    simp only
    split_ifs with hforced hdue
    · exact .inr (by simp [secretNeedsToBeRotated, hforced])
    · exact .inl rfl
    · exact .inr (by simpa using hdue)

/-- A secret that `handleKubeconfig` changes and keeps is the one `getSecret` selected, and
it needed rotation. -/
theorem handleKubeconfig_rewrite_due (c : GardenerCluster) (t : Clock) {k : NamespacedName}
    {x y : Secret} (hx : s.secrets.find? k = some x)
    (hy : ((handleKubeconfig controller env c t).run s).2.1.secrets.find? k = some y)
    (hne : y ≠ x) :
    secretNeedsToBeRotated t.now c (some x) controller.rotationPeriod = true := by
  obtain ⟨hmem, rfl⟩ := Store.find?_eq_some.mp hx
  have changed : ((handleKubeconfig controller env c t).run s).2.1.secrets.find? x.key ≠
      s.secrets.find? x.key := by
    rw [hy, hx]; exact fun h => hne (Option.some.inj h)
  simp only [handleKubeconfig, run_bind, getSecret_server] at changed
  cases h : ((getSecret env c.spec.shoot.name).run s).1 with
  | error e =>
    simp only [h] at changed
    split_ifs at changed
    · rcases handleExistingSecret_server env s controller c none t with
        h' | ⟨_, hn, -⟩ | ⟨-, kubeconfig, hfree, -, hitems⟩
      · exact absurd (by rw [h']) changed
      · cases hn
      · refine absurd (Store.find?_of_items_cons hitems fun hk => ?_) changed
        have hx' := Store.contains_of_mem hmem
        rw [hk, Secret.key_normalize, hfree] at hx'
        cases hx'
    · exact absurd rfl changed
  | ok x' =>
    simp only [h] at changed
    have hx' : x' ∈ s.secrets.items := Store.mem_of_mem_list (by
      rw [((getSecret_eq_ok env s).mp h).2]; exact List.mem_singleton_self x')
    obtain rfl : x = x' := by
      rcases handleExistingSecret_server env s controller c (some x') t with
        h' | ⟨_, hs, y', hk, -, -, -, hsec⟩ | ⟨hn, -⟩
      · exact absurd (by rw [h']) changed
      · cases hs
        refine s.secrets.eq_of_key_eq hmem hx' (Classical.byContradiction fun hkx => changed ?_)
        rw [hsec, Store.find?_replace_of_ne (by rwa [Secret.key_normalize, hk])]
      · cases hn
    exact (handleExistingSecret_server_or_due controller env s c (some x) t).resolve_left
      fun h' => changed (by rw [h'])

/-- A secret that a reconcile of `req` changes and keeps was due for rotation, or the access
object at `req` forced one. -/
theorem reconcile_rewrite_due (now : Clock) (req : NamespacedName) {k : NamespacedName}
    {x y : Secret} (hx : s.secrets.find? k = some x)
    (hy : ((reconcile controller env now req).run s).2.1.secrets.find? k = some y)
    (hne : y ≠ x) :
    ∃ c, s.clusters.find? req = some c ∧
      secretNeedsToBeRotated now.now c (some x) controller.rotationPeriod = true := by
  cases hg : env.fails .getGardenerCluster
  · cases hc : s.clusters.find? req with
    | none =>
      rw [reconcile_of_gone env s controller now hg hc] at hy
      rcases deleteKubeconfigSecret_server env s req.name with h | ⟨x', -, -, -, h⟩
      · rw [h, hx] at hy; exact absurd (Option.some.inj hy).symm hne
      · rw [h] at hy
        have hk : k ≠ x'.key := by
          obtain ⟨hm, rfl⟩ := Store.find?_eq_some.mp hy
          simpa using (List.mem_filter.mp hm).2
        rw [Store.find?_remove_of_ne hk, hx] at hy
        exact absurd (Option.some.inj hy).symm hne
    | some c =>
      rw [reconcile_of_found controller env s c now hg hc, handleKubeconfigResult_secrets] at hy
      exact ⟨c, rfl, handleKubeconfig_rewrite_due controller env s c now hx hy hne⟩
  · simp [reconcile, getGardenerCluster, issueRead, hg, Error.isNotFound, hx] at hy
    exact absurd hy.symm hne

end Timing

/-! ### No early rotation along a run -/

/-- Along a run whose access objects never carry the force-rotation annotation, a reconcile
changes a secret synced at `t` and keeps it only once its later clock reading is 95 % of the
rotation period past `t` truncated to its second, less the 5 µs line 272 may round off. -/
theorem runEvents_rotation_not_early (controller : GardenerClusterController) (env : Env)
    (s : Server) (events : List Event) (hu : Unforced s.clusters)
    (he : ∀ cs, Event.author cs ∈ events → Unforced cs) (now : Clock) (req : NamespacedName)
    {k : NamespacedName} {x y : Secret} {t : Time} (h₀ : 0 ≤ t.year) (h₁ : t.year ≤ 9999)
    (hx : (runEvents controller s events).secrets.find? k = some x)
    (hS : x.annotations.lookup lastKubeconfigSyncAnnotation = some (formatRFC3339 t))
    (hy : (runEvents controller s (events ++ [.reconcile env now req])).secrets.find? k = some y)
    (hne : y ≠ x) :
    95 * controller.rotationPeriod.nanoseconds ≤
      100 * (now.now.unixNano - t.truncateSeconds.unixNano + 5000) := by
  rw [runEvents_append_singleton] at hy
  obtain ⟨c, hc, hdue⟩ := reconcile_rewrite_due controller env _ now req hx hy hne
  have hforced := runEvents_unforced controller events s he hu c (Store.find?_eq_some.mp hc).1
  rw [secretNeedsToBeRotated, hforced, Bool.or_false,
    secretRotationTimePassed_synced now.now _ h₀ h₁ hS] at hdue
  have h := le_of_rotationPeriodPassed hdue
  have := controller.rotationPeriod.inRange
  simp only [Time.sub, Duration.saturating] at h
  omega

set_option maxRecDepth 4000 in
/-- The secret created at the epoch by an hourly controller is rewritten by the reconcile at
95 % of the hour, the earliest instant the bound allows. -/
theorem runEvents_rotation_not_early_due :
    let c := accessObject (Finmap.singleton shootNameLabel "s")
    let env := Env.faultless "kubeconfig"
    let s := accessServer (Finmap.singleton shootNameLabel "s")
    let x := (newSecret c "kubeconfig" ⟨0⟩).normalize
    let y := (withKubeconfig "kubeconfig" c x ⟨3420000000000⟩).normalize
    Unforced s.clusters ∧ 0 ≤ Time.year ⟨0⟩ ∧ Time.year ⟨0⟩ ≤ 9999 ∧
      (runEvents hourly s [.reconcile env (Clock.ofTime ⟨0⟩) c.key]).secrets.find? x.key = some x ∧
      x.annotations.lookup lastKubeconfigSyncAnnotation = some (formatRFC3339 ⟨0⟩) ∧
      (runEvents hourly s ([.reconcile env (Clock.ofTime ⟨0⟩) c.key] ++
          [.reconcile env (Clock.ofTime ⟨3420000000000⟩) c.key])).secrets.find? x.key = some y ∧
        y ≠ x ∧
      95 * hourly.rotationPeriod.nanoseconds ≤
        100 * ((⟨3420000000000⟩ : Time).unixNano - (Time.truncateSeconds ⟨0⟩).unixNano + 5000) := by
  intro c env s x y
  have hu : Unforced s.clusters := by decide
  have h₀ : 0 ≤ Time.year ⟨0⟩ := by decide
  have h₁ : Time.year ⟨0⟩ ≤ 9999 := by decide
  have hx : (runEvents hourly s [.reconcile env (Clock.ofTime ⟨0⟩) c.key]).secrets.find? x.key =
      some x := by decide
  have hS : x.annotations.lookup lastKubeconfigSyncAnnotation = some (formatRFC3339 ⟨0⟩) := by
    decide
  have hy : (runEvents hourly s
      ([.reconcile env (Clock.ofTime ⟨0⟩) c.key] ++
        [.reconcile env (Clock.ofTime ⟨3420000000000⟩) c.key])).secrets.find? x.key = some y := by
    decide
  have hne : y ≠ x := by decide
  exact ⟨hu, h₀, h₁, hx, hS, hy, hne, runEvents_rotation_not_early hourly env s _ hu
    (fun _ h => by simp at h) (Clock.ofTime ⟨3420000000000⟩) c.key h₀ h₁ hx hS hy hne⟩

/-! ### One requeue suffices -/

/-- A reconcile of an access object without force-rotation annotation whose one secret was
last synced no later than the reconcile, every call answered, that asks to be requeued has
written nothing; delivered again after the requeue delay, or any time later, it rotates the
secret. -/
theorem reconcile_requeue_rotates (controller : GardenerClusterController) (env : Env)
    (s : Server) (c : GardenerCluster) {kubeconfig : String} {x : Secret} {t₀ now now' : Time}
    (hok : ∀ call, env.fails call = false) (hf : env.fetch c.spec.shoot.name = .ok kubeconfig)
    (hforced : secretRotationForced c = false) (hc : s.clusters.find? c.key = some c)
    (hx : s.secrets.list (matchingLabels shootNameLabel c.spec.shoot.name ·.labels) = [x])
    (h₀ : 0 ≤ t₀.year) (h₁ : t₀.year ≤ 9999)
    (hS : x.annotations.lookup lastKubeconfigSyncAnnotation = some (formatRFC3339 t₀))
    (hpast : t₀.truncateSeconds.unixNano ≤ now.unixNano)
    (hr : ((reconcile controller env now c.key).run s).1.1.requeue = true)
    (hlater : now.unixNano +
      ((reconcile controller env now c.key).run s).1.1.requeueAfter.nanoseconds ≤ now'.unixNano) :
    ((reconcile controller env now c.key).run s).2.1 = s ∧
      (reconcile controller env now' c.key).run s =
        ((resultWithoutRequeue, none),
          (s.replaceSecret (withKubeconfig kubeconfig c x now')).withClusters (s.clusters.replace
            { c with status := (c.updateConditionForReadyState .kubeconfigManagement
              .kubeconfigSecretRotated .conditionTrue).status }),
          [(.getGardenerCluster, none), (.listSecrets, none), (.fetchKubeconfig, none),
            (.updateSecret, none), (.updateGardenerClusterStatus, none)]) := by
  cases hdue : secretRotationTimePassed now (some x) controller.rotationPeriod
  · rw [reconcile_not_due controller env s c now hok hf hforced hdue hc hx] at hlater ⊢
    refine ⟨rfl, reconcile_rotate controller env s c now' hok hf hforced ?_ hc hx⟩
    rw [secretRotationTimePassed_synced _ _ h₀ h₁ hS] at hdue ⊢
    have := controller.rotationPeriod.inRange
    simp only [GardenerClusterController.resultWithRequeue] at hlater
    -- Not due after no negative time, the period is positive; `now'` is a period later.
    have hp : 0 < controller.rotationPeriod.nanoseconds := by
      by_contra hp
      rw [rotationPeriodPassed_of_nonpos (not_lt.mp hp)
        (by simp only [Time.sub, Duration.saturating]; omega)] at hdue
      cases hdue
    exact rotationPeriodPassed_of_le hp (by simp only [Time.sub, Duration.saturating]; omega)
  · rw [reconcile_rotate controller env s c now hok hf hforced hdue hc hx] at hr
    cases hr

set_option maxRecDepth 4000 in
/-- An hourly controller finds the secret synced at the epoch not due half an hour later, and
rotates it when the requeued reconcile comes an hour after that. -/
theorem reconcile_requeue_rotates_hourly :
    let c := accessObject (Finmap.singleton shootNameLabel "s")
    let env := Env.faultless "kubeconfig"
    let x := (newSecret c "kubeconfig" ⟨0⟩).normalize
    let s := (accessServer (Finmap.singleton shootNameLabel "s")).addSecret x (by decide)
    let now : Time := ⟨1800000000000⟩
    let now' : Time := ⟨5400000000000⟩
    (∀ call, env.fails call = false) ∧ env.fetch c.spec.shoot.name = .ok "kubeconfig" ∧
      secretRotationForced c = false ∧ s.clusters.find? c.key = some c ∧
      s.secrets.list (matchingLabels shootNameLabel c.spec.shoot.name ·.labels) = [x] ∧
      0 ≤ Time.year ⟨0⟩ ∧ Time.year ⟨0⟩ ≤ 9999 ∧
      x.annotations.lookup lastKubeconfigSyncAnnotation = some (formatRFC3339 ⟨0⟩) ∧
      (Time.truncateSeconds ⟨0⟩).unixNano ≤ now.unixNano ∧
      ((reconcile hourly env now c.key).run s).1.1.requeue = true ∧
      now.unixNano + ((reconcile hourly env now c.key).run s).1.1.requeueAfter.nanoseconds ≤
        now'.unixNano ∧
      ((reconcile hourly env now c.key).run s).2.1 = s ∧
      (reconcile hourly env now' c.key).run s =
        ((resultWithoutRequeue, none),
          (s.replaceSecret (withKubeconfig "kubeconfig" c x now')).withClusters (s.clusters.replace
            { c with status := (c.updateConditionForReadyState .kubeconfigManagement
              .kubeconfigSecretRotated .conditionTrue).status }),
          [(.getGardenerCluster, none), (.listSecrets, none), (.fetchKubeconfig, none),
            (.updateSecret, none), (.updateGardenerClusterStatus, none)]) := by
  refine ⟨fun _ => rfl, rfl, by decide, by decide, ?hx, by decide, by decide, ?hS, by decide, ?hr,
    ?hlater, reconcile_requeue_rotates hourly _ _ _ (fun _ => rfl) rfl (by decide) (by decide) ?hx
      (by decide) (by decide) ?hS (by decide) ?hr ?hlater⟩
  all_goals decide

end InfrastructureManager
