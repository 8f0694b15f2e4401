import InfrastructureManager.Controller.Paths
import InfrastructureManager.Controller.Labels

/-!
# Rotation over two reconciles

A forced rotation (`gardener_cluster_controller.go:226–231,301–313,343–366`) empties the
secret of its kubeconfig and last-sync annotation and drops the force-rotation annotation
of the access object; `forced_rotation_reissues` follows it with the next reconcile, which
finds the secret without a last-sync annotation, so due for rotation at any instant, and
writes a fresh kubeconfig, unless a foreign secret holds the coordinates of the one it
creates (`forced_rotation_create_refused`).

A reconcile that wrote the secret leaves it synced at its first clock reading, as the
last-sync annotation in RFC 3339 (lines 99, 249–273). Line 272 compares `float64` minutes,
which round: the due check agrees with 95 % of the period except within 5 µs of it
(`rotationPeriodPassed_of_margin`). `reconcile_rotation_schedule` follows the write with the
next reconcile, which only reads until 95 % of the rotation period, less the second the
annotation truncates, has passed, and rewrites that secret from 95 % on. The read-back needs
the year of the instant in 0–9999, and the next reconcile finds a created secret only when
the access object's labels carry the shoot name of its spec (`created_secret_recreated`).
-/

namespace InfrastructureManager

/-- Dropping the force-rotation annotation ends a forced rotation. -/
@[simp] theorem secretRotationForced_erase (c : GardenerCluster) :
    secretRotationForced
      { c with annotations := c.annotations.erase forceKubeconfigRotationAnnotation } = false := by
  simp [secretRotationForced, Finmap.lookup_erase]

/-- A secret without a last-sync annotation is due for rotation at every instant. -/
theorem secretRotationTimePassed_withoutKubeconfig (now : Time) (c : GardenerCluster) (x : Secret)
    (rotationPeriod : Duration) :
    secretRotationTimePassed now (some (withoutKubeconfig c x)) rotationPeriod = true := by
  simp [secretRotationTimePassed, withoutKubeconfig, Finmap.lookup_erase]

/-- After a write of the access object at its own key, `Get` finds the written one. -/
theorem find?_replace_cluster {cs : Store GardenerCluster GardenerCluster.key}
    {c c' : GardenerCluster} (hc : cs.find? c.key = some c) (hk : c'.key = c.key) :
    (cs.replace c').find? c.key = some c' := by
  rw [← hk]
  exact Store.find?_replace_self (hk ▸ Store.contains_of_mem (Store.find?_eq_some.mp hc).1)

/-- A rewrite with the key and labels of the one secret a selector finds leaves the
selector finding the rewritten secret. -/
theorem list_replace_secret {st : Store Secret Secret.key} {x y : Secret} {sel : StringMap → Bool}
    (hx : st.list (sel ·.labels) = [x]) (hk : y.key = x.key) (hl : y.labels = x.labels) :
    (st.replace y).list (sel ·.labels) = [y] := by
  rw [Store.list_replace_of_sel (Store.mem_of_mem_list (hx ▸ List.mem_singleton_self x)) hk
    (by simp [hl]), hx]
  simp [hk]

/-- A forced rotation, every call answered, empties the one secret and drops the annotation;
the next reconcile, at any clock, rewrites that secret or creates one at free coordinates. -/
theorem forced_rotation_reissues (controller : GardenerClusterController) (env₁ env₂ : Env)
    (s : Server) (c : GardenerCluster) (t t' : Clock) (kubeconfig₁ kubeconfig₂ : String)
    (hforced : secretRotationForced c = true) (hc : s.clusters.find? c.key = some c)
    (hone : (s.secrets.list (matchingLabels shootNameLabel c.spec.shoot.name ·.labels)).length ≤ 1)
    (hok₁ : ∀ call, env₁.fails call = false) (hf₁ : env₁.fetch c.spec.shoot.name = .ok kubeconfig₁)
    (hok₂ : ∀ call, env₂.fails call = false) (hf₂ : env₂.fetch c.spec.shoot.name = .ok kubeconfig₂) :
    let r₁ := (reconcile controller env₁ t c.key).run s
    let c' := { c with annotations := c.annotations.erase forceKubeconfigRotationAnnotation }
    let r₂ := (reconcile controller env₂ t' c.key).run r₁.2.1
    ((handleKubeconfig controller env₁ c t).run s).1.1 = .ksRotated ∧
      r₁.1 = (controller.resultWithRequeue, none) ∧ (∀ call ∈ r₁.2.2, call.2 = none) ∧
      r₁.2.1.clusters.find? c.key = some c' ∧
      (∀ S, s.secrets.list (matchingLabels shootNameLabel c.spec.shoot.name ·.labels) = [S] →
        r₁.2.1.secrets = s.secrets.replace
          { S with data := S.data.erase c.spec.kubeconfig.secret.key,
                   annotations := S.annotations.erase lastKubeconfigSyncAnnotation } ∧
        ((handleKubeconfig controller env₂ c' t').run r₁.2.1).1.1 = .ksModified ∧
        r₂.2.1.secrets = r₁.2.1.secrets.replace
          { S with
            data := (S.data.erase c.spec.kubeconfig.secret.key).insert
              c.spec.kubeconfig.secret.key kubeconfig₂,
            annotations := (S.annotations.erase lastKubeconfigSyncAnnotation).insert
              lastKubeconfigSyncAnnotation (formatRFC3339 t'.lastSyncTime) }) ∧
      (s.secrets.list (matchingLabels shootNameLabel c.spec.shoot.name ·.labels) = [] →
        r₁.2.1.secrets = s.secrets ∧
        ((handleKubeconfig controller env₂ c' t').run r₁.2.1).1.1 = .ksCreated ∧
        (s.secrets.contains (newSecret c kubeconfig₂ t'.lastSyncTime).key = false →
          r₂.2.1.secrets.items =
            (newSecret c kubeconfig₂ t'.lastSyncTime).normalize :: s.secrets.items)) := by
  intro r₁ c' r₂
  have hc' : (s.clusters.replace c').find? c.key = some c' := find?_replace_cluster hc rfl
  rcases hS : s.secrets.list (matchingLabels shootNameLabel c.spec.shoot.name ·.labels) with
    _ | ⟨S, _ | ⟨S₂, l⟩⟩
  · -- No secret: only the annotation goes, and the next reconcile creates `newSecret`.
    have h₁ : r₁ = _ := reconcile_forced_none controller env₁ s c t hok₁ hf₁ hforced hc hS
    have hsec : r₁.2.1.secrets = s.secrets := by rw [h₁]; rfl
    have hS₁ : r₁.2.1.secrets.list (matchingLabels shootNameLabel c'.spec.shoot.name ·.labels) =
        [] := by rw [hsec]; exact hS
    refine ⟨?_, by rw [h₁], by rw [h₁]; simp, by rw [h₁]; exact hc', fun _ h => (nomatch h),
      fun _ => ⟨hsec, ?_, fun hfree => ?_⟩⟩
    · rw [handleKubeconfig_not_found controller env₁ s c t (hok₁ _) hS,
        handleExistingSecret_forced_none controller env₁ s c t hf₁ hforced]
    · rw [handleKubeconfig_not_found controller env₂ _ c' t' (hok₂ _) hS₁]
      exact handleExistingSecret_none_status controller env₂ _ c' t' hf₂
        (secretRotationForced_erase c)
    · show ((reconcile controller env₂ t' c'.key).run r₁.2.1).2.1.secrets.items = _
      rw [reconcile_create controller env₂ r₁.2.1 c' t' hok₂ hf₂ (secretRotationForced_erase c)
        (by rw [h₁]; exact hc') hS₁ (by rw [hsec]; exact hfree)]
      simp only [Server.withClusters_secrets, Server.addSecret_items, hsec]
      rfl
  · -- One secret: it is emptied, and the next reconcile rewrites it.
    have hmem : S ∈ s.secrets.items := Store.mem_of_mem_list (hS ▸ List.mem_singleton_self S)
    have hstored := s.secretsStored S hmem
    have h₁ : r₁ = _ := reconcile_forced controller env₁ s c t hok₁ hf₁ hforced hc hS
    have hsec : r₁.2.1.secrets = s.secrets.replace (withoutKubeconfig c S) := by
      rw [h₁]; simp [withoutKubeconfig, Secret.normalize, hstored]
    have hS₁ : r₁.2.1.secrets.list (matchingLabels shootNameLabel c'.spec.shoot.name ·.labels) =
        [withoutKubeconfig c S] := by
      rw [hsec]; exact list_replace_secret hS rfl rfl
    refine ⟨?_, by rw [h₁], by rw [h₁]; simp, by rw [h₁]; exact hc', fun S' hS' => ?_,
      fun h => nomatch h⟩
    · rw [handleKubeconfig_found controller env₁ s c t (hok₁ _) hS,
        handleExistingSecret_forced controller env₁ s c t hf₁ hforced (hok₁ _)
          (Store.contains_of_mem hmem)]
    obtain rfl : S = S' := (List.cons.inj hS').1
    have hk₁ : r₁.2.1.secrets.contains (withoutKubeconfig c S).key = true :=
      Store.contains_of_mem (Store.mem_of_mem_list (hS₁ ▸ List.mem_singleton_self _))
    refine ⟨hsec, ?_, ?_⟩
    · rw [handleKubeconfig_found controller env₂ _ c' t' (hok₂ _) hS₁,
        handleExistingSecret_rotate controller env₂ _ c' t' hf₂ (secretRotationForced_erase c)
          (secretRotationTimePassed_withoutKubeconfig _ _ _ _) (hok₂ _) hk₁]
    · show ((reconcile controller env₂ t' c'.key).run r₁.2.1).2.1.secrets = _
      rw [reconcile_rotate controller env₂ r₁.2.1 c' t' hok₂ hf₂ (secretRotationForced_erase c)
        (secretRotationTimePassed_withoutKubeconfig _ _ _ _) (by rw [h₁]; exact hc') hS₁]
      simp [withKubeconfig, withoutKubeconfig, Secret.normalize, hstored]
  · simp [hS] at hone

/-- `accessObject` labelled with its shoot name and annotated for a forced rotation. -/
def forcedAccessObject : GardenerCluster :=
  { accessObject (Finmap.singleton shootNameLabel "s") with
    annotations := Finmap.singleton forceKubeconfigRotationAnnotation "true" }

/-- A server holding that access object and its secret, synced at the epoch. -/
def forcedServer : Server :=
  ⟨⟨[forcedAccessObject], List.nodup_singleton _⟩,
    ⟨[(newSecret forcedAccessObject "kubeconfig" ⟨0⟩).normalize], List.nodup_singleton _⟩, by decide⟩

theorem forced_rotation_reissues_synced :
    secretRotationForced forcedAccessObject = true ∧
      forcedServer.clusters.find? forcedAccessObject.key = some forcedAccessObject ∧
      (forcedServer.secrets.list (matchingLabels shootNameLabel "s" ·.labels)).length ≤ 1 ∧
      ((handleKubeconfig ⟨Duration.zero⟩ (Env.faultless "new") forcedAccessObject (Clock.ofTime ⟨0⟩)).run
        forcedServer).1.1 = .ksRotated ∧
      ((reconcile ⟨Duration.zero⟩ (Env.faultless "new") (Clock.ofTime ⟨0⟩) forcedAccessObject.key).run
        forcedServer).1 = (GardenerClusterController.resultWithRequeue ⟨Duration.zero⟩, none) :=
  have h := forced_rotation_reissues ⟨Duration.zero⟩ (Env.faultless "new") (Env.faultless "newer")
    forcedServer forcedAccessObject (Clock.ofTime ⟨0⟩) (Clock.ofTime ⟨1⟩) "new" "newer" (by decide)
    (by decide) (by decide)
    (fun _ => rfl) rfl (fun _ => rfl) rfl
  ⟨by decide, by decide, by decide, h.1, h.2.1⟩

/-- A server holding that access object and, at the coordinates of its secret, a secret with
none of the controller's labels. -/
def takenServer : Server :=
  ⟨⟨[forcedAccessObject], List.nodup_singleton _⟩,
    ⟨[⟨"kubeconfig-n", "kcp-system", ∅, ∅, ∅, ∅⟩], List.nodup_singleton _⟩, by decide⟩

/-- When a foreign secret holds the coordinates of `newSecret`, the reconcile after a forced
rotation writes no kubeconfig: its `Create` is refused with `AlreadyExists`. -/
theorem forced_rotation_create_refused :
    secretRotationForced forcedAccessObject = true ∧
      takenServer.clusters.find? forcedAccessObject.key = some forcedAccessObject ∧
      takenServer.secrets.list (matchingLabels shootNameLabel "s" ·.labels) = [] ∧
      ((handleKubeconfig ⟨Duration.zero⟩ (Env.faultless "new") forcedAccessObject
        (Clock.ofTime ⟨0⟩)).run takenServer).1.1 = .ksRotated ∧
      (Call.createSecret, some Error.alreadyExists) ∈
        ((reconcile ⟨Duration.zero⟩ (Env.faultless "newer") (Clock.ofTime ⟨1⟩) forcedAccessObject.key).run
          ((reconcile ⟨Duration.zero⟩ (Env.faultless "new") (Clock.ofTime ⟨0⟩)
            forcedAccessObject.key).run takenServer).2.1).2.2 ∧
      ((reconcile ⟨Duration.zero⟩ (Env.faultless "newer") (Clock.ofTime ⟨1⟩) forcedAccessObject.key).run
          ((reconcile ⟨Duration.zero⟩ (Env.faultless "new") (Clock.ofTime ⟨0⟩)
            forcedAccessObject.key).run takenServer).2.1).2.1.secrets.items =
        takenServer.secrets.items := by
  decide

/-! ### Rotation on schedule -/

/-- A last-sync annotation holding the RFC 3339 text of an instant of the years 0–9999 is
read back as that instant truncated to its second. -/
theorem secretRotationTimePassed_synced (now : Time) (rotationPeriod : Duration) {S : Secret}
    {t : Time} (h₀ : 0 ≤ t.year) (h₁ : t.year ≤ 9999)
    (hS : S.annotations.lookup lastKubeconfigSyncAnnotation = some (formatRFC3339 t)) :
    secretRotationTimePassed now (some S) rotationPeriod =
      rotationPeriodPassed (now.sub t.truncateSeconds) rotationPeriod := by
  simp [secretRotationTimePassed, hS, parseRFC3339_formatRFC3339 t h₀ h₁]

/-- With `Minutes()` and the threshold of line 272 rounded, the period has passed once the
elapsed time exceeds 95 % of it by the rounding budget `(|d| + 3 |p| + 2³⁸) / 2⁵³`. -/
theorem rotationPeriodPassed_of_budget {d p : Duration}
    (h : 95 / 100 * (p.nanoseconds : ℚ) +
      (|(d.nanoseconds : ℚ)| + 3 * |(p.nanoseconds : ℚ)| + 2 ^ 38) / 2 ^ 53 ≤ d.nanoseconds) :
    rotationPeriodPassed d p = true := by
  have hd := (abs_le.mp (abs_minutes_sub_le d)).1
  have hp := (abs_le.mp (abs_threshold_sub_le p)).2
  rw [rotationPeriodPassed, decide_eq_true_eq, rotationPeriodRatio]
  linarith

/-- The period has not passed while the elapsed time falls short of 95 % of it by the
rounding budget. -/
theorem rotationPeriodPassed_eq_false_of_budget {d p : Duration}
    (h : (d.nanoseconds : ℚ) +
      (|(d.nanoseconds : ℚ)| + 3 * |(p.nanoseconds : ℚ)| + 2 ^ 38) / 2 ^ 53 <
        95 / 100 * p.nanoseconds) :
    rotationPeriodPassed d p = false := by
  have hd := (abs_le.mp (abs_minutes_sub_le d)).2
  have hp := (abs_le.mp (abs_threshold_sub_le p)).1
  rw [rotationPeriodPassed, decide_eq_false_iff_not, not_le, rotationPeriodRatio]
  linarith

/-- The rounding budget of two `int64` durations is below 5 µs: 5 µs past 95 % of the
period, the period has passed. -/
theorem rotationPeriodPassed_of_margin {d p : Duration}
    (h : 95 * p.nanoseconds ≤ 100 * (d.nanoseconds - 5000)) : rotationPeriodPassed d p = true := by
  have h' : (95 : ℚ) * p.nanoseconds ≤ 100 * (d.nanoseconds - 5000) := by exact_mod_cast h
  refine rotationPeriodPassed_of_budget ?_
  linarith [d.abs_nanoseconds_le, p.abs_nanoseconds_le]

/-- 5 µs short of 95 % of the period, the period has not passed. -/
theorem rotationPeriodPassed_eq_false_of_margin {d p : Duration}
    (h : 100 * (d.nanoseconds + 5000) < 95 * p.nanoseconds) : rotationPeriodPassed d p = false := by
  have h' : (100 : ℚ) * (d.nanoseconds + 5000) < 95 * p.nanoseconds := by exact_mod_cast h
  refine rotationPeriodPassed_eq_false_of_budget ?_
  linarith [d.abs_nanoseconds_le, p.abs_nanoseconds_le]

/-- The due check of line 272 decides 95 % of the period as exact arithmetic would, for every
two `int64` durations, except within 5 µs of it. -/
theorem rotationPeriodPassed_off_margin (d p : Duration) :
    (95 * p.nanoseconds ≤ 100 * (d.nanoseconds - 5000) → rotationPeriodPassed d p = true) ∧
      (100 * (d.nanoseconds + 5000) < 95 * p.nanoseconds → rotationPeriodPassed d p = false) :=
  ⟨rotationPeriodPassed_of_margin, rotationPeriodPassed_eq_false_of_margin⟩

/-- Within the margin the rounding shows: 69.35 s is 95 % of 73 s, yet the period has not
passed; 10 µs later it has. -/
theorem rotationPeriodPassed_off_margin_rounds :
    95 * (73000000000 : Int) ≤ 100 * 69350000000 ∧
      rotationPeriodPassed ⟨69350000000, by decide⟩ ⟨73000000000, by decide⟩ = false ∧
      rotationPeriodPassed ⟨69350010000, by decide⟩ ⟨73000000000, by decide⟩ = true :=
  ⟨by decide, by decide, (rotationPeriodPassed_off_margin _ _).1 (by decide)⟩

/-- A period that has passed lies within 5 µs of 95 % of the elapsed time or below. -/
theorem le_of_rotationPeriodPassed {d p : Duration} (h : rotationPeriodPassed d p = true) :
    95 * p.nanoseconds ≤ 100 * (d.nanoseconds + 5000) := by
  by_contra hlt
  rw [rotationPeriodPassed_eq_false_of_margin (not_le.mp hlt)] at h
  cases h

/-- A positive period has passed once the elapsed time reaches it. -/
theorem rotationPeriodPassed_of_le {d p : Duration} (hp : 0 < p.nanoseconds)
    (h : p.nanoseconds ≤ d.nanoseconds) : rotationPeriodPassed d p = true := by
  have hp' : (1 : ℚ) ≤ p.nanoseconds := by exact_mod_cast hp
  have h' : (p.nanoseconds : ℚ) ≤ d.nanoseconds := by exact_mod_cast h
  refine rotationPeriodPassed_of_budget ?_
  rw [abs_of_pos (by linarith), abs_of_pos (by linarith)]
  linarith

/-- A period that is not positive has passed after every elapsed time that is not negative:
the threshold is then not positive, and `Minutes()` not negative. -/
theorem rotationPeriodPassed_of_nonpos {d p : Duration} (hp : p.nanoseconds ≤ 0)
    (hd : 0 ≤ d.nanoseconds) : rotationPeriodPassed d p = true := by
  have hr : 0 ≤ rotationPeriodRatio :=
    nonneg_of_abs_sub_le (abs_roundRatio_sub_le 95 (by norm_num)) (by positivity)
  have hT := nonpos_of_abs_sub_le (abs_mulFloat64_sub_le rotationPeriodRatio p.minutes)
    (mul_nonpos_of_nonneg_of_nonpos hr (Duration.minutes_nonpos hp))
  rw [rotationPeriodPassed, decide_eq_true_eq]
  exact hT.trans (Duration.minutes_nonneg hd)

/-- 5 µs short of 95 % of the period less a second after an instant, the period has not
passed since that instant truncated to its second. -/
theorem rotationPeriodPassed_early {t now : Time} {p : Duration}
    (h : 100 * (now.unixNano - t.unixNano + 1000000000 + 5000) < 95 * p.nanoseconds) :
    rotationPeriodPassed (now.sub t.truncateSeconds) p = false := by
  refine rotationPeriodPassed_eq_false_of_margin ?_
  have := p.inRange
  simp only [Time.sub, Time.truncateSeconds, Duration.saturating]
  omega

/-- 5 µs past 95 % of the period after an instant, the period has passed since that instant
truncated to its second. -/
theorem rotationPeriodPassed_late {t now : Time} {p : Duration}
    (h : 95 * p.nanoseconds ≤ 100 * (now.unixNano - t.unixNano - 5000)) :
    rotationPeriodPassed (now.sub t.truncateSeconds) p = true := by
  refine rotationPeriodPassed_of_margin ?_
  have := p.inRange
  simp only [Time.sub, Time.truncateSeconds, Duration.saturating]
  omega

/-- A reconcile of a stored access object without force-rotation annotation whose
`handleKubeconfig` wrote the secret without error, with no call rejected, stores the access
object with new conditions, and leaves the written secret, synced at the reconcile's
instant, as the one `getSecret` selects; for a created secret, when the access object's
labels carry the shoot name of its spec. -/
theorem reconcile_written_synced (controller : GardenerClusterController) (env : Env)
    (s : Server) (c : GardenerCluster) (t : Clock) (hok : ∀ call, env.fails call = false)
    (hforced : secretRotationForced c = false) (hc : s.clusters.find? c.key = some c)
    (herr : ((handleKubeconfig controller env c t).run s).1.2.1 = none)
    (hks : ((handleKubeconfig controller env c t).run s).1.1 = .ksModified ∨
      ((handleKubeconfig controller env c t).run s).1.1 = .ksCreated ∧
        c.labels.lookup shootNameLabel = some c.spec.shoot.name) :
    ∃ status S,
      ((reconcile controller env t c.key).run s).2.1.clusters.find? c.key =
        some { c with status := status } ∧
      ((reconcile controller env t c.key).run s).2.1.secrets.list
        (matchingLabels shootNameLabel c.spec.shoot.name ·.labels) = [S] ∧
      S.annotations.lookup lastKubeconfigSyncAnnotation = some (formatRFC3339 t.lastSyncTime) := by
  rcases hks with hks | ⟨hks, hlabel⟩
  · obtain ⟨x, kubeconfig, hl, hf, hdue⟩ := handleKubeconfig_modified controller env s c t hok
      hforced hks
    have hx : x ∈ s.secrets.items := Store.mem_of_mem_list (hl ▸ List.mem_singleton_self x)
    rw [reconcile_rotate controller env s c t hok hf hforced hdue hc hl]
    refine ⟨_, withKubeconfig kubeconfig c x t.lastSyncTime, find?_replace_cluster hc rfl, ?_,
      by simp [withKubeconfig]⟩
    have hstored : (withKubeconfig kubeconfig c x t.lastSyncTime).stringData = ∅ := s.secretsStored x hx
    rw [Server.withClusters_secrets, Server.replaceSecret_secrets,
      Secret.normalize_of_stringData hstored]
    exact list_replace_secret hl rfl rfl
  · obtain ⟨kubeconfig, hl, hf, hfree⟩ := handleKubeconfig_created controller env s c t hok
      hforced hks herr
    rw [reconcile_create controller env s c t hok hf hforced hc hl hfree]
    refine ⟨_, (newSecret c kubeconfig t.lastSyncTime).normalize, find?_replace_cluster hc rfl, ?_,
      by simp [newSecret]⟩
    simp only [Store.list, Server.withClusters_secrets, Server.addSecret_items] at hl ⊢
    rw [List.filter_cons_of_pos (by simp [matchingLabels, hlabel]), hl]

/-- A secret written by a reconcile with clock `k₁` is left alone by the next, with clock `k₂`,
until 95 % of the period less a second and 5 µs, and rewritten from 5 µs past 95 % on. -/
theorem reconcile_rotation_schedule (controller : GardenerClusterController) (env₁ env₂ : Env)
    (s : Server) (c : GardenerCluster) (k₁ k₂ : Clock) (kubeconfig₂ : String)
    (hforced : secretRotationForced c = false) (hc : s.clusters.find? c.key = some c)
    (hok₁ : ∀ call, env₁.fails call = false)
    (herr : ((handleKubeconfig controller env₁ c k₁).run s).1.2.1 = none)
    (hks : ((handleKubeconfig controller env₁ c k₁).run s).1.1 = .ksModified ∨
      ((handleKubeconfig controller env₁ c k₁).run s).1.1 = .ksCreated ∧
        c.labels.lookup shootNameLabel = some c.spec.shoot.name)
    (h₀ : 0 ≤ k₁.lastSyncTime.year) (h₁ : k₁.lastSyncTime.year ≤ 9999)
    (hok₂ : ∀ call, env₂.fails call = false)
    (hf₂ : env₂.fetch c.spec.shoot.name = .ok kubeconfig₂) :
    let r₁ := (reconcile controller env₁ k₁ c.key).run s
    let r₂ := (reconcile controller env₂ k₂ c.key).run r₁.2.1
    ∃ status S, r₁.2.1.clusters.find? c.key = some { c with status := status } ∧
      r₁.2.1.secrets.list (matchingLabels shootNameLabel c.spec.shoot.name ·.labels) = [S] ∧
      S.annotations.lookup lastKubeconfigSyncAnnotation = some (formatRFC3339 k₁.lastSyncTime) ∧
      (100 * (k₂.now.unixNano - k₁.lastSyncTime.unixNano + 1000000000 + 5000) <
          95 * controller.rotationPeriod.nanoseconds →
        ((handleKubeconfig controller env₂ { c with status := status } k₂).run r₁.2.1).1.1 =
          .ksZero ∧
        r₂.1 = (controller.resultWithRequeue, none) ∧ r₂.2.1 = r₁.2.1 ∧
        ∀ call ∈ r₂.2.2, call.1.writesSecret = false) ∧
      (95 * controller.rotationPeriod.nanoseconds ≤
          100 * (k₂.now.unixNano - k₁.lastSyncTime.unixNano - 5000) →
        ((handleKubeconfig controller env₂ { c with status := status } k₂).run r₁.2.1).1.1 =
          .ksModified ∧
        r₂.2.1.secrets = r₁.2.1.secrets.replace
          { S with
            data := S.data.insert c.spec.kubeconfig.secret.key kubeconfig₂,
            annotations := S.annotations.insert lastKubeconfigSyncAnnotation
              (formatRFC3339 k₂.lastSyncTime) } ∧
        ∀ call ∈ r₂.2.2, call.1 ≠ .createSecret) := by
  intro r₁ r₂
  obtain ⟨status, S, hc₁, hS, hsync⟩ :=
    reconcile_written_synced controller env₁ s c k₁ hok₁ hforced hc herr hks
  let c₁ : GardenerCluster := { c with status := status }
  have hforced₁ : secretRotationForced c₁ = false := hforced
  have hS₁ : r₁.2.1.secrets.list (matchingLabels shootNameLabel c₁.spec.shoot.name ·.labels) =
      [S] := hS
  refine ⟨status, S, hc₁, hS, hsync, fun hearly => ?_, fun hlate => ?_⟩
  · -- Early: the secret is not due, and the reconcile only reads.
    have hdue : secretRotationTimePassed k₂.now (some S) controller.rotationPeriod = false := by
      rw [secretRotationTimePassed_synced k₂.now _ h₀ h₁ hsync]
      exact rotationPeriodPassed_early hearly
    have h₂ : r₂ = _ :=
      reconcile_not_due controller env₂ r₁.2.1 c₁ k₂ hok₂ hf₂ hforced₁ hdue hc₁ hS₁
    refine ⟨?_, by rw [h₂], by rw [h₂], by rw [h₂]; simp [Call.writesSecret]⟩
    rw [handleKubeconfig_found controller env₂ _ c₁ k₂ (hok₂ _) hS₁,
      handleExistingSecret_not_due controller env₂ _ c₁ k₂ hf₂ hforced₁ hdue]
  · -- Late: the secret is due, and the reconcile rewrites it in place.
    have hdue : secretRotationTimePassed k₂.now (some S) controller.rotationPeriod = true := by
      rw [secretRotationTimePassed_synced k₂.now _ h₀ h₁ hsync]
      exact rotationPeriodPassed_late hlate
    have hmem : S ∈ r₁.2.1.secrets.items := Store.mem_of_mem_list (hS ▸ List.mem_singleton_self S)
    have hstored : (withKubeconfig kubeconfig₂ c₁ S k₂.lastSyncTime).stringData = ∅ :=
      r₁.2.1.secretsStored S hmem
    have h₂ : r₂ = _ :=
      reconcile_rotate controller env₂ r₁.2.1 c₁ k₂ hok₂ hf₂ hforced₁ hdue hc₁ hS₁
    refine ⟨?_, ?_, by rw [h₂]; simp⟩
    · rw [handleKubeconfig_found controller env₂ _ c₁ k₂ (hok₂ _) hS₁,
        handleExistingSecret_rotate controller env₂ _ c₁ k₂ hf₂ hforced₁ hdue (hok₂ _)
          (Store.contains_of_mem hmem)]
    · rw [h₂, Server.withClusters_secrets, Server.replaceSecret_secrets,
        Secret.normalize_of_stringData hstored]
      rfl

/-- A controller rotating every hour. -/
def hourly : GardenerClusterController := ⟨⟨3600000000000, by decide⟩⟩

theorem reconcile_rotation_schedule_created :
    let c := accessObject (Finmap.singleton shootNameLabel "s")
    let s := accessServer (Finmap.singleton shootNameLabel "s")
    let r := (handleKubeconfig hourly (Env.faultless "kubeconfig") c (Clock.ofTime ⟨0⟩)).run s
    secretRotationForced c = false ∧ s.clusters.find? c.key = some c ∧ r.1.2.1 = none ∧
      r.1.1 = .ksCreated ∧ c.labels.lookup shootNameLabel = some c.spec.shoot.name ∧
      0 ≤ Time.year ⟨0⟩ ∧ Time.year ⟨0⟩ ≤ 9999 ∧
      ∃ status S,
        ((reconcile hourly (Env.faultless "kubeconfig") (Clock.ofTime ⟨0⟩) c.key).run
          s).2.1.clusters.find? c.key = some { c with status := status } ∧
        ((reconcile hourly (Env.faultless "kubeconfig") (Clock.ofTime ⟨0⟩) c.key).run s).2.1.secrets.list
          (matchingLabels shootNameLabel "s" ·.labels) = [S] ∧
        S.annotations.lookup lastKubeconfigSyncAnnotation = some (formatRFC3339 ⟨0⟩) := by
  intro c s r
  obtain ⟨status, S, h₁, h₂, h₃, -⟩ := reconcile_rotation_schedule hourly
    (Env.faultless "kubeconfig") (Env.faultless "kubeconfig") s c (Clock.ofTime ⟨0⟩)
    (Clock.ofTime ⟨0⟩) "kubeconfig"
    (by decide) (by decide) (fun _ => rfl) (by decide) (.inr ⟨by decide, by decide⟩) (by decide)
    (by decide) (fun _ => rfl) rfl
  exact ⟨by decide, by decide, by decide, by decide, by decide, by decide, by decide, status, S,
    h₁, h₂, h₃⟩

/-- Without the shoot name of its spec among the labels of the access object, the secret
created by a reconcile whose calls all succeed is not found by the next one, at the same
instant: it issues a second create, which fails with AlreadyExists. -/
theorem created_secret_recreated :
    ((handleKubeconfig hourly (Env.faultless "kubeconfig") (accessObject ∅) (Clock.ofTime ⟨0⟩)).run
        (accessServer ∅)).1.1 = .ksCreated ∧
      (∀ call ∈ ((reconcile hourly (Env.faultless "kubeconfig") (Clock.ofTime ⟨0⟩) ⟨"kcp-system", "n"⟩).run
        (accessServer ∅)).2.2, call.2 = none) ∧
      (Call.createSecret, some Error.alreadyExists) ∈
        ((reconcile hourly (Env.faultless "kubeconfig") (Clock.ofTime ⟨0⟩) ⟨"kcp-system", "n"⟩).run
          ((reconcile hourly (Env.faultless "kubeconfig") (Clock.ofTime ⟨0⟩) ⟨"kcp-system", "n"⟩).run
            (accessServer ∅)).2.1).2.2 := by
  decide

end InfrastructureManager
