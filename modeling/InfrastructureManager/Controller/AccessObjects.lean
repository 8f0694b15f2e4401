import InfrastructureManager.Controller.Uniqueness

/-!
# What reconciles write to access objects, over every run

`Reconcile` records the outcome of `handleKubeconfig` in the status of the access object
it read: `UpdateConditionForErrorState` and `UpdateConditionForReadyState` set the state and
upsert a condition with `meta.SetStatusCondition`
(`gardener_cluster_controller.go:209,215,225,289,293,330,335`), and `persistStatusChange`
writes that status to the stored object (lines 102, 120, 146–152). The only other write to
an access object drops its force-rotation annotation and keeps its stored status (lines
343–366). `reconcile_writes` says once what a reconcile can leave in the store: each access
object afterwards has a status of one before or that status with a condition recorded
(`StatusStep`), and the annotations of one before or no force-rotation annotation.

Over every run this gives two invariants. Each access object keeps a coherent status: at
most one condition per type, and a `KubeconfigManagement` condition that is `False` exactly
when its state is `Error` (`runEvents_status_coherent`). And the controller never forces a
rotation by itself: when the author installs only access objects without the force-rotation
annotation, none ever carries it (`runEvents_unforced`).
-/

namespace InfrastructureManager

/-! ### What a reconcile writes -/

/-- How a reconcile leaves the status of the access object it read. -/
inductive StatusStep (c : GardenerCluster) : GardenerClusterStatus → Prop
  /-- Nothing recorded. -/
  | kept : StatusStep c c.status
  /-- `UpdateConditionForErrorState`. -/
  | error (type : ConditionType) (reason : ConditionReason) :
      StatusStep c (c.updateConditionForErrorState type reason).status
  /-- `UpdateConditionForReadyState` with a `True` condition, as the controller calls it. -/
  | ready (type : ConditionType) (reason : ConditionReason) :
      StatusStep c (c.updateConditionForReadyState type reason .conditionTrue).status

/-- `c'` is `c` as a reconcile may write it: with the status of `c` or `status`, and with the
annotations of `c` or without a force-rotation annotation. -/
def WrittenFrom (status : GardenerClusterStatus) (c c' : GardenerCluster) : Prop :=
  (c'.status = c.status ∨ c'.status = status) ∧
    (c'.annotations = c.annotations ∨ secretRotationForced c' = false)

theorem WrittenFrom.refl (status : GardenerClusterStatus) (c : GardenerCluster) :
    WrittenFrom status c c :=
  ⟨.inl rfl, .inl rfl⟩

theorem WrittenFrom.trans {status : GardenerClusterStatus} {c₁ c₂ c₃ : GardenerCluster}
    (h₁ : WrittenFrom status c₁ c₂) (h₂ : WrittenFrom status c₂ c₃) : WrittenFrom status c₁ c₃ := by
  refine ⟨h₂.1.elim (fun h => h₁.1.imp h.trans h.trans) .inr, ?_⟩
  rcases h₂.2 with h | h
  · refine h₁.2.imp h.trans fun h' => ?_
    unfold secretRotationForced at h' ⊢
    rw [h, h']
  · exact .inr h

/-- Every access object of `st'` is one of `st` as a reconcile may write it. -/
def ClustersFrom (st st' : Store GardenerCluster GardenerCluster.key)
    (status : GardenerClusterStatus) : Prop :=
  ∀ c' ∈ st'.items, ∃ c ∈ st.items, WrittenFrom status c c'

namespace ClustersFrom

variable {st₁ st₂ st₃ : Store GardenerCluster GardenerCluster.key} {status : GardenerClusterStatus}

theorem refl (st : Store GardenerCluster GardenerCluster.key) (status : GardenerClusterStatus) :
    ClustersFrom st st status :=
  fun c hc => ⟨c, hc, .refl _ _⟩

theorem trans (h₁ : ClustersFrom st₁ st₂ status) (h₂ : ClustersFrom st₂ st₃ status) :
    ClustersFrom st₁ st₃ status := by
  intro c₃ hc₃
  obtain ⟨c₂, hc₂, h₂₃⟩ := h₂ c₃ hc₃
  obtain ⟨c₁, hc₁, h₁₂⟩ := h₁ c₂ hc₂
  exact ⟨c₁, hc₁, h₁₂.trans h₂₃⟩

/-- Writing an object written from a stored one keeps the store written from itself. -/
theorem replace {x : GardenerCluster} (hx : ∃ c ∈ st₁.items, WrittenFrom status c x) :
    ClustersFrom st₁ (st₁.replace x) status := by
  intro c' hc'
  rcases Store.mem_replace hc' with rfl | h
  · exact hx
  · exact ⟨c', h, .refl _ _⟩

end ClustersFrom

section Writes

variable (env : Env) (s : Server)

/-- `handleExistingSecret` hands back the access object with an error or a `True` ready
condition recorded, or as it was. -/
theorem handleExistingSecret_statusStep (controller : GardenerClusterController)
    (c : GardenerCluster) (existing : Option Secret) (t : Clock) :
    StatusStep c ((handleExistingSecret controller env c existing t).run s).1.2.2.status := by
  simp only [handleExistingSecret, run_bind, run_pure, fetchKubeconfig_run]
  cases env.fetch c.spec.shoot.name with
  | error e => exact .error _ _
  | ok kubeconfig =>
    simp only
    split_ifs
    · simp only [run_bind]
      split
      · exact .error _ _
      · exact .kept
    · exact .kept
    · cases existing <;> simp only [createNewSecret, updateExistingSecret, run_bind] <;> split
      all_goals first | exact .error _ _ | exact .ready _ _

/-- `handleKubeconfig` hands back the access object with an error or a `True` ready condition
recorded, or as it was. -/
theorem handleKubeconfig_statusStep (controller : GardenerClusterController) (c : GardenerCluster)
    (t : Clock) : StatusStep c ((handleKubeconfig controller env c t).run s).1.2.2.status := by
  simp only [handleKubeconfig, run_bind]
  split
  · split_ifs
    · exact handleExistingSecret_statusStep env _ controller c none t
    · exact .error _ _
  · exact handleExistingSecret_statusStep env _ controller c _ t

/-- A status `Update` writes a stored access object with the status of `c`, if anything. -/
theorem persistStatusChange_clustersFrom (c : GardenerCluster) :
    ClustersFrom s.clusters ((persistStatusChange env c).run s).2.1.clusters c.status := by
  rcases issueWrite_cases env s .updateGardenerClusterStatus (·.updateGardenerClusterStatus c)
    with ⟨-, -, h⟩ | ⟨-, -, h⟩
  · rw [show ((persistStatusChange env c).run s).2.1 = s from h]
    exact .refl _ _
  · obtain ⟨stored, hs, h'⟩ := Server.updateGardenerClusterStatus_eq_ok.mp h
    rw [show ((persistStatusChange env c).run s).2.1 = _ from h']
    exact ClustersFrom.replace ⟨stored, (Store.find?_eq_some.mp hs).1, .inr rfl, .inl rfl⟩

/-- Dropping the force-rotation annotation writes a stored access object without it, with
its stored status, if anything. -/
theorem removeForceRotationAnnotation_clustersFrom (c : GardenerCluster)
    (status : GardenerClusterStatus) :
    ClustersFrom s.clusters (( removeForceRotationAnnotation env c).run s).2.1.clusters status := by
  unfold removeForceRotationAnnotation
  split_ifs
  · simp only [run_bind, getGardenerCluster_server]
    split
    · exact .refl _ _
    · rename_i stored _
      let x := { stored with annotations := stored.annotations.erase forceKubeconfigRotationAnnotation }
      show ClustersFrom s.clusters ((updateGardenerCluster env x).run s).2.1.clusters status
      rcases issueWrite_cases env s .updateGardenerCluster (·.updateGardenerCluster x)
        with ⟨-, -, h⟩ | ⟨-, -, h⟩
      · rw [show ((updateGardenerCluster env x).run s).2.1 = s from h]
        exact .refl _ _
      · obtain ⟨stored', hs, h'⟩ := Server.updateGardenerCluster_eq_ok.mp h
        rw [show ((updateGardenerCluster env x).run s).2.1 = _ from h']
        exact ClustersFrom.replace ⟨stored', (Store.find?_eq_some.mp hs).1, .inl rfl,
          .inr (by simp [x, secretRotationForced, Finmap.lookup_erase])⟩
  · exact .refl _ _

/-- The end of `Reconcile` writes a stored access object with the status of `c`, if
anything. -/
theorem requeueUnlessWritten_clustersFrom (controller : GardenerClusterController)
    (ks : KubeconfigStatus) (c : GardenerCluster) :
    ClustersFrom s.clusters ((requeueUnlessWritten controller env ks c).run s).2.1.clusters
      c.status := by
  unfold requeueUnlessWritten
  split_ifs
  · exact persistStatusChange_clustersFrom env s c
  · exact .refl _ _

/-- After `handleKubeconfig`, `Reconcile` writes stored access objects with the status of the
one it was handed back, or without the force-rotation annotation, if anything. -/
theorem handleKubeconfigResult_clustersFrom (controller : GardenerClusterController)
    (r : KubeconfigStatus × Option Error × GardenerCluster) :
    ClustersFrom s.clusters ((handleKubeconfigResult controller env r).run s).2.1.clusters
      r.2.2.status := by
  obtain ⟨ks, _ | e, c⟩ := r
  · simp only [handleKubeconfigResult]
    split_ifs
    · simp only [run_bind]
      split
      · exact removeForceRotationAnnotation_clustersFrom env s c _
      · exact (removeForceRotationAnnotation_clustersFrom env s c _).trans
          (requeueUnlessWritten_clustersFrom env _ controller ks c)
    · exact requeueUnlessWritten_clustersFrom env s controller ks c
  · exact persistStatusChange_clustersFrom env s c

/-- Every access object after a reconcile has a status before it, or one with an error or a
`True` ready condition recorded; and the annotations of one before it, or no force-rotation
annotation. -/
theorem reconcile_writes (controller : GardenerClusterController) (now : Clock)
    (req : NamespacedName) :
    ∀ c' ∈ ((reconcile controller env now req).run s).2.1.clusters.items,
      (∃ c ∈ s.clusters.items, StatusStep c c'.status) ∧
        ∃ c ∈ s.clusters.items, c'.annotations = c.annotations ∨ secretRotationForced c' = false := by
  simp only [reconcile, run_bind, getGardenerCluster_server]
  split
  · have kept : ∀ c' ∈ s.clusters.items, (∃ c ∈ s.clusters.items, StatusStep c c'.status) ∧
        ∃ c ∈ s.clusters.items, c'.annotations = c.annotations ∨ secretRotationForced c' = false :=
      fun c' hc' => ⟨⟨c', hc', .kept⟩, c', hc', .inl rfl⟩
    split_ifs
    · simp only [run_bind, run_pure]
      rcases deleteKubeconfigSecret_server env s req.name with h | ⟨-, -, -, h, -⟩
      all_goals rw [h]; exact kept
    · exact kept
  · rename_i c hg
    have hmem : c ∈ s.clusters.items := by
      cases hf : env.fails .getGardenerCluster
      · rw [getGardenerCluster_run env s hf] at hg
        exact (Store.find?_eq_some.mp (Server.getGardenerCluster_eq_ok.mp hg)).1
      · simp [getGardenerCluster, issueRead, hf] at hg
    have hc : ((handleKubeconfig controller env c now).run s).2.1.clusters = s.clusters := by
      rcases handleKubeconfig_server env s controller c now with h | ⟨-, -, -, -, -, -, h, -⟩ |
        ⟨-, -, -, h, -⟩
      all_goals rw [h]
    have h := handleKubeconfigResult_clustersFrom env ((handleKubeconfig controller env c now).run s).2.1
      controller ((handleKubeconfig controller env c now).run s).1
    rw [hc] at h
    simp only [run_bind]
    intro c' hc'
    obtain ⟨c₀, hc₀, hstatus, hann⟩ := h c' hc'
    refine ⟨?_, c₀, hc₀, hann⟩
    rcases hstatus with he | he
    · exact ⟨c₀, hc₀, he ▸ .kept⟩
    · exact ⟨c, hmem, he ▸ handleKubeconfig_statusStep env s controller c now⟩

end Writes

/-! ### Coherent statuses, over every run -/

/-- At most one condition per type, and a `KubeconfigManagement` condition that is `False`
exactly when the state is `Error`. -/
def StatusCoherent (status : GardenerClusterStatus) : Prop :=
  (status.conditions.map (·.type)).Nodup ∧
    ∀ cond ∈ status.conditions, cond.type = .kubeconfigManagement →
      (cond.status = .conditionFalse ↔ status.state = some .error)

instance (status : GardenerClusterStatus) : Decidable (StatusCoherent status) :=
  inferInstanceAs (Decidable (_ ∧ _))

/-- Setting the state and upserting a condition that agrees with it keeps a status coherent;
a condition of the one type replaces the one there. -/
theorem StatusCoherent.setStatusCondition {status : GardenerClusterStatus}
    (h : StatusCoherent status) (state : Option State) (c : Condition)
    (hc : c.status = .conditionFalse ↔ state = some .error) :
    StatusCoherent ⟨state, setStatusCondition status.conditions c⟩ := by
  refine ⟨setStatusCondition_nodup h.1 c, fun x hx hk => ?_⟩
  rcases mem_setStatusCondition hx with rfl | ⟨-, hne⟩
  · exact hc
  · cases hk' : c.type
    exact absurd (hk.trans hk'.symm) hne

/-- What a reconcile leaves as a status is coherent when the status it read was. -/
theorem StatusStep.coherent {c : GardenerCluster} {status : GardenerClusterStatus}
    (h : StatusStep c status) (hc : StatusCoherent c.status) : StatusCoherent status := by
  cases h with
  | kept => exact hc
  | error type reason => exact hc.setStatusCondition _ _ (by simp)
  | ready type reason => exact hc.setStatusCondition _ _ (by simp)

/-- Along every run whose author installs only access objects of coherent statuses, from
access objects of coherent statuses, every access object has a coherent status: at most one
condition per type, and a `KubeconfigManagement` condition that is `False` exactly when its
state is `Error`. -/
theorem runEvents_status_coherent (controller : GardenerClusterController) (s : Server)
    (events : List Event) (hs : ∀ c ∈ s.clusters.items, StatusCoherent c.status)
    (he : ∀ cs, Event.author cs ∈ events → ∀ c ∈ cs.items, StatusCoherent c.status) :
    ∀ c ∈ (runEvents controller s events).clusters.items, StatusCoherent c.status :=
  runEvents_induction controller (fun s => ∀ c ∈ s.clusters.items, StatusCoherent c.status)
    (fun env now req s hs c' hc' =>
      have ⟨c, hc, hstep⟩ := (reconcile_writes env s controller now req c' hc').1
      hstep.coherent (hs c hc))
    events s (fun cs h _ _ => he cs h) hs

theorem runEvents_status_coherent_created :
    let s := accessServer (Finmap.singleton shootNameLabel "s")
    let events := [Event.reconcile (Env.faultless "kubeconfig") (Clock.ofTime ⟨0⟩) ⟨"kcp-system", "n"⟩]
    (∀ c ∈ s.clusters.items, StatusCoherent c.status) ∧
      (∀ cs, Event.author cs ∈ events → ∀ c ∈ cs.items, StatusCoherent c.status) ∧
      ∀ c ∈ (runEvents ⟨Duration.zero⟩ s events).clusters.items, StatusCoherent c.status := by
  intro s events
  have hs : ∀ c ∈ s.clusters.items, StatusCoherent c.status := by decide
  have he : ∀ cs, Event.author cs ∈ events → ∀ c ∈ cs.items, StatusCoherent c.status := by
    simp [events]
  exact ⟨hs, he, runEvents_status_coherent ⟨Duration.zero⟩ s events hs he⟩

/-! ### No rotation forced by the controller, over every run -/

/-- No access object carries the force-rotation annotation. -/
def Unforced (cs : Store GardenerCluster GardenerCluster.key) : Prop :=
  ∀ c ∈ cs.items, secretRotationForced c = false

instance (cs : Store GardenerCluster GardenerCluster.key) : Decidable (Unforced cs) :=
  inferInstanceAs (Decidable (∀ c ∈ cs.items, _))

/-- A reconcile adds no force-rotation annotation. -/
theorem Unforced.reconcile {s : Server} (hu : Unforced s.clusters) (env : Env)
    (controller : GardenerClusterController) (now : Clock) (req : NamespacedName) :
    Unforced ((reconcile controller env now req).run s).2.1.clusters := by
  intro c' hc'
  obtain ⟨c, hc, h | h⟩ := (reconcile_writes env s controller now req c' hc').2
  · unfold secretRotationForced
    rw [h]
    exact hu c hc
  · exact h

/-- Along every run whose author installs only access objects without force-rotation
annotation, from such access objects, no access object carries it. -/
theorem runEvents_unforced (controller : GardenerClusterController) (events : List Event)
    (s : Server) (he : ∀ cs, Event.author cs ∈ events → Unforced cs) (hu : Unforced s.clusters) :
    Unforced (runEvents controller s events).clusters :=
  runEvents_induction controller (Unforced ·.clusters)
    (fun env now req _ hu => hu.reconcile env controller now req) events s (fun cs h _ _ => he cs h) hu

end InfrastructureManager
