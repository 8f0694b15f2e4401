import InfrastructureManager.Controller.Labels

/-!
# At most one secret per access object, over every run

The reconciler finds the secret of an access object by its shoot-name label and creates
one only when no secret carries that label (`gardener_cluster_controller.go:172–243`);
between reconciles, the author creates, edits and deletes access objects. A run is a list
of such events (`runEvents`), and every reconcile in it may meet any fetch answer and any
rejected call.

`runEvents_at_most_one_secret`: along every run, the secret store keeps at most one
secret per shoot-name label and per cluster-name label, provided every access object
carries its shoot name as its `kyma-project.io/shoot-name` label and the name of an
access object determines its shoot (`BoundTo shootOf`), and the store starts with every
secret labelled with a name `n` carrying the shoot-name label `shootOf n`. The proof is
one step lemma per event, from `reconcile_secrets` and `reconcile_clusters`, and an
induction over the run.

Without the conditions on the access objects the invariant breaks: after an edit of the
shoot and the secret coordinates of an access object, the next reconcile creates a second
secret labelled with its name (`edited_shoot_duplicates_secret`).
-/

namespace InfrastructureManager

/-! ### Runs -/

/-- What happens to the server between two observations. -/
inductive Event
  /-- A reconcile of the request, reading the clock as `now` and meeting the answers of `env`. -/
  | reconcile (env : Env) (now : Clock) (req : NamespacedName)
  /-- The author replaces the access objects: creates, edits or deletes some. -/
  | author (clusters : Store GardenerCluster GardenerCluster.key)

/-- The server after one event. -/
def Event.apply (controller : GardenerClusterController) (s : Server) : Event → Server
  | .reconcile env now req => ((InfrastructureManager.reconcile controller env now req).run s).2.1
  | .author clusters => s.withClusters clusters

/-- The server after the events, in order. -/
def runEvents (controller : GardenerClusterController) (s : Server) (events : List Event) :
    Server :=
  events.foldl (Event.apply controller) s

/-- A run extended by one event ends where that event takes the run's last server. -/
theorem runEvents_append_singleton (controller : GardenerClusterController) (s : Server)
    (events : List Event) (e : Event) :
    runEvents controller s (events ++ [e]) = e.apply controller (runEvents controller s events) := by
  simp [runEvents]

/-- A property of the server that every reconcile keeps, and every edit of the author in the
run, holds after the run from a server that has it. -/
theorem runEvents_induction (controller : GardenerClusterController) (P : Server → Prop)
    (hr : ∀ (env : Env) (now : Clock) (req : NamespacedName) (s : Server), P s →
      P ((reconcile controller env now req).run s).2.1)
    (events : List Event) (s : Server)
    (ha : ∀ cs, Event.author cs ∈ events → ∀ s : Server, P s → P (s.withClusters cs))
    (hs : P s) : P (runEvents controller s events) := by
  induction events generalizing s with
  | nil => exact hs
  | cons e events ih =>
    refine ih _ (fun cs h => ha cs (List.mem_cons_of_mem _ h)) ?_
    cases e with
    | reconcile env now req => exact hr env now req s hs
    | author cs => exact ha cs (List.mem_cons_self _ _) s hs

/-! ### The invariant -/

/-- Every access object carries its shoot name as its shoot-name label, and the access
object named `n` is the one of the shoot `shootOf n`. -/
def BoundTo (shootOf : String → String) (cs : Store GardenerCluster GardenerCluster.key) : Prop :=
  ∀ c ∈ cs.items, c.labels.lookup shootNameLabel = some c.spec.shoot.name ∧
    c.spec.shoot.name = shootOf c.name

instance (shootOf : String → String) (cs : Store GardenerCluster GardenerCluster.key) :
    Decidable (BoundTo shootOf cs) :=
  inferInstanceAs (Decidable (∀ c ∈ cs.items, _))

/-- Labels of secrets with at most one per shoot-name label, where a cluster-name label
`n` comes with the shoot-name label `shootOf n`. -/
structure LabelInvariant (shootOf : String → String) (ls : List StringMap) : Prop where
  perShoot : ∀ v, (ls.filter (matchingLabels shootNameLabel v)).length ≤ 1
  named : ∀ l ∈ ls, ∀ n, l.lookup clusterCRNameLabel = some n →
    l.lookup shootNameLabel = some (shootOf n)

/-- The invariant of the secret store: its labels satisfy `LabelInvariant`. -/
def SecretsInvariant (shootOf : String → String) (st : Store Secret Secret.key) : Prop :=
  LabelInvariant shootOf (st.items.map (·.labels))

theorem LabelInvariant.of_sublist {shootOf : String → String} {ls ls' : List StringMap}
    (h : List.Sublist ls' ls) (hi : LabelInvariant shootOf ls) : LabelInvariant shootOf ls' :=
  ⟨fun v => ((h.filter _).length_le).trans (hi.perShoot v),
    fun l hl => hi.named l (h.subset hl)⟩

/-- Adding the labels of a secret labelled with the name `n` and the shoot `shootOf n`
keeps the invariant when no secret carried that shoot-name label. -/
theorem LabelInvariant.cons {shootOf : String → String} {ls : List StringMap} {l : StringMap}
    {n : String} (hi : LabelInvariant shootOf ls) (hn : l.lookup clusterCRNameLabel = some n)
    (hs : l.lookup shootNameLabel = some (shootOf n))
    (hfree : ls.filter (matchingLabels shootNameLabel (shootOf n)) = []) :
    LabelInvariant shootOf (l :: ls) := by
  constructor
  · intro v
    rw [List.filter_cons]
    split_ifs with hv
    · have : v = shootOf n := by simp_all [matchingLabels]
      simp [this, hfree]
    · exact hi.perShoot v
  · intro l' hl' n' hn'
    rcases List.mem_cons.mp hl' with rfl | hl'
    · rw [hn] at hn'; cases hn'; exact hs
    · exact hi.named l' hl' n' hn'

/-- Rewriting a stored secret with its key and labels leaves the labels of the store. -/
theorem labels_replace {st : Store Secret Secret.key} {x y : Secret} (hx : x ∈ st.items)
    (hk : y.key = x.key) (hl : y.labels = x.labels) :
    (st.replace y).items.map (·.labels) = st.items.map (·.labels) := by
  simp only [Store.replace, List.map_map]
  refine List.map_congr_left fun z hz => ?_
  by_cases h : z.key = y.key
  · have : z = x := st.eq_of_key_eq hz hx (h.trans hk)
    simp [this, hk, hl]
  · simp [h]

/-- A secret labelled with the name `n` carries the shoot-name label `shootOf n`, which at
most one secret carries: so at most one secret is labelled with the name `n`. -/
theorem SecretsInvariant.perName {shootOf : String → String} {st : Store Secret Secret.key}
    (hi : SecretsInvariant shootOf st) (n : String) :
    (st.list (matchingLabels clusterCRNameLabel n ·.labels)).length ≤ 1 := by
  have heq : st.list (matchingLabels clusterCRNameLabel n ·.labels) =
      (st.list (matchingLabels shootNameLabel (shootOf n) ·.labels)).filter
        (matchingLabels clusterCRNameLabel n ·.labels) := by
    simp only [Store.list, List.filter_filter]
    refine List.filter_congr fun x hx => ?_
    cases h : matchingLabels clusterCRNameLabel n x.labels
    · simp
    · have := hi.named _ (List.mem_map_of_mem _ hx) n (by simpa [matchingLabels] using h)
      simp [matchingLabels, this]
  have hshoot := hi.perShoot (shootOf n)
  rw [List.filter_map, List.length_map] at hshoot
  rw [heq]
  exact (List.filter_sublist _).length_le.trans hshoot

/-- At most one secret carries each shoot-name label. -/
theorem SecretsInvariant.perShoot_list {shootOf : String → String} {st : Store Secret Secret.key}
    (hi : SecretsInvariant shootOf st) (v : String) :
    (st.list (matchingLabels shootNameLabel v ·.labels)).length ≤ 1 := by
  have := hi.perShoot v
  rwa [List.filter_map, List.length_map] at this

/-! ### One event, then every run -/

/-- Retouching keeps access objects bound. -/
theorem BoundTo.of_retouched {shootOf : String → String}
    {k : NamespacedName} {cs cs' : Store GardenerCluster GardenerCluster.key}
    (hb : BoundTo shootOf cs) (h : Retouched k cs cs') : BoundTo shootOf cs' := by
  intro c' hc'
  obtain ⟨c, hc, hk, hl, hs⟩ := h.1.1 c' hc'
  rw [show c'.name = c.name from congrArg NamespacedName.name hk, hl, hs]
  exact hb c hc

/-- The secret created for a bound access object carries the shoot of its name. -/
theorem BoundTo.newSecret_shoot {shootOf : String → String}
    {cs : Store GardenerCluster GardenerCluster.key} (hb : BoundTo shootOf cs)
    {r : NamespacedName} {c : GardenerCluster} (hc : cs.find? r = some c) (kubeconfig : String)
    (now : Time) :
    (newSecret c kubeconfig now).labels.lookup shootNameLabel = some (shootOf r.name) := by
  obtain ⟨hm, hk⟩ := Store.find?_eq_some.mp hc
  obtain ⟨hlabel, hshoot⟩ := hb c hm
  rw [newSecret_shootName, hlabel, hshoot, ← hk]
  rfl

/-- Whatever a reconcile does to the secrets keeps their invariant, when the access objects
are bound. -/
theorem SecretsStep.invariant {shootOf : String → String}
    {cs : Store GardenerCluster GardenerCluster.key} {req : NamespacedName} {now : Clock}
    {st st' : Store Secret Secret.key} (hb : BoundTo shootOf cs) (step : SecretsStep cs req now st st')
    (hi : SecretsInvariant shootOf st) : SecretsInvariant shootOf st' := by
  unfold SecretsInvariant at hi ⊢
  cases step with
  | unchanged => exact hi
  | rewrite c x y _ hl hk hlab _ =>
    rw [labels_replace (Store.mem_of_mem_list (hl ▸ List.mem_singleton_self x))
      (show y.normalize.key = x.key from hk) (show y.normalize.labels = x.labels from hlab)]
    exact hi
  | create c kubeconfig st' hc hl _ h =>
    obtain ⟨hlabel, hshoot⟩ := hb c (Store.find?_eq_some.mp hc).1
    rw [h, List.map_cons]
    refine hi.cons (newSecret_clusterCRName c kubeconfig now.lastSyncTime) ?_ ?_
    · rw [← hshoot, ← hlabel]; exact newSecret_shootName c kubeconfig now.lastSyncTime
    · rw [List.filter_map, ← hshoot]; simpa [Store.list] using hl
  | delete x _ _ _ => exact hi.of_sublist ((List.filter_sublist _).map _)

/-- One event keeps the access objects bound and the secrets' invariant, when the author
only installs bound access objects. -/
theorem Event.apply_invariant (controller : GardenerClusterController) {shootOf : String → String}
    {s : Server} {e : Event} (he : ∀ cs, e = .author cs → BoundTo shootOf cs)
    (hb : BoundTo shootOf s.clusters) (hi : SecretsInvariant shootOf s.secrets) :
    BoundTo shootOf (e.apply controller s).clusters ∧
      SecretsInvariant shootOf (e.apply controller s).secrets := by
  cases e with
  | reconcile env now req =>
    exact ⟨hb.of_retouched (reconcile_clusters env s controller now req),
      (reconcile_secrets env s controller now req).invariant hb hi⟩
  | author cs => exact ⟨he cs rfl, hi⟩

/-- Every run keeps the access objects bound and the secrets' invariant, when the author
only installs bound access objects. -/
theorem runEvents_invariant (controller : GardenerClusterController) {shootOf : String → String}
    (events : List Event) (s : Server) (he : ∀ cs, Event.author cs ∈ events → BoundTo shootOf cs)
    (hb : BoundTo shootOf s.clusters) (hi : SecretsInvariant shootOf s.secrets) :
    BoundTo shootOf (runEvents controller s events).clusters ∧
      SecretsInvariant shootOf (runEvents controller s events).secrets := by
  induction events generalizing s with
  | nil => exact ⟨hb, hi⟩
  | cons e events ih =>
    obtain ⟨hb', hi'⟩ :=
      Event.apply_invariant controller (fun cs h => he cs (h ▸ List.mem_cons_self _ _)) hb hi
    exact ih _ (fun cs h => he cs (List.mem_cons_of_mem _ h)) hb' hi'

/-- Along every run whose access objects are bound to their shoots, from a secret store
where every secret labelled with a name carries the shoot of that name and at most one
secret carries each shoot-name label, every reachable store holds at most one secret per
cluster-name label and per shoot-name label. -/
theorem runEvents_at_most_one_secret (controller : GardenerClusterController)
    (shootOf : String → String) (s : Server) (events : List Event)
    (hb : BoundTo shootOf s.clusters) (he : ∀ cs, Event.author cs ∈ events → BoundTo shootOf cs)
    (hi : SecretsInvariant shootOf s.secrets) :
    (∀ n, ((runEvents controller s events).secrets.list
        (matchingLabels clusterCRNameLabel n ·.labels)).length ≤ 1) ∧
      ∀ v, ((runEvents controller s events).secrets.list
        (matchingLabels shootNameLabel v ·.labels)).length ≤ 1 := by
  have hrun := (runEvents_invariant controller events s he hb hi).2
  refine ⟨hrun.perName, fun v => ?_⟩
  have := hrun.perShoot v
  rwa [List.filter_map, List.length_map] at this

theorem runEvents_at_most_one_secret_twice :
    BoundTo (fun _ => "s") (accessServer (Finmap.singleton shootNameLabel "s")).clusters ∧
      (∀ n, ((runEvents ⟨Duration.zero⟩ (accessServer (Finmap.singleton shootNameLabel "s"))
        [.reconcile (Env.faultless "kubeconfig") (Clock.ofTime ⟨0⟩) ⟨"kcp-system", "n"⟩,
          .reconcile (Env.faultless "kubeconfig") (Clock.ofTime ⟨1⟩) ⟨"kcp-system", "n"⟩]).secrets.list
          (matchingLabels clusterCRNameLabel n ·.labels)).length ≤ 1) ∧
      ∀ v, ((runEvents ⟨Duration.zero⟩ (accessServer (Finmap.singleton shootNameLabel "s"))
        [.reconcile (Env.faultless "kubeconfig") (Clock.ofTime ⟨0⟩) ⟨"kcp-system", "n"⟩,
          .reconcile (Env.faultless "kubeconfig") (Clock.ofTime ⟨1⟩) ⟨"kcp-system", "n"⟩]).secrets.list
          (matchingLabels shootNameLabel v ·.labels)).length ≤ 1 :=
  ⟨by decide, runEvents_at_most_one_secret ⟨Duration.zero⟩ (fun _ => "s") _ _ (by decide)
    (by simp) ⟨fun _ => by simp [accessServer, Store.empty], by simp [accessServer, Store.empty]⟩⟩

/-- The access object `kcp-system/n` moved to the shoot `s2`, labelled accordingly, with its
kubeconfig in the secret `kcp-system/kubeconfig-n2`. -/
def movedAccessObject : GardenerCluster :=
  { accessObject (Finmap.singleton shootNameLabel "s2") with
    spec := ⟨⟨"s2"⟩, ⟨⟨"kubeconfig-n2", "kcp-system", "config"⟩⟩⟩ }

/-- From the empty secret store: a reconcile, the author moving the access object to another
shoot and secret, and a reconcile leave two secrets labelled with its name. -/
theorem edited_shoot_duplicates_secret :
    (accessServer (Finmap.singleton shootNameLabel "s")).secrets.items = [] ∧
      ((runEvents ⟨Duration.zero⟩ (accessServer (Finmap.singleton shootNameLabel "s"))
        [.reconcile (Env.faultless "kubeconfig") (Clock.ofTime ⟨0⟩) ⟨"kcp-system", "n"⟩,
          .author ⟨[movedAccessObject], List.nodup_singleton _⟩,
          .reconcile (Env.faultless "kubeconfig") (Clock.ofTime ⟨1⟩) ⟨"kcp-system", "n"⟩]).secrets.list
        (matchingLabels clusterCRNameLabel "n" ·.labels)).length = 2 := by
  decide

end InfrastructureManager
