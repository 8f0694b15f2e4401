import InfrastructureManager.Controller.Commutation

/-!
# Interleaved reconciles of independent access objects

The work queue hands over the requests of different access objects in any order
(`SetupWithManager`, `gardener_cluster_controller.go:388–393`). For two `Independent` access
objects every interleaving of their reconciles ends like all reconciles of the first, then all
of the second (`runEvents_interleaving`): a reconcile reads a `List` only through its length
and single element (`reconcile_orderBlind`), and keeps the two independent.
-/

namespace InfrastructureManager

/-! ### Servers holding the same objects -/

namespace Store

variable {α : Type} {key : α → NamespacedName} {st st' : Store α key}

/-- An object is stored exactly when `Get` finds it at its key. -/
theorem mem_iff_find? {x : α} : x ∈ st.items ↔ st.find? (key x) = some x :=
  ⟨fun hx => find?_eq_some.mpr ⟨hx, rfl⟩, fun h => (find?_eq_some.mp h).1⟩

/-- Stores listing the same objects answer every `Get` alike. -/
theorem find?_of_perm (h : st.items.Perm st'.items) (k : NamespacedName) :
    st.find? k = st'.find? k :=
  find?_congr fun _ _ => h.mem_iff

theorem contains_of_perm (h : st.items.Perm st'.items) (k : NamespacedName) :
    st.contains k = st'.contains k := by
  rw [contains_eq_isSome, contains_eq_isSome, find?_of_perm h]

/-- Stores answering every `Get` alike list the same objects. -/
theorem perm_of_find? (h : ∀ k, st.find? k = st'.find? k) : st.items.Perm st'.items :=
  (List.perm_ext_iff_of_nodup (List.Nodup.of_map key st.nodup)
    (List.Nodup.of_map key st'.nodup)).mpr fun _ => by rw [mem_iff_find?, mem_iff_find?, h]

end Store

/-- Two servers holding the same objects, perhaps listed in another order. -/
structure Server.SameObjects (s t : Server) : Prop where
  clusters : s.clusters.items.Perm t.clusters.items
  secrets : s.secrets.items.Perm t.secrets.items

namespace Server.SameObjects

variable {s t u : Server}

theorem refl (s : Server) : SameObjects s s := ⟨.refl _, .refl _⟩

theorem symm (h : SameObjects s t) : SameObjects t s := ⟨h.clusters.symm, h.secrets.symm⟩

theorem trans (h₁ : SameObjects s t) (h₂ : SameObjects t u) : SameObjects s u :=
  ⟨h₁.clusters.trans h₂.clusters, h₁.secrets.trans h₂.secrets⟩

instance : Trans SameObjects SameObjects SameObjects := ⟨trans⟩

/-- Servers answering every `Get` alike hold the same objects. -/
theorem of_find? (hc : ∀ k, s.clusters.find? k = t.clusters.find? k)
    (hs : ∀ k, s.secrets.find? k = t.secrets.find? k) : SameObjects s t :=
  ⟨Store.perm_of_find? hc, Store.perm_of_find? hs⟩

end Server.SameObjects

/-! ### A reconcile cannot tell the order of the server's lists -/

/-- Runs of one computation from two servers holding the same objects: the same result and
calls, and servers that still hold the same objects. -/
structure RunsAlike {α : Type} (r r' : α × Server × List CallRecord) : Prop where
  result : r.1 = r'.1
  log : r.2.2 = r'.2.2
  same : Server.SameObjects r.2.1 r'.2.1

/-- A computation that cannot tell the order in which the server lists its objects. -/
def OrderBlind {α : Type} (x : ControllerM α) : Prop :=
  ∀ s t, Server.SameObjects s t → RunsAlike (x.run s) (x.run t)

theorem OrderBlind.pure {α : Type} (a : α) : OrderBlind (pure a : ControllerM α) :=
  fun _ _ h => ⟨rfl, rfl, h⟩

theorem OrderBlind.bind {α β : Type} {x : ControllerM α} {f : α → ControllerM β}
    (hx : OrderBlind x) (hf : ∀ a, OrderBlind (f a)) : OrderBlind (x >>= f) := fun s t h => by
  have r := hx s t h
  have r' := hf (x.run t).1 _ _ r.same
  rw [run_bind, run_bind, r.result]
  exact ⟨r'.result, by rw [r.log, r'.log], r'.same⟩

theorem OrderBlind.issueRead {α : Type} {env : Env} {call : Call}
    {answer : Server → Except Error α} (ha : ∀ s t, Server.SameObjects s t → answer s = answer t) :
    OrderBlind (issueRead env call answer) := fun s t h => by
  simp only [InfrastructureManager.issueRead, ha s t h]
  exact ⟨rfl, rfl, h⟩

/-- The answers of the server to one write from two servers holding the same objects. -/
inductive SameAnswers : Except Error Server → Except Error Server → Prop
  | error (e : Error) : SameAnswers (.error e) (.error e)
  | ok {s t : Server} : Server.SameObjects s t → SameAnswers (.ok s) (.ok t)

theorem OrderBlind.issueWrite {env : Env} {call : Call} {answer : Server → Except Error Server}
    (ha : ∀ s t, Server.SameObjects s t → SameAnswers (answer s) (answer t)) :
    OrderBlind (issueWrite env call answer) := fun s t h => by
  have hst := ha s t h
  simp only [InfrastructureManager.issueWrite]
  cases env.fails call
  · simp only [Bool.false_eq_true, if_false]
    generalize answer s = a at hst ⊢
    generalize answer t = b at hst ⊢
    cases hst with
    | error e => exact ⟨rfl, rfl, h⟩
    | ok h' => exact ⟨rfl, rfl, h'⟩
  · exact ⟨rfl, rfl, h⟩

/-- Two lists holding the same objects are equal, or both hold at least two. -/
theorem eq_or_cons_cons_of_perm {α : Type} {l l' : List α} (h : l.Perm l') :
    l = l' ∨ (∃ a b r, l = a :: b :: r) ∧ ∃ a b r, l' = a :: b :: r := by
  rcases l with _ | ⟨a, _ | ⟨b, r⟩⟩
  · exact .inl (List.nil_perm.mp h).symm
  · exact .inl (List.singleton_perm.mp h)
  · rcases l' with _ | ⟨a', _ | ⟨b', r'⟩⟩
    · exact absurd h.length_eq (by simp)
    · exact absurd h.length_eq (by simp)
    · exact .inr ⟨⟨a, b, r, rfl⟩, a', b', r', rfl⟩

/-- A `List` of secrets, followed by a continuation that treats all lists of two secrets or
more alike, cannot tell the order of the server's secrets. -/
theorem OrderBlind.listSecrets_bind {β : Type} {env : Env} {sel : StringMap → Bool}
    {f : Except Error (List Secret) → ControllerM β} (hf : ∀ r, OrderBlind (f r))
    (hlong : ∀ (a b : Secret) r a' b' r', f (.ok (a :: b :: r)) = f (.ok (a' :: b' :: r'))) :
    OrderBlind (listSecrets env sel >>= f) := fun s t h => by
  have hfr : f ((listSecrets env sel).run s).1 = f ((listSecrets env sel).run t).1 ∧
      ((listSecrets env sel).run s).2.2 = ((listSecrets env sel).run t).2.2 := by
    cases hl : env.fails .listSecrets
    · rw [listSecrets_run env s hl, listSecrets_run env t hl]
      refine ⟨?_, rfl⟩
      rcases eq_or_cons_cons_of_perm (h.secrets.filter (sel ·.labels)) with
        he | ⟨⟨a, b, r, ha⟩, a', b', r', hb⟩
      · simp only [Store.list, he]
      · rw [Store.list, Store.list, ha, hb, hlong]
    · simp [listSecrets, InfrastructureManager.issueRead, hl]
  have r := hf ((listSecrets env sel).run t).1 ((listSecrets env sel).run s).2.1
    ((listSecrets env sel).run t).2.1 h
  rw [run_bind, run_bind, hfr.1]
  exact ⟨r.result, by rw [hfr.2, r.log], r.same⟩

/-! ### The server's answers -/

namespace Server.SameObjects

variable {s t : Server}

theorem getGardenerCluster (h : SameObjects s t) (k : NamespacedName) :
    s.getGardenerCluster k = t.getGardenerCluster k := by
  simp only [Server.getGardenerCluster, Store.find?_of_perm h.clusters k]

theorem createSecret (h : SameObjects s t) (x : Secret) :
    SameAnswers (s.createSecret x) (t.createSecret x) := by
  have hc := Store.contains_of_perm h.secrets x.key
  cases hs : s.secrets.contains x.key <;> rw [hs] at hc
  · simp only [Server.createSecret, hs, ← hc, Bool.false_eq_true, dite_false]
    exact .ok ⟨h.clusters, h.secrets.cons _⟩
  · simp only [Server.createSecret, hs, ← hc, dite_true]
    exact .error _

theorem updateSecret (h : SameObjects s t) (x : Secret) :
    SameAnswers (s.updateSecret x) (t.updateSecret x) := by
  unfold Server.updateSecret
  rw [Store.contains_of_perm h.secrets]
  split
  · exact .ok ⟨h.clusters, h.secrets.map _⟩
  · exact .error _

theorem deleteSecret (h : SameObjects s t) (x : Secret) :
    SameAnswers (s.deleteSecret x) (t.deleteSecret x) := by
  unfold Server.deleteSecret
  rw [Store.contains_of_perm h.secrets]
  split
  · exact .ok ⟨h.clusters, h.secrets.filter _⟩
  · exact .error _

/-- `Update` of an access object's key in the access-object store. -/
theorem update (h : SameObjects s t) (c : GardenerCluster) :
    SameAnswers ((s.clusters.update c).map s.withClusters)
      ((t.clusters.update c).map t.withClusters) := by
  unfold Store.update
  rw [Store.contains_of_perm h.clusters]
  split
  · exact .ok ⟨h.clusters.map _, h.secrets⟩
  · exact .error _

theorem updateGardenerCluster (h : SameObjects s t) (c : GardenerCluster) :
    SameAnswers (s.updateGardenerCluster c) (t.updateGardenerCluster c) := by
  unfold Server.updateGardenerCluster
  rw [Store.find?_of_perm h.clusters]
  split
  · exact h.update _
  · exact .error _

theorem updateGardenerClusterStatus (h : SameObjects s t) (c : GardenerCluster) :
    SameAnswers (s.updateGardenerClusterStatus c) (t.updateGardenerClusterStatus c) := by
  unfold Server.updateGardenerClusterStatus
  rw [Store.find?_of_perm h.clusters]
  split
  · exact h.update _
  · exact .error _

end Server.SameObjects

/-! ### The calls of a reconcile -/

section Calls

variable (env : Env)

theorem getGardenerCluster_orderBlind (call : Call) (k : NamespacedName) :
    OrderBlind (getGardenerCluster env call k) :=
  .issueRead fun _ _ h => h.getGardenerCluster k

theorem fetchKubeconfig_orderBlind (n : String) : OrderBlind (fetchKubeconfig env n) :=
  fun _ _ h => ⟨rfl, rfl, h⟩

theorem getSecret_orderBlind (n : String) : OrderBlind (getSecret env n) :=
  .listSecrets_bind (fun r => by split <;> exact .pure _) fun _ _ _ _ _ _ => rfl

theorem deleteKubeconfigSecret_orderBlind (n : String) :
    OrderBlind (deleteKubeconfigSecret env n) := by
  refine .listSecrets_bind (fun r => ?_) fun _ _ _ _ _ _ => rfl
  dsimp only
  split
  · exact .pure _
  · exact .issueWrite fun _ _ h => h.deleteSecret _
  · exact .pure _

theorem removeKubeconfig_orderBlind (c : GardenerCluster) (existing : Option Secret) :
    OrderBlind (removeKubeconfig env c existing) := by
  cases existing with
  | none => exact .pure _
  | some x => exact .issueWrite fun _ _ h => h.updateSecret _

theorem updateExistingSecret_orderBlind (kubeconfig : String) (c : GardenerCluster) (x : Secret)
    (t : Time) : OrderBlind (updateExistingSecret env kubeconfig c x t) := by
  refine .bind (.issueWrite fun _ _ h => h.updateSecret _) fun r => ?_
  dsimp only
  split <;> exact .pure _

theorem createNewSecret_orderBlind (kubeconfig : String) (c : GardenerCluster) (t : Time) :
    OrderBlind (createNewSecret env kubeconfig c t) := by
  refine .bind (.issueWrite fun _ _ h => h.createSecret _) fun r => ?_
  dsimp only
  split <;> exact .pure _

theorem handleExistingSecret_orderBlind (controller : GardenerClusterController)
    (c : GardenerCluster) (existing : Option Secret) (t : Clock) :
    OrderBlind (handleExistingSecret controller env c existing t) := by
  refine .bind (fetchKubeconfig_orderBlind env _) fun r => ?_
  dsimp only
  split
  · exact .pure _
  · split_ifs
    · refine .bind (removeKubeconfig_orderBlind env c existing) fun e => ?_
      dsimp only
      split <;> exact .pure _
    · exact .pure _
    · split
      · exact .bind (updateExistingSecret_orderBlind env _ c _ t.lastSyncTime) fun _ => .pure _
      · exact .bind (createNewSecret_orderBlind env _ c t.lastSyncTime) fun _ => .pure _

theorem handleKubeconfig_orderBlind (controller : GardenerClusterController) (c : GardenerCluster)
    (t : Clock) : OrderBlind (handleKubeconfig controller env c t) := by
  refine .bind (getSecret_orderBlind env _) fun r => ?_
  dsimp only
  split
  · split_ifs
    · exact handleExistingSecret_orderBlind env controller c none t
    · exact .pure _
  · exact handleExistingSecret_orderBlind env controller c _ t

theorem removeForceRotationAnnotation_orderBlind (c : GardenerCluster) :
    OrderBlind ( removeForceRotationAnnotation env c) := by
  unfold removeForceRotationAnnotation
  split_ifs
  · refine .bind (getGardenerCluster_orderBlind env _ _) fun r => ?_
    dsimp only
    split
    · exact .pure _
    · exact .issueWrite fun _ _ h => h.updateGardenerCluster _
  · exact .pure _

theorem requeueUnlessWritten_orderBlind (controller : GardenerClusterController)
    (ks : KubeconfigStatus) (c : GardenerCluster) :
    OrderBlind (requeueUnlessWritten controller env ks c) := by
  unfold requeueUnlessWritten
  split_ifs
  · exact .bind (.issueWrite fun _ _ h => h.updateGardenerClusterStatus _) fun _ => .pure _
  · exact .pure _

theorem handleKubeconfigResult_orderBlind (controller : GardenerClusterController)
    (r : KubeconfigStatus × Option Error × GardenerCluster) :
    OrderBlind (handleKubeconfigResult controller env r) := by
  obtain ⟨ks, _ | e, c⟩ := r
  · simp only [handleKubeconfigResult]
    split_ifs
    · refine .bind (removeForceRotationAnnotation_orderBlind env c) fun e => ?_
      dsimp only
      split
      · exact .pure _
      · exact requeueUnlessWritten_orderBlind env controller ks c
    · exact requeueUnlessWritten_orderBlind env controller ks c
  · exact .bind (.issueWrite fun _ _ h => h.updateGardenerClusterStatus _) fun _ => .pure _

/-- A reconcile cannot tell the order in which the server lists its objects: from two servers
holding the same objects it returns the same result, issues the same calls, and leaves servers
holding the same objects. -/
theorem reconcile_orderBlind (controller : GardenerClusterController) (now : Clock)
    (req : NamespacedName) : OrderBlind (reconcile controller env now req) := by
  refine .bind (getGardenerCluster_orderBlind env _ _) fun r => ?_
  dsimp only
  split
  · split_ifs
    · exact .bind (deleteKubeconfigSecret_orderBlind env _) fun _ => .pure _
    · exact .pure _
  · exact .bind (handleKubeconfig_orderBlind env controller _ now)
      (handleKubeconfigResult_orderBlind env controller)

end Calls

/-! ### Runs -/

theorem runEvents_append (controller : GardenerClusterController) (s : Server)
    (xs ys : List Event) :
    runEvents controller s (xs ++ ys) = runEvents controller (runEvents controller s xs) ys :=
  List.foldl_append _ _ _ _

/-- What an event returns: the result of a reconcile and the calls it issued, from the
server `s`; nothing for an edit of the author. -/
def Event.outcome (controller : GardenerClusterController) (s : Server) :
    Event → Option ((Result × Option Error) × List CallRecord)
  | .reconcile env now req =>
    let r := (InfrastructureManager.reconcile controller env now req).run s
    some (r.1, r.2.2)
  | .author _ => none

/-- The outcomes of the events of a run, in order. -/
def runOutcomes (controller : GardenerClusterController) (s : Server) :
    List Event → List (Option ((Result × Option Error) × List CallRecord))
  | [] => []
  | e :: events => e.outcome controller s :: runOutcomes controller (e.apply controller s) events

/-- One event from servers holding the same objects returns the same outcome and leaves
servers holding the same objects. -/
theorem Event.apply_sameObjects (controller : GardenerClusterController) (e : Event)
    {s t : Server} (h : Server.SameObjects s t) :
    Server.SameObjects (e.apply controller s) (e.apply controller t) ∧
      e.outcome controller s = e.outcome controller t := by
  cases e with
  | reconcile env now req =>
    have r := reconcile_orderBlind env controller now req s t h
    exact ⟨r.same, congrArg some (Prod.ext r.result r.log)⟩
  | author cs => exact ⟨⟨.refl _, h.secrets⟩, rfl⟩

/-- Runs of one list of events from servers holding the same objects return the same
outcomes and end holding the same objects. -/
theorem runEvents_sameObjects (controller : GardenerClusterController) (events : List Event)
    {s t : Server} (h : Server.SameObjects s t) :
    Server.SameObjects (runEvents controller s events) (runEvents controller t events) ∧
      runOutcomes controller s events = runOutcomes controller t events := by
  induction events generalizing s t with
  | nil => exact ⟨h, rfl⟩
  | cons e events ih =>
    obtain ⟨he, ho⟩ := e.apply_sameObjects controller h
    obtain ⟨h₁, h₂⟩ := ih he
    exact ⟨h₁, by rw [runOutcomes, runOutcomes, ho, h₂]⟩

/-- The access object an event reconciles, if it is a reconcile. -/
def Event.request : Event → Option NamespacedName
  | .reconcile _ _ req => some req
  | .author _ => none

theorem Event.eq_of_request {e : Event} {r : NamespacedName} (h : e.request = some r) :
    ∃ env now, e = .reconcile env now r := by
  cases e with
  | reconcile env now req => cases h; exact ⟨env, now, rfl⟩
  | author cs => cases h

/-! ### Independence along a run -/

/-- A secret after a reconcile step was there before with its key and labels, or is the
stored form of the `newSecret` of the access object reconciled. -/
theorem SecretsStep.mem_cases {cs : Store GardenerCluster GardenerCluster.key}
    {req : NamespacedName} {now : Clock} {st st' : Store Secret Secret.key}
    (step : SecretsStep cs req now st st') {y : Secret} (hy : y ∈ st'.items) :
    (∃ x ∈ st.items, x.key = y.key ∧ x.labels = y.labels) ∨
      ∃ c kubeconfig, cs.find? req = some c ∧
        y = (newSecret c kubeconfig now.lastSyncTime).normalize := by
  cases step with
  | unchanged => exact .inl ⟨y, hy, rfl, rfl⟩
  | rewrite c x z _ hl hk hlab _ =>
    rcases Store.mem_replace hy with rfl | hy
    · exact .inl ⟨x, Store.mem_of_mem_list (hl ▸ List.mem_singleton_self x), hk.symm, hlab.symm⟩
    · exact .inl ⟨y, hy, rfl, rfl⟩
  | create c kubeconfig st' hc _ _ h =>
    rcases List.mem_cons.mp (h ▸ hy) with rfl | hy
    · exact .inr ⟨c, kubeconfig, hc, rfl⟩
    · exact .inl ⟨y, hy, rfl, rfl⟩
  | delete x _ _ _ => exact .inl ⟨y, Store.mem_remove hy, rfl, rfl⟩

section Independent

variable (controller : GardenerClusterController) {shootOf : String → String}
  {r₁ r₂ : NamespacedName} {s : Server}

/-- A reconcile of the first of two independent access objects keeps them independent. -/
theorem Independent.reconcile_left (hI : Independent shootOf r₁ r₂ s) (env : Env) (now : Clock) :
    Independent shootOf r₁ r₂ ((reconcile controller env now r₁).run s).2.1 := by
  have step := reconcile_secrets env s controller now r₁
  have coords : ∀ {r c'}, ((reconcile controller env now r₁).run s).2.1.clusters.find? r = some c' →
      ∃ c, s.clusters.find? r = some c ∧ c'.secretRef = c.secretRef := fun hc' => by
    obtain ⟨c, hc, -, hs⟩ := (reconcile_clusters env s controller now r₁).1.exists_of_find? hc'
    exact ⟨c, hc, GardenerCluster.secretRef_of_spec hs⟩
  refine ⟨hI.bound.of_retouched (reconcile_clusters env s controller now r₁),
    step.invariant hI.bound hI.secrets, hI.shoots, fun c₁ c₂ h₁ h₂ => ?_, ?_, ?_⟩
  · obtain ⟨d₁, hd₁, e₁⟩ := coords h₁
    obtain ⟨d₂, hd₂, e₂⟩ := coords h₂
    rw [e₁, e₂]
    exact hI.coords d₁ d₂ hd₁ hd₂
  · intro c hc x hx hk
    obtain ⟨d, hd, e⟩ := coords hc
    rcases step.mem_cases hx with ⟨x₀, hx₀, hk₀, hl₀⟩ | ⟨c₁, kubeconfig, hc₁, rfl⟩
    · rw [← hl₀]
      exact hI.free₁ d hd x₀ hx₀ (by rw [hk₀, hk, e])
    · rw [Secret.labels_normalize, hI.bound.newSecret_shoot hc₁]
      exact fun he => hI.shoots (Option.some.inj he)
  · intro c hc x hx hk
    obtain ⟨d, hd, e⟩ := coords hc
    rcases step.mem_cases hx with ⟨x₀, hx₀, hk₀, hl₀⟩ | ⟨c₁, kubeconfig, hc₁, rfl⟩
    · rw [← hl₀]
      exact hI.free₂ d hd x₀ hx₀ (by rw [hk₀, hk, e])
    · exact absurd (hk.trans e) (hI.coords c₁ d hc₁ hd)

/-- An event reconciling one of two independent access objects keeps them independent. -/
theorem Independent.apply (hI : Independent shootOf r₁ r₂ s) {e : Event}
    (he : e.request = some r₁ ∨ e.request = some r₂) :
    Independent shootOf r₁ r₂ (e.apply controller s) := by
  rcases he with he | he <;> obtain ⟨env, now, rfl⟩ := Event.eq_of_request he
  · exact hI.reconcile_left controller env now
  · exact (hI.symm.reconcile_left controller env now).symm

/-- A reconcile of the second access object, moved before reconciles of the first, ends with
the same objects, and every reconcile returns the same outcome. -/
theorem runEvents_swap (hI : Independent shootOf r₁ r₂ s) {e : Event} (he : e.request = some r₂)
    {xs : List Event} (hxs : ∀ x ∈ xs, x.request = some r₁) :
    Server.SameObjects (runEvents controller (e.apply controller s) xs)
        (e.apply controller (runEvents controller s xs)) ∧
      runOutcomes controller (e.apply controller s) xs = runOutcomes controller s xs ∧
      e.outcome controller (runEvents controller s xs) = e.outcome controller s := by
  induction xs generalizing s with
  | nil => exact ⟨.refl _, rfl, rfl⟩
  | cons x xs ih =>
    have hx := hxs x (List.mem_cons_self x xs)
    obtain ⟨env₂, now₂, rfl⟩ := Event.eq_of_request he
    obtain ⟨env₁, now₁, rfl⟩ := Event.eq_of_request hx
    obtain ⟨hb₁, hb₂, ha₁, ha₂, hc, hs⟩ := hI.commute controller env₁ env₂ now₁ now₂
    obtain ⟨ih₁, ih₂, ih₃⟩ :=
      ih (hI.apply controller (.inl hx)) fun y hy => hxs y (List.mem_cons_of_mem _ hy)
    have hswap : Server.SameObjects
        ((Event.reconcile env₁ now₁ r₁).apply controller
          ((Event.reconcile env₂ now₂ r₂).apply controller s))
        ((Event.reconcile env₂ now₂ r₂).apply controller
          ((Event.reconcile env₁ now₁ r₁).apply controller s)) :=
      (Server.SameObjects.of_find? hc hs).symm
    obtain ⟨hr₁, hr₂⟩ := runEvents_sameObjects controller xs hswap
    have hxo : (Event.reconcile env₁ now₁ r₁).outcome controller
        ((Event.reconcile env₂ now₂ r₂).apply controller s) =
          (Event.reconcile env₁ now₁ r₁).outcome controller s :=
      congrArg some (Prod.ext ha₁ ha₂)
    refine ⟨hr₁.trans ih₁, ?_, ih₃.trans (congrArg some (Prod.ext hb₁ hb₂))⟩
    rw [runOutcomes, runOutcomes, hxo, hr₂, ih₂]

end Independent

/-! ### Interleavings -/

/-- `events` interleaves `xs` and `ys`: it is made of the events of both, each in its order. -/
inductive Interleaving {α : Type} : List α → List α → List α → Prop
  | nil : Interleaving [] [] []
  | left (e : α) {xs ys events : List α} :
      Interleaving xs ys events → Interleaving (e :: xs) ys (e :: events)
  | right (e : α) {xs ys events : List α} :
      Interleaving xs ys events → Interleaving xs (e :: ys) (e :: events)

/-- Every interleaving of reconciles of two independent access objects leaves the server
holding the same objects as all reconciles of the first, then all of the second; and each
reconcile returns the same result and issues the same calls as in that run. -/
theorem runEvents_interleaving (controller : GardenerClusterController)
    {shootOf : String → String} {r₁ r₂ : NamespacedName} {s : Server}
    (hI : Independent shootOf r₁ r₂ s) {xs ys events : List Event}
    (hxs : ∀ e ∈ xs, e.request = some r₁) (hys : ∀ e ∈ ys, e.request = some r₂)
    (h : Interleaving xs ys events) :
    Server.SameObjects (runEvents controller s events) (runEvents controller s (xs ++ ys)) ∧
      Interleaving (runOutcomes controller s xs)
        (runOutcomes controller (runEvents controller s xs) ys) (runOutcomes controller s events) := by
  induction h generalizing s with
  | nil => exact ⟨.refl _, .nil⟩
  | left e _ ih =>
    have he := hxs e (List.mem_cons_self e _)
    obtain ⟨h₁, h₂⟩ :=
      ih (hI.apply controller (.inl he)) (fun x hx => hxs x (List.mem_cons_of_mem e hx)) hys
    exact ⟨h₁, .left _ h₂⟩
  | @right e xs ys events _ ih =>
    have he := hys e (List.mem_cons_self e _)
    obtain ⟨h₁, h₂⟩ :=
      ih (hI.apply controller (.inr he)) hxs fun y hy => hys y (List.mem_cons_of_mem e hy)
    obtain ⟨k₁, k₂, k₃⟩ := runEvents_swap controller hI he hxs
    obtain ⟨m₁, m₂⟩ := runEvents_sameObjects controller ys k₁
    refine ⟨?_, ?_⟩
    · calc runEvents controller s (e :: events)
          = runEvents controller (e.apply controller s) events := rfl
        Server.SameObjects _ (runEvents controller (e.apply controller s) (xs ++ ys)) := h₁
        _ = runEvents controller (runEvents controller (e.apply controller s) xs) ys :=
          runEvents_append controller _ xs ys
        Server.SameObjects _
            (runEvents controller (e.apply controller (runEvents controller s xs)) ys) := m₁
        _ = runEvents controller s (xs ++ e :: ys) :=
          (runEvents_append controller s xs (e :: ys)).symm
    · rw [k₂, m₂] at h₂
      rw [runOutcomes, runOutcomes, k₃]
      exact .right _ h₂

/-- Reconciling `kcp-system/n`, then `kcp-system/m`, then `kcp-system/n` again ends with the
objects of reconciling `kcp-system/n` twice, then `kcp-system/m`. -/
theorem runEvents_interleaving_two :
    let shootOf := fun n : String => if n = "n" then "s" else "s2"
    let r₁ : NamespacedName := ⟨"kcp-system", "n"⟩
    let r₂ : NamespacedName := ⟨"kcp-system", "m"⟩
    let env := Env.faultless "kubeconfig"
    let xs := [Event.reconcile env (Clock.ofTime ⟨0⟩) r₁, .reconcile env (Clock.ofTime ⟨2⟩) r₁]
    let ys := [Event.reconcile env (Clock.ofTime ⟨1⟩) r₂]
    let events := [Event.reconcile env (Clock.ofTime ⟨0⟩) r₁, .reconcile env (Clock.ofTime ⟨1⟩) r₂,
      .reconcile env (Clock.ofTime ⟨2⟩) r₁]
    Independent shootOf r₁ r₂ twoAccessServer ∧ (∀ e ∈ xs, e.request = some r₁) ∧
      (∀ e ∈ ys, e.request = some r₂) ∧ Interleaving xs ys events ∧
      Server.SameObjects (runEvents ⟨Duration.zero⟩ twoAccessServer events)
        (runEvents ⟨Duration.zero⟩ twoAccessServer (xs ++ ys)) ∧
      Interleaving (runOutcomes ⟨Duration.zero⟩ twoAccessServer xs)
        (runOutcomes ⟨Duration.zero⟩ (runEvents ⟨Duration.zero⟩ twoAccessServer xs) ys)
        (runOutcomes ⟨Duration.zero⟩ twoAccessServer events) := by
  intro shootOf r₁ r₂ env xs ys events
  have hI : Independent shootOf r₁ r₂ twoAccessServer := twoAccessServer_independent
  have hxs : ∀ e ∈ xs, e.request = some r₁ := by decide
  have hys : ∀ e ∈ ys, e.request = some r₂ := by decide
  have hint : Interleaving xs ys events := .left _ (.right _ (.left _ .nil))
  exact ⟨hI, hxs, hys, hint, runEvents_interleaving ⟨Duration.zero⟩ hI hxs hys hint⟩

end InfrastructureManager
