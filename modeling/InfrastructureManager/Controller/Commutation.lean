import InfrastructureManager.Controller.Uniqueness

/-!
# Reconciles of different access objects commute

The work queue of controller-runtime delivers the requests of different access objects in
any order. A reconcile of `req` (`gardener_cluster_controller.go:81–125`) reads the server
only through a `View`: the access object at `req`, the secrets its two selectors find
(`getSecret` and `deleteKubeconfigSecret`, lines 154–195), and whether the coordinates of its
secret are taken (`createNewSecret`, lines 285–299). From two servers that look alike to it
(`Agree`), it returns the same result, issues the same calls and writes alike
(`reconcile_lockstep`); and it writes secrets only at the keys its view reads
(`SecretsStep.find?_of_not_footprint`).

On a server whose access objects are bound by `shootOf` and whose secrets keep the invariant
of `runEvents_invariant`, as every reachable server does, a reconcile of another shoot changes
nothing the view of `req` reads (`reconcile_agree_viewOf`), when the two access objects name
different coordinates and neither's coordinates hold a secret of the other's shoot. The two
access objects are then `Independent`, and their reconciles commute (`Independent.commute`,
`reconcile_commute`): each returns the same result and makes the same calls whichever runs
first, and both orders leave servers that answer every `Get` alike.
-/

namespace InfrastructureManager

/-! ### Stores -/

namespace Store

variable {α : Type} {key : α → NamespacedName}

/-- After a remove, `Get` finds nothing at the removed key. -/
theorem find?_remove_self (st : Store α key) (x : α) : (st.remove x).find? (key x) = none := by
  cases h : (st.remove x).find? (key x) with
  | none => rfl
  | some z =>
    obtain ⟨hz, hk⟩ := find?_eq_some.mp h
    exact absurd hk (by simpa using (List.mem_filter.mp hz).2)

/-- After an object is added, `Get` finds it at its key. -/
theorem find?_of_items_cons_self {st st' : Store α key} {x : α} (hst : st'.items = x :: st.items) :
    st'.find? (key x) = some x :=
  find?_eq_some.mpr ⟨hst ▸ List.mem_cons_self x _, rfl⟩

/-- After an object is added, the selected objects are those selected before, with the new
one first when the selector takes it. -/
theorem list_of_items_cons {st st' : Store α key} {x : α} (hst : st'.items = x :: st.items)
    (sel : α → Bool) : st'.list sel = if sel x then x :: st.list sel else st.list sel := by
  simp only [list, hst, List.filter_cons]

/-- A key is taken exactly where `Get` finds an object. -/
theorem contains_eq_isSome (st : Store α key) (k : NamespacedName) :
    st.contains k = (st.find? k).isSome := by
  unfold contains find?
  exact Bool.eq_iff_iff.mpr (List.any_eq_true.trans List.find?_isSome.symm)

/-- Rewriting, with its key, an object the selector does not take leaves the selected
objects. -/
theorem list_replace_of_not_sel {st : Store α key} {x y : α} {sel : α → Bool} (hx : x ∈ st.items)
    (hk : key y = key x) (hs : sel y = sel x) (hn : sel x = false) :
    (st.replace y).list sel = st.list sel := by
  rw [list_replace_of_sel hx hk hs]
  refine (List.map_congr_left fun z hz => ?_).trans (List.map_id _)
  have hz' := List.mem_filter.mp hz
  split_ifs with he
  · obtain rfl := st.eq_of_key_eq hz'.1 hx (he.trans hk)
    exact absurd hz'.2 (by simp [hn])
  · rfl

/-- Removing an object the selector does not take leaves the selected objects. -/
theorem list_remove_of_not_sel {st : Store α key} {x : α} {sel : α → Bool} (hx : x ∈ st.items)
    (hn : sel x = false) : (st.remove x).list sel = st.list sel := by
  rw [list_remove]
  refine List.filter_eq_self.mpr fun z hz => decide_eq_true fun he => ?_
  have hz' := List.mem_filter.mp hz
  obtain rfl := st.eq_of_key_eq hz'.1 hx he
  exact absurd hz'.2 (by simp [hn])

/-- Rewriting an object with its key leaves the taken keys. -/
theorem contains_replace {st : Store α key} {x y : α} (hx : x ∈ st.items) (hk : key y = key x)
    (k : NamespacedName) : (st.replace y).contains k = st.contains k := by
  have hc : st.contains (key y) = true := by rw [hk]; exact contains_of_mem hx
  by_cases hky : k = key y
  · subst hky; rw [contains_eq_isSome, find?_replace_self hc, hc]; rfl
  · rw [contains_eq_isSome, contains_eq_isSome, find?_replace_of_ne hky]

end Store

/-! ### What a reconcile reads -/

/-- The coordinates of the secret the spec of an access object names, where `newSecret` puts
it. -/
def GardenerCluster.secretRef (c : GardenerCluster) : NamespacedName :=
  ⟨c.spec.kubeconfig.secret.ns, c.spec.kubeconfig.secret.name⟩

/-- Access objects of one spec name the same coordinates. -/
theorem GardenerCluster.secretRef_of_spec {c d : GardenerCluster} (h : c.spec = d.spec) :
    c.secretRef = d.secretRef := by
  simp only [GardenerCluster.secretRef, h]

/-- What a reconcile of `req` reads of the server: the access object at `req`, the secrets
carrying the shoot-name label `shoot` or the cluster-name label `req.name`, and the secret at
`coords`, where it may create one. -/
structure View where
  req : NamespacedName
  shoot : String
  coords : Option NamespacedName

/-- Two servers that a reconcile reading `V` cannot tell apart. -/
structure Agree (V : View) (s s' : Server) : Prop where
  cluster : s.clusters.find? V.req = s'.clusters.find? V.req
  shoot : s.secrets.list (matchingLabels shootNameLabel V.shoot ·.labels) =
    s'.secrets.list (matchingLabels shootNameLabel V.shoot ·.labels)
  named : s.secrets.list (matchingLabels clusterCRNameLabel V.req.name ·.labels) =
    s'.secrets.list (matchingLabels clusterCRNameLabel V.req.name ·.labels)
  coords : ∀ k ∈ V.coords, s.secrets.contains k = s'.secrets.contains k

theorem Agree.refl (V : View) (s : Server) : Agree V s s := ⟨rfl, rfl, rfl, fun _ _ => rfl⟩

/-- `a ⟶ b` and `a' ⟶ b'` write alike: at every key, both leave what was there, or both end
with the same object. -/
def WritesAlike {α : Type} (a b a' b' : NamespacedName → Option α) : Prop :=
  ∀ k, b k = a k ∧ b' k = a' k ∨ b k = b' k

theorem WritesAlike.rfl {α : Type} {a a' : NamespacedName → Option α} :
    WritesAlike a a a' a' :=
  fun _ => .inl ⟨Eq.refl _, Eq.refl _⟩

theorem WritesAlike.trans {α : Type} {a b c a' b' c' : NamespacedName → Option α}
    (h₁ : WritesAlike a b a' b') (h₂ : WritesAlike b c b' c') : WritesAlike a c a' c' := by
  intro k
  rcases h₂ k with ⟨h, h'⟩ | h
  · rw [h, h']; exact h₁ k
  · exact .inr h

/-- Writes of one key alike, leaving every other key. -/
theorem WritesAlike.single {α : Type} {a b a' b' : NamespacedName → Option α} (k₀ : NamespacedName)
    (h₀ : b k₀ = b' k₀) (h : ∀ k, k ≠ k₀ → b k = a k ∧ b' k = a' k) : WritesAlike a b a' b' :=
  fun k => if hk : k = k₀ then .inr (hk ▸ h₀) else .inl (h k hk)

/-- Stores written alike keep a key taken alike. -/
theorem WritesAlike.contains {α : Type} {key : α → NamespacedName} {st t st' t' : Store α key}
    (hw : WritesAlike st.find? t.find? st'.find? t'.find?) {k : NamespacedName}
    (h : st.contains k = st'.contains k) : t.contains k = t'.contains k := by
  rw [Store.contains_eq_isSome, Store.contains_eq_isSome] at h ⊢
  rcases hw k with ⟨h₁, h₂⟩ | h₁
  · rw [h₁, h₂, h]
  · rw [h₁]

/-- `s ⟶ t` and `s' ⟶ t'` write the access objects and the secrets alike. -/
structure SameWrites (s t s' t' : Server) : Prop where
  clusters : WritesAlike s.clusters.find? t.clusters.find? s'.clusters.find? t'.clusters.find?
  secrets : WritesAlike s.secrets.find? t.secrets.find? s'.secrets.find? t'.secrets.find?

theorem SameWrites.rfl {s s' : Server} : SameWrites s s s' s' := ⟨.rfl, .rfl⟩

theorem SameWrites.trans {s t u s' t' u' : Server} (h₁ : SameWrites s t s' t')
    (h₂ : SameWrites t u t' u') : SameWrites s u s' u' :=
  ⟨h₁.clusters.trans h₂.clusters, h₁.secrets.trans h₂.secrets⟩

/-- Runs of one computation from two servers that look alike to `V`: the same result and
calls, servers that still look alike, and writes alike. -/
structure Lockstep {α : Type} (V : View) (s s' : Server) (r r' : α × Server × List CallRecord) :
    Prop where
  result : r.1 = r'.1
  log : r.2.2 = r'.2.2
  agree : Agree V r.2.1 r'.2.1
  writes : SameWrites s r.2.1 s' r'.2.1

section Lockstep

variable {V : View} {s s' : Server}

theorem Lockstep.pure {α : Type} (h : Agree V s s') (a : α) :
    Lockstep V s s' ((pure a : ControllerM α).run s) ((pure a : ControllerM α).run s') :=
  ⟨Eq.refl _, Eq.refl _, h, .rfl⟩

theorem Lockstep.bind {α β : Type} {x : ControllerM α} {f : α → ControllerM β}
    (hx : Lockstep V s s' (x.run s) (x.run s'))
    (hf : Lockstep V (x.run s).2.1 (x.run s').2.1 ((f (x.run s).1).run (x.run s).2.1)
      ((f (x.run s).1).run (x.run s').2.1)) :
    Lockstep V s s' ((x >>= f).run s) ((x >>= f).run s') := by
  rw [run_bind, run_bind, ← hx.result]
  exact ⟨hf.result, by simp only [hx.log, hf.log], hf.agree, hx.writes.trans hf.writes⟩

theorem Lockstep.issueRead {α : Type} {env : Env} {call : Call}
    {answer : Server → Except Error α} (h : Agree V s s') (ha : answer s = answer s') :
    Lockstep V s s' ((issueRead env call answer).run s) ((issueRead env call answer).run s') :=
  ⟨by simp only [InfrastructureManager.issueRead, ha],
    by simp only [InfrastructureManager.issueRead, ha], h, .rfl⟩

/-- The answers of the server to one write from two servers that look alike to `V`. -/
inductive AnswersAlike (V : View) (s s' : Server) : Except Error Server → Except Error Server → Prop
  | error (e : Error) : AnswersAlike V s s' (.error e) (.error e)
  | ok {t t' : Server} : Agree V t t' → SameWrites s t s' t' → AnswersAlike V s s' (.ok t) (.ok t')

theorem Lockstep.issueWrite {env : Env} {call : Call} {answer : Server → Except Error Server}
    (h : Agree V s s') (ha : AnswersAlike V s s' (answer s) (answer s')) :
    Lockstep V s s' ((issueWrite env call answer).run s) ((issueWrite env call answer).run s') := by
  show Lockstep V s s' (match (if env.fails call then .error .failed else answer s) with
      | .ok s'' => (none, s'', [(call, none)]) | .error e => (some e, s, [(call, some e)]))
    (match (if env.fails call then .error .failed else answer s') with
      | .ok s'' => (none, s'', [(call, none)]) | .error e => (some e, s', [(call, some e)]))
  cases env.fails call
  · simp only [Bool.false_eq_true, if_false]
    generalize answer s = a at ha
    generalize answer s' = a' at ha
    cases ha with
    | error e => exact ⟨Eq.refl _, Eq.refl _, h, .rfl⟩
    | ok ht hw => exact ⟨Eq.refl _, Eq.refl _, ht, hw⟩
  · exact ⟨Eq.refl _, Eq.refl _, h, .rfl⟩

end Lockstep

/-! ### The server's answers to writes -/

section Answers

variable {V : View} {s s' : Server}

/-- Rewriting, on both servers, a secret both hold, keeping its key and labels. -/
theorem Agree.replaceSecret (h : Agree V s s') {x y : Secret} (hx : x ∈ s.secrets.items)
    (hx' : x ∈ s'.secrets.items) (hk : y.key = x.key) (hl : y.labels = x.labels) :
    AnswersAlike V s s' (.ok (s.replaceSecret y)) (.ok (s'.replaceSecret y)) := by
  have hk' : y.normalize.key = x.key := hk
  have hself : ∀ st : Store Secret Secret.key, x ∈ st.items →
      (st.replace y.normalize).find? y.key = some y.normalize := fun st hm =>
    Store.find?_replace_self (by rw [hk']; exact Store.contains_of_mem hm)
  have writes : WritesAlike s.secrets.find? (s.replaceSecret y).secrets.find?
      s'.secrets.find? (s'.replaceSecret y).secrets.find? :=
    .single y.key ((hself _ hx).trans (hself _ hx').symm) fun _ hky =>
      ⟨Store.find?_replace_of_ne hky, Store.find?_replace_of_ne hky⟩
  have lists : ∀ m : StringMap → Bool, s.secrets.list (m ·.labels) = s'.secrets.list (m ·.labels) →
      (s.replaceSecret y).secrets.list (m ·.labels) =
        (s'.replaceSecret y).secrets.list (m ·.labels) := fun m hm => by
    rw [Server.replaceSecret_secrets, Server.replaceSecret_secrets,
      Store.list_replace_of_sel hx hk' (by simp [hl]),
      Store.list_replace_of_sel hx' hk' (by simp [hl]), hm]
  exact .ok ⟨h.cluster, lists _ h.shoot, lists _ h.named,
    fun k hv => writes.contains (h.coords k hv)⟩ ⟨.rfl, writes⟩

/-- `Update` of a secret with the key and labels of one the shoot-name selector finds. -/
theorem Agree.updateSecret (h : Agree V s s') {x y : Secret}
    (hx : x ∈ s.secrets.list (matchingLabels shootNameLabel V.shoot ·.labels))
    (hk : y.key = x.key) (hl : y.labels = x.labels) :
    AnswersAlike V s s' (s.updateSecret y) (s'.updateSecret y) := by
  have hm := Store.mem_of_mem_list hx
  have hm' := Store.mem_of_mem_list (h.shoot ▸ hx)
  have hc : ∀ st : Store Secret Secret.key, x ∈ st.items → st.contains y.key = true :=
    fun st hm => by rw [hk]; exact Store.contains_of_mem hm
  simp only [Server.updateSecret, hc _ hm, hc _ hm', if_true]
  exact h.replaceSecret hm hm' hk hl

/-- Removing, on both servers, a secret both hold. -/
theorem Agree.removeSecret (h : Agree V s s') {x : Secret} :
    AnswersAlike V s s' (.ok (s.removeSecret x)) (.ok (s'.removeSecret x)) := by
  have writes : WritesAlike s.secrets.find? (s.removeSecret x).secrets.find?
      s'.secrets.find? (s'.removeSecret x).secrets.find? :=
    .single x.key ((Store.find?_remove_self _ _).trans (Store.find?_remove_self _ _).symm)
      fun _ hkx => ⟨Store.find?_remove_of_ne hkx, Store.find?_remove_of_ne hkx⟩
  have lists : ∀ m : StringMap → Bool, s.secrets.list (m ·.labels) = s'.secrets.list (m ·.labels) →
      (s.removeSecret x).secrets.list (m ·.labels) =
        (s'.removeSecret x).secrets.list (m ·.labels) := fun m hm => by
    simp only [Server.removeSecret_secrets, Store.list_remove, hm]
  exact .ok ⟨h.cluster, lists _ h.shoot, lists _ h.named,
    fun k hv => writes.contains (h.coords k hv)⟩ ⟨.rfl, writes⟩

/-- `Delete` of a secret the cluster-name selector finds. -/
theorem Agree.deleteSecret (h : Agree V s s') {x : Secret}
    (hx : x ∈ s.secrets.list (matchingLabels clusterCRNameLabel V.req.name ·.labels)) :
    AnswersAlike V s s' (s.deleteSecret x) (s'.deleteSecret x) := by
  have hc := Store.contains_of_mem (Store.mem_of_mem_list hx)
  have hc' := Store.contains_of_mem (Store.mem_of_mem_list (h.named ▸ hx))
  simp only [Server.deleteSecret, hc, hc', if_true]
  exact h.removeSecret

/-- `Create` of a secret at the coordinates the view reads. -/
theorem Agree.createSecret (h : Agree V s s') {y : Secret} (hy : V.coords = some y.key) :
    AnswersAlike V s s' (s.createSecret y) (s'.createSecret y) := by
  have hc' := h.coords y.key hy
  cases hc : s.secrets.contains y.key
  · rw [hc] at hc'
    have hself : ∀ t : Server, ∀ hf, (t.addSecret y hf).secrets.find? y.key = some y.normalize :=
      fun t hf => Store.find?_of_items_cons_self (Server.addSecret_items t y hf)
    have writes : WritesAlike s.secrets.find? (s.addSecret y hc).secrets.find?
        s'.secrets.find? (s'.addSecret y hc'.symm).secrets.find? :=
      .single y.key ((hself _ _).trans (hself _ _).symm) fun _ hky =>
        ⟨Store.find?_of_items_cons (Server.addSecret_items _ _ _) hky,
          Store.find?_of_items_cons (Server.addSecret_items _ _ _) hky⟩
    have lists : ∀ m : StringMap → Bool,
        s.secrets.list (m ·.labels) = s'.secrets.list (m ·.labels) →
        (s.addSecret y hc).secrets.list (m ·.labels) =
          (s'.addSecret y hc'.symm).secrets.list (m ·.labels) := fun m hm => by
      rw [Store.list_of_items_cons (Server.addSecret_items _ _ _),
        Store.list_of_items_cons (Server.addSecret_items _ _ _), hm]
    simp only [Server.createSecret, hc, ← hc', Bool.false_eq_true, dite_false]
    exact .ok ⟨h.cluster, lists _ h.shoot, lists _ h.named,
      fun k hv => writes.contains (h.coords k hv)⟩ ⟨.rfl, writes⟩
  · rw [hc] at hc'
    simp only [Server.createSecret, hc, ← hc', dite_true]
    exact .error _

/-- Writing, on both servers, the access object at the key the view reads. -/
theorem Agree.replaceCluster (h : Agree V s s') {d c : GardenerCluster}
    (hd : s.clusters.find? V.req = some d) (hk : c.key = V.req) :
    AnswersAlike V s s' (.ok (s.withClusters (s.clusters.replace c)))
      (.ok (s'.withClusters (s'.clusters.replace c))) := by
  have hself : ∀ t : Server, t.clusters.find? V.req = some d →
      (t.withClusters (t.clusters.replace c)).clusters.find? V.req = some c := fun t ht => by
    obtain ⟨hm, hdk⟩ := Store.find?_eq_some.mp ht
    rw [← hk]
    exact Store.find?_replace_self (by rw [hk, ← hdk]; exact Store.contains_of_mem hm)
  have hreq := (hself s hd).trans (hself s' (h.cluster ▸ hd)).symm
  exact .ok ⟨hreq, h.shoot, h.named, h.coords⟩ ⟨.single V.req hreq fun _ hkr =>
    ⟨Store.find?_replace_of_ne (hk ▸ hkr), Store.find?_replace_of_ne (hk ▸ hkr)⟩, .rfl⟩

/-- `Status().Update` of the access object at the key the view reads. -/
theorem Agree.updateGardenerClusterStatus (h : Agree V s s') {c : GardenerCluster}
    (hk : c.key = V.req) :
    AnswersAlike V s s' (s.updateGardenerClusterStatus c) (s'.updateGardenerClusterStatus c) := by
  unfold Server.updateGardenerClusterStatus
  rw [hk, ← h.cluster]
  cases hd : s.clusters.find? V.req with
  | none => exact .error _
  | some d =>
    obtain ⟨hm, hdk⟩ := Store.find?_eq_some.mp hd
    have hc : s.clusters.contains d.key = true := Store.contains_of_mem hm
    have hc' : s'.clusters.contains d.key = true := by
      obtain ⟨hm', -⟩ := Store.find?_eq_some.mp (h.cluster ▸ hd)
      exact Store.contains_of_mem hm'
    simp only [Store.update, GardenerCluster.key] at hc hc' ⊢
    simp only [hc, hc', if_true, Except.map]
    exact h.replaceCluster hd hdk

/-- `Update` of the access object at the key the view reads. -/
theorem Agree.updateGardenerCluster (h : Agree V s s') {c : GardenerCluster}
    (hk : c.key = V.req) :
    AnswersAlike V s s' (s.updateGardenerCluster c) (s'.updateGardenerCluster c) := by
  unfold Server.updateGardenerCluster
  rw [hk, ← h.cluster]
  cases hd : s.clusters.find? V.req with
  | none => exact .error _
  | some d =>
    obtain ⟨hm, hdk⟩ := Store.find?_eq_some.mp hd
    have hc : s.clusters.contains V.req = true := hdk ▸ Store.contains_of_mem hm
    have hc' : s'.clusters.contains V.req = true := by
      obtain ⟨hm', hdk'⟩ := Store.find?_eq_some.mp (h.cluster ▸ hd)
      exact hdk' ▸ Store.contains_of_mem hm'
    have hck : ({ c with status := d.status } : GardenerCluster).key = V.req := hk
    simp only [Store.update, hck, hc, hc', if_true, Except.map]
    exact h.replaceCluster hd hck

end Answers

/-! ### The calls of a reconcile -/

section Calls

variable {V : View} {s s' : Server} (env : Env)

theorem getGardenerCluster_lockstep (h : Agree V s s') (call : Call) :
    Lockstep V s s' ((getGardenerCluster env call V.req).run s)
      ((getGardenerCluster env call V.req).run s') :=
  .issueRead h (by simp only [Server.getGardenerCluster, h.cluster])

theorem fetchKubeconfig_lockstep (h : Agree V s s') (n : String) :
    Lockstep V s s' ((fetchKubeconfig env n).run s) ((fetchKubeconfig env n).run s') :=
  ⟨Eq.refl _, Eq.refl _, h, .rfl⟩

/-- `getSecret` for the shoot the view reads. -/
theorem getSecret_lockstep (h : Agree V s s') :
    Lockstep V s s' ((getSecret env V.shoot).run s) ((getSecret env V.shoot).run s') := by
  have hl : Lockstep V s s' ((listSecrets env (matchingLabels shootNameLabel V.shoot)).run s)
      ((listSecrets env (matchingLabels shootNameLabel V.shoot)).run s') :=
    .issueRead h (congrArg Except.ok h.shoot)
  refine .bind hl ?_
  split <;> exact .pure hl.agree _

/-- `deleteKubeconfigSecret` for the name the view reads. -/
theorem deleteKubeconfigSecret_lockstep (h : Agree V s s') :
    Lockstep V s s' ((deleteKubeconfigSecret env V.req.name).run s)
      ((deleteKubeconfigSecret env V.req.name).run s') := by
  have hl : Lockstep V s s' ((listSecrets env (matchingLabels clusterCRNameLabel V.req.name)).run s)
      ((listSecrets env (matchingLabels clusterCRNameLabel V.req.name)).run s') :=
    .issueRead h (congrArg Except.ok h.named)
  refine .bind hl ?_
  split
  · exact .pure hl.agree _
  · rename_i x hx
    have hmem : x ∈ s.secrets.list (matchingLabels clusterCRNameLabel V.req.name ·.labels) := by
      cases hf : env.fails .listSecrets
      · simp only [listSecrets_run env s hf, Except.ok.injEq] at hx
        simp [hx]
      · simp [listSecrets, issueRead, hf] at hx
    exact .issueWrite hl.agree (hl.agree.deleteSecret hmem)
  · exact .pure hl.agree _

theorem removeKubeconfig_lockstep (c : GardenerCluster) (existing : Option Secret)
    (h : Agree V s s') (hx : ∀ x, existing = some x →
      x ∈ s.secrets.list (matchingLabels shootNameLabel V.shoot ·.labels)) :
    Lockstep V s s' ((removeKubeconfig env c existing).run s)
      ((removeKubeconfig env c existing).run s') := by
  cases existing with
  | none => exact .pure h _
  | some x => exact .issueWrite h (h.updateSecret (hx x rfl) rfl rfl)

theorem updateExistingSecret_lockstep (kubeconfig : String) (c : GardenerCluster) {x : Secret}
    (t : Time) (h : Agree V s s')
    (hx : x ∈ s.secrets.list (matchingLabels shootNameLabel V.shoot ·.labels)) :
    Lockstep V s s' ((updateExistingSecret env kubeconfig c x t).run s)
      ((updateExistingSecret env kubeconfig c x t).run s') := by
  have hw : Lockstep V s s' ((updateSecret env (withKubeconfig kubeconfig c x t)).run s)
      ((updateSecret env (withKubeconfig kubeconfig c x t)).run s') :=
    .issueWrite h (h.updateSecret hx rfl rfl)
  refine .bind hw ?_
  split <;> exact .pure hw.agree _

theorem createNewSecret_lockstep (kubeconfig : String) (c : GardenerCluster) (t : Time)
    (h : Agree V s s') (hk : V.coords = some c.secretRef) :
    Lockstep V s s' ((createNewSecret env kubeconfig c t).run s)
      ((createNewSecret env kubeconfig c t).run s') := by
  have hw : Lockstep V s s' ((createSecret env (newSecret c kubeconfig t)).run s)
      ((createSecret env (newSecret c kubeconfig t)).run s') :=
    .issueWrite h (h.createSecret hk)
  refine .bind hw ?_
  split <;> exact .pure hw.agree _

/-- `handleExistingSecret` for a secret the shoot-name selector of the view finds, or none,
of an access object whose coordinates the view reads. -/
theorem handleExistingSecret_lockstep (controller : GardenerClusterController) (c : GardenerCluster)
    (existing : Option Secret) (t : Clock) (h : Agree V s s')
    (hx : ∀ x, existing = some x →
      x ∈ s.secrets.list (matchingLabels shootNameLabel V.shoot ·.labels))
    (hk : V.coords = some c.secretRef) :
    Lockstep V s s' ((handleExistingSecret controller env c existing t).run s)
      ((handleExistingSecret controller env c existing t).run s') := by
  refine .bind (fetchKubeconfig_lockstep env h _) ?_
  simp only [fetchKubeconfig_run]
  cases env.fetch c.spec.shoot.name with
  | error e => exact .pure h _
  | ok kubeconfig =>
    simp only
    split_ifs
    · have hr := removeKubeconfig_lockstep env c existing h hx
      refine .bind hr ?_
      split <;> exact .pure hr.agree _
    · exact .pure h _
    · cases existing with
      | some x =>
        have hu := updateExistingSecret_lockstep env kubeconfig c t.lastSyncTime h (hx x rfl)
        exact .bind hu (.pure hu.agree _)
      | none =>
        have hn := createNewSecret_lockstep env kubeconfig c t.lastSyncTime h hk
        exact .bind hn (.pure hn.agree _)

/-- `handleKubeconfig` of an access object whose shoot and coordinates the view reads. -/
theorem handleKubeconfig_lockstep (controller : GardenerClusterController) (c : GardenerCluster)
    (t : Clock) (h : Agree V s s') (hv : c.spec.shoot.name = V.shoot)
    (hk : V.coords = some c.secretRef) :
    Lockstep V s s' ((handleKubeconfig controller env c t).run s)
      ((handleKubeconfig controller env c t).run s') := by
  have hg := getSecret_lockstep env h
  rw [← hv] at hg
  refine .bind hg ?_
  simp only [getSecret_server]
  cases hr : ((InfrastructureManager.getSecret env c.spec.shoot.name).run s).1 with
  | error e =>
    simp only
    split_ifs
    · exact handleExistingSecret_lockstep env controller c none t h (fun _ hx => nomatch hx) hk
    · exact .pure h _
  | ok x =>
    refine handleExistingSecret_lockstep env controller c (some x) t h ?_ hk
    rintro _ ⟨⟩
    rw [← hv, ((getSecret_eq_ok env s).mp hr).2]
    exact List.mem_singleton_self x

/-- A `Get` of an access object that succeeds answers the one stored at the key. -/
theorem getGardenerCluster_ok {call : Call} {k : NamespacedName} {d : GardenerCluster}
    (hd : ((InfrastructureManager.getGardenerCluster env call k).run s).1 = .ok d) :
    s.clusters.find? k = some d := by
  cases hf : env.fails call
  · rw [getGardenerCluster_run env s hf] at hd
    exact Server.getGardenerCluster_eq_ok.mp hd
  · simp [InfrastructureManager.getGardenerCluster, issueRead, hf] at hd

theorem persistStatusChange_lockstep {c : GardenerCluster} (hc : c.key = V.req) (h : Agree V s s') :
    Lockstep V s s' ((persistStatusChange env c).run s) ((persistStatusChange env c).run s') :=
  .issueWrite h (h.updateGardenerClusterStatus hc)

theorem removeForceRotationAnnotation_lockstep {c : GardenerCluster} (hc : c.key = V.req)
    (h : Agree V s s') :
    Lockstep V s s' (( removeForceRotationAnnotation env c).run s)
      (( removeForceRotationAnnotation env c).run s') := by
  unfold removeForceRotationAnnotation
  split_ifs
  · have hg := getGardenerCluster_lockstep env h .getGardenerClusterToUpdate
    rw [← hc] at hg
    refine .bind hg ?_
    split
    · exact .pure hg.agree _
    · rename_i d hd
      have hdk : d.key = V.req := (Store.find?_eq_some.mp (getGardenerCluster_ok env hd)).2.trans hc
      exact .issueWrite hg.agree (hg.agree.updateGardenerCluster hdk)
  · exact .pure h _

theorem requeueUnlessWritten_lockstep (controller : GardenerClusterController)
    (ks : KubeconfigStatus) {c : GardenerCluster} (hc : c.key = V.req) (h : Agree V s s') :
    Lockstep V s s' ((requeueUnlessWritten controller env ks c).run s)
      ((requeueUnlessWritten controller env ks c).run s') := by
  unfold requeueUnlessWritten
  split_ifs
  · have hp := persistStatusChange_lockstep env hc h
    exact .bind hp (.pure hp.agree _)
  · exact .pure h _

theorem handleKubeconfigResult_lockstep (controller : GardenerClusterController)
    (r : KubeconfigStatus × Option Error × GardenerCluster) (hc : r.2.2.key = V.req)
    (h : Agree V s s') :
    Lockstep V s s' ((handleKubeconfigResult controller env r).run s)
      ((handleKubeconfigResult controller env r).run s') := by
  obtain ⟨ks, _ | e, c⟩ := r
  · simp only [handleKubeconfigResult]
    split_ifs
    · have hr := removeForceRotationAnnotation_lockstep env hc h
      refine .bind hr ?_
      split
      · exact .pure hr.agree _
      · exact requeueUnlessWritten_lockstep env controller ks hc hr.agree
    · exact requeueUnlessWritten_lockstep env controller ks hc h
  · have hp := persistStatusChange_lockstep env hc h
    exact .bind hp (.pure hp.agree _)

/-- A reconcile of the request the view reads, whose access object, if stored, has the
shoot and coordinates the view reads, runs alike from servers that look alike. -/
theorem reconcile_lockstep (controller : GardenerClusterController) (now : Clock)
    (h : Agree V s s') (hV : ∀ c, s.clusters.find? V.req = some c → c.spec.shoot.name = V.shoot ∧
      V.coords = some c.secretRef) :
    Lockstep V s s' ((reconcile controller env now V.req).run s)
      ((reconcile controller env now V.req).run s') := by
  have hg := getGardenerCluster_lockstep env h .getGardenerCluster
  refine .bind hg ?_
  split
  · split_ifs
    · have hd := deleteKubeconfigSecret_lockstep env hg.agree
      exact .bind hd (.pure hd.agree _)
    · exact .pure hg.agree _
  · rename_i c hc
    have hfind := getGardenerCluster_ok env hc
    obtain ⟨hv, hk⟩ := hV c hfind
    have hh := handleKubeconfig_lockstep env controller c now hg.agree hv hk
    refine .bind hh ?_
    obtain ⟨status, hst⟩ := handleKubeconfig_cluster env
      ((InfrastructureManager.getGardenerCluster env .getGardenerCluster V.req).run s).2.1
      controller c now
    exact handleKubeconfigResult_lockstep env controller _
      (by rw [hst]; exact (Store.find?_eq_some.mp hfind).2) hh.agree

end Calls

/-! ### What a reconcile writes -/

/-- The secret keys a reconcile reading `V` may write: the coordinates where it may create, and
the keys of the secrets its two selectors find. -/
def Footprint (V : View) (st : Store Secret Secret.key) (k : NamespacedName) : Prop :=
  k ∈ V.coords ∨ (∃ x ∈ st.list (matchingLabels shootNameLabel V.shoot ·.labels), x.key = k) ∨
    ∃ x ∈ st.list (matchingLabels clusterCRNameLabel V.req.name ·.labels), x.key = k

theorem Agree.footprint {V : View} {s s' : Server} (h : Agree V s s') :
    Footprint V s.secrets = Footprint V s'.secrets := by
  funext k
  simp only [Footprint, h.shoot, h.named]

/-- A reconcile step writes no secret outside the footprint of its view. -/
theorem SecretsStep.find?_of_not_footprint {cs : Store GardenerCluster GardenerCluster.key}
    {V : View} {now : Clock} {st st' : Store Secret Secret.key}
    (step : SecretsStep cs V.req now st st')
    (hV : ∀ c, cs.find? V.req = some c → c.spec.shoot.name = V.shoot ∧
      V.coords = some c.secretRef)
    {k : NamespacedName} (hk : ¬ Footprint V st k) : st'.find? k = st.find? k := by
  cases step with
  | unchanged => rfl
  | rewrite c x y hc hl hkx _ _ =>
    refine Store.find?_replace_of_ne fun he => hk (.inr (.inl ⟨x, ?_, (he.trans hkx).symm⟩))
    rw [← (hV c hc).1, hl]
    exact List.mem_singleton_self x
  | create c kubeconfig st' hc _ _ h =>
    exact Store.find?_of_items_cons h fun he => hk (.inl (Option.mem_def.mpr (by
      rw [(hV c hc).2, he]; rfl)))
  | delete x _ hl _ =>
    exact Store.find?_remove_of_ne fun he =>
      hk (.inr (.inr ⟨x, by rw [hl]; exact List.mem_singleton_self x, he.symm⟩))

/-- A secret that a reconcile reading `V` does not see: neither of its selectors takes it, and
it does not stand at the coordinates the reconcile reads. -/
structure Unseen (V : View) (x : Secret) : Prop where
  shoot : matchingLabels shootNameLabel V.shoot x.labels = false
  named : matchingLabels clusterCRNameLabel V.req.name x.labels = false
  coords : x.key ∉ V.coords

/-- A reconcile step that touches only secrets `V` does not see, and creates only such, leaves
the view `V` of the secrets as it was. -/
theorem SecretsStep.agree {cs : Store GardenerCluster GardenerCluster.key} {req : NamespacedName}
    {now : Clock} {st st' : Store Secret Secret.key} (step : SecretsStep cs req now st st')
    {V : View}
    (hrew : ∀ c, cs.find? req = some c →
      ∀ x ∈ st.list (matchingLabels shootNameLabel c.spec.shoot.name ·.labels), Unseen V x)
    (hcre : ∀ c, cs.find? req = some c →
      ∀ kubeconfig, Unseen V (newSecret c kubeconfig now.lastSyncTime))
    (hdel : ∀ x ∈ st.list (matchingLabels clusterCRNameLabel req.name ·.labels), Unseen V x) :
    st.list (matchingLabels shootNameLabel V.shoot ·.labels) =
        st'.list (matchingLabels shootNameLabel V.shoot ·.labels) ∧
      st.list (matchingLabels clusterCRNameLabel V.req.name ·.labels) =
        st'.list (matchingLabels clusterCRNameLabel V.req.name ·.labels) ∧
      ∀ k ∈ V.coords, st.contains k = st'.contains k := by
  cases step with
  | unchanged => exact ⟨rfl, rfl, fun _ _ => rfl⟩
  | rewrite c x y hc hl hk hlab _ =>
    have hx : x ∈ st.list (matchingLabels shootNameLabel c.spec.shoot.name ·.labels) := by
      rw [hl]; exact List.mem_singleton_self x
    have hu := hrew c hc x hx
    have hm := Store.mem_of_mem_list hx
    have hk' : y.normalize.key = x.key := hk
    exact ⟨(Store.list_replace_of_not_sel hm hk' (by simp [hlab]) hu.shoot).symm,
      (Store.list_replace_of_not_sel hm hk' (by simp [hlab]) hu.named).symm,
      fun k _ => (Store.contains_replace hm hk' k).symm⟩
  | create c kubeconfig st' hc _ _ h =>
    have hu := hcre c hc kubeconfig
    refine ⟨?_, ?_, fun k hkv => ?_⟩
    · rw [Store.list_of_items_cons h]; simp [hu.shoot]
    · rw [Store.list_of_items_cons h]; simp [hu.named]
    · have hne : k ≠ (newSecret c kubeconfig now.lastSyncTime).normalize.key :=
        fun he => hu.coords (he ▸ hkv)
      rw [Store.contains_eq_isSome, Store.contains_eq_isSome, Store.find?_of_items_cons h hne]
  | delete x _ hl _ =>
    have hx : x ∈ st.list (matchingLabels clusterCRNameLabel req.name ·.labels) := by
      rw [hl]; exact List.mem_singleton_self x
    have hu := hdel x hx
    have hm := Store.mem_of_mem_list hx
    refine ⟨(Store.list_remove_of_not_sel hm hu.shoot).symm,
      (Store.list_remove_of_not_sel hm hu.named).symm, fun k hkv => ?_⟩
    have hne : k ≠ x.key := fun he => hu.coords (he ▸ hkv)
    rw [Store.contains_eq_isSome, Store.contains_eq_isSome, Store.find?_remove_of_ne hne]

/-! ### Two reconciles of bound access objects -/

/-- What a reconcile of `req` reads, along runs whose access objects are bound by `shootOf`:
the shoot of the name, and the coordinates of the stored access object's secret. -/
def viewOf (shootOf : String → String) (s : Server) (req : NamespacedName) : View :=
  ⟨req, shootOf req.name, (s.clusters.find? req).map GardenerCluster.secretRef⟩

section Bound

variable {shootOf : String → String} {s : Server}

/-- A bound access object has the shoot and coordinates its view reads. -/
theorem viewOf_spec (hb : BoundTo shootOf s.clusters) (req : NamespacedName) (c : GardenerCluster)
    (hc : s.clusters.find? req = some c) :
    c.spec.shoot.name = (viewOf shootOf s req).shoot ∧
      (viewOf shootOf s req).coords = some c.secretRef := by
  obtain ⟨hm, hk⟩ := Store.find?_eq_some.mp hc
  refine ⟨(hb c hm).2.trans ?_, by simp [viewOf, hc]⟩
  rw [← hk]
  rfl

/-- A secret labelled with the name `n` carries the shoot-name label `shootOf n`. -/
theorem SecretsInvariant.shoot_of_named {st : Store Secret Secret.key}
    (hi : SecretsInvariant shootOf st) {n : String} {x : Secret}
    (hx : x ∈ st.list (matchingLabels clusterCRNameLabel n ·.labels)) :
    x.labels.lookup shootNameLabel = some (shootOf n) :=
  hi.named _ (List.mem_map_of_mem _ (Store.mem_of_mem_list hx)) n
    (by simpa [matchingLabels] using (List.mem_filter.mp hx).2)

/-- A secret of another shoot than the view's, whose cluster-name label follows `shootOf`, and
which stands elsewhere than the view's coordinates, is unseen. -/
theorem unseen_of_labels {V : View} {x : Secret} {v : String}
    (hs : x.labels.lookup shootNameLabel = some v)
    (hn : ∀ m, x.labels.lookup clusterCRNameLabel = some m →
      x.labels.lookup shootNameLabel = some (shootOf m))
    (hv : v ≠ V.shoot) (hV : V.shoot = shootOf V.req.name) (hk : x.key ∉ V.coords) :
    Unseen V x where
  shoot := by simp [matchingLabels, hs, hv]
  named := by
    simp only [matchingLabels, decide_eq_false_iff_not]
    intro hm
    have h := hn _ hm
    rw [hs, ← hV] at h
    exact hv (Option.some.inj h)
  coords := hk

/-- The secrets a reconcile of `r₁` may write, and the one it may create, are unseen by a
reconcile of `r₂` of another shoot, when no secret of the shoot of `r₁` stands at the
coordinates of `r₂`, and the two access objects name different coordinates. -/
theorem reconcile_agree_viewOf (controller : GardenerClusterController) (env : Env) (now : Clock)
    (hb : BoundTo shootOf s.clusters) (hi : SecretsInvariant shootOf s.secrets)
    {r₁ r₂ : NamespacedName} (hshoot : shootOf r₁.name ≠ shootOf r₂.name)
    (hcoords : ∀ c₁ c₂, s.clusters.find? r₁ = some c₁ → s.clusters.find? r₂ = some c₂ →
      c₁.secretRef ≠ c₂.secretRef)
    (hfree : ∀ c, s.clusters.find? r₂ = some c → ∀ x ∈ s.secrets.items, x.key = c.secretRef →
      x.labels.lookup shootNameLabel ≠ some (shootOf r₁.name)) :
    Agree (viewOf shootOf s r₂) s ((reconcile controller env now r₁).run s).2.1 := by
  have hne : r₁ ≠ r₂ := fun h => hshoot (h ▸ rfl)
  have unseen : ∀ x ∈ s.secrets.items, x.labels.lookup shootNameLabel = some (shootOf r₁.name) →
      Unseen (viewOf shootOf s r₂) x := fun x hx hs =>
    unseen_of_labels hs (hi.named _ (List.mem_map_of_mem _ hx)) hshoot rfl fun hkv => by
      obtain ⟨c, hc, he⟩ := Option.mem_map.mp hkv
      exact hfree c hc x hx he.symm hs
  have hrew : ∀ c, s.clusters.find? r₁ = some c →
      ∀ x ∈ s.secrets.list (matchingLabels shootNameLabel c.spec.shoot.name ·.labels),
        Unseen (viewOf shootOf s r₂) x := by
    intro c hc x hx
    refine unseen x (Store.mem_of_mem_list hx) ?_
    rw [show shootOf r₁.name = c.spec.shoot.name from (viewOf_spec hb r₁ c hc).1.symm]
    simpa [matchingLabels] using (List.mem_filter.mp hx).2
  have hcre : ∀ c, s.clusters.find? r₁ = some c → ∀ kubeconfig,
      Unseen (viewOf shootOf s r₂) (newSecret c kubeconfig now.lastSyncTime) := by
    intro c hc kubeconfig
    have hk := (Store.find?_eq_some.mp hc).2
    have hs := hb.newSecret_shoot hc kubeconfig now.lastSyncTime
    refine unseen_of_labels hs ?_ hshoot rfl ?_
    · intro m hm'
      rw [newSecret_clusterCRName] at hm'
      cases hm'
      rw [hs, ← hk]; rfl
    · intro hkv
      obtain ⟨c₂, hc₂, he⟩ := Option.mem_map.mp hkv
      exact hcoords c c₂ hc hc₂ he.symm
  have hdel : ∀ x ∈ s.secrets.list (matchingLabels clusterCRNameLabel r₁.name ·.labels),
      Unseen (viewOf shootOf s r₂) x := fun x hx =>
    unseen x (Store.mem_of_mem_list hx) (hi.shoot_of_named hx)
  obtain ⟨h₁, h₂, h₃⟩ := (reconcile_secrets env s controller now r₁).agree hrew hcre hdel
  exact ⟨((reconcile_local_writes env s controller now r₁).1 r₂ hne.symm).symm, h₁, h₂, h₃⟩

/-- A key a reconcile of `r` may write is its access object's coordinates, or the key of a
secret of the shoot of `r`. -/
theorem footprint_viewOf (hi : SecretsInvariant shootOf s.secrets) {r k : NamespacedName}
    (hk : Footprint (viewOf shootOf s r) s.secrets k) :
    (∃ c, s.clusters.find? r = some c ∧ c.secretRef = k) ∨
      ∃ x ∈ s.secrets.items,
        x.key = k ∧ x.labels.lookup shootNameLabel = some (shootOf r.name) := by
  rcases hk with hkv | ⟨x, hx, rfl⟩ | ⟨x, hx, rfl⟩
  · exact .inl (Option.mem_map.mp hkv)
  · exact .inr ⟨x, Store.mem_of_mem_list hx, rfl,
      by simpa [matchingLabels] using (List.mem_filter.mp hx).2⟩
  · exact .inr ⟨x, Store.mem_of_mem_list hx, rfl, hi.shoot_of_named hx⟩

end Bound

/-- Two runs of one write order agree at a key that one of the two writes leaves alone. -/
theorem eq_of_writesAlike {α : Type} {a a₁ a₂ a₁₂ a₂₁ : α} (h₁ : a₁ = a ∧ a₂₁ = a₂ ∨ a₁ = a₂₁)
    (h₂ : a₂ = a ∧ a₁₂ = a₁ ∨ a₂ = a₁₂) (hloc : a₁ = a ∧ a₂₁ = a₂ ∨ a₂ = a ∧ a₁₂ = a₁) :
    a₁₂ = a₂₁ := by
  rcases hloc with ⟨ha, hb⟩ | ⟨ha, hb⟩
  · rcases h₂ with ⟨h, h'⟩ | h
    · rw [h', ha, ← h, hb]
    · rw [← h, hb]
  · rcases h₁ with ⟨h, h'⟩ | h
    · rw [hb, h, ← ha, h']
    · rw [hb, h]

/-- Two access objects whose reconciles commute on a server: their names map to different
shoots, their secrets' coordinates differ, and neither's coordinates hold a secret of the
other's shoot; the access objects are bound by `shootOf`, and the secrets keep the invariant
of `runEvents_invariant`. -/
structure Independent (shootOf : String → String) (r₁ r₂ : NamespacedName) (s : Server) :
    Prop where
  bound : BoundTo shootOf s.clusters
  secrets : SecretsInvariant shootOf s.secrets
  shoots : shootOf r₁.name ≠ shootOf r₂.name
  coords : ∀ c₁ c₂, s.clusters.find? r₁ = some c₁ → s.clusters.find? r₂ = some c₂ →
    c₁.secretRef ≠ c₂.secretRef
  free₁ : ∀ c, s.clusters.find? r₁ = some c → ∀ x ∈ s.secrets.items, x.key = c.secretRef →
    x.labels.lookup shootNameLabel ≠ some (shootOf r₂.name)
  free₂ : ∀ c, s.clusters.find? r₂ = some c → ∀ x ∈ s.secrets.items, x.key = c.secretRef →
    x.labels.lookup shootNameLabel ≠ some (shootOf r₁.name)

theorem Independent.symm {shootOf : String → String} {r₁ r₂ : NamespacedName} {s : Server}
    (h : Independent shootOf r₁ r₂ s) : Independent shootOf r₂ r₁ s :=
  ⟨h.bound, h.secrets, h.shoots.symm, fun c₁ c₂ h₁ h₂ => (h.coords c₂ c₁ h₂ h₁).symm, h.free₂,
    h.free₁⟩

/-- Reconciles of two independent access objects commute: each returns the same result and
makes the same calls whichever runs first, and both orders leave servers answering every `Get`
alike. -/
theorem Independent.commute (controller : GardenerClusterController) {shootOf : String → String}
    {s : Server} {r₁ r₂ : NamespacedName} (hI : Independent shootOf r₁ r₂ s)
    (env₁ env₂ : Env) (now₁ now₂ : Clock) :
    let a := reconcile controller env₁ now₁ r₁
    let b := reconcile controller env₂ now₂ r₂
    (b.run (a.run s).2.1).1 = (b.run s).1 ∧ (b.run (a.run s).2.1).2.2 = (b.run s).2.2 ∧
      (a.run (b.run s).2.1).1 = (a.run s).1 ∧ (a.run (b.run s).2.1).2.2 = (a.run s).2.2 ∧
      (∀ k, (b.run (a.run s).2.1).2.1.clusters.find? k =
        (a.run (b.run s).2.1).2.1.clusters.find? k) ∧
      ∀ k, (b.run (a.run s).2.1).2.1.secrets.find? k =
        (a.run (b.run s).2.1).2.1.secrets.find? k := by
  obtain ⟨hb, hi, hshoot, hcoords, hfree₁, hfree₂⟩ := hI
  intro a b
  have hne : r₁ ≠ r₂ := fun h => hshoot (h ▸ rfl)
  have hA := reconcile_agree_viewOf controller env₁ now₁ hb hi hshoot hcoords hfree₂
  have hB := reconcile_agree_viewOf controller env₂ now₂ hb hi hshoot.symm
    (fun c₁ c₂ h₁ h₂ => (hcoords c₂ c₁ h₂ h₁).symm) hfree₁
  have LB := reconcile_lockstep env₂ controller now₂ hA (viewOf_spec hb r₂)
  have LA := reconcile_lockstep env₁ controller now₁ hB (viewOf_spec hb r₁)
  refine ⟨LB.result.symm, LB.log.symm, LA.result.symm, LA.log.symm, fun k => ?_, fun k => ?_⟩
  · refine eq_of_writesAlike (LA.writes.clusters k) (LB.writes.clusters k) ?_
    by_cases hk : k = r₁
    · subst hk
      exact .inr ⟨(reconcile_local_writes env₂ s controller now₂ r₂).1 _ hne,
        (reconcile_local_writes env₂ _ controller now₂ r₂).1 _ hne⟩
    · exact .inl ⟨(reconcile_local_writes env₁ s controller now₁ r₁).1 k hk,
        (reconcile_local_writes env₁ _ controller now₁ r₁).1 k hk⟩
  · refine eq_of_writesAlike (LA.writes.secrets k) (LB.writes.secrets k) ?_
    have local_at : ∀ {r : NamespacedName} {env : Env} {now : Clock} {t : Server},
        Agree (viewOf shootOf s r) s t → ¬ Footprint (viewOf shootOf s r) s.secrets k →
        ((reconcile controller env now r).run t).2.1.secrets.find? k = t.secrets.find? k := by
      intro r env now t h hk
      refine (reconcile_secrets env t controller now r).find?_of_not_footprint (fun c hc => ?_)
        (h.footprint ▸ hk)
      exact viewOf_spec hb r c (h.cluster ▸ hc)
    have hne' : ∀ k, ¬ (Footprint (viewOf shootOf s r₁) s.secrets k ∧
        Footprint (viewOf shootOf s r₂) s.secrets k) := by
      rintro k ⟨h₁, h₂⟩
      rcases footprint_viewOf hi h₁ with ⟨c₁, hc₁, rfl⟩ | ⟨x₁, hx₁, rfl, hs₁⟩ <;>
        rcases footprint_viewOf hi h₂ with ⟨c₂, hc₂, he⟩ | ⟨x₂, hx₂, he, hs₂⟩
      · exact hcoords c₁ c₂ hc₁ hc₂ he.symm
      · exact hfree₁ c₁ hc₁ x₂ hx₂ he hs₂
      · exact hfree₂ c₂ hc₂ x₁ hx₁ he.symm hs₁
      · obtain rfl := s.secrets.eq_of_key_eq hx₁ hx₂ he.symm
        exact hshoot (Option.some.inj (hs₁.symm.trans hs₂))
    by_cases h₁ : Footprint (viewOf shootOf s r₁) s.secrets k
    · have h₂ : ¬ Footprint (viewOf shootOf s r₂) s.secrets k := fun h₂ => hne' k ⟨h₁, h₂⟩
      exact .inr ⟨local_at (Agree.refl _ s) h₂, local_at hA h₂⟩
    · exact .inl ⟨local_at (Agree.refl _ s) h₁, local_at hB h₁⟩

/-- Reconciles of two access objects of different shoots, whose secrets' coordinates differ and
hold no secret of the other's shoot, commute, from a server of bound access objects and secrets
keeping the invariant: each returns the same result and makes the same calls whichever runs
first, and both orders leave servers answering every `Get` alike. -/
theorem reconcile_commute (controller : GardenerClusterController) (shootOf : String → String)
    (s : Server) (hb : BoundTo shootOf s.clusters) (hi : SecretsInvariant shootOf s.secrets)
    (env₁ env₂ : Env) (now₁ now₂ : Time) {r₁ r₂ : NamespacedName}
    (hshoot : shootOf r₁.name ≠ shootOf r₂.name)
    (hcoords : ∀ c₁ c₂, s.clusters.find? r₁ = some c₁ → s.clusters.find? r₂ = some c₂ →
      c₁.secretRef ≠ c₂.secretRef)
    (hfree₁ : ∀ c, s.clusters.find? r₁ = some c → ∀ x ∈ s.secrets.items, x.key = c.secretRef →
      x.labels.lookup shootNameLabel ≠ some (shootOf r₂.name))
    (hfree₂ : ∀ c, s.clusters.find? r₂ = some c → ∀ x ∈ s.secrets.items, x.key = c.secretRef →
      x.labels.lookup shootNameLabel ≠ some (shootOf r₁.name)) :
    let a := reconcile controller env₁ now₁ r₁
    let b := reconcile controller env₂ now₂ r₂
    (b.run (a.run s).2.1).1 = (b.run s).1 ∧ (b.run (a.run s).2.1).2.2 = (b.run s).2.2 ∧
      (a.run (b.run s).2.1).1 = (a.run s).1 ∧ (a.run (b.run s).2.1).2.2 = (a.run s).2.2 ∧
      (∀ k, (b.run (a.run s).2.1).2.1.clusters.find? k =
        (a.run (b.run s).2.1).2.1.clusters.find? k) ∧
      ∀ k, (b.run (a.run s).2.1).2.1.secrets.find? k =
        (a.run (b.run s).2.1).2.1.secrets.find? k :=
  Independent.commute controller ⟨hb, hi, hshoot, hcoords, hfree₁, hfree₂⟩ env₁ env₂ now₁ now₂

/-- The access object `kcp-system/m` of the shoot `s2`, keeping its kubeconfig in the secret
`kcp-system/kubeconfig-m`. -/
def secondAccessObject : GardenerCluster :=
  { accessObject (Finmap.singleton shootNameLabel "s2") with
    name := "m", spec := ⟨⟨"s2"⟩, ⟨⟨"kubeconfig-m", "kcp-system", "config"⟩⟩⟩ }

/-- A server holding `kcp-system/n` of the shoot `s` and `kcp-system/m` of the shoot `s2`, and no
secret. -/
def twoAccessServer : Server :=
  ⟨⟨[accessObject (Finmap.singleton shootNameLabel "s"), secondAccessObject], by decide⟩,
    Store.empty, by simp [Store.empty]⟩

/-- The two access objects of `twoAccessServer` are independent. -/
theorem twoAccessServer_independent :
    Independent (fun n : String => if n = "n" then "s" else "s2") ⟨"kcp-system", "n"⟩
      ⟨"kcp-system", "m"⟩ twoAccessServer := by
  have e₁ : twoAccessServer.clusters.find? ⟨"kcp-system", "n"⟩ =
      some (accessObject (Finmap.singleton shootNameLabel "s")) := by decide
  have e₂ : twoAccessServer.clusters.find? ⟨"kcp-system", "m"⟩ = some secondAccessObject := by
    decide
  refine ⟨by decide, ⟨fun _ => by simp [twoAccessServer, Store.empty],
    by simp [twoAccessServer, Store.empty]⟩, by decide, fun c₁ c₂ h₁ h₂ => ?_, ?_, ?_⟩
  · rw [e₁] at h₁; rw [e₂] at h₂
    cases h₁; cases h₂
    decide
  all_goals intro _ _ x hx; simp [twoAccessServer, Store.empty] at hx

/-- The first reconciles of two access objects of different shoots commute. -/
theorem reconcile_commute_two :
    let shootOf := fun n : String => if n = "n" then "s" else "s2"
    let s := twoAccessServer
    let r₁ : NamespacedName := ⟨"kcp-system", "n"⟩
    let r₂ : NamespacedName := ⟨"kcp-system", "m"⟩
    let a := reconcile ⟨Duration.zero⟩ (Env.faultless "kubeconfig") (Clock.ofTime ⟨0⟩) r₁
    let b := reconcile ⟨Duration.zero⟩ (Env.faultless "kubeconfig") (Clock.ofTime ⟨1⟩) r₂
    BoundTo shootOf s.clusters ∧ shootOf r₁.name ≠ shootOf r₂.name ∧
      (∀ c₁ c₂, s.clusters.find? r₁ = some c₁ → s.clusters.find? r₂ = some c₂ →
        c₁.secretRef ≠ c₂.secretRef) ∧
      (b.run (a.run s).2.1).1 = (b.run s).1 ∧ (b.run (a.run s).2.1).2.2 = (b.run s).2.2 ∧
      (a.run (b.run s).2.1).1 = (a.run s).1 ∧ (a.run (b.run s).2.1).2.2 = (a.run s).2.2 ∧
      (∀ k, (b.run (a.run s).2.1).2.1.clusters.find? k =
        (a.run (b.run s).2.1).2.1.clusters.find? k) ∧
      ∀ k, (b.run (a.run s).2.1).2.1.secrets.find? k =
        (a.run (b.run s).2.1).2.1.secrets.find? k := by
  intro shootOf s r₁ r₂
  have hI := twoAccessServer_independent
  exact ⟨hI.bound, hI.shoots, hI.coords, reconcile_commute ⟨Duration.zero⟩ shootOf s hI.bound
    hI.secrets (Env.faultless "kubeconfig") (Env.faultless "kubeconfig") ⟨0⟩ ⟨1⟩ hI.shoots hI.coords
    hI.free₁ hI.free₂⟩

end InfrastructureManager
