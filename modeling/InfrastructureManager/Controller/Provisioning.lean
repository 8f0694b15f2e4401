import InfrastructureManager.Controller.Convergence
import InfrastructureManager.Controller.Interleaving

/-!
# Every reconciled access object keeps one kubeconfig secret

From a `Provisionable` server every reconcile keeps it provisionable, and once an access object
has been reconciled with every call answered, exactly one secret carries its shoot-name label
for the rest of the run (`runEvents_provides_secret`; `gardener_cluster_controller.go:81–125`).
The run is assumed to reconcile only stored access objects: the cleanup of a gone one selects
secrets by name in every namespace, and deletes the secret of a namesake (the example below).
-/

namespace InfrastructureManager

/-- A server where reconciles provide kubeconfig secrets: the access objects are bound to their
shoots and carry no force-rotation annotation, the secrets keep the invariant, access objects of
different shoots name different coordinates, and a secret at an access object's coordinates
carries its shoot. -/
structure Provisionable (shootOf : String → String) (s : Server) : Prop where
  bound : BoundTo shootOf s.clusters
  secrets : SecretsInvariant shootOf s.secrets
  unforced : Unforced s.clusters
  coords : ∀ c ∈ s.clusters.items, ∀ c' ∈ s.clusters.items, c.secretRef = c'.secretRef →
    c.spec.shoot.name = c'.spec.shoot.name
  owned : ∀ c ∈ s.clusters.items, ∀ x ∈ s.secrets.items, x.key = c.secretRef →
    x.labels.lookup shootNameLabel = some c.spec.shoot.name

/-- A step that cannot delete, its access object being stored, keeps a single secret of a shoot
single, when the access objects are bound. -/
theorem SecretsStep.single {shootOf : String → String}
    {cs : Store GardenerCluster GardenerCluster.key} {req : NamespacedName} {now : Clock}
    {st st' : Store Secret Secret.key} (step : SecretsStep cs req now st st')
    (hb : BoundTo shootOf cs) (hreq : cs.contains req = true) {v : String} {S : Secret}
    (hS : st.list (matchingLabels shootNameLabel v ·.labels) = [S]) :
    ∃ S', st'.list (matchingLabels shootNameLabel v ·.labels) = [S'] := by
  cases step with
  | unchanged => exact ⟨S, hS⟩
  | rewrite c x y _ hl hk hlab _ =>
    have hm : x ∈ st.items := Store.mem_of_mem_list (hl ▸ List.mem_singleton_self x)
    rw [Store.list_replace_of_sel hm (show y.normalize.key = x.key from hk) (by simp [hlab]), hS]
    exact ⟨_, rfl⟩
  | create c kubeconfig st' hc hl _ h =>
    have hne : c.spec.shoot.name ≠ v := by
      rintro rfl
      rw [hl] at hS
      cases hS
    rw [Store.list_of_items_cons h, hS]
    simp [matchingLabels, (hb c (Store.find?_eq_some.mp hc).1).1, hne]
  | delete x hc _ _ => simp [Store.contains_eq_isSome, hc] at hreq

section Provisionable

variable (controller : GardenerClusterController) {shootOf : String → String} {s : Server}

/-- Every reconcile keeps a server provisionable. -/
theorem Provisionable.reconcile (hP : Provisionable shootOf s) (env : Env) (now : Clock)
    (req : NamespacedName) :
    Provisionable shootOf ((reconcile controller env now req).run s).2.1 := by
  have hK := (reconcile_clusters env s controller now req).1
  have step := reconcile_secrets env s controller now req
  refine ⟨hP.bound.of_retouched (reconcile_clusters env s controller now req),
    step.invariant hP.bound hP.secrets, hP.unforced.reconcile env controller now req,
    fun c hc c' hc' he => ?_, fun c hc x hx hk => ?_⟩
  · obtain ⟨d, hd, -, -, hs⟩ := hK.1 c hc
    obtain ⟨d', hd', -, -, hs'⟩ := hK.1 c' hc'
    rw [GardenerCluster.secretRef_of_spec hs, GardenerCluster.secretRef_of_spec hs'] at he
    rw [hs, hs']
    exact hP.coords d hd d' hd' he
  · obtain ⟨d, hd, -, -, hs⟩ := hK.1 c hc
    rw [GardenerCluster.secretRef_of_spec hs] at hk
    rw [hs]
    rcases step.mem_cases hx with ⟨x₀, hx₀, hk₀, hl₀⟩ | ⟨c₁, kubeconfig, hc₁, rfl⟩
    · rw [← hl₀]
      exact hP.owned d hd x₀ hx₀ (hk₀.trans hk)
    · have hm₁ := (Store.find?_eq_some.mp hc₁).1
      rw [Secret.labels_normalize, newSecret_shootName, (hP.bound c₁ hm₁).1,
        hP.coords c₁ hm₁ d hd hk]

/-- A run of reconciles keeps a server provisionable, and the specs of its access objects. -/
theorem runEvents_provisionable (hP : Provisionable shootOf s) {events : List Event}
    (hrec : ∀ e ∈ events, e.request.isSome) :
    Provisionable shootOf (runEvents controller s events) ∧
      SpecsKept s.clusters (runEvents controller s events).clusters :=
  runEvents_induction controller
    (fun t => Provisionable shootOf t ∧ SpecsKept s.clusters t.clusters)
    (fun env now req _ h => ⟨h.1.reconcile controller env now req,
      h.2.trans (reconcile_clusters env _ controller now req).1⟩)
    events s (fun cs h => absurd (hrec _ h) (by simp [Event.request])) ⟨hP, .refl _⟩

/-- Along a run of reconciles of stored access objects from a provisionable server, a single
secret of a shoot stays single. -/
theorem runEvents_single (hP : Provisionable shootOf s) {events : List Event}
    (hreq : ∀ e ∈ events, ∃ r, e.request = some r ∧ s.clusters.contains r = true) {v : String}
    {S : Secret} (hS : s.secrets.list (matchingLabels shootNameLabel v ·.labels) = [S]) :
    ∃ S', (runEvents controller s events).secrets.list
      (matchingLabels shootNameLabel v ·.labels) = [S'] := by
  induction events generalizing s S with
  | nil => exact ⟨S, hS⟩
  | cons e events ih =>
    obtain ⟨r, hr, hc⟩ := hreq e (List.mem_cons_self e events)
    obtain ⟨env, now, rfl⟩ := Event.eq_of_request hr
    have hK := (reconcile_clusters env s controller now r).1
    obtain ⟨S', hS'⟩ := (reconcile_secrets env s controller now r).single hP.bound hc hS
    refine ih (hP.reconcile controller env now r) (fun e' he' => ?_) hS'
    obtain ⟨r', h₁, h₂⟩ := hreq e' (List.mem_cons_of_mem _ he')
    exact ⟨r', h₁, (hK.contains r').trans h₂⟩

/-- Along a run of reconciles of stored access objects from a provisionable server, an access
object reconciled once with every call answered and its kubeconfig fetched ends with exactly
one secret carrying its shoot-name label, whatever the reconciles before and after meet. -/
theorem runEvents_provides_secret (hP : Provisionable shootOf s) {events : List Event}
    (hreq : ∀ e ∈ events, ∃ r, e.request = some r ∧ s.clusters.contains r = true)
    {c : GardenerCluster} (hc : c ∈ s.clusters.items) {env : Env} {now : Clock}
    {kubeconfig : String} (he : .reconcile env now c.key ∈ events)
    (hok : ∀ call, env.fails call = false) (hf : env.fetch c.spec.shoot.name = .ok kubeconfig) :
    ∃ S, (runEvents controller s events).secrets.list
      (matchingLabels shootNameLabel c.spec.shoot.name ·.labels) = [S] := by
  obtain ⟨pre, post, rfl⟩ := List.append_of_mem he
  have hrec : ∀ e ∈ pre, e.request.isSome := fun e h => by
    obtain ⟨r, hr, -⟩ := hreq e (List.mem_append_left _ h)
    rw [hr]
    rfl
  obtain ⟨hP₁, hK₁⟩ := runEvents_provisionable controller hP hrec
  -- the access object at the key of `c` when its reconcile comes
  have hc₀ : s.clusters.find? c.key = some c := Store.find?_eq_some.mpr ⟨hc, rfl⟩
  obtain ⟨c₁, hc₁⟩ : ∃ c₁, (runEvents controller s pre).clusters.find? c.key = some c₁ :=
    Option.isSome_iff_exists.mp (by
      rw [← Store.contains_eq_isSome, hK₁.contains, Store.contains_eq_isSome, hc₀]
      rfl)
  obtain ⟨d, hd, -, hs⟩ := hK₁.exists_of_find? hc₁
  obtain rfl : c = d := Option.some.inj (hc₀.symm.trans hd)
  obtain ⟨hm₁, hkey⟩ := Store.find?_eq_some.mp hc₁
  obtain ⟨S, hS⟩ := reconcile_provides_secret controller env now hP₁.bound hP₁.secrets c₁ hok
    (hs ▸ hf) (hP₁.unforced c₁ hm₁) (hkey ▸ hc₁) fun x hx => by
      obtain ⟨hxm, hxk⟩ := Store.find?_eq_some.mp hx
      simp [matchingLabels, hP₁.owned c₁ hm₁ x hxm hxk]
  rw [hkey, hs] at hS
  -- later reconciles keep it single
  rw [runEvents_append]
  have hK₂ := hK₁.trans (reconcile_clusters env _ controller now c.key).1
  exact runEvents_single controller (hP₁.reconcile controller env now c.key) (fun e' he' => by
    obtain ⟨r, h₁, h₂⟩ := hreq e' (List.mem_append_right _ (List.mem_cons_of_mem _ he'))
    exact ⟨r, h₁, (hK₂.contains r).trans h₂⟩) hS

end Provisionable

/-- Around a faultless reconcile of `kcp-system/n`, a reconcile of `kcp-system/m` and a later one
of `kcp-system/n` whose every call is rejected leave `kcp-system/n` one kubeconfig secret. -/
theorem runEvents_provides_secret_rejected :
    let shootOf := fun n : String => if n = "n" then "s" else "s2"
    let c := accessObject (Finmap.singleton shootNameLabel "s")
    let env := Env.faultless "kubeconfig"
    let rejecting : Env := ⟨fun _ => .error .failed, fun _ => true⟩
    let events := [Event.reconcile rejecting (Clock.ofTime ⟨0⟩) ⟨"kcp-system", "m"⟩,
      .reconcile env (Clock.ofTime ⟨1⟩) c.key, .reconcile rejecting (Clock.ofTime ⟨2⟩) c.key]
    Provisionable shootOf twoAccessServer ∧
      (∀ e ∈ events, ∃ r, e.request = some r ∧ twoAccessServer.clusters.contains r = true) ∧
      c ∈ twoAccessServer.clusters.items ∧ Event.reconcile env (Clock.ofTime ⟨1⟩) c.key ∈ events ∧
      (∀ call, env.fails call = false) ∧ env.fetch c.spec.shoot.name = .ok "kubeconfig" ∧
      ∃ S, (runEvents ⟨Duration.zero⟩ twoAccessServer events).secrets.list
        (matchingLabels shootNameLabel c.spec.shoot.name ·.labels) = [S] := by
  intro shootOf c env rejecting events
  have hI := twoAccessServer_independent
  have hP : Provisionable shootOf twoAccessServer :=
    ⟨hI.bound, hI.secrets, by decide, by decide,
      fun _ _ x hx => by simp [twoAccessServer, Store.empty] at hx⟩
  have hreq : ∀ e ∈ events,
      ∃ r, e.request = some r ∧ twoAccessServer.clusters.contains r = true := by
    intro e he
    simp only [events, List.mem_cons, List.mem_singleton, List.not_mem_nil, or_false] at he
    rcases he with rfl | rfl | rfl <;> exact ⟨_, rfl, by decide⟩
  have hc : c ∈ twoAccessServer.clusters.items := .head _
  have he : Event.reconcile env (Clock.ofTime ⟨1⟩) c.key ∈ events := .tail _ (.head _)
  exact ⟨hP, hreq, hc, he, fun _ => rfl, rfl,
    runEvents_provides_secret ⟨Duration.zero⟩ hP hreq hc he (fun _ => rfl) rfl⟩

/-- The kubeconfig secret of `kcp-system/n`, labelled with its shoot and its name. -/
def namedSecret : Secret :=
  ⟨"kubeconfig-n", "kcp-system",
    (Finmap.singleton shootNameLabel "s").insert clusterCRNameLabel "n", ∅, ∅, ∅⟩

/-- A server holding `kcp-system/n` of the shoot `s` and its kubeconfig secret. -/
def namesakeServer : Server :=
  ⟨(accessServer (Finmap.singleton shootNameLabel "s")).clusters, ⟨[namedSecret], by decide⟩,
    by decide⟩

/- Without the assumption on requests the secret is lost: `deleteKubeconfigSecret` selects by
name in every namespace (lines 154–170), so a reconcile of `other/n`, where no access object
stands, deletes the kubeconfig secret of the stored `kcp-system/n`. -/
example :
    let s' := ((reconcile ⟨Duration.zero⟩ (Env.faultless "") (Clock.ofTime ⟨0⟩)
      ⟨"other", "n"⟩).run namesakeServer).2.1
    accessObject (Finmap.singleton shootNameLabel "s") ∈ s'.clusters.items ∧
      namesakeServer.secrets.list (matchingLabels shootNameLabel "s" ·.labels) = [namedSecret] ∧
      s'.secrets.list (matchingLabels shootNameLabel "s" ·.labels) = [] := by
  decide

end InfrastructureManager
