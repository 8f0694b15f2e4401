import Mathlib.Data.Finmap
import InfrastructureManager.Time.Rfc3339

/-!
# Objects of the API server

The records `gardener_cluster_controller.go` reads and writes: secrets, the
`GardenerCluster` access object and its status conditions, the errors the client
returns, and a store of objects keyed by namespace and name. A store carries the
fact that no two objects share a key, so a malformed store cannot be built; `create`
refuses a taken key, as the API server answers `AlreadyExists`.

`UpdateConditionForErrorState` and `UpdateConditionForReadyState` belong to `api/v1`,
which is not in src/; they are modelled from the spec (conditions upserted by type).
-/

namespace InfrastructureManager

/-- Go's `map[string]string`. A `nil` map and an empty map behave alike for every read
the controller makes, so both are `∅`. Secret data (`map[string][]byte`) holds the
bytes of a string, and is a string map too. -/
abbrev StringMap := Finmap fun _ : String => String

/-- `types.NamespacedName`. -/
structure NamespacedName where
  ns : String
  name : String
  deriving DecidableEq, Repr

/-- `client.MatchingLabels` for the one-entry maps both selectors of the controller
build (`gardener_cluster_controller.go:155,175`). -/
def matchingLabels (key value : String) (labels : StringMap) : Bool :=
  labels.lookup key = some value

/-- `lastKubeconfigSyncAnnotation` (`gardener_cluster_controller.go:39`). -/
def lastKubeconfigSyncAnnotation : String := "operator.kyma-project.io/last-sync"

/-- `forceKubeconfigRotationAnnotation` (`gardener_cluster_controller.go:40`). -/
def forceKubeconfigRotationAnnotation : String :=
  "operator.kyma-project.io/force-kubeconfig-rotation"

/-- `clusterCRNameLabel` (`gardener_cluster_controller.go:41`). -/
def clusterCRNameLabel : String := "operator.kyma-project.io/cluster-name"

/-- The label `getSecret` selects on (`gardener_cluster_controller.go:176`). -/
def shootNameLabel : String := "kyma-project.io/shoot-name"

/-- The ownership label `newSecret` sets (`gardener_cluster_controller.go:374`). -/
def managedByLabel : String := "operator.kyma-project.io/managed-by"

/-- `corev1.Secret`: its metadata, `Data`, and the write-only `StringData`. -/
structure Secret where
  name : String
  ns : String
  labels : StringMap
  annotations : StringMap
  data : StringMap
  stringData : StringMap
  deriving DecidableEq

/-- The coordinates of a secret. -/
def Secret.key (s : Secret) : NamespacedName := ⟨s.ns, s.name⟩

/-- What the API server stores for a written secret: `StringData` is merged into
`Data`, overwriting, and is never stored itself. -/
def Secret.normalize (s : Secret) : Secret :=
  { s with data := s.stringData ∪ s.data, stringData := ∅ }

@[simp] theorem Secret.key_normalize (s : Secret) : s.normalize.key = s.key := rfl

@[simp] theorem Secret.labels_normalize (s : Secret) : s.normalize.labels = s.labels := rfl

@[simp] theorem Secret.annotations_normalize (s : Secret) :
    s.normalize.annotations = s.annotations := rfl

/-- A secret without `StringData` is stored as it is. -/
theorem Secret.normalize_of_stringData {s : Secret} (h : s.stringData = ∅) : s.normalize = s := by
  cases s; simp_all [normalize]

/-- `Spec.Kubeconfig.Secret` of a `GardenerCluster`: where its kubeconfig is kept. -/
structure SecretRef where
  name : String
  ns : String
  key : String
  deriving DecidableEq, Repr

/-- `Spec.Kubeconfig`. -/
structure KubeconfigRef where
  secret : SecretRef
  deriving DecidableEq, Repr

/-- `Spec.Shoot`. -/
structure ShootRef where
  name : String
  deriving DecidableEq, Repr

/-- `GardenerClusterSpec`. -/
structure GardenerClusterSpec where
  shoot : ShootRef
  kubeconfig : KubeconfigRef
  deriving DecidableEq, Repr

/-- `ConditionTypeKubeconfigManagement`, the one condition type the controller writes. -/
inductive ConditionType
  | kubeconfigManagement
  deriving DecidableEq, Repr

/-- The condition reasons of `gardener_cluster_controller.go`. -/
inductive ConditionReason
  | failedToGetSecret
  | failedToGetKubeconfig
  | failedToDeleteSecret
  | failedToCreateSecret
  | failedToUpdateSecret
  | kubeconfigSecretCreated
  | kubeconfigSecretRotated
  deriving DecidableEq, Repr

/-- `metav1.ConditionStatus`. -/
inductive ConditionStatus
  | conditionTrue
  | conditionFalse
  | conditionUnknown
  deriving DecidableEq, Repr

/-- A status condition; its message and transition time are not modelled. -/
structure Condition where
  type : ConditionType
  status : ConditionStatus
  reason : ConditionReason
  deriving DecidableEq, Repr

/-- The overall state of a `GardenerCluster`. -/
inductive State
  | ready
  | error
  deriving DecidableEq, Repr

/-- `GardenerClusterStatus`. -/
structure GardenerClusterStatus where
  state : Option State
  conditions : List Condition
  deriving DecidableEq, Repr

/-- `imv1.GardenerCluster`, the access object. -/
structure GardenerCluster where
  name : String
  ns : String
  labels : StringMap
  annotations : StringMap
  spec : GardenerClusterSpec
  status : GardenerClusterStatus
  deriving DecidableEq

/-- The coordinates of an access object. -/
def GardenerCluster.key (c : GardenerCluster) : NamespacedName := ⟨c.ns, c.name⟩

/-- `meta.SetStatusCondition`: replace the condition of the same type, or append. -/
def setStatusCondition (conditions : List Condition) (c : Condition) : List Condition :=
  if conditions.any (·.type = c.type) then
    conditions.map fun x => if x.type = c.type then c else x
  else conditions ++ [c]

/-- A condition after `setStatusCondition` is the recorded one, or one of another type that
was there. -/
theorem mem_setStatusCondition {conditions : List Condition} {c x : Condition}
    (h : x ∈ setStatusCondition conditions c) : x = c ∨ x ∈ conditions ∧ x.type ≠ c.type := by
  unfold setStatusCondition at h
  split_ifs at h with hany
  · obtain ⟨y, hy, rfl⟩ := List.mem_map.mp h
    by_cases hy' : y.type = c.type
    · simp [hy']
    · simp [hy', hy]
  · rcases List.mem_append.mp h with h | h
    · exact .inr ⟨h, fun he => hany (List.any_eq_true.mpr ⟨x, h, by simp [he]⟩)⟩
    · exact .inl (List.mem_singleton.mp h)

/-- `setStatusCondition` keeps at most one condition per type. -/
theorem setStatusCondition_nodup {conditions : List Condition}
    (h : (conditions.map (·.type)).Nodup) (c : Condition) :
    ((setStatusCondition conditions c).map (·.type)).Nodup := by
  unfold setStatusCondition
  split_ifs with hany
  · have htypes : (conditions.map fun x => if x.type = c.type then c else x).map (·.type) =
        conditions.map (·.type) :=
      (List.map_map _ _ _).trans
        (List.map_congr_left fun x _ => by by_cases hx : x.type = c.type <;> simp [hx])
    rwa [htypes]
  · rw [List.map_append, List.nodup_append]
    refine ⟨h, List.nodup_singleton _, ?_⟩
    simpa [List.disjoint_singleton] using hany

/-- Modelled from the spec: `UpdateConditionForErrorState` of `api/v1` marks the object
failed and upserts a `False` condition of the type with the reason. -/
def GardenerCluster.updateConditionForErrorState (cluster : GardenerCluster)
    (type : ConditionType) (reason : ConditionReason) : GardenerCluster :=
  { cluster with status := ⟨some .error,
      setStatusCondition cluster.status.conditions ⟨type, .conditionFalse, reason⟩⟩ }

/-- Modelled from the spec: `UpdateConditionForReadyState` of `api/v1` marks the object
ready and upserts a condition of the type with the reason and status. -/
def GardenerCluster.updateConditionForReadyState (cluster : GardenerCluster)
    (type : ConditionType) (reason : ConditionReason) (status : ConditionStatus) :
    GardenerCluster :=
  { cluster with status := ⟨some .ready,
      setStatusCondition cluster.status.conditions ⟨type, status, reason⟩⟩ }

/-- Recording a condition touches the status only. -/
@[simp] theorem GardenerCluster.updateConditionForErrorState_labels (c : GardenerCluster)
    (type : ConditionType) (reason : ConditionReason) :
    (c.updateConditionForErrorState type reason).labels = c.labels := rfl

/-- The errors the controller meets: the API server's `NotFound` and `AlreadyExists`,
any other failure of a call, and the errors the controller formats itself. -/
inductive Error
  | notFound
  | alreadyExists
  | failed
  | errorf (message : String)
  deriving DecidableEq, Repr

/-- `k8serrors.IsNotFound`. -/
def Error.isNotFound : Error → Bool
  | .notFound => true
  | _ => false

@[simp] theorem Error.isNotFound_iff (e : Error) : e.isNotFound = true ↔ e = .notFound := by
  cases e <;> simp [isNotFound]

/-- The error text of `deleteKubeconfigSecret` (`gardener_cluster_controller.go:166`). -/
def unexpectedSecretsForClusterCR (clusterCRName : String) : String :=
  "unexpected numer of secrets found for cluster CR `" ++ clusterCRName ++ "`"

/-- The error text of `getSecret` (`gardener_cluster_controller.go:191`). -/
def unexpectedSecretsForShoot (shootName : String) : String :=
  "unexpected numer of secrets found for shoot `" ++ shootName ++ "`"

/-! ### Stores -/

/-- The objects of one kind the API server holds, at most one per key. -/
structure Store (α : Type) (key : α → NamespacedName) where
  items : List α
  nodup : (items.map key).Nodup

namespace Store

variable {α : Type} {key : α → NamespacedName}

/-- The store without objects. -/
def empty : Store α key := ⟨[], List.nodup_nil⟩

/-- `Get`: the object at a key. -/
def find? (st : Store α key) (k : NamespacedName) : Option α := st.items.find? (key · = k)

/-- `List` with a selector: the objects it selects. -/
def list (st : Store α key) (sel : α → Bool) : List α := st.items.filter sel

/-- Whether an object is stored at a key. -/
def contains (st : Store α key) (k : NamespacedName) : Bool := st.items.any (key · = k)

/-- Two stores with the same objects are equal. -/
@[ext] theorem ext {st₁ st₂ : Store α key} (h : st₁.items = st₂.items) : st₁ = st₂ := by
  cases st₁; cases st₂; cases h; rfl

private theorem nodup_cons (st : Store α key) (x : α) (h : st.contains (key x) = false) :
    ((x :: st.items).map key).Nodup := by
  simp only [contains, List.any_eq_false, decide_eq_true_eq] at h
  simp only [List.map_cons, List.nodup_cons, List.mem_map, not_exists, not_and]
  exact ⟨fun y hy he => h y hy he, st.nodup⟩

/-- A replace keeps the keys of the store. -/
theorem map_key_replace (st : Store α key) (x : α) :
    (st.items.map fun y => if key y = key x then x else y).map key = st.items.map key := by
  simp only [List.map_map]
  exact List.map_congr_left fun y _ => by by_cases h : key y = key x <;> simp [h]

/-- The store with the object at the key of `x` replaced by `x`. -/
def replace (st : Store α key) (x : α) : Store α key :=
  ⟨st.items.map fun y => if key y = key x then x else y, by
    rw [map_key_replace]; exact st.nodup⟩

/-- The store without the object at the key of `x`. -/
def remove (st : Store α key) (x : α) : Store α key :=
  ⟨st.items.filter (key · ≠ key x), st.nodup.sublist ((List.filter_sublist _).map key)⟩

/-- The store with `x` added at its free key. -/
def cons (st : Store α key) (x : α) (h : st.contains (key x) = false) : Store α key :=
  ⟨x :: st.items, nodup_cons st x h⟩

/-- `Update`: replace the object at the key, `NotFound` when there is none. -/
def update (st : Store α key) (x : α) : Except Error (Store α key) :=
  if st.contains (key x) then .ok (st.replace x) else .error .notFound

/-- After a replace, every object is the new one or was there before. -/
theorem mem_replace {st : Store α key} {x y : α} (hy : y ∈ (st.replace x).items) :
    y = x ∨ y ∈ st.items := by
  obtain ⟨z, hz, rfl⟩ := List.mem_map.mp hy
  by_cases h : key z = key x <;> simp [h, hz]

/-- After a remove, every object was there before. -/
theorem mem_remove {st : Store α key} {x y : α} (hy : y ∈ (st.remove x).items) :
    y ∈ st.items :=
  List.mem_of_mem_filter hy

/-- Two stored objects at one key are the same object. -/
theorem eq_of_key_eq (st : Store α key) {x y : α} (hx : x ∈ st.items) (hy : y ∈ st.items)
    (h : key x = key y) : x = y :=
  List.inj_on_of_nodup_map st.nodup hx hy h

/-- `contains` holds exactly at the keys of stored objects. -/
theorem contains_iff {st : Store α key} {k : NamespacedName} :
    st.contains k = true ↔ ∃ x ∈ st.items, key x = k := by
  simp [contains]

/-- `Get` finds exactly the object stored at the key. -/
theorem find?_eq_some {st : Store α key} {k : NamespacedName} {x : α} :
    st.find? k = some x ↔ x ∈ st.items ∧ key x = k := by
  constructor
  · intro h; exact ⟨List.mem_of_find?_eq_some h, by simpa using List.find?_some h⟩
  · rintro ⟨hx, rfl⟩
    have hs : (st.items.find? (key · = key x)).isSome :=
      List.find?_isSome.mpr ⟨x, hx, decide_eq_true rfl⟩
    obtain ⟨y, hy⟩ := Option.isSome_iff_exists.mp hs
    have hk : key y = key x := by
      have hp := List.find?_some hy
      simpa using hp
    rw [find?, hy, st.eq_of_key_eq (List.mem_of_find?_eq_some hy) hx hk]

/-- A stored object's key is taken. -/
theorem contains_of_mem {st : Store α key} {x : α} (h : x ∈ st.items) :
    st.contains (key x) = true :=
  contains_iff.mpr ⟨x, h, rfl⟩

/-- A selected object is stored. -/
theorem mem_of_mem_list {st : Store α key} {sel : α → Bool} {x : α} (h : x ∈ st.list sel) :
    x ∈ st.items :=
  List.mem_of_mem_filter h

/-- After a remove, the selected objects are those selected before, but the removed one. -/
theorem list_remove (st : Store α key) (x : α) (sel : α → Bool) :
    (st.remove x).list sel = (st.list sel).filter (key · ≠ key x) := by
  simp only [list, remove, List.filter_filter, Bool.and_comm]

/-- After replacing the object at a taken key, `Get` finds the new one there. -/
theorem find?_replace_self {st : Store α key} {x : α} (h : st.contains (key x) = true) :
    (st.replace x).find? (key x) = some x := by
  obtain ⟨y, hy, hk⟩ := contains_iff.mp h
  exact find?_eq_some.mpr ⟨List.mem_map.mpr ⟨y, hy, by simp [hk]⟩, rfl⟩

/-- Replacing a stored object by one the selector treats alike replaces it among the
selected objects. -/
theorem list_replace_of_sel {st : Store α key} {x y : α} {sel : α → Bool} (hx : x ∈ st.items)
    (hk : key y = key x) (hs : sel y = sel x) :
    (st.replace y).list sel = (st.list sel).map fun z => if key z = key y then y else z := by
  simp only [list, replace, List.filter_map]
  congr 1
  refine List.filter_congr fun z hz => ?_
  by_cases h : key z = key y
  · obtain rfl : z = x := st.eq_of_key_eq hz hx (h.trans hk)
    simp [h, hs]
  · simp [h]

/-- `Get` finds nothing exactly at a free key. -/
theorem find?_eq_none {st : Store α key} {k : NamespacedName} :
    st.find? k = none ↔ st.contains k = false := by
  simp [find?, contains]

/-- Two stores holding the same objects at a key answer `Get` alike there. -/
theorem find?_congr {st st' : Store α key} {k : NamespacedName}
    (h : ∀ z, key z = k → (z ∈ st'.items ↔ z ∈ st.items)) : st'.find? k = st.find? k :=
  Option.ext fun z => by
    rw [Option.mem_def, Option.mem_def, find?_eq_some, find?_eq_some]
    exact ⟨fun ⟨hz, hk⟩ => ⟨(h z hk).mp hz, hk⟩, fun ⟨hz, hk⟩ => ⟨(h z hk).mpr hz, hk⟩⟩

/-- A replace leaves `Get` at every other key as it was. -/
theorem find?_replace_of_ne {st : Store α key} {x : α} {k : NamespacedName} (h : k ≠ key x) :
    (st.replace x).find? k = st.find? k :=
  find?_congr fun z hz =>
    ⟨fun hm => (mem_replace hm).resolve_left fun he => h (by rw [← hz, he]),
      fun hm => List.mem_map.mpr ⟨z, hm, by simp [hz, h]⟩⟩

/-- A remove leaves `Get` at every other key as it was. -/
theorem find?_remove_of_ne {st : Store α key} {x : α} {k : NamespacedName} (h : k ≠ key x) :
    (st.remove x).find? k = st.find? k :=
  find?_congr fun z hz => ⟨mem_remove, fun hm => List.mem_filter.mpr ⟨hm, by simp [hz, h]⟩⟩

/-- Adding an object leaves `Get` at every other key as it was. -/
theorem find?_of_items_cons {st st' : Store α key} {x : α} {k : NamespacedName}
    (hst : st'.items = x :: st.items) (h : k ≠ key x) : st'.find? k = st.find? k :=
  find?_congr fun z hz => by
    rw [hst, List.mem_cons]
    exact ⟨fun hm => hm.resolve_left fun he => h (by rw [← hz, he]), .inr⟩

end Store

end InfrastructureManager
