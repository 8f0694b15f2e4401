import InfrastructureManager.Shoot.Json

/-!
# The audit-log extenders

`oSetExtension` (`set_extension.go:36–72`) builds the extension `shoot-auditlog-service`,
whose provider configuration is the JSON of an `AuditlogExtensionConfig` for the audit
data, and upserts it into the shoot's extension list: `slices.IndexFunc` finds the first
entry of that type, which is overwritten, or else the extension is appended.
`oSetExtension_eq_upsertBy` says this without indices, as `upsertBy`, from which the
count and absorption laws follow by induction over the list.

`NewAuditlogExtenderForCreate` (`extender.go:12–24`) runs `oSetSecret` and
`oSetPolicyConfigmap`, and `NewAuditlogExtenderForPatch` (lines 26–30) the second alone.
Neither runs `oSetExtension`, which nothing in the sources calls. The two operations are
not in the sources; they are modelled from the spec and from the shoot the tests expect
(`suite_test.go:402–416`), and write only the secret reference and the policy reference.
-/

namespace InfrastructureManager

/-- `auditlogExtensionType`. -/
def auditlogExtensionType : String := "shoot-auditlog-service"

/-- `auditlogReferenceName`. -/
def auditlogReferenceName : String := "auditlog-credentials"

/-- `AuditLogData`. -/
structure AuditLogData where
  tenantID : String
  serviceURL : String
  secretName : String
  deriving DecidableEq, Repr

/-- `AuditlogExtensionConfig`, with the fields of its inlined `metav1.TypeMeta`. -/
structure AuditlogExtensionConfig where
  kind : String
  apiVersion : String
  type : String
  tenantID : String
  serviceURL : String
  secretReferenceName : String
  deriving DecidableEq, Repr

namespace AuditlogExtensionConfig

/-- The members `encoding/json` writes for the configuration, in declaration order; `kind`
and `apiVersion` are `omitempty`. -/
def members (cfg : AuditlogExtensionConfig) : List (String × String) :=
  (if cfg.kind = "" then [] else [("kind", cfg.kind)]) ++
    (if cfg.apiVersion = "" then [] else [("apiVersion", cfg.apiVersion)]) ++
    [("type", cfg.type), ("tenantID", cfg.tenantID), ("serviceURL", cfg.serviceURL),
      ("secretReferenceName", cfg.secretReferenceName)]

/-- `json.NewEncoder(&buffer).Encode(&cfg)`: the object, then a newline. -/
def encode (cfg : AuditlogExtensionConfig) : String := ⟨encodeObject cfg.members ++ ['\n']⟩

theorem members_injective : Function.Injective members := by
  rintro ⟨k, v, t, i, u, s⟩ ⟨k', v', t', i', u', s'⟩ h
  -- The four members that are always written, then the two `omitempty` ones.
  obtain ⟨h₁, h₂⟩ := List.append_inj' h rfl
  simp only [List.cons.injEq, Prod.mk.injEq, true_and, and_true] at h₂
  obtain ⟨rfl, rfl, rfl, rfl⟩ := h₂
  by_cases hk : k = "" <;> by_cases hk' : k' = "" <;> by_cases hv : v = "" <;>
    by_cases hv' : v' = "" <;> simp_all

/-- The bytes of the provider configuration determine the configuration. -/
theorem encode_injective : Function.Injective encode := by
  intro c c' h
  have h' := congrArg String.data h
  simp only [encode, List.append_cancel_right_eq] at h'
  exact members_injective (encodeObject_injective h')

end AuditlogExtensionConfig

/-- `gardener.Extension`; the bytes of its `ProviderConfig` are the text they encode. -/
structure Extension where
  type : String
  providerConfig : Option String
  disabled : Option Bool
  deriving DecidableEq, Repr

/-- `gardener.NamedResourceReference`, with the fields of its `ResourceRef`. -/
structure NamedResourceReference where
  name : String
  kind : String
  resourceName : String
  apiVersion : String
  deriving DecidableEq, Repr

/-- The part of `gardener.Shoot` the modelled extenders read and write: `Spec.Extensions`,
`Spec.Resources`, the config map named by
`Spec.Kubernetes.KubeAPIServer.AuditConfig.AuditPolicy.ConfigMapRef`, and
`Spec.ExposureClassName`. -/
structure Shoot where
  extensions : List Extension
  resources : List NamedResourceReference
  auditPolicyConfigMapName : Option String
  exposureClassName : Option String
  deriving DecidableEq, Repr

/-- `operation`: a mutation of the shoot that may fail. -/
def Operation : Type := Shoot → Except String Shoot

/-- `Extend`; the runtime it is given is a parameter, since the audit-log extenders ignore
it. -/
def Extend (Runtime : Type) : Type := Runtime → Shoot → Except String Shoot

/-! ### `oSetExtension` -/

/-- The configuration `oSetExtension` encodes (`set_extension.go:38–47`). -/
def auditlogConfig (d : AuditLogData) : AuditlogExtensionConfig where
  kind := "AuditlogConfig"
  apiVersion := "service.auditlog.extensions.gardener.cloud/v1alpha1"
  type := "standard"
  tenantID := d.tenantID
  serviceURL := d.serviceURL
  secretReferenceName := auditlogReferenceName

/-- The extension `oSetExtension` writes (lines 53–58). -/
def auditlogExtension (d : AuditLogData) : Extension :=
  { type := auditlogExtensionType, providerConfig := some (auditlogConfig d).encode,
    disabled := none }

/-- The predicate `oSetExtension` gives `slices.IndexFunc` (lines 60–62). -/
def isAuditlogExtension (e : Extension) : Bool := e.type == auditlogExtensionType

@[simp] theorem isAuditlogExtension_iff (e : Extension) :
    isAuditlogExtension e = true ↔ e.type = auditlogExtensionType := by
  simp [isAuditlogExtension]

@[simp] theorem isAuditlogExtension_eq_false (e : Extension) :
    isAuditlogExtension e = false ↔ e.type ≠ auditlogExtensionType := by
  simp [isAuditlogExtension]

@[simp] theorem isAuditlogExtension_auditlogExtension (d : AuditLogData) :
    isAuditlogExtension (auditlogExtension d) = true := by
  simp [auditlogExtension]

/-- `slices.IndexFunc`: the index of the first element satisfying `f`, or `-1`. -/
def indexFunc {α : Type} (s : List α) (f : α → Bool) : Int := go s 0
where
  /-- The loop of `slices.IndexFunc`, at index `i`. -/
  go : List α → Nat → Int
    | [], _ => -1
    | x :: xs, i => if f x then i else go xs (i + 1)

/-- `oSetExtension` (`set_extension.go:36–72`). The encoding of a struct of strings does
not fail, so the error branch of lines 49–51 is not taken. -/
def oSetExtension (d : AuditLogData) : Operation := fun s =>
  let extension := auditlogExtension d
  let index := indexFunc s.extensions isAuditlogExtension
  if index = -1 then .ok { s with extensions := s.extensions ++ [extension] }
  else .ok { s with extensions := s.extensions.set index.toNat extension }

/-! ### Upsert by a predicate -/

/-- Replace the first element satisfying `p` by `x`, or append `x`. -/
def upsertBy {α : Type} (p : α → Bool) (x : α) : List α → List α
  | [] => [x]
  | y :: ys => if p y then x :: ys else y :: upsertBy p x ys

section Upsert

variable {α : Type} (p : α → Bool) (x : α)

/-- The index loop started at `i` after a prefix of length `i`, followed by the set or the
append, is the upsert of the rest. -/
theorem indexFunc_go_upsertBy (l pre : List α) (i : Nat) (hpre : pre.length = i) :
    (if indexFunc.go p l i = -1 then pre ++ l ++ [x] else (pre ++ l).set (indexFunc.go p l i).toNat x) =
      pre ++ upsertBy p x l := by
  induction l generalizing pre i with
  | nil => simp [indexFunc.go, upsertBy]
  | cons y ys ih =>
    by_cases hy : p y
    · have : ¬((i : Int) = -1) := by omega
      simp [indexFunc.go, upsertBy, hy, this, ← hpre, List.set_append_right]
    · have := ih (pre ++ [y]) (i + 1) (by simp [hpre])
      simp only [List.append_assoc, List.singleton_append, List.cons_append, List.nil_append] at this
      simp [indexFunc.go, upsertBy, hy, this]

/-- Without an element satisfying `p`, the upsert appends. -/
theorem upsertBy_of_forall_not {l : List α} (h : ∀ y ∈ l, p y = false) :
    upsertBy p x l = l ++ [x] := by
  induction l with
  | nil => rfl
  | cons y ys ih => simp_all [upsertBy]

/-- The upsert overwrites the first element satisfying `p`, in place. -/
theorem upsertBy_eq_set {l : List α} {i : Nat} (hi : i < l.length) (hp : p l[i] = true)
    (hfirst : ∀ j (hj : j < i), p l[j] = false) : upsertBy p x l = l.set i x := by
  induction l generalizing i with
  | nil => simp at hi
  | cons y ys ih =>
    cases i with
    | zero =>
      have hy : p y = true := hp
      simp only [upsertBy, hy, ↓reduceIte, List.set_cons_zero]
    | succ i =>
      have hy : p y = false := hfirst 0 (Nat.succ_pos i)
      simp only [upsertBy, hy, Bool.false_eq_true, ↓reduceIte, List.set_cons_succ]
      exact congrArg (y :: ·) (ih (Nat.lt_of_succ_lt_succ hi) hp fun j hj => hfirst (j + 1) (by omega))

/-- After the upsert, the elements satisfying `p` number as many as before, and at
least one. -/
theorem countP_upsertBy (hx : p x = true) (l : List α) :
    (upsertBy p x l).countP p = max (l.countP p) 1 := by
  induction l with
  | nil => simp [upsertBy, hx]
  | cons y ys ih =>
    by_cases hy : p y
    · simp [upsertBy, hy, hx]
    · simp [upsertBy, hy, ih]

/-- A second upsert by the same predicate overwrites the first. -/
theorem upsertBy_upsertBy {x₁ : α} (h₁ : p x₁ = true) (l : List α) :
    upsertBy p x (upsertBy p x₁ l) = upsertBy p x l := by
  induction l with
  | nil => simp [upsertBy, h₁]
  | cons y ys ih => by_cases hy : p y <;> simp [upsertBy, hy, h₁, ih]

end Upsert

/-- `oSetExtension` upserts the extension it builds into the extension list. -/
theorem oSetExtension_eq_upsertBy (d : AuditLogData) (s : Shoot) :
    oSetExtension d s =
      .ok { s with extensions := upsertBy isAuditlogExtension (auditlogExtension d) s.extensions } := by
  have h := indexFunc_go_upsertBy isAuditlogExtension (auditlogExtension d) s.extensions [] 0 rfl
  simp only [List.nil_append] at h
  simp only [oSetExtension, indexFunc, ← h]
  split <;> rfl

/-- `oSetExtension` never fails and changes only the extension list: the first
`shoot-auditlog-service` entry is overwritten in place by the extension built from the
audit data, or, without one, that extension is appended. The entries of that type number
as many as before and at least one, and a later `oSetExtension` undoes an earlier one. -/
theorem oSetExtension_upserts (d : AuditLogData) (s : Shoot) :
    let extensions := upsertBy isAuditlogExtension (auditlogExtension d) s.extensions
    oSetExtension d s = .ok { s with extensions := extensions } ∧
      ((∀ e ∈ s.extensions, e.type ≠ auditlogExtensionType) →
        extensions = s.extensions ++ [auditlogExtension d]) ∧
      (∀ i (hi : i < s.extensions.length), s.extensions[i].type = auditlogExtensionType →
        (∀ j (hj : j < i), s.extensions[j].type ≠ auditlogExtensionType) →
        extensions = s.extensions.set i (auditlogExtension d)) ∧
      extensions.countP isAuditlogExtension = max (s.extensions.countP isAuditlogExtension) 1 ∧
      ∀ d', (oSetExtension d' s >>= oSetExtension d) = oSetExtension d s := by
  intro extensions
  refine ⟨oSetExtension_eq_upsertBy d s,
    fun h => upsertBy_of_forall_not _ _ fun e he => by simpa using h e he,
    fun i hi hp hfirst => upsertBy_eq_set _ _ hi (by simpa using hp)
      fun j hj => by simpa using hfirst j hj,
    countP_upsertBy _ _ (isAuditlogExtension_auditlogExtension d) _, fun d' => ?_⟩
  rw [oSetExtension_eq_upsertBy d' s]
  show oSetExtension d _ = _
  rw [oSetExtension_eq_upsertBy, oSetExtension_eq_upsertBy,
    upsertBy_upsertBy _ _ (isAuditlogExtension_auditlogExtension d')]

/-! ### The extenders -/

/-- Modelled from the spec: `oSetSecret` names the secret with the credentials of the
audit-log service in the resource reference `auditlog-credentials`, overwriting one of
that name or appending one, as in the shoot the tests expect (`suite_test.go:409–416`). It
does not fail. -/
def oSetSecret (secretName : String) : Operation := fun s =>
  .ok { s with
    resources := upsertBy (·.name == auditlogReferenceName)
      { name := auditlogReferenceName, kind := "Secret", resourceName := secretName,
        apiVersion := "v1" } s.resources }

/-- Modelled from the spec: `oSetPolicyConfigmap` sets the audit policy of the API server
to the config map of that name (`suite_test.go:403–407`). It does not fail. -/
def oSetPolicyConfigmap (policyConfigMapName : String) : Operation := fun s =>
  .ok { s with auditPolicyConfigMapName := some policyConfigMapName }

/-- The loop of the extenders over their operations (`extender.go:14–22`): each in turn,
stopping at the first error. -/
def runOperations : List Operation → Shoot → Except String Shoot
  | [], s => .ok s
  | f :: fs, s =>
    match f s with
    | .error err => .error err
    | .ok s' => runOperations fs s'

/-- `NewAuditlogExtenderForCreate` (`extender.go:12–24`). -/
def newAuditlogExtenderForCreate {Runtime : Type} (policyConfigMapName : String)
    (data : AuditLogData) : Extend Runtime := fun _ shoot =>
  runOperations [oSetSecret data.secretName, oSetPolicyConfigmap policyConfigMapName] shoot

/-- `NewAuditlogExtenderForPatch` (`extender.go:26–30`). -/
def newAuditlogExtenderForPatch {Runtime : Type} (policyConfigMapName : String) :
    Extend Runtime := fun _ shoot =>
  oSetPolicyConfigmap policyConfigMapName shoot

/-- The create extender never fails and leaves the extension list as it was: to a shoot
without a `shoot-auditlog-service` extension it adds none. It sets the secret reference and
the audit policy only. -/
theorem newAuditlogExtenderForCreate_keeps_extensions {Runtime : Type}
    (policyConfigMapName : String) (data : AuditLogData) (runtime : Runtime) (shoot : Shoot) :
    ∃ shoot', newAuditlogExtenderForCreate policyConfigMapName data runtime shoot = .ok shoot' ∧
      shoot'.extensions = shoot.extensions ∧
      shoot'.auditPolicyConfigMapName = some policyConfigMapName :=
  ⟨_, rfl, rfl, rfl⟩

example : (newAuditlogExtenderForCreate "policy" ⟨"tenant", "https://auditlog", "secret"⟩ ()
    ⟨[], [], none, none⟩).map (·.extensions.countP isAuditlogExtension) = .ok 0 := rfl

end InfrastructureManager
