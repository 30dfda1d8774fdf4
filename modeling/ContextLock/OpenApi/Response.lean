/-
  Subject:   The response of an imported API: bounded, parsed, and held against a schema.
-/
import ContextLock.Js.Reparse
import ContextLock.OpenApi.Importer

namespace ContextLock.OpenApi

open Js Machine

/-! ## 1. Limits -/

/-- `RESPONSE_REASONS`. -/
inductive ResponseReason where
  | TOO_LARGE
  | TIMEOUT
  | WRONG_CONTENT_TYPE
  | TOO_DEEP
  | MALFORMED
  | SCHEMA_MISMATCH
  | STATUS

structure ResponseLimits where
  maxBytes : Nat
  timeoutMs : Nat
  maxDepth : Nat
  allowedContentTypes : List String

def DEFAULT_RESPONSE_LIMITS : ResponseLimits where
  maxBytes := 256 * 1024
  timeoutMs := 5000
  maxDepth := 32
  allowedContentTypes := ["application/json"]

structure RawResponse where
  status : Nat
  contentType : String
  body : String
  elapsedMs : Nat

structure ResponseRefusal where
  reason : ResponseReason
  detail : String

/-- `depthOf(v, d, max)`. -/
def depthOf (v : Value) (d max : Nat) : Nat :=
  if max < d then d
  else
    match v with
    | .arr [] => d
    | .arr items => itemsDepth (d + 1) max items
    | .obj [] => d
    | .obj fields => fieldsDepth (d + 1) max fields
    | _ => d
where
  itemsDepth (d max : Nat) : List Value → Nat
    | [] => 0
    | v :: vs => Nat.max (depthOf v d max) (itemsDepth d max vs)
  fieldsDepth (d max : Nat) : List (String × Value) → Nat
    | [] => 0
    | (_, v) :: fs => Nat.max (depthOf v d max) (fieldsDepth d max fs)

/-! ## 2. The structural check -/

inductive Match where
  | ok
  | refused (detail : String)

/-- The second check, if the first passes. -/
def andThen (first second : Option Match) : Option Match :=
  match first with
  | some .ok => second
  | result => result

theorem andThen_ok {first second : Option Match} :
    andThen first second = some .ok ↔ first = some .ok ∧ second = some .ok := by
  unfold andThen
  split
  · simp
  · rename_i hne
    exact ⟨fun h => absurd h hne, fun h => h.1⟩

/-- `schema.type`; what is no text compares with no type, as the empty text does. -/
def typeText (schema : Value) : String :=
  match schema.prop "type" with
  | .str t => t
  | _ => ""

def inheritedValue (key : String) : Value :=
  if key = "__proto__" then .obj [("__proto__", .null)] else .other "function"

/-- `value[key]`, if `key in value`. -/
def found (fields : List (String × Value)) (key : String) : Option Value :=
  match lookup fields key with
  | .own v => some v
  | .inherited => some (inheritedValue key)
  | .absent => none

/-- The loop over the required keys; without a value where it throws. -/
def checkRequired (fields : List (String × Value)) : List Value → Option Match
  | [] => some .ok
  | req :: rest => do
    let key ← req.textOf
    if (found fields key).isSome then checkRequired fields rest
    else some (.refused s!"missing required property \"{key}\"")

/-- The loop over the declared properties. -/
def checkProperties (fields : List (String × Value)) :
    List (String × (Value → Option Match)) → Option Match
  | [] => some .ok
  | (k, check) :: rest =>
    match found fields k with
    | none => checkProperties fields rest
    | some v =>
      match check v with
      | none => none
      | some (.refused detail) => some (.refused s!"{k}: {detail}")
      | some .ok => checkProperties fields rest

/-- The branches of the types but `object`. -/
def checkType (type : String) (value : Value) : Match :=
  let refused := Match.refused s!"expected {type}, got {value.typeOf}"
  if type = "array" then if value matches .arr _ then .ok else refused
  else if type = "number" ∨ type = "integer" then
    match value with
    | .number (.finite _) => .ok
    | .number .negativeZero => .ok
    | _ => refused
  else if type = "string" then if value matches .str _ then .ok else refused
  else if type = "boolean" then if value matches .bool _ then .ok else refused
  else .ok

/-- `matchesSchema(value, schema)`; without a value where it throws. -/
def matchesSchema (schema value : Value) : Option Match :=
  match schema with
  | .undefined => none
  | .null => none
  | .obj fields =>
    if typeText (.obj fields) = "object" then
      match value with
      | .obj own => do
        let required ← (((Value.obj fields).prop "required").orElse (.arr [])).iterated
        andThen (checkRequired own required) (checkProperties own (declaredChecks fields))
      | .arr _ => some (.refused "expected object, got array")
      | v => some (.refused s!"expected object, got {v.typeOf}")
    else some (checkType (typeText (.obj fields)) value)
  | _ => some .ok
where
  /-- The checks of `Object.entries(schema.properties ?? {})`. The characters of a text would be
      schemas without a type. -/
  declaredChecks : List (String × Value) → List (String × (Value → Option Match))
    | [] => []
    | (k, v) :: fs => if k = "properties" then propertyChecks v else declaredChecks fs
  propertyChecks : Value → List (String × (Value → Option Match))
    | .obj fields => listed (fieldChecks fields)
    | .arr items => itemChecks 0 items
    | _ => []
  fieldChecks : List (String × Value) → List (String × (Value → Option Match))
    | [] => []
    | (k, sub) :: fs => (k, fun v => matchesSchema sub v) :: fieldChecks fs
  itemChecks (i : Nat) : List Value → List (String × (Value → Option Match))
    | [] => []
    | sub :: subs => (toString i, fun v => matchesSchema sub v) :: itemChecks (i + 1) subs

/-! ## 3. Reading a response -/

def mediaType (contentType : String) : String :=
  toLowerCase (trim (String.ofList (contentType.toList.takeWhile (· ≠ ';'))))

/-- `readResponse(raw, schema, limits)`; without a value where it throws. -/
def readResponse (p : ImportPlatform) (raw : RawResponse) (schema : Value)
    (limits : ResponseLimits) : Option (Except ResponseRefusal Value) :=
  let refuse (reason : ResponseReason) (detail : String) :
      Option (Except ResponseRefusal Value) := some (.error ⟨reason, detail⟩)
  let bytes := raw.body.utf8ByteSize
  let ct := mediaType raw.contentType
  if limits.timeoutMs < raw.elapsedMs then
    refuse .TIMEOUT s!"{raw.elapsedMs}ms > {limits.timeoutMs}ms"
  else if limits.maxBytes < bytes then refuse .TOO_LARGE s!"{bytes} bytes > {limits.maxBytes}"
  else if ct ∉ limits.allowedContentTypes then
    refuse .WRONG_CONTENT_TYPE (if ct = "" then "(none)" else ct)
  else if raw.status < 200 ∨ 300 ≤ raw.status then refuse .STATUS (toString raw.status)
  else
    match jsonParse p.nearest raw.body with
    | none => refuse .MALFORMED (p.syntaxError raw.body)
    | some parsed =>
      let d := depthOf parsed 0 (limits.maxDepth + 1)
      if limits.maxDepth < d then refuse .TOO_DEEP s!"depth {d} > {limits.maxDepth}"
      else
        match matchesSchema schema parsed with
        | none => none
        | some (.refused detail) => refuse .SCHEMA_MISMATCH detail
        | some .ok => some (.ok parsed)

/-! ## 4. What is accepted -/

/-- The check passes. -/
def Accepts (schema value : Value) : Prop := matchesSchema schema value = some .ok

/-- The names of `schema.required`; none, where the loop over them throws. -/
def requiredNames (schema : Value) : Option (List String) :=
  ((schema.prop "required").orElse (.arr [])).iterated.bind (·.mapM Value.textOf)

/-- `Object.entries(schema.properties ?? {})`. -/
def declaredProperties (schema : Value) : List (String × Value) := (schema.prop "properties").entries

theorem fieldChecks_eq (fields : List (String × Value)) :
    matchesSchema.fieldChecks fields = fields.map fun f => (f.1, fun v => matchesSchema f.2 v) := by
  induction fields with
  | nil => rw [matchesSchema.fieldChecks]; rfl
  | cons f fs ih => rw [matchesSchema.fieldChecks, ih, List.map_cons]

theorem itemChecks_eq (i : Nat) (items : List Value) :
    matchesSchema.itemChecks i items =
      (items.zipIdx i).map fun item => (toString item.2, fun v => matchesSchema item.1 v) := by
  induction items generalizing i with
  | nil => rw [matchesSchema.itemChecks]; rfl
  | cons sub subs ih => rw [matchesSchema.itemChecks, ih, List.zipIdx_cons, List.map_cons]

theorem declaredChecks_eq (fields : List (String × Value)) :
    matchesSchema.declaredChecks fields =
      matchesSchema.propertyChecks ((Value.obj fields).prop "properties") := by
  induction fields with
  | nil => rw [matchesSchema.declaredChecks]; rfl
  | cons f fs ih =>
    obtain ⟨k, v⟩ := f
    rw [matchesSchema.declaredChecks]
    by_cases hkey : k = "properties"
    · simp [hkey, Value.prop]
    · have hne : ("properties" == k) = false := beq_false_of_ne (Ne.symm hkey)
      simp [hkey, Value.prop, List.lookup_cons, hne, ih]

theorem forall_declaredChecks {fields : List (String × Value)}
    {P : String → (Value → Option Match) → Prop} :
    (∀ c ∈ matchesSchema.declaredChecks fields, P c.1 c.2) ↔
      ∀ e ∈ declaredProperties (.obj fields), P e.1 fun v => matchesSchema e.2 v := by
  rw [declaredChecks_eq, declaredProperties]
  cases (Value.obj fields).prop "properties" with
  | obj sub =>
    rw [matchesSchema.propertyChecks, fieldChecks_eq, Value.entries]
    simp only [mem_listed, List.forall_mem_map]
  | arr items =>
    rw [matchesSchema.propertyChecks, itemChecks_eq, Value.entries]
    simp only [List.forall_mem_map]
  | _ => simp [matchesSchema.propertyChecks, Value.entries]

theorem checkRequired_ok {own : List (String × Value)} {required : List Value} :
    checkRequired own required = some .ok ↔
      ∃ names, required.mapM Value.textOf = some names ∧ ∀ key ∈ names, (found own key).isSome := by
  induction required with
  | nil => simp [checkRequired]
  | cons req rest ih =>
    rw [checkRequired, List.mapM_cons]
    rcases hreq : req.textOf with _ | key
    · simp
    · rcases hrest : rest.mapM Value.textOf with _ | names
      · by_cases hfound : (found own key).isSome
        · simp [hfound, ih, hrest]
        · simp [hfound]
      · by_cases hfound : (found own key).isSome
        · simp [hfound, ih, hrest]
        · simp [hfound]

theorem checkProperties_ok {own : List (String × Value)}
    {checks : List (String × (Value → Option Match))} :
    checkProperties own checks = some .ok ↔
      ∀ c ∈ checks, ∀ v, found own c.1 = some v → c.2 v = some .ok := by
  induction checks with
  | nil => simp [checkProperties]
  | cons c rest ih =>
    obtain ⟨k, check⟩ := c
    rw [checkProperties, List.forall_mem_cons]
    rcases hfound : found own k with _ | v
    · simp [ih]
    · rcases hcheck : check v with _ | result
      · simp [hcheck]
      · cases result with
        | ok => simp [hcheck, ih]
        | refused detail => simp [hcheck]

/-- **What an object schema asks**: an object that has the required keys, inherited ones
    included, and whose declared properties pass. -/
theorem accepts_object {schema v : Value} (h : typeText schema = "object") :
    Accepts schema v ↔ ∃ own names, v = .obj own ∧ requiredNames schema = some names ∧
      (∀ key ∈ names, (found own key).isSome) ∧
      ∀ e ∈ declaredProperties schema, ∀ w, found own e.1 = some w → Accepts e.2 w := by
  unfold Accepts
  cases schema with
  | obj fields =>
    rw [matchesSchema.eq_def]
    simp only
    rw [if_pos h]
    cases v with
    | obj own =>
      have hproperties : (∀ c ∈ matchesSchema.declaredChecks fields, ∀ w, found own c.1 = some w →
          c.2 w = some .ok) ↔ ∀ e ∈ declaredProperties (.obj fields), ∀ w, found own e.1 = some w →
          matchesSchema e.2 w = some .ok :=
        forall_declaredChecks (P := fun k check => ∀ w, found own k = some w → check w = some .ok)
      simp only [requiredNames, Value.obj.injEq, exists_and_left, exists_eq_left']
      rcases (((Value.obj fields).prop "required").orElse (.arr [])).iterated with _ | required
      · simp
      · refine andThen_ok.trans ?_
        rw [checkRequired_ok, checkProperties_ok, hproperties, Option.bind_some]
        constructor
        · rintro ⟨⟨names, hnames, hfound⟩, hpass⟩
          exact ⟨names, hnames, hfound, hpass⟩
        · rintro ⟨names, hnames, hfound, hpass⟩
          exact ⟨⟨names, hnames, hfound⟩, hpass⟩
    | _ => simp
  | _ => simp [typeText, Value.prop] at h

theorem found_own {own : List (String × Value)} {key : String} {v : Value}
    (h : own.lookup key = some v) : found own key = some v := by
  unfold found lookup
  rw [h]

theorem found_inherited {own : List (String × Value)} {key : String}
    (h : key ∉ own.map Prod.fst) (hkey : key ∈ inheritedKeys) :
    found own key = some (inheritedValue key) := by
  unfold found lookup
  rw [lookup_eq_none.mpr h]
  simp only
  rw [if_pos hkey]

theorem isSome_found {own : List (String × Value)} {key : String} :
    (found own key).isSome ↔ key ∈ own.map Prod.fst ∨ key ∈ inheritedKeys := by
  rcases hown : own.lookup key with _ | v
  · have habsent := lookup_eq_none.mp hown
    by_cases hkey : key ∈ inheritedKeys
    · rw [found_inherited habsent hkey]
      exact ⟨fun _ => .inr hkey, fun _ => rfl⟩
    · unfold found lookup
      rw [hown]
      simp only
      rw [if_neg hkey]
      simp [habsent, hkey]
  · rw [found_own hown]
    have hfield : (key, v) ∈ own := mem_of_lookup hown
    exact ⟨fun _ => .inl (List.mem_map.mpr ⟨(key, v), hfield, rfl⟩), fun _ => rfl⟩

theorem accepts_type {schema v : Value} (h : typeText schema ≠ "object") :
    Accepts schema v ↔ schema ≠ .undefined ∧ schema ≠ .null ∧ checkType (typeText schema) v = .ok := by
  unfold Accepts
  cases schema with
  | obj fields => simp [matchesSchema, h]
  | _ => simp [matchesSchema, typeText, Value.prop, checkType]

/-! ## 5. What is read -/

/-- **A response that is read** is its parsed text, and passes the check. -/
theorem readResponse_ok {p : ImportPlatform} {raw : RawResponse} {schema v : Value}
    {limits : ResponseLimits} (h : readResponse p raw schema limits = some (.ok v)) :
    jsonParse p.nearest raw.body = some v ∧ Accepts schema v := by
  unfold readResponse at h
  simp only at h
  split at h
  · cases h
  split at h
  · cases h
  split at h
  · cases h
  split at h
  · cases h
  split at h
  · cases h
  rename_i parsed hparsed
  split at h
  · cases h
  split at h
  · cases h
  · cases h
  · rename_i hmatch
    obtain rfl := Except.ok.inj (Option.some.inj h)
    exact ⟨hparsed, hmatch⟩

theorem itemsDepth_le {items : List Value} {n : Nat}
    (h : ∀ v ∈ items, ∀ d max, depthOf v d max ≤ d + n) (d max : Nat) :
    depthOf.itemsDepth d max items ≤ d + n := by
  induction items with
  | nil =>
    rw [depthOf.itemsDepth]
    omega
  | cons v vs ih =>
    obtain ⟨hv, hvs⟩ := List.forall_mem_cons.mp h
    rw [depthOf.itemsDepth]
    exact Nat.max_le.mpr ⟨hv d max, ih hvs⟩

theorem fieldsDepth_le {fields : List (String × Value)} {n : Nat}
    (h : ∀ f ∈ fields, ∀ d max, depthOf f.2 d max ≤ d + n) (d max : Nat) :
    depthOf.fieldsDepth d max fields ≤ d + n := by
  induction fields with
  | nil =>
    rw [depthOf.fieldsDepth]
    omega
  | cons f fs ih =>
    obtain ⟨hf, hfs⟩ := List.forall_mem_cons.mp h
    rw [depthOf.fieldsDepth]
    exact Nat.max_le.mpr ⟨hf d max, ih hfs⟩

theorem exists_bound {α : Type} {as : List α} {P : α → Nat → Prop}
    (mono : ∀ a m n, m ≤ n → P a m → P a n) (h : ∀ a ∈ as, ∃ n, P a n) : ∃ n, ∀ a ∈ as, P a n := by
  induction as with
  | nil => exact ⟨0, fun a ha => by cases ha⟩
  | cons a as ih =>
    obtain ⟨⟨m, hm⟩, has⟩ := List.forall_mem_cons.mp h
    obtain ⟨n, hn⟩ := ih has
    exact ⟨m + n, List.forall_mem_cons.mpr ⟨mono a m _ (by omega) hm,
      fun b hb => mono b n _ (by omega) (hn b hb)⟩⟩

theorem depthOf_le (v : Value) : ∃ n, ∀ d max, depthOf v d max ≤ d + n := by
  have hmono {w : Value} (m n : Nat) (hmn : m ≤ n) (h : ∀ d max, depthOf w d max ≤ d + m)
      (d max : Nat) : depthOf w d max ≤ d + n := Nat.le_trans (h d max) (by omega)
  match v with
  | .arr items =>
    obtain ⟨n, hn⟩ := exists_bound (P := fun w n => ∀ d max, depthOf w d max ≤ d + n)
      (fun _ => hmono) fun w (hw : w ∈ items) => depthOf_le w
    refine ⟨n + 1, fun d max => ?_⟩
    rw [depthOf.eq_def]
    split
    · omega
    · cases items with
      | nil => exact Nat.le_add_right _ _
      | cons w ws => exact Nat.le_trans (itemsDepth_le hn (d + 1) max) (by omega)
  | .obj fields =>
    obtain ⟨n, hn⟩ := exists_bound (P := fun (f : String × Value) n => ∀ d max, depthOf f.2 d max ≤ d + n)
      (fun _ => hmono) fun f (hf : f ∈ fields) => depthOf_le f.2
    refine ⟨n + 1, fun d max => ?_⟩
    rw [depthOf.eq_def]
    split
    · omega
    · cases fields with
      | nil => exact Nat.le_add_right _ _
      | cons f fs => exact Nat.le_trans (fieldsDepth_le hn (d + 1) max) (by omega)
  | .undefined | .null | .bool _ | .number _ | .bigint _ | .str _ | .other _ =>
    refine ⟨0, fun d max => ?_⟩
    rw [depthOf.eq_def]
    split <;> exact Nat.le_refl _
termination_by sizeOf v
decreasing_by
  · have := List.sizeOf_lt_of_mem hw
    simp only [Value.arr.sizeOf_spec]
    omega
  · have := List.sizeOf_lt_of_mem hf
    obtain ⟨k, w⟩ := f
    simp only [Value.obj.sizeOf_spec, Prod.mk.sizeOf_spec] at *
    omega

/-- **What is written and passes the check is read**, within some limits. -/
theorem exists_response {p : ImportPlatform} {schema : Value} {c : Canonical}
    (h : Accepts schema (c.reparsed p.nearest)) :
    ∃ raw limits, readResponse p raw schema limits = some (.ok (c.reparsed p.nearest)) := by
  obtain ⟨n, hn⟩ := depthOf_le (c.reparsed p.nearest)
  refine ⟨⟨200, "application/json", String.ofList c.text, 0⟩,
    ⟨(String.ofList c.text).utf8ByteSize, 0, n, ["application/json"]⟩, ?_⟩
  have hmedia : mediaType "application/json" ∈ ["application/json"] := by decide
  have hdepth := hn 0 (n + 1)
  unfold readResponse
  simp only
  rw [if_neg (Nat.lt_irrefl _), if_neg (Nat.lt_irrefl _), if_neg (not_not.mpr hmedia),
    if_neg (by decide), jsonParse_text]
  simp only
  rw [if_neg (by omega), h]

end ContextLock.OpenApi
