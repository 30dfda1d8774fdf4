/-
  Subject:   References out of the document, in what the importer hands on.

  The audit walks the paths to a depth; below it only a problem that does not block is noted. The
  templates take over whole schemas and responses, of any depth.
-/
import ContextLock.Js.Reparse
import ContextLock.OpenApi.Importer

namespace ContextLock.OpenApi

open Js Machine

/-! ## 1. References -/

/-- The reference leads out of the document. -/
def Outside (ref : String) : Prop := ref ≠ "" ∧ ref.toList.head? ≠ some '#'

instance decidableOutside (ref : String) : Decidable (Outside ref) :=
  inferInstanceAs (Decidable (_ ∧ _))

/-- A reference to the outside stands in an object `d` levels below. -/
inductive RefAt : Nat → Value → Prop where
  | here {fields : List (String × Value)} {ref : String} (h : ("$ref", .str ref) ∈ fields)
      (hout : Outside ref) : RefAt 0 (.obj fields)
  | field {d : Nat} {fields : List (String × Value)} {k : String} {v : Value}
      (h : (k, v) ∈ fields) (hv : RefAt d v) : RefAt (d + 1) (.obj fields)
  | item {d : Nat} {items : List Value} {v : Value} (h : v ∈ items) (hv : RefAt d v) :
      RefAt (d + 1) (.arr items)

/-- The object or array has a reference to the outside at some level. -/
def HasRef (v : Value) : Prop := ∃ d, RefAt d v

theorem critical_of_outside {ref : String} (h : Outside ref) (path : String) :
    ∃ q ∈ externalRef path "$ref" (.str ref), q.severity = .CRITICAL := by
  have hpointer : ref.toList.take 2 ≠ ['#', '/'] := by
    intro htake
    rcases hchars : ref.toList with _ | ⟨c, cs⟩
    · rw [hchars] at htake
      cases htake
    · rw [hchars, List.take_succ_cons] at htake
      have hhash : c = '#' := (List.cons.inj htake).1
      exact h.2 (by rw [hchars, hhash, List.head?_cons])
  unfold externalRef
  simp only
  rw [if_pos ⟨trivial, hpointer⟩]
  exact ⟨_, List.mem_singleton.mpr rfl, rfl⟩

theorem auditFields_eq (path : String) (depth : Nat) (fields : List (String × Value)) :
    auditSchema.auditFields path depth fields = fields.map fun f =>
      (f.1, externalRef path f.1 f.2 ++ auditSchema f.2 s!"{path}.{f.1}" (depth + 1)) := by
  induction fields with
  | nil => rw [auditSchema.auditFields]; rfl
  | cons f fs ih =>
    rw [auditSchema.auditFields, ih]
    rfl

theorem mem_audit_obj {path : String} {depth : Nat} {fields : List (String × Value)} {k : String}
    {v : Value} (h : (k, v) ∈ fields) (hdepth : depth ≤ MAX_SCHEMA_DEPTH) :
    externalRef path k v ++ auditSchema v s!"{path}.{k}" (depth + 1) ⊆
      auditSchema (.obj fields) path depth := by
  intro q hq
  rw [auditSchema.eq_def (.obj fields), if_neg (Nat.not_lt.mpr hdepth)]
  simp only
  rw [auditFields_eq]
  exact List.mem_flatMap.mpr ⟨_, mem_listed.mpr (List.mem_map.mpr ⟨_, h, rfl⟩), hq⟩

theorem mem_auditItems {path : String} {depth i : Nat} {items : List Value} {v : Value}
    (h : v ∈ items) : ∃ j : Nat, auditSchema v s!"{path}.{j}" (depth + 1) ⊆
      auditSchema.auditItems path depth i items := by
  induction items generalizing i with
  | nil => cases h
  | cons w ws ih =>
    rw [auditSchema.auditItems]
    rcases List.mem_cons.mp h with rfl | hmem
    · exact ⟨i, List.subset_append_left _ _⟩
    · obtain ⟨j, hj⟩ := ih hmem
      exact ⟨j, List.subset_append_of_subset_right _ hj⟩

/-- **A reference that the audit reaches is critical.** -/
theorem audit_of_refAt {d : Nat} {v : Value} (h : RefAt d v) (path : String) {depth : Nat}
    (hdepth : depth + d ≤ MAX_SCHEMA_DEPTH) :
    ∃ q ∈ auditSchema v path depth, q.severity = .CRITICAL := by
  induction h generalizing path depth with
  | @here fields ref h hout =>
    obtain ⟨q, hq, hcritical⟩ := critical_of_outside hout path
    exact ⟨q, mem_audit_obj h (by omega) (List.mem_append_left _ hq), hcritical⟩
  | @field d fields k v h hv ih =>
    have hnext : depth + 1 + d ≤ MAX_SCHEMA_DEPTH := by omega
    obtain ⟨q, hq, hcritical⟩ := ih s!"{path}.{k}" hnext
    exact ⟨q, mem_audit_obj h (by omega) (List.mem_append_right _ hq), hcritical⟩
  | @item d items v h hv ih =>
    have hitem : ∃ j : Nat, auditSchema v s!"{path}.{j}" (depth + 1) ⊆
        auditSchema.auditItems path depth 0 items := mem_auditItems h
    have hnext : depth + 1 + d ≤ MAX_SCHEMA_DEPTH := by omega
    obtain ⟨j, hj⟩ := hitem
    obtain ⟨q, hq, hcritical⟩ := ih s!"{path}.{j}" hnext
    refine ⟨q, ?_, hcritical⟩
    rw [auditSchema.eq_def, if_neg (by omega)]
    exact hj hq

/-! ## 2. What a template takes over -/

/-- `p.name ?? ""`, as a text. -/
def parameterName (p : Value) : Option String := ((p.prop "name").orElse (.str "")).textOf

/-- `p.schema ?? { type: "string" }`. -/
def parameterSchema (p : Value) : Value := (p.prop "schema").orElse (.obj [("type", .str "string")])

/-- `op.parameters`, if it is a list. -/
def parametersOf (op : Value) : List Value :=
  match op.prop "parameters" with
  | .arr params => params
  | _ => []

/-- The parameter is the last of its name, and its name makes a property. -/
def Declares (params : List Value) (name : String) (schema : Value) : Prop :=
  name ≠ "" ∧ name ≠ "__proto__" ∧ ∃ before p after, params = before ++ p :: after ∧
    parameterName p = some name ∧ schema = parameterSchema p ∧
    ∀ q ∈ after, parameterName q ≠ some name

/-- A name that makes no property. -/
def Unnamed (name : String) : Prop := name = "" ∨ name = "__proto__"

instance : DecidablePred Unnamed := fun _ => inferInstanceAs (Decidable (_ ∨ _))

theorem addParameter_properties {s s' : InputSchema} {p : Value} (h : addParameter s p = some s')
    {name : String} {schema : Value} : (name, schema) ∈ s'.properties ↔
      (¬ Unnamed name ∧ parameterName p = some name ∧ schema = parameterSchema p) ∨
      ((name, schema) ∈ s.properties ∧ (Unnamed name ∨ parameterName p ≠ some name)) := by
  unfold addParameter at h
  split at h
  · cases h
  obtain ⟨found, hfound, h⟩ := Option.bind_eq_some_iff.mp h
  have hname : parameterName p = some found := hfound
  have hset : (name, schema) ∈ s'.properties ↔ (name, schema) ∈
      (if Unnamed found then s.properties
        else setField s.properties (found, parameterSchema p)) := by
    split at h
    · rename_i hempty
      obtain rfl := Option.some.inj h
      rw [if_pos (.inl hempty)]
    · rename_i hnamed
      obtain rfl := Option.some.inj h
      have hrequired (b : Bool) (t : InputSchema) :
          (if b then { t with required := t.required ++ [found] } else t).properties =
            t.properties := by
        cases b <;> rfl
      rw [hrequired]
      by_cases hproto : found = "__proto__"
      · rw [if_pos hproto, if_pos (.inr hproto)]
        split <;> rfl
      · rw [if_neg hproto, if_neg fun h => h.elim hnamed hproto]
        rfl
  rw [hset, hname, Option.some.injEq, ne_eq, Option.some.injEq]
  by_cases hunnamed : Unnamed found
  · rw [if_pos hunnamed]
    by_cases hfound : found = name
    · subst hfound
      simp [hunnamed]
    · simp [hfound]
  · rw [if_neg hunnamed]
    constructor
    · intro hmem
      rcases mem_setField hmem with heq | ⟨hold, hne⟩
      · obtain ⟨rfl, rfl⟩ := Prod.mk.inj heq
        exact .inl ⟨hunnamed, rfl, rfl⟩
      · exact .inr ⟨hold, .inr fun heq => hne heq.symm⟩
    · rintro (⟨_, rfl, rfl⟩ | ⟨hold, hne⟩)
      · exact setField_mem _ _
      · refine mem_setField_of_ne hold fun (heq : name = found) => ?_
        rcases hne with hne | hne
        · exact hunnamed (heq ▸ hne)
        · exact hne heq.symm

theorem declares_cons {p : Value} {ps : List Value} {name : String} {schema : Value} :
    Declares (p :: ps) name schema ↔ Declares ps name schema ∨
      (¬ Unnamed name ∧ parameterName p = some name ∧ schema = parameterSchema p ∧
        ∀ q ∈ ps, parameterName q ≠ some name) := by
  constructor
  · rintro ⟨hempty, hproto, before, q, after, heq, hname, hschema, hlast⟩
    rcases before with _ | ⟨b, before⟩
    · obtain ⟨rfl, rfl⟩ := List.cons.inj heq
      exact .inr ⟨fun h => h.elim hempty hproto, hname, hschema, hlast⟩
    · exact .inl ⟨hempty, hproto, before, q, after, (List.cons.inj heq).2, hname, hschema, hlast⟩
  · rintro (⟨hempty, hproto, before, q, after, rfl, hname, hschema, hlast⟩ |
      ⟨hnamed, hname, hschema, hlast⟩)
    · exact ⟨hempty, hproto, p :: before, q, after, rfl, hname, hschema, hlast⟩
    · exact ⟨fun h => hnamed (.inl h), fun h => hnamed (.inr h), [], p, ps, rfl, hname, hschema,
        hlast⟩

/-- **The properties of a template** are the last parameters of their names. -/
theorem mem_properties {params : List Value} {s₀ s : InputSchema}
    (h : params.foldlM addParameter s₀ = some s) {name : String} {schema : Value} :
    (name, schema) ∈ s.properties ↔ Declares params name schema ∨
      ((name, schema) ∈ s₀.properties ∧
        (Unnamed name ∨ ∀ q ∈ params, parameterName q ≠ some name)) := by
  induction params generalizing s₀ with
  | nil =>
    obtain rfl : s₀ = s := by simpa using h
    simp [Declares]
  | cons p ps ih =>
    rw [fold_cons] at h
    obtain ⟨s₁, hstep, hrest⟩ := Option.bind_eq_some_iff.mp h
    rw [ih hrest, declares_cons, addParameter_properties hstep, List.forall_mem_cons]
    tauto

theorem refAt_prop {d : Nat} {v : Value} {name : String} (h : RefAt d (v.prop name)) :
    RefAt (d + 1) v := by
  unfold Value.prop at h
  split at h
  · rename_i fields
    rcases hfield : fields.lookup name with _ | w
    · rw [hfield] at h
      cases h
    · rw [hfield] at h
      obtain ⟨l, _, hsplit, _⟩ := List.lookup_eq_some_iff.mp hfield
      refine .field (show (name, w) ∈ fields from ?_) h
      rw [hsplit]
      exact List.mem_append_right _ List.mem_cons_self
  · cases h

theorem refAt_orElse {d : Nat} {v fallback : Value} (h : RefAt d (v.orElse fallback))
    (hclean : ¬ RefAt d fallback) : RefAt d v := by
  unfold Value.orElse at h
  split at h
  · exact absurd h hclean
  · exact absurd h hclean
  · exact h

theorem refAt_response {d : Nat} {op : Value} (h : RefAt d (successResponse op)) :
    RefAt (d + 2) op := by
  have hclean : ¬ RefAt d (.obj []) := by
    intro hempty
    cases hempty with
    | here h _ => cases h
    | field h _ => cases h
  have hresponse := refAt_orElse h hclean
  refine refAt_prop (show RefAt (d + 1) (op.prop "responses") from ?_)
  split at hresponse
  · rename_i responses hresponses
    rw [hresponses]
    have hfield : RefAt d ((Value.obj responses).prop "200") := hresponse
    exact refAt_prop hfield
  · rename_i responses hresponses
    rw [hresponses]
    rcases hitem : responses[200]? with _ | w
    · rw [hitem] at hresponse
      cases hresponse
    · rw [hitem] at hresponse
      exact .item (List.mem_of_getElem? hitem) hresponse
  · rename_i s _
    rcases hunit : (codeUnits s)[200]? with _ | u
    · rw [hunit] at hresponse
      cases hresponse
    · rw [hunit] at hresponse
      cases hresponse
  · cases hresponse

theorem refAt_parameter {d : Nat} {op schema : Value} {name : String}
    (hdeclares : Declares (parametersOf op) name schema) (h : RefAt d schema) :
    RefAt (d + 3) op := by
  have hclean : ¬ RefAt d (.obj [("type", .str "string")]) := by
    intro htype
    cases htype with
    | here h _ => simp at h
    | field h hv =>
      obtain ⟨_, rfl⟩ := Prod.mk.inj (List.mem_singleton.mp h)
      cases hv
  obtain ⟨_, _, before, p, after, hparams, _, rfl, _⟩ := hdeclares
  have hparam := refAt_prop (refAt_orElse h hclean)
  refine refAt_prop (show RefAt (d + 2) (op.prop "parameters") from ?_)
  unfold parametersOf at hparams
  split at hparams
  · rename_i params heq
    rw [heq]
    refine .item ?_ hparam
    rw [hparams]
    exact List.mem_append_right _ List.mem_cons_self
  · simp at hparams

theorem refAt_paths {d : Nat} {doc : Doc} {pathKey method : String} {op : Value}
    (hop : Templated doc pathKey method op) (h : RefAt d op) : RefAt (d + 2) (pathsValue doc) := by
  obtain ⟨item, hitem, hmem⟩ := hop.path
  exact .field (List.mem_map.mpr ⟨_, hitem, rfl⟩) (.field hmem h)

/-! ## 3. Accepted documents -/

def InputSchema.value (s : InputSchema) : Value :=
  .obj [("type", .str "object"), ("properties", .obj s.properties),
    ("required", .arr (s.required.map .str)), ("additionalProperties", .bool false)]

/-- A reference to the outside stands somewhere in the template's schemas. -/
def RequestTemplate.HasRef (t : RequestTemplate) : Prop :=
  OpenApi.HasRef t.inputSchema.value ∨ OpenApi.HasRef t.outputSchema

theorem hasRef_value {s : InputSchema} : HasRef s.value ↔
    (∃ ref, ("$ref", .str ref) ∈ s.properties ∧ Outside ref) ∨
      ∃ name schema, (name, schema) ∈ s.properties ∧ HasRef schema := by
  constructor
  · rintro ⟨d, hd⟩
    cases hd with
    | here h _ => simp at h
    | field h hv =>
      simp only [List.mem_cons, Prod.mk.injEq, List.not_mem_nil, or_false] at h
      rcases h with ⟨_, rfl⟩ | ⟨_, rfl⟩ | ⟨_, rfl⟩ | ⟨_, rfl⟩
      · cases hv
      · cases hv with
        | here h hout => exact .inl ⟨_, h, hout⟩
        | field h hv => exact .inr ⟨_, _, h, _, hv⟩
      · cases hv with
        | item h hv =>
          obtain ⟨_, _, rfl⟩ := List.mem_map.mp h
          cases hv
      · cases hv
  · have hproperties {d : Nat} (h : RefAt d (.obj s.properties)) : HasRef s.value :=
      ⟨d + 1, .field (List.mem_cons_of_mem _ List.mem_cons_self) h⟩
    rintro (⟨ref, h, hout⟩ | ⟨name, schema, h, d, hd⟩)
    · exact hproperties (.here h hout)
    · exact hproperties (.field h hd)

/-- The response and the properties of a template are those of its operation. -/
theorem parts_of_madeOf {opts : ImportOptions} {server : String × String}
    {pathKey method : String} {op : Value} {t : RequestTemplate}
    (h : MadeOf opts server pathKey method op t) : t.outputSchema = successResponse op ∧
      ∀ {name : String} {schema : Value}, (name, schema) ∈ t.inputSchema.properties ↔
        Declares (parametersOf op) name schema := by
  obtain ⟨auth, ht⟩ := h
  obtain ⟨s, hs, ht⟩ := Option.bind_eq_some_iff.mp ht
  obtain rfl := Option.some.inj ht
  refine ⟨rfl, fun {name schema} => ?_⟩
  have hfold : (parametersOf op).foldlM addParameter ⟨[], none, []⟩ = some s := hs
  have hmem : (name, schema) ∈ s.properties ↔ _ := mem_properties hfold
  simpa using hmem

/-- No reference to the outside stands below the depth of the audit, in what the operation's
    template takes over, and no parameter named `$ref` has one as its schema. -/
structure Shallow (op : Value) : Prop where
  response : ∀ d, RefAt d (successResponse op) → d + 4 ≤ MAX_SCHEMA_DEPTH
  schema : ∀ name schema, Declares (parametersOf op) name schema → ∀ d, RefAt d schema →
    d + 5 ≤ MAX_SCHEMA_DEPTH
  name : ∀ ref, Declares (parametersOf op) "$ref" (.str ref) → ¬ Outside ref

/-- **Whether references to the outside are refused depends on their depth**: the templates of an
    accepted document hold none exactly where its operations hold none below the audit. -/
theorem refs_refused_to_depth {p : ImportPlatform} {opts : ImportOptions} {rawText : String}
    {r : ImportResult} {json : Value} {doc : Doc} (h : importOpenApi p opts rawText = some r)
    (hok : r.ok = true) (hrefs : opts.allowExternalRefs = false)
    (hjson : jsonParse p.nearest rawText = some json) (hdoc : parseDoc json = some doc) :
    (∀ t ∈ r.templates, ¬ t.HasRef) ↔
      ∀ pathKey method op, Templated doc pathKey method op → Shallow op := by
  obtain ⟨json', doc', hjson', hdoc', himported⟩ := imported_of_accepted h hok
  obtain rfl := Option.some.inj (hjson'.symm.trans hjson)
  obtain rfl := Option.some.inj (hdoc'.symm.trans hdoc)
  obtain ⟨server, _, hmade, hexists⟩ := himported.server
  have haudit {d : Nat} {pathKey method : String} {op : Value}
      (hop : Templated doc' pathKey method op) (href : RefAt d op) : MAX_SCHEMA_DEPTH < d + 2 := by
    by_contra hdepth
    have hreached : 0 + (d + 2) ≤ MAX_SCHEMA_DEPTH := by omega
    obtain ⟨q, hq, hcritical⟩ := audit_of_refAt (refAt_paths hop href) "paths" hreached
    exact himported.paths hrefs q hq hcritical
  constructor
  · intro hclean pathKey method op hop
    obtain ⟨t, ht, hmadeOf⟩ := hexists pathKey method op hop
    obtain ⟨hresponse, hproperties⟩ := parts_of_madeOf hmadeOf
    refine ⟨fun d hd => ?_, fun name schema hdeclares d hd => ?_, fun ref hdeclares hout => ?_⟩
    · exact absurd (.inr ⟨d, hresponse ▸ hd⟩) (hclean t ht)
    · exact absurd (.inl (hasRef_value.mpr (.inr ⟨name, schema, hproperties.mpr hdeclares, d, hd⟩)))
        (hclean t ht)
    · exact absurd (.inl (hasRef_value.mpr (.inl ⟨ref, hproperties.mpr hdeclares, hout⟩)))
        (hclean t ht)
  · intro hshallow t ht hasRef
    obtain ⟨pathKey, method, op, hop, hmadeOf⟩ := hmade t ht
    obtain ⟨hresponse, hproperties⟩ := parts_of_madeOf hmadeOf
    have hop' := hshallow pathKey method op hop
    rcases hasRef with hinput | ⟨d, hd⟩
    · rcases hasRef_value.mp hinput with ⟨ref, hmem, hout⟩ | ⟨name, schema, hmem, d, hd⟩
      · exact hop'.name ref (hproperties.mp hmem) hout
      · have hdepth := hop'.schema name schema (hproperties.mp hmem) d hd
        have hdeep := haudit hop (refAt_parameter (hproperties.mp hmem) hd)
        omega
    · rw [hresponse] at hd
      have hdepth := hop'.response d hd
      have hdeep := haudit hop (refAt_response hd)
      omega

/-! ## 4. A reference below the audit -/

/-- A document that is written from a value is imported as that value. -/
theorem importOpenApi_text {p : ImportPlatform} {opts : ImportOptions} {c : Canonical}
    {root : List (String × Value)} {doc : Doc}
    (hsize : textLength (String.ofList c.text) ≤ MAX_DOCUMENT_BYTES)
    (hroot : c.reparsed p.nearest = .obj root) (hdoc : parseDoc (.obj root) = some doc) :
    importOpenApi p opts (String.ofList c.text) = importDoc p opts root doc := by
  unfold importOpenApi
  simp only
  rw [if_neg (Nat.not_lt.mpr hsize), jsonParse_text, hroot]
  simp only [hdoc]

def publicPolicy : EgressPolicy where
  allowedHosts := ["api.example"]
  allowedPorts := [443]
  maxRedirects := 2
  resolve := fun _ => .ok ["93.184.216.34"]

def plainImport : ImportPlatform where
  url := plainPlatform
  nearest := fun _ _ _ => .nan
  syntaxError := fun _ => ""
  issues := fun _ => []

def strictOptions : ImportOptions where
  egress := publicPolicy
  credentialRef := none
  allowExternalRefs := false

theorem chooseServer_public :
    chooseServer plainPlatform publicPolicy 0 ["https://api.example/"] =
      ([], some ("api.example", "")) := by
  have hprivate : isPrivateAddress "93.184.216.34".toList = false := by
    rw [private_of_normalized]
    decide
  have hok : checkUrl plainPlatform "https://api.example/" publicPolicy = .ok apiUrl := by
    refine checkUrl_ok_iff.mpr ⟨⟨by decide, rfl, rfl, by decide, by decide⟩, ["93.184.216.34"], rfl,
      by decide, fun a ha => ?_⟩
    rw [List.mem_singleton.mp ha]
    exact ⟨by decide, hprivate⟩
  have hplain : templated "https://api.example/".toList = false := by decide
  rw [chooseServer, hplain, hok]
  rfl

/-- A value inside as many objects. -/
def nested (v : Canonical) : Nat → Canonical
  | 0 => v
  | n + 1 => .obj [("p", nested v n)]

/-- A document of one operation, whose response is given. -/
def oneOperation (response : Canonical) : Canonical :=
  .obj [("info", .obj [("title", .str "t"), ("version", .str "1")]), ("openapi", .str "3.0.0"),
    ("paths", .obj [("/r", .obj [("get", .obj [("operationId", .str "getR"),
      ("responses", .obj [("200", response)])])])]),
    ("servers", .arr [.obj [("url", .str "https://api.example/")]])]

def oneOp (response : Value) : Value :=
  .obj [("operationId", .str "getR"), ("responses", .obj [("200", response)])]

/-- What the document of one operation is parsed to. -/
def oneDoc (response : Value) : Doc where
  openapi := "3.0.0"
  servers := some ["https://api.example/"]
  paths := [("/r", [("get", oneOp response)])]
  schemas := none
  securitySchemes := none
  security := none

def oneRoot (response : Value) : List (String × Value) :=
  [("info", .obj [("title", .str "t"), ("version", .str "1")]), ("openapi", .str "3.0.0"),
    ("paths", .obj [("/r", .obj [("get", oneOp response)])]),
    ("servers", .arr [.obj [("url", .str "https://api.example/")]])]

theorem reparsed_oneOperation (nearest : Rounding) (response : Canonical) :
    (oneOperation response).reparsed nearest = .obj (oneRoot (response.reparsed nearest)) := by
  simp [oneOperation, oneRoot, oneOp, Canonical.reparsed, reparsedFields_eq, reparsedItems_eq, setField]

theorem parseDoc_one (response : Value) :
    parseDoc (.obj (oneRoot response)) = some (oneDoc response) := by
  rfl

def deepRef : Canonical := nested (.obj [("$ref", .str "https://evil.example/s.json")]) 9

def deepText : String := String.ofList (oneOperation deepRef).text

theorem templated_one (response : Value) : Templated (oneDoc response) "/r" "get" (oneOp response) where
  path := ⟨_, List.mem_cons_self, List.mem_cons_self⟩
  plain := by show ¬ ['.', '.'] <:+: "/r".toList; decide
  supported := by decide
  named := by show ¬ "getR" = ""; decide

theorem import_deep : ∃ r, importOpenApi plainImport strictOptions deepText = some r ∧
    r.ok = true := by
  have hchosen : chooseServer plainImport.url strictOptions.egress 0 ["https://api.example/"] =
      ([], some ("api.example", "")) := chooseServer_public
  have hok : (importDoc plainImport strictOptions
      (oneRoot (deepRef.reparsed plainImport.nearest))
      (oneDoc (deepRef.reparsed plainImport.nearest))).map (·.ok) = some true := by
    unfold importDoc
    simp only [oneDoc, Option.getD_some, hchosen]
    decide
  have hsize : textLength (String.ofList (oneOperation deepRef).text) ≤ MAX_DOCUMENT_BYTES := by
    rw [textLength, codeUnits, String.toList_ofList]
    decide +kernel
  obtain ⟨r, hr, hok⟩ := Option.map_eq_some_iff.mp hok
  refine ⟨r, ?_, hok⟩
  rw [deepText, importOpenApi_text hsize (reparsed_oneOperation _ _) (parseDoc_one _), hr]

theorem refAt_nested {nearest : Rounding} {ref : String} (hout : Outside ref) (n : Nat) :
    RefAt n ((nested (.obj [("$ref", .str ref)]) n).reparsed nearest) := by
  induction n with
  | zero => exact .here List.mem_cons_self hout
  | succ n ih => exact .field (k := "p") List.mem_cons_self ih

/-- The reference is in the template of an accepted document. -/
theorem deep_ref_admitted : ¬ ∀ p opts rawText r, importOpenApi p opts rawText = some r →
    opts.allowExternalRefs = false → r.ok = true → ∀ t ∈ r.templates, ¬ t.HasRef := by
  intro hclaim
  obtain ⟨r, hr, hok⟩ := import_deep
  obtain ⟨json, doc, hjson, hdoc, himported⟩ := imported_of_accepted hr hok
  rw [deepText, jsonParse_text, reparsed_oneOperation] at hjson
  obtain rfl := Option.some.inj hjson
  obtain rfl := Option.some.inj (hdoc.symm.trans (parseDoc_one _))
  obtain ⟨server, _, _, hexists⟩ := himported.server
  obtain ⟨t, ht, hmade⟩ := hexists _ _ _ (templated_one _)
  refine hclaim _ _ _ r hr rfl hok t ht (.inr ⟨9, ?_⟩)
  rw [(parts_of_madeOf hmade).1]
  exact refAt_nested (by decide) 9

/-- The law of an accepted document, at the one with the reference. -/
theorem refs_of_deep : ∃ r, importOpenApi plainImport strictOptions deepText = some r ∧
    ((∀ t ∈ r.templates, ¬ t.HasRef) ↔ ∀ pathKey method op,
      Templated (oneDoc (deepRef.reparsed plainImport.nearest)) pathKey method op →
        Shallow op) := by
  obtain ⟨r, hr, hok⟩ := import_deep
  refine ⟨r, hr, refs_refused_to_depth hr hok rfl ?_ (parseDoc_one _)⟩
  rw [deepText, jsonParse_text, reparsed_oneOperation]

end ContextLock.OpenApi
