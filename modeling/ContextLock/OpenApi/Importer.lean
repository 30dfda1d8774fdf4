/-
  Subject:   The import of an OpenAPI document: request templates from a text nobody vouches for.

  The document is parsed, its shape checked, its references audited to a depth, its servers held
  against the egress policy; then each operation becomes a template.
-/
import ContextLock.Js.Record
import ContextLock.Js.Schema
import ContextLock.Machine.Fold
import ContextLock.OpenApi.Egress

namespace ContextLock.OpenApi

open Js Machine

/-! ## 1. Problems -/

/-- `IMPORT_REASONS`. -/
inductive ImportReason where
  | MALFORMED
  | UNSUPPORTED_VERSION
  | DOCUMENT_TOO_LARGE
  | EXTERNAL_REF
  | RECURSIVE_SCHEMA
  | SCHEMA_TOO_DEEP
  | NO_SERVERS
  | SERVER_REJECTED
  | DUPLICATE_OPERATION_ID
  | UNSUPPORTED_OPERATION
  | UNSUPPORTED_AUTH
  | USER_SUPPLIED_HOST
  | PATH_TRAVERSAL

inductive Severity where
  | CRITICAL
  | HIGH
  deriving DecidableEq

structure ImportProblem where
  code : ImportReason
  severity : Severity
  path : String
  message : String

structure Ignored where
  path : String
  what : String
  why : String

def MAX_DOCUMENT_BYTES : Nat := 2 * 1024 * 1024
def MAX_SCHEMA_DEPTH : Nat := 12
def SUPPORTED_METHODS : List String := ["get", "post", "put", "patch", "delete", "head"]

/-! ## 2. The shape of a document -/

/-- The parts of a document that are read. -/
structure Doc where
  openapi : String
  servers : Option (List String)
  paths : List (String × List (String × Value))
  schemas : Option (List (String × Value))
  securitySchemes : Option (List (String × List (String × Value)))
  security : Option (List (List (String × List String)))

def textShape : Value → Option String
  | .str s => some s
  | _ => none

def optionalShape {α : Type} (shape : Value → Option α) : Value → Option (Option α)
  | .undefined => some none
  | v => (shape v).map some

def arrayShape {α : Type} (shape : Value → Option α) : Value → Option (List α)
  | .arr items => items.mapM shape
  | _ => none

/-- What a record may be: its constructor, if it names one, has a prototype as objects have. -/
def isPlainObject : Value → Bool
  | .obj fields =>
    match fields.lookup "constructor" with
    | none => true
    | some constructor =>
      match constructor.prop "prototype" with
      | .obj prototype => prototype.any (·.1 = "isPrototypeOf")
      | _ => false
  | _ => false

/-- `z.record(z.string(), …)`: a field `__proto__` is passed over. -/
def recordShape {α : Type} (shape : Value → Option α) (v : Value) :
    Option (List (String × α)) :=
  match v with
  | .obj fields =>
    if isPlainObject v then
      (fields.filter (·.1 ≠ "__proto__")).mapM fun f => (shape f.2).map (f.1, ·)
    else none
  | _ => none

def objectShape : Value → Option Value
  | .obj fields => some (.obj fields)
  | _ => none

/-- `DocSchema`. -/
def parseDoc (json : Value) : Option Doc := do
  let json ← objectShape json
  let openapi ← textShape (json.prop "openapi")
  let info ← objectShape (json.prop "info")
  let _ ← textShape (info.prop "title")
  let _ ← textShape (info.prop "version")
  let servers ← optionalShape (arrayShape fun server => do
    let server ← objectShape server
    let url ← textShape (server.prop "url")
    let _ ← optionalShape textShape (server.prop "description")
    some url) (json.prop "servers")
  let paths ← recordShape (recordShape some) (json.prop "paths")
  let components ← optionalShape (fun components => do
    let components ← objectShape components
    let schemas ← optionalShape (recordShape some) (components.prop "schemas")
    let securitySchemes ← optionalShape (recordShape (recordShape some))
      (components.prop "securitySchemes")
    some (schemas, securitySchemes)) (json.prop "components")
  let security ← optionalShape (arrayShape (recordShape (arrayShape textShape)))
    (json.prop "security")
  some { openapi, servers, paths, security
         schemas := components.bind Prod.fst
         securitySchemes := components.bind Prod.snd }

/-! ## 3. References -/

/-- The problem of one field: a `$ref` that does not start with `#/`. -/
def externalRef (path key : String) (v : Value) : List ImportProblem :=
  match v with
  | .str ref =>
    if key = "$ref" ∧ ref.toList.take 2 ≠ ['#', '/'] then
      [{ code := .EXTERNAL_REF, severity := .CRITICAL, path := s!"{path}.$ref"
         message := s!"external $ref \"{ref}\" is denied: " ++
          "resolving it would be an outbound fetch chosen by the document" }]
    else []
  | _ => []

/-- `auditSchema`; a parsed document is a tree, so no node is seen twice. -/
def auditSchema (node : Value) (path : String) (depth : Nat) : List ImportProblem :=
  if MAX_SCHEMA_DEPTH < depth then
    [⟨.SCHEMA_TOO_DEEP, .HIGH, path, s!"schema nests deeper than {MAX_SCHEMA_DEPTH}"⟩]
  else
    match node with
    | .obj fields => (listed (auditFields path depth fields)).flatMap Prod.snd
    | .arr items => auditItems path depth 0 items
    | _ => []
where
  auditFields (path : String) (depth : Nat) :
      List (String × Value) → List (String × List ImportProblem)
    | [] => []
    | (k, v) :: fs =>
      (k, externalRef path k v ++ auditSchema v s!"{path}.{k}" (depth + 1)) ::
        auditFields path depth fs
  auditItems (path : String) (depth : Nat) (i : Nat) : List Value → List ImportProblem
    | [] => []
    | v :: vs => auditSchema v s!"{path}.{i}" (depth + 1) ++ auditItems path depth (i + 1) vs

def schemaPointer : String := "#/components/schemas/"

/-- `refsOf`: the schemas a schema points to. -/
def refsOf : Value → List String
  | .obj fields => (listed (refsOfFields fields)).flatMap Prod.snd
  | .arr items => refsOfItems items
  | _ => []
where
  refsOfFields : List (String × Value) → List (String × List String)
    | [] => []
    | (k, v) :: fs =>
      (k, match v with
        | .str ref =>
          if k = "$ref" ∧ schemaPointer.toList.isPrefixOf ref.toList then
            [String.ofList (ref.toList.drop schemaPointer.toList.length)]
          else []
        | v => refsOf v) :: refsOfFields fs
  refsOfItems : List Value → List String
    | [] => []
    | v :: vs => refsOf v ++ refsOfItems vs

inductive Mark where
  | visiting
  | done

structure Search where
  marks : List (String × Mark)
  problems : List ImportProblem

/-- `walk` inside `detectRefCycles`. Every call below marks a schema that was not marked, so the
    number of schemas and one is fuel enough. -/
def walkRefs (edges : List (String × List String)) :
    Nat → String → List String → Search → Search
  | 0, _, _, s => s
  | fuel + 1, name, path, s =>
    match s.marks.lookup name with
    | some .done => s
    | some .visiting =>
      let cycle := " -> ".intercalate (path ++ [name])
      { s with problems := s.problems ++ [{
          code := .RECURSIVE_SCHEMA, severity := .HIGH, path := s!"components.schemas.{name}"
          message := s!"schema cycle {cycle}; a schema that contains itself expands forever" }] }
    | none =>
      let entered : Search := { s with marks := (name, .visiting) :: s.marks }
      let next := ((edges.lookup name).getD []).filter fun n => (edges.lookup n).isSome
      let left := next.foldl (fun s n => walkRefs edges fuel n (path ++ [name]) s) entered
      { left with marks := (name, .done) :: left.marks }

def detectRefCycles (schemas : List (String × Value)) : List ImportProblem :=
  let edges := (listed schemas).map fun f => (f.1, refsOf f.2)
  (edges.foldl (fun s e => walkRefs edges (edges.length + 1) e.1 [] s) ⟨[], []⟩).problems

/-! ## 4. Authentication -/

inductive DeclaredAuthKind where
  | apiKey
  | httpBasic
  | httpBearer
  | oauth2
  | openIdConnect
  | mutualTLS
  | none
  deriving DecidableEq

def DeclaredAuthKind.name : DeclaredAuthKind → String
  | apiKey => "apiKey"
  | httpBasic => "http-basic"
  | httpBearer => "http-bearer"
  | oauth2 => "oauth2"
  | openIdConnect => "openIdConnect"
  | mutualTLS => "mutualTLS"
  | none => "none"

structure AuthRequirement where
  schemeName : String
  declaredAuth : DeclaredAuthKind
  supportedAuth : Bool
  /-- Where the credential goes, and its name there. -/
  credentialPlacement : Option (String × String)
  notes : String

/-- `AUTH_KIND`; without a value where `String` throws. -/
def AUTH_KIND (s : Value) : Option DeclaredAuthKind := do
  let t ← ((s.prop "type").orElse (.str "")).textOf
  if t = "apiKey" then some .apiKey
  else if t = "http" then
    let scheme ← ((s.prop "scheme").orElse (.str "")).textOf
    some (if toLowerCase scheme = "basic" then .httpBasic else .httpBearer)
  else if t = "oauth2" then some .oauth2
  else if t = "openIdConnect" then some .openIdConnect
  else if t = "mutualTLS" then some .mutualTLS
  else some .none

def RUNTIME_SUPPORTED : List DeclaredAuthKind := [.apiKey, .httpBearer, .none]

def placementOf (kind : DeclaredAuthKind) (s : Value) : Option (String × String) :=
  match kind, s.prop "name" with
  | .apiKey, .str name =>
    match s.prop "in" with
    | .str "query" => some ("query", name)
    | .str "cookie" => some ("cookie", name)
    | _ => some ("header", name)
  | .httpBearer, _ => some ("header", "Authorization")
  | _, _ => .none

/-- `authFor(name)`. What the record of schemes inherits has none of the properties that are
    read, but is defined. -/
def authFor (schemes : List (String × List (String × Value))) (name : String) :
    Option AuthRequirement :=
  let requirement (s : Value) := do
    let kind ← AUTH_KIND s
    let supported := decide (kind ∈ RUNTIME_SUPPORTED)
    let notes :=
      if supported then "the broker attaches this credential; it is never given to the agent or written into the Blueprint"
      else s!"{kind.name} is parsed but not executed by this runtime — " ++
        "declaring support without a token exchange would be a claim, not a feature"
    some { schemeName := name, declaredAuth := kind, supportedAuth := supported
           credentialPlacement := placementOf kind s, notes }
  match lookup schemes name with
  | .own fields => requirement (.obj fields)
  | .inherited => requirement (.obj [])
  | .absent =>
    some { schemeName := name, declaredAuth := .none, supportedAuth := false
           credentialPlacement := .none
           notes := s!"security scheme \"{name}\" is referenced but not defined" }

/-! ## 5. Templates -/

/-- `inputSchema`: an assignment to `__proto__` adds no property, it changes what is inherited. -/
structure InputSchema where
  properties : List (String × Value)
  inherits : Option Value
  required : List String

structure RequestTemplate where
  operationId : String
  method : String
  host : String
  basePath : String
  pathTemplate : String
  inputSchema : InputSchema
  outputSchema : Value
  auth : AuthRequirement
  credentialRef : Option String
  summary : String

structure ImportOptions where
  egress : EgressPolicy
  credentialRef : Option String
  allowExternalRefs : Bool

structure ImportResult where
  ok : Bool
  problems : List ImportProblem
  templates : List RequestTemplate
  ignored : List Ignored

/-- What belongs to the platform and to the shape library: URLs, the rounding of numbers, and the
    texts of their errors. -/
structure ImportPlatform where
  url : Platform
  nearest : Rounding
  syntaxError : String → String
  issues : Value → List (String × String)

def noteExtensions (fields : List (String × Value)) (path : String) : List Ignored :=
  ((listed fields).filter fun f => f.1.toList.take 2 = ['x', '-']).map fun f =>
    { path := s!"{path}.{f.1}", what := "vendor extension"
      why := "x- fields are untrusted metadata; nothing in them is executed or honoured" }

/-- `/\{[^}]+\}/.test(s)`. -/
def templated : List Char → Bool
  | '\x7b' :: c :: rest => (c ≠ '\x7d' && '\x7d' ∈ rest) || templated (c :: rest)
  | _ :: rest => templated rest
  | [] => false

/-- `pathname.replace(/\/$/, "")`. -/
def withoutSlash (path : String) : String :=
  if path.toList.getLast? = some '/' then String.ofList path.toList.dropLast else path

/-- The loop over the servers: problems, and the first that is admitted. -/
def chooseServer (p : Platform) (policy : EgressPolicy) :
    Nat → List String → List ImportProblem × Option (String × String)
  | _, [] => ([], none)
  | i, url :: rest =>
    let later := chooseServer p policy (i + 1) rest
    if templated url.toList then
      ({ code := .USER_SUPPLIED_HOST, severity := .CRITICAL, path := s!"servers[{i}].url"
         message := s!"server URL \"{url}\" is templated; the host would be chosen at call time" }
        :: later.1, later.2)
    else
      match checkUrl p url policy with
      | .refused reason detail =>
        ({ code := .SERVER_REJECTED, severity := .CRITICAL, path := s!"servers[{i}].url"
           message := s!"{reason.code}: {detail}" } :: later.1, later.2)
      | .ok found => (later.1, some (found.hostname, withoutSlash found.pathname))

/-- The loop over the parameters; without a value where a parameter is `null`. -/
def addParameter (s : InputSchema) (p : Value) : Option InputSchema :=
  if p matches .null then none
  else do
    let name ← ((p.prop "name").orElse (.str "")).textOf
    if name = "" then some s
    else
      let schema := (p.prop "schema").orElse (.obj [("type", .str "string")])
      let s : InputSchema :=
        if name = "__proto__" then
          match schema with
          | .obj _ => { s with inherits := some schema }
          | .arr _ => { s with inherits := some schema }
          | _ => s
        else { s with properties := setField s.properties (name, schema) }
      some (if p.prop "required" matches .bool true then
        { s with required := s.required ++ [name] } else s)

/-- `op.responses?.["200"] ?? {}`. -/
def successResponse (op : Value) : Value :=
  (match op.prop "responses" with
    | .obj responses => (responses.lookup "200").getD .undefined
    | .arr responses => (responses[200]?).getD .undefined
    | .str s => ((codeUnits s)[200]?.map fun u =>
        Value.str (String.singleton (Char.ofNat u))).getD .undefined
    | _ => .undefined).orElse (.obj [])

/-- The scheme of an operation, the empty text for none. -/
def schemeOf (doc : Doc) (op : Value) : Option String :=
  match op.prop "security" with
  | .arr [] => some ""
  | .arr (first :: _) => first.keys.map fun keys => keys.head?.getD ""
  | _ =>
    match doc.security with
    | some (first :: _) => some (((listed first).head?.map Prod.fst).getD "")
    | _ => some ""

def operationAuth (doc : Doc) (schemeName : String) : Option AuthRequirement :=
  if schemeName = "" then
    some { schemeName := "", declaredAuth := .none, supportedAuth := true
           credentialPlacement := none, notes := "no authentication declared" }
  else authFor (doc.securitySchemes.getD []) schemeName

def templateOf (opts : ImportOptions) (chosen : String × String) (pathKey method operationId : String)
    (op : Value) (auth : AuthRequirement) : Option RequestTemplate := do
  let params := match op.prop "parameters" with
    | .arr params => params
    | _ => []
  let inputSchema ← params.foldlM addParameter ⟨[], none, []⟩
  some {
    operationId, method, host := chosen.1, basePath := chosen.2, pathTemplate := pathKey
    inputSchema, outputSchema := successResponse op, auth, credentialRef := opts.credentialRef
    summary := match op.prop "summary" with
      | .str summary => summary
      | _ => "" }

/-! ## 6. The import -/

/-- What the loop over the operations changes. -/
structure ImportState where
  problems : List ImportProblem
  seenOperationIds : List String
  templates : List RequestTemplate
  ignored : List Ignored

def operationIdOf (op : Value) : String :=
  match op.prop "operationId" with
  | .str id => id
  | _ => ""

/-- One entry of a path item. -/
def importOperation (doc : Doc) (opts : ImportOptions) (chosen : Option (String × String))
    (pathKey : String) (st : ImportState) (entry : String × Value) : Option ImportState :=
  let method := entry.1
  let op := entry.2
  let operationId := operationIdOf op
  if method.toList.take 2 = ['x', '-'] then some st
  else if method ∉ SUPPORTED_METHODS then
    some { st with ignored := st.ignored ++ [{
      path := s!"paths.{pathKey}.{method}", what := s!"method {method}"
      why := "outside the supported method subset" }] }
  else if operationId = "" then
    some { st with problems := st.problems ++ [{
      code := .UNSUPPORTED_OPERATION, severity := .HIGH, path := s!"paths.{pathKey}.{method}"
      message := "operation has no operationId; it cannot be referenced or pinned" }] }
  else if operationId ∈ st.seenOperationIds then
    some { st with problems := st.problems ++ [{
      code := .DUPLICATE_OPERATION_ID, severity := .CRITICAL
      path := s!"paths.{pathKey}.{method}.operationId"
      message := s!"operationId \"{operationId}\" is used more than once" }] }
  else do
    let fields := match op with
      | .obj fields => fields
      | _ => []
    let schemeName ← schemeOf doc op
    let auth ← operationAuth doc schemeName
    let unsupported : List ImportProblem :=
      if schemeName ≠ "" ∧ auth.supportedAuth = false then
        [{ code := .UNSUPPORTED_AUTH, severity := .HIGH
           path := s!"paths.{pathKey}.{method}.security", message := auth.notes }]
      else []
    let st : ImportState := { st with
      seenOperationIds := operationId :: st.seenOperationIds
      ignored := st.ignored ++ noteExtensions fields s!"paths.{pathKey}.{method}"
      problems := st.problems ++ unsupported }
    match chosen with
    | none => some st
    | some server =>
      let template ← templateOf opts server pathKey method operationId op auth
      some { st with templates := st.templates ++ [template] }

def importPath (doc : Doc) (opts : ImportOptions) (chosen : Option (String × String))
    (st : ImportState) (entry : String × List (String × Value)) : Option ImportState :=
  if ['.', '.'] <:+: entry.1.toList then
    some { st with problems := st.problems ++ [{
      code := .PATH_TRAVERSAL, severity := .CRITICAL, path := s!"paths.{entry.1}"
      message := "path contains a traversal segment" }] }
  else
    (listed entry.2).foldlM (importOperation doc opts chosen entry.1)
      { st with ignored := st.ignored ++ noteExtensions entry.2 s!"paths.{entry.1}" }

/-- `doc.paths` as a value. -/
def pathsValue (doc : Doc) : Value := .obj (doc.paths.map fun f => (f.1, .obj f.2))

/-- The version is `3.0.…` or `3.1.…`. -/
def supportedVersion (openapi : String) : Bool :=
  openapi.toList.take 4 ∈ ["3.0.".toList, "3.1.".toList]

def failedImport (problems : List ImportProblem) : ImportResult := ⟨false, problems, [], []⟩

/-- The import of a document whose shape is right; `root` are its own fields. -/
def importDoc (p : ImportPlatform) (opts : ImportOptions) (root : List (String × Value))
    (doc : Doc) : Option ImportResult := do
  let version : List ImportProblem :=
    if supportedVersion doc.openapi then []
    else [{ code := .UNSUPPORTED_VERSION, severity := .CRITICAL, path := "openapi"
            message := s!"version {doc.openapi} is outside the supported 3.0.x / 3.1.x subset" }]
  let schemas := doc.schemas.getD []
  let audit := auditSchema (.obj schemas) "components.schemas" 0 ++ detectRefCycles schemas ++
    (if opts.allowExternalRefs then [] else auditSchema (pathsValue doc) "paths" 0)
  let servers := doc.servers.getD []
  let missing : List ImportProblem :=
    if servers = [] then
      [{ code := .NO_SERVERS, severity := .CRITICAL, path := "servers"
         message := "the document names no server; a host is never inferred" }]
    else []
  let chosen := chooseServer p.url opts.egress 0 servers
  let st ← (listed doc.paths).foldlM (importPath doc opts chosen.2)
    { problems := version ++ audit ++ missing ++ chosen.1, seenOperationIds := []
      templates := [], ignored := noteExtensions root "$" }
  let blocking := st.problems.any (·.severity = .CRITICAL)
  some ⟨!blocking && !st.templates.isEmpty, st.problems, st.templates, st.ignored⟩

/-- `importOpenApi(rawText, opts)`; without a value where it throws. -/
def importOpenApi (p : ImportPlatform) (opts : ImportOptions) (rawText : String) :
    Option ImportResult :=
  let bytes := textLength rawText
  if MAX_DOCUMENT_BYTES < bytes then
    some (failedImport [{
      code := .DOCUMENT_TOO_LARGE, severity := .CRITICAL, path := "$"
      message := s!"document is {bytes} bytes, limit {MAX_DOCUMENT_BYTES}" }])
  else
    match jsonParse p.nearest rawText with
    | none =>
      some (failedImport [{
        code := .MALFORMED, severity := .CRITICAL, path := "$", message := p.syntaxError rawText }])
    | some json =>
      match json, parseDoc json with
      | .obj root, some doc => importDoc p opts root doc
      | _, _ =>
        some (failedImport ((p.issues json).map fun issue => {
          code := .MALFORMED, severity := .CRITICAL, path := issue.1, message := issue.2 }))

/-! ## 7. The templates of an accepted document -/

/-- The operations that become templates. -/
structure Templated (doc : Doc) (pathKey method : String) (op : Value) : Prop where
  path : ∃ item, (pathKey, item) ∈ doc.paths ∧ (method, op) ∈ item
  plain : ¬ ['.', '.'] <:+: pathKey.toList
  supported : method ∈ SUPPORTED_METHODS
  named : operationIdOf op ≠ ""

def MadeOf (opts : ImportOptions) (server : String × String) (pathKey method : String)
    (op : Value) (t : RequestTemplate) : Prop :=
  ∃ auth, templateOf opts server pathKey method (operationIdOf op) op auth = some t

/-- Problems and templates are added only. -/
def ImportState.Grows (s t : ImportState) : Prop :=
  s.problems ⊆ t.problems ∧ s.templates ⊆ t.templates

theorem ImportState.Grows.refl (s : ImportState) : s.Grows s :=
  ⟨List.Subset.refl _, List.Subset.refl _⟩

theorem ImportState.Grows.trans {s t u : ImportState} (h : s.Grows t) (h' : t.Grows u) :
    s.Grows u :=
  ⟨List.Subset.trans h.1 h'.1, List.Subset.trans h.2 h'.2⟩

variable {chosen : Option (String × String)} {opts : ImportOptions}

/-- **What one operation does**: it becomes a template, or none is added, and then it could not
    become one, or it is refused, or there is no server. -/
theorem importOperation_cases {doc : Doc} {pathKey method : String} {op : Value}
    {st st' : ImportState} (h : importOperation doc opts chosen pathKey st (method, op) = some st')
    :
    st.Grows st' ∧
    ((st'.templates = st.templates ∧ (method ∉ SUPPORTED_METHODS ∨ operationIdOf op = "" ∨
        (∃ q ∈ st'.problems, q.severity = .CRITICAL) ∨ chosen = none)) ∨
      (method ∈ SUPPORTED_METHODS ∧ operationIdOf op ≠ "" ∧
        ∃ server t, chosen = some server ∧ MadeOf opts server pathKey method op t ∧
          st'.templates = st.templates ++ [t])) := by
  have hproblem (q : ImportProblem) (s : ImportState) :
      s.Grows { s with problems := s.problems ++ [q] } :=
    ⟨List.subset_append_left _ _, List.Subset.refl _⟩
  unfold importOperation at h
  simp only at h
  split at h
  · -- a vendor extension is no method
    rename_i hextension
    obtain rfl := Option.some.inj h
    refine ⟨.refl _, .inl ⟨rfl, .inl fun hmethod => ?_⟩⟩
    have hnone : ∀ m ∈ SUPPORTED_METHODS, m.toList.take 2 ≠ ['x', '-'] := by decide
    exact hnone method hmethod hextension
  split at h
  · rename_i hmethod
    obtain rfl := Option.some.inj h
    exact ⟨⟨List.Subset.refl _, List.Subset.refl _⟩, .inl ⟨rfl, .inl hmethod⟩⟩
  rename_i hmethod
  split at h
  · rename_i hnamed
    obtain rfl := Option.some.inj h
    exact ⟨hproblem _ _, .inl ⟨rfl, .inr (.inl hnamed)⟩⟩
  rename_i hnamed
  split at h
  · obtain rfl := Option.some.inj h
    exact ⟨hproblem _ _, .inl ⟨rfl, .inr (.inr (.inl
      ⟨_, List.mem_append_right _ (List.mem_singleton.mpr rfl), rfl⟩))⟩⟩
  obtain ⟨schemeName, _, h⟩ := Option.bind_eq_some_iff.mp h
  obtain ⟨auth, _, h⟩ := Option.bind_eq_some_iff.mp h
  cases chosen with
  | none =>
    obtain rfl := Option.some.inj h
    exact ⟨⟨List.subset_append_left _ _, List.Subset.refl _⟩,
      .inl ⟨rfl, .inr (.inr (.inr rfl))⟩⟩
  | some server =>
    obtain ⟨t, ht, h⟩ := Option.bind_eq_some_iff.mp h
    obtain rfl := Option.some.inj h
    exact ⟨⟨List.subset_append_left _ _, List.subset_append_left _ _⟩,
      .inr ⟨not_not.mp hmethod, hnamed, server, t, rfl, ⟨auth, ht⟩, rfl⟩⟩

theorem importPath_grows {doc : Doc} {entry : String × List (String × Value)} {st st' : ImportState}
    (h : importPath doc opts chosen st entry = some st') : st.Grows st' := by
  unfold importPath at h
  split at h
  · obtain rfl := Option.some.inj h
    exact ⟨List.subset_append_left _ _, List.Subset.refl _⟩
  · refine fold_keeps (P := fun s => st.Grows s) (fun a _ s s' hs hstep => ?_) h
      ⟨List.Subset.refl _, List.Subset.refl _⟩
    exact hs.trans (importOperation_cases hstep).1

/-- Every template but the old ones is made of an operation of the document. -/
def AllMade (doc : Doc) (opts : ImportOptions) (chosen : Option (String × String))
    (old : List RequestTemplate) (s : ImportState) : Prop :=
  ∀ t ∈ s.templates, t ∈ old ∨ ∃ server pathKey method op, chosen = some server ∧
    Templated doc pathKey method op ∧ MadeOf opts server pathKey method op t

theorem allMade_of_fold {doc : Doc} {paths : List (String × List (String × Value))}
    (hpaths : paths ⊆ doc.paths) {st st' : ImportState}
    (h : paths.foldlM (importPath doc opts chosen) st = some st') :
    AllMade doc opts chosen st.templates st' := by
  refine fold_keeps (P := AllMade doc opts chosen st.templates)
    (fun entry hentry s s' hs hstep => ?_) h fun t ht => .inl ht
  unfold importPath at hstep
  split at hstep
  · obtain rfl := Option.some.inj hstep
    exact hs
  · rename_i hplain
    refine fold_keeps (P := AllMade doc opts chosen st.templates)
      (fun field hfield u u' hu hoperation => ?_) hstep hs
    rcases (importOperation_cases hoperation).2 with ⟨heq, _⟩ |
      ⟨hsupported, hnamed, server, new, hserver, hmade, heq⟩
    · intro t ht
      exact hu t (heq ▸ ht)
    · intro t ht
      rw [heq] at ht
      rcases List.mem_append.mp ht with hold | hlast
      · exact hu t hold
      · rw [List.mem_singleton.mp hlast]
        have hitem : ∃ item, (entry.1, item) ∈ doc.paths ∧ (field.1, field.2) ∈ item :=
          ⟨entry.2, hpaths hentry, mem_listed.mp hfield⟩
        exact .inr ⟨server, entry.1, field.1, field.2, hserver,
          ⟨hitem, hplain, hsupported, hnamed⟩, hmade⟩

/-- Every operation becomes a template, if nothing critical is found and there is a server. -/
theorem exists_template {doc : Doc} {server : String × String}
    {paths : List (String × List (String × Value))} {st st' : ImportState}
    (h : paths.foldlM (importPath doc opts (some server)) st = some st')
    (hclean : ∀ q ∈ st'.problems, q.severity ≠ .CRITICAL) {pathKey method : String}
    {item : List (String × Value)} {op : Value} (hitem : (pathKey, item) ∈ paths)
    (hop : (method, op) ∈ item) (hplain : ¬ ['.', '.'] <:+: pathKey.toList)
    (hsupported : method ∈ SUPPORTED_METHODS) (hnamed : operationIdOf op ≠ "") :
    ∃ t ∈ st'.templates, MadeOf opts server pathKey method op t := by
  obtain ⟨_, after, s, u, _, _, hpath, hafter⟩ := fold_at h hitem
  have hend : u.Grows st' := fold_keeps (P := fun x => u.Grows x)
    (fun a _ x y hx hstep => hx.trans (importPath_grows hstep)) hafter (.refl u)
  unfold importPath at hpath
  rw [if_neg hplain] at hpath
  obtain ⟨_, later, v, w, _, _, hstep, hlater⟩ := fold_at hpath (mem_listed.mpr hop)
  have hrest : w.Grows u := fold_keeps (P := fun x => w.Grows x)
    (fun a _ x y hx hxy => hx.trans (importOperation_cases hxy).1) hlater (.refl w)
  have hgrows := hrest.trans hend
  rcases (importOperation_cases hstep).2 with ⟨_, hwhy⟩ | ⟨_, _, server', t, heq, hmade, htemplates⟩
  · rcases hwhy with hmethod | hname | ⟨q, hq, hcritical⟩ | hnone
    · exact absurd hsupported hmethod
    · exact absurd hname hnamed
    · exact absurd hcritical (hclean q (hgrows.1 hq))
    · cases hnone
  · obtain rfl := Option.some.inj heq
    refine ⟨t, hgrows.2 ?_, hmade⟩
    rw [htemplates]
    exact List.mem_append_right _ (List.mem_singleton.mpr rfl)

/-- A document is imported, and its references and its servers are clean. -/
structure Imported (p : ImportPlatform) (opts : ImportOptions) (doc : Doc) (r : ImportResult) :
    Prop where
  server : ∃ server, (chooseServer p.url opts.egress 0 (doc.servers.getD [])).2 = some server ∧
    (∀ t ∈ r.templates, ∃ pathKey method op, Templated doc pathKey method op ∧
      MadeOf opts server pathKey method op t) ∧
    ∀ pathKey method op, Templated doc pathKey method op →
      ∃ t ∈ r.templates, MadeOf opts server pathKey method op t
  paths : opts.allowExternalRefs = false →
    ∀ q ∈ auditSchema (pathsValue doc) "paths" 0, q.severity ≠ .CRITICAL

/-- **The templates of an accepted document are its operations.** -/
theorem imported_of_ok {p : ImportPlatform} {root : List (String × Value)} {doc : Doc}
    {r : ImportResult} (h : importDoc p opts root doc = some r) (hok : r.ok = true) :
    Imported p opts doc r := by
  unfold importDoc at h
  obtain ⟨st, hst, hr⟩ := Option.bind_eq_some_iff.mp h
  obtain rfl := Option.some.inj hr
  rw [Bool.and_eq_true, Bool.not_eq_true', Bool.not_eq_true', List.any_eq_false] at hok
  obtain ⟨hclean, hsome⟩ := hok
  have hclean : ∀ q ∈ st.problems, q.severity ≠ .CRITICAL := fun q hq hcritical =>
    hclean q hq (decide_eq_true hcritical)
  have hgrows := fold_keeps (P := fun x => ImportState.Grows _ x)
    (fun a _ x y hx hstep => hx.trans (importPath_grows hstep)) hst (.refl _)
  have hlisted : listed doc.paths ⊆ doc.paths := fun f hf => mem_listed.mp hf
  constructor
  · rcases hserver : (chooseServer p.url opts.egress 0 (doc.servers.getD [])).2 with _ | server
    · rw [hserver] at hst
      rcases htemplates : st.templates with _ | ⟨t, ts⟩
      · rw [htemplates] at hsome
        cases hsome
      · have ht : t ∈ st.templates := htemplates ▸ List.mem_cons_self
        rcases allMade_of_fold hlisted hst t ht with hnil | ⟨server, _, _, _, hnone, _⟩
        · cases hnil
        · cases hnone
    · rw [hserver] at hst
      refine ⟨server, rfl, fun t ht => ?_, fun pathKey method op htemplated => ?_⟩
      · rcases allMade_of_fold hlisted hst t ht with hnil | ⟨_, pathKey, method, op, heq, hop, hmade⟩
        · cases hnil
        · obtain rfl := Option.some.inj heq
          exact ⟨pathKey, method, op, hop, hmade⟩
      · obtain ⟨item, hitem, hop⟩ := htemplated.path
        exact exists_template hst hclean (mem_listed.mpr hitem) hop htemplated.plain
          htemplated.supported htemplated.named
  · intro hrefs q hq
    refine hclean q (hgrows.1 ?_)
    simp only [hrefs, Bool.false_eq_true, if_false]
    simp [hq]

/-- Every template of a document is made of one of its operations, accepted or not. -/
theorem made_of_import {p : ImportPlatform} {rawText : String} {r : ImportResult} {json : Value}
    {doc : Doc} (h : importOpenApi p opts rawText = some r)
    (hjson : jsonParse p.nearest rawText = some json) (hdoc : parseDoc json = some doc) :
    ∀ t ∈ r.templates, ∃ server pathKey method op, Templated doc pathKey method op ∧
      MadeOf opts server pathKey method op t := by
  intro t ht
  unfold importOpenApi at h
  simp only [hjson, hdoc] at h
  split at h
  · obtain rfl := Option.some.inj h
    cases ht
  · split at h
    · rename_i root found _ hfound
      obtain rfl := Option.some.inj hfound
      unfold importDoc at h
      obtain ⟨st, hst, hr⟩ := Option.bind_eq_some_iff.mp h
      obtain rfl := Option.some.inj hr
      rcases allMade_of_fold (fun f hf => mem_listed.mp hf) hst t ht with
        hnil | ⟨server, pathKey, method, op, _, hop, hmade⟩
      · cases hnil
      · exact ⟨server, pathKey, method, op, hop, hmade⟩
    · obtain rfl := Option.some.inj h
      cases ht

theorem imported_of_accepted {p : ImportPlatform} {rawText : String} {r : ImportResult}
    (h : importOpenApi p opts rawText = some r) (hok : r.ok = true) :
    ∃ json doc, jsonParse p.nearest rawText = some json ∧ parseDoc json = some doc ∧
      Imported p opts doc r := by
  unfold importOpenApi at h
  simp only at h
  split at h
  · obtain rfl := Option.some.inj h
    cases hok
  split at h
  · obtain rfl := Option.some.inj h
    cases hok
  · rename_i json hjson
    split at h
    · rename_i root doc hdoc
      exact ⟨_, doc, hjson, hdoc, imported_of_ok h hok⟩
    · obtain rfl := Option.some.inj h
      cases hok

end ContextLock.OpenApi
