/-
  Subject:   What the bridge does for a request that it admitted.

  An operation checks its own permissions and calls the dependencies of the daemon, one after
  another. From its first `await` on it no longer looks at the daemon: only its session's
  permissions and the payload are in its closure.
-/
import ContextLock.Bridge.LocalBridge
import ContextLock.Machine.Script

namespace ContextLock.Bridge

open Js Evm Machine

/-! ## 1. Dependencies -/

structure ApprovalPrompt where
  projectId : String
  operation : String
  what : String
  amountUsdCents : Js.Num
  destination : Option String
  policyReason : String
  expiresAtMs : Nat

/-- Which dependencies are configured. -/
structure BridgeDeps where
  performApiCall : Bool
  runCreWorkflow : Bool
  creDeploy : Bool
  ledger : Bool
  askHuman : Bool

/-- The calls of dependencies that are awaited. -/
inductive Effect where
  | checkUrl (url : String) (allowedHosts : List String)
  | performApiCall (url credentialRef operationId : String)
  | runCreWorkflow (workflow : String) (args : Json)
  | creStatus
  | creBuild (workflow : String)
  | hashFile (path : String)
  | creDeploy (workflow wasmPath registry : String)
  | creLifecycle (workflow action : String)
  | askHuman (prompt : ApprovalPrompt)
  | ledgerApprove (actionType digest : String)

/-- The status of the user's CRE session. -/
structure CreConnection where
  connected : Bool
  organizationId : Json
  organizationName : Json
  accountLabel : Json
  deployAccess : Bool
  registryIds : List String
  supportedChains : Json
  cliVersion : String

structure CreDeployed where
  workflowId : String
  registry : String
  status : String
  binaryHash : String

/-- A verdict of `checkUrl`: the parsed URL, or a reason and what it says. -/
abbrev EgressVerdict := Except (String × String) String

/-- What a call resolves to. -/
def Result : Effect → Type
  | .checkUrl _ _ => EgressVerdict
  | .performApiCall _ _ _ => Int × Json
  | .runCreWorkflow _ _ => String × Json
  | .creStatus => CreConnection
  | .creBuild _ => Json
  | .hashFile _ => String
  | .creDeploy _ _ _ => CreDeployed
  | .creLifecycle _ _ => Json
  | .askHuman _ => Bool
  | .ledgerApprove _ _ => Bool × String

/-- What a call resolves to, or the message it is rejected with. -/
abbrev Reply (e : Effect) : Type := Except String (Result e)

/-- Why a call of `handle` is rejected. -/
inductive Thrown where
  | typeError
  | rejected (message : String)

abbrev BridgeOutcome := Except Refusal Json

/-- A call of `handle` from its admission on. -/
abbrev Handling := Act Unit Effect Reply Thrown

/-- `await` of a call of a dependency; a rejection goes through. -/
def awaited (e : Effect) : Handling (Result e) := do
  match ← Act.call e with
  | .ok result => pure result
  | .error message => Act.fail (.rejected message)

/-- `String(payload.name ?? fallback)`. -/
def textOf (payload : Json) (name fallback : String) : Handling String :=
  match textProperty payload name fallback with
  | .ok s => pure s
  | .error _ => Act.fail .typeError

/-- `fail`. -/
def refuse (reason : BridgeReason) (detail : String) : Handling BridgeOutcome :=
  pure (.error ⟨reason, detail⟩)

def notPermitted (kind name : String) : Handling BridgeOutcome :=
  refuse .NOT_PERMITTED (kind ++ " \"" ++ name ++ "\" is not permitted for this bridge session")

def noCreSession : Handling BridgeOutcome :=
  refuse .OPERATION_NOT_AVAILABLE "no CRE session available on this bridge"

/-! ## 2. The operations -/

section Handlers

variable (deps : BridgeDeps) (session : BridgeSession)

/-- The credential is named, never carried. -/
def performApiRequest (payload : Json) : Handling BridgeOutcome := do
  let credentialRef ← textOf payload "credentialRef" ""
  let operationId ← textOf payload "operationId" ""
  let url ← textOf payload "url" ""
  if credentialRef ∉ session.permissions.allowedCredentialRefs then
    refuse .CREDENTIAL_NOT_ALLOWED
      ("credential \"" ++ credentialRef ++ "\" is not permitted for this bridge session")
  else if operationId ∉ session.permissions.allowedApiOperationIds then
    notPermitted "operation" operationId
  else
    let verdict : EgressVerdict ← awaited (.checkUrl url session.permissions.allowedHosts)
    match verdict with
    | .error (reason, detail) => refuse .HOST_NOT_ALLOWED (reason ++ ": " ++ detail)
    | .ok parsed =>
      if deps.performApiCall then
        let (status, body) : Int × Json ← awaited (.performApiCall parsed credentialRef operationId)
        pure (.ok (.obj [("status", .num (.int status)), ("body", body),
          ("credentialRef", .str credentialRef), ("executedLocally", .bool true)]))
      else refuse .OPERATION_NOT_AVAILABLE "no API transport configured on this bridge"

/-- `(payload.args as Record<string, unknown>) ?? {}`. -/
def argsOf (payload : Json) : Json :=
  match property payload "args" with
  | .ok (some .null) => .obj []
  | .ok (some args) => args
  | _ => .obj []

def simulateWorkflow (payload : Json) : Handling BridgeOutcome := do
  let workflow ← textOf payload "workflow" ""
  if workflow ∉ session.permissions.allowedCreWorkflows then notPermitted "workflow" workflow
  else if deps.runCreWorkflow then
    let (status, result) : String × Json ← awaited (.runCreWorkflow workflow (argsOf payload))
    pure (.ok (.obj [("status", .str status), ("result", result)]))
  else noCreSession

def creStatus : Handling BridgeOutcome := do
  if deps.creDeploy then
    let s : CreConnection ← awaited .creStatus
    pure (.ok (.obj [("connected", .bool s.connected), ("organizationId", s.organizationId),
      ("organizationName", s.organizationName), ("accountLabel", s.accountLabel),
      ("deployAccess", .bool s.deployAccess),
      ("availableRegistryIds", .arr (s.registryIds.map .str)),
      ("supportedChains", s.supportedChains), ("cliVersion", .str s.cliVersion)]))
  else noCreSession

def creBuild (payload : Json) : Handling BridgeOutcome := do
  let workflow ← textOf payload "workflow" ""
  if workflow ∉ session.permissions.allowedCreWorkflows then notPermitted "workflow" workflow
  else if deps.creDeploy then
    let built : Json ← awaited (.creBuild workflow)
    pure (.ok built)
  else noCreSession

/-- Deploy the exact approved binary. -/
def creDeployWorkflow (payload : Json) : Handling BridgeOutcome := do
  let workflow ← textOf payload "workflow" ""
  let wasmPath ← textOf payload "wasmPath" ""
  let registry ← textOf payload "registry" ""
  let approvedWasmSha256 ← textOf payload "approvedWasmSha256" ""
  if workflow ∉ session.permissions.allowedCreWorkflows then notPermitted "workflow" workflow
  else if "onchain:".isPrefixOf registry then
    refuse .NOT_PERMITTED ("registry \"" ++ registry ++ "\" performs Ethereum Mainnet lifecycle "
      ++ "writes; this bridge deploys to the private registry only")
  else if lowerHex 64 approvedWasmSha256.toList = false then
    refuse .NOT_PERMITTED "a deploy request must state the sha256 of the approved binary"
  else if deps.creDeploy then
    let actual : String ← awaited (.hashFile wasmPath)
    if actual ≠ approvedWasmSha256 then
      refuse .NOT_PERMITTED ("DEPLOYMENT_ARTIFACT_DRIFT: " ++ wasmPath ++ " hashes to " ++ actual
        ++ ", but " ++ approvedWasmSha256 ++ " was approved")
    else
      let r : CreDeployed ← awaited (.creDeploy workflow wasmPath registry)
      pure (.ok (.obj [("workflowId", .str r.workflowId), ("registry", .str r.registry),
        ("status", .str r.status), ("binaryHash", .str r.binaryHash),
        ("deployedWasmSha256", .str actual)]))
  else noCreSession

/-- get / pause / activate / list: a closed set. -/
def creLifecycle (payload : Json) : Handling BridgeOutcome := do
  let workflow ← textOf payload "workflow" ""
  let action ← textOf payload "action" ""
  if workflow ∉ session.permissions.allowedCreWorkflows then notPermitted "workflow" workflow
  else if action ∉ ["get", "pause", "activate", "list"] then
    refuse .UNKNOWN_OPERATION ("\"" ++ action ++ "\" is not a CRE lifecycle action")
  else if deps.creDeploy then
    let r : Json ← awaited (.creLifecycle workflow action)
    pure (.ok r)
  else noCreSession

def amountAbove (payload : Json) : Option Js.Num :=
  match property payload "amountUsdCents" with
  | .ok (some (.num amount)) =>
    if session.permissions.humanApprovalAboveUsdCents.lt amount then some amount else none
  | _ => none

/-- `typeof payload.destination === "string" ? payload.destination : null`. -/
def destinationOf (payload : Json) : Option String :=
  match property payload "destination" with
  | .ok (some (.str s)) => some s
  | _ => none

/-- The device is asked, if there is one: hardware approval is never simulated. -/
def ledgerApprove (actionType : String) (payload : Json) : Handling BridgeOutcome := do
  if deps.ledger then
    let digest := sha256Hex (stringify payload)
    let (approved, signature) : Bool × String ← awaited (.ledgerApprove actionType digest)
    pure (.ok (.obj [("approved", .bool approved), ("signature", .str signature),
      ("digest", .str digest)]))
  else
    refuse .HARDWARE_UNAVAILABLE
      "no Ledger device is attached; BLK-002 — hardware approval is never simulated"

/-- A Ledger operation; `now` is the reading of the clock for the prompt. -/
def ledgerAction (operation : BridgeOperation) (payload : Json) (now : Nat) :
    Handling BridgeOutcome := do
  let actionType ← textOf payload "actionType" ""
  if actionType ∉ session.permissions.allowedLedgerActionTypes then
    notPermitted "ledger action" actionType
  else
    match amountAbove session payload with
    | none => ledgerApprove deps actionType payload
    | some amount =>
      if deps.askHuman then
        let policyReason ← textOf payload "policyReason" "above the bridge's autonomous ceiling"
        let approved : Bool ← awaited (.askHuman
          { projectId := session.projectId, operation := operation.text, what := actionType,
            amountUsdCents := amount, destination := destinationOf payload, policyReason,
            expiresAtMs := now + 120000 })
        if approved then ledgerApprove deps actionType payload
        else refuse .APPROVAL_REQUIRED "the person at the keyboard declined"
      else
        refuse .APPROVAL_REQUIRED
          "this operation needs a person and no approval channel is available"

/-- The permissions of the session, and then the operation. -/
def perform (operation : BridgeOperation) (payload : Json) (now : Nat) : Handling BridgeOutcome :=
  if operation ∉ session.permissions.allowedOperations then
    refuse .NOT_PERMITTED ("\"" ++ operation.text ++ "\" is not permitted for this bridge session")
  else if session.projectId ∉ session.permissions.allowedProjects then
    refuse .WRONG_PROJECT ("project " ++ session.projectId ++ " is not in this bridge's allow-list")
  else
    match operation with
    | .performApiRequest => performApiRequest deps session payload
    | .simulateWorkflow => simulateWorkflow deps session payload
    | .status => creStatus deps
    | .buildWorkflow => creBuild deps session payload
    | .deployWorkflow => creDeployWorkflow deps session payload
    | .workflowLifecycle => creLifecycle deps session payload
    | .approveContextLockAction | .performProtectedBrokerAction =>
      ledgerAction deps session operation payload now

end Handlers

/-! ## 3. Which answers let a request go on -/

/-- The answers after which an operation makes another call: a URL that may be called, while
    there is a transport; a file that is the approved one; a person who approved, while there is
    a device. -/
def GoesOn (deps : BridgeDeps) (payload : Json) : (e : Effect) → Reply e → Prop
  | .checkUrl _ _, .ok (.ok _) => deps.performApiCall = true
  | .hashFile _, .ok actual => textProperty payload "approvedWasmSha256" "" = .ok actual
  | .askHuman _, .ok true => deps.ledger = true
  | _, _ => False

/-- A script that makes a further call after these answers and after no others. -/
def Gated (goesOn : (e : Effect) → Reply e → Prop) :
    Script Unit Effect Reply Thrown BridgeOutcome → Prop
  | .ok _ _ => True
  | .threw _ _ => True
  | .call _ e k => ∀ r, ((k r).ended = false ↔ goesOn e r) ∧ Gated goesOn (k r)

section Gates

variable {goesOn : (e : Effect) → Reply e → Prop}

theorem gated_textOf {payload : Json} {name fallback : String}
    {f : String → Handling BridgeOutcome}
    (h : ∀ s, textProperty payload name fallback = .ok s → Gated goesOn (f s ())) :
    Gated goesOn ((textOf payload name fallback >>= f) ()) := by
  cases hs : textProperty payload name fallback with
  | ok s =>
    have happ : textOf payload name fallback () = .ok s () := by simp only [textOf, hs]; rfl
    rw [Act.bind_apply, happ]
    exact h s hs
  | error e =>
    have happ : textOf payload name fallback () = .threw .typeError () := by
      simp only [textOf, hs]; rfl
    rw [Act.bind_apply, happ]
    trivial

theorem gated_last {e : Effect} {f : Result e → Handling BridgeOutcome}
    (hlast : ∀ r, ¬ goesOn e r) (hf : ∀ a, (f a ()).ended = true) :
    Gated goesOn ((awaited e >>= f) ()) := by
  intro r
  cases r with
  | error message => exact ⟨⟨fun h => (by cases h), fun h => absurd h (hlast _)⟩, trivial⟩
  | ok a =>
    change ((f a ()).ended = false ↔ _) ∧ Gated goesOn (f a ())
    refine ⟨⟨fun h => absurd ((hf a).symm.trans h) (by decide), fun h => absurd h (hlast _)⟩, ?_⟩
    cases hscript : f a () with
    | ok _ _ => trivial
    | threw _ _ => trivial
    | call _ e' k =>
      have hended := hf a
      rw [hscript] at hended
      cases hended

theorem gated_call {e : Effect} {f : Result e → Handling BridgeOutcome}
    (hrejected : ∀ message, ¬ goesOn e (.error message))
    (hf : ∀ a, ((f a ()).ended = false ↔ goesOn e (.ok a)) ∧ Gated goesOn (f a ())) :
    Gated goesOn ((awaited e >>= f) ()) := by
  intro r
  cases r with
  | error message => exact ⟨⟨fun h => (by cases h), fun h => absurd h (hrejected _)⟩, trivial⟩
  | ok a => exact hf a

theorem gated_ledgerApprove (deps : BridgeDeps) (payload : Json) (actionType : String) :
    Gated (GoesOn deps payload) (ledgerApprove deps actionType payload ()) := by
  unfold ledgerApprove
  by_cases hl : deps.ledger = true
  · rw [if_pos hl]
    exact gated_last (fun _ h => h) fun _ => rfl
  · rw [if_neg hl]
    trivial

theorem ledgerApprove_ended (deps : BridgeDeps) (payload : Json) (actionType : String) :
    (ledgerApprove deps actionType payload ()).ended = false ↔ deps.ledger = true := by
  unfold ledgerApprove
  by_cases hl : deps.ledger = true
  · rw [if_pos hl]
    exact ⟨fun _ => hl, fun _ => rfl⟩
  · rw [if_neg hl]
    exact ⟨fun h => (by cases h), fun h => absurd h hl⟩

variable {deps : BridgeDeps} {session : BridgeSession} {payload : Json}

theorem performApiRequest_gated :
    Gated (GoesOn deps payload) (performApiRequest deps session payload ()) := by
  refine gated_textOf fun credentialRef _ => gated_textOf fun operationId _ =>
    gated_textOf fun url _ => ?_
  by_cases hcredential : credentialRef ∉ session.permissions.allowedCredentialRefs
  · rw [if_pos hcredential]
    trivial
  rw [if_neg hcredential]
  by_cases hoperation : operationId ∉ session.permissions.allowedApiOperationIds
  · rw [if_pos hoperation]
    trivial
  rw [if_neg hoperation]
  refine gated_call (fun _ h => h) fun verdict => ?_
  cases verdict with
  | error refusal => exact ⟨⟨fun h => (by cases h), fun h => h.elim⟩, trivial⟩
  | ok parsed =>
    change (((if deps.performApiCall = true then _ else _ : Handling BridgeOutcome) ()).ended =
      false ↔ deps.performApiCall = true) ∧ Gated _ ((if deps.performApiCall = true then _ else _ :
        Handling BridgeOutcome) ())
    by_cases hcall : deps.performApiCall = true
    · rw [if_pos hcall]
      exact ⟨⟨fun _ => hcall, fun _ => rfl⟩, gated_last (fun _ h => h) fun _ => rfl⟩
    · rw [if_neg hcall]
      exact ⟨⟨fun h => (by cases h), fun h => absurd h hcall⟩, trivial⟩

/-- An operation on a workflow that makes one call. -/
theorem workflow_gated {deps : BridgeDeps} {payload : Json} {allowed : String → Handling BridgeOutcome}
    (h : ∀ workflow, Gated (GoesOn deps payload) (allowed workflow ())) :
    Gated (GoesOn deps payload) ((do
      let workflow ← textOf payload "workflow" ""
      if workflow ∉ session.permissions.allowedCreWorkflows then notPermitted "workflow" workflow
      else allowed workflow : Handling BridgeOutcome) ()) := by
  refine gated_textOf fun workflow _ => ?_
  by_cases hw : workflow ∉ session.permissions.allowedCreWorkflows
  · rw [if_pos hw]
    trivial
  · rw [if_neg hw]
    exact h workflow

theorem simulateWorkflow_gated :
    Gated (GoesOn deps payload) (simulateWorkflow deps session payload ()) := by
  refine workflow_gated fun workflow => ?_
  by_cases hrun : deps.runCreWorkflow = true
  · rw [if_pos hrun]
    exact gated_last (fun _ h => h) fun _ => rfl
  · rw [if_neg hrun]
    trivial

theorem creStatus_gated : Gated (GoesOn deps payload) (creStatus deps ()) := by
  unfold creStatus
  by_cases hcre : deps.creDeploy = true
  · rw [if_pos hcre]
    exact gated_last (fun _ h => h) fun _ => rfl
  · rw [if_neg hcre]
    trivial

theorem creBuild_gated : Gated (GoesOn deps payload) (creBuild deps session payload ()) := by
  refine workflow_gated fun workflow => ?_
  by_cases hcre : deps.creDeploy = true
  · rw [if_pos hcre]
    exact gated_last (fun _ h => h) fun _ => rfl
  · rw [if_neg hcre]
    trivial

theorem creDeployWorkflow_gated :
    Gated (GoesOn deps payload) (creDeployWorkflow deps session payload ()) := by
  refine gated_textOf fun workflow _ => gated_textOf fun wasmPath _ =>
    gated_textOf fun registry _ => gated_textOf fun approved happroved => ?_
  by_cases hw : workflow ∉ session.permissions.allowedCreWorkflows
  · rw [if_pos hw]
    trivial
  rw [if_neg hw]
  by_cases honchain : "onchain:".isPrefixOf registry = true
  · rw [if_pos honchain]
    trivial
  rw [if_neg honchain]
  by_cases hhex : lowerHex 64 approved.toList = false
  · rw [if_pos hhex]
    trivial
  rw [if_neg hhex]
  by_cases hcre : deps.creDeploy = true
  swap
  · rw [if_neg hcre]
    trivial
  rw [if_pos hcre]
  refine gated_call (fun _ h => h) fun (actual : String) => ?_
  have hgoes : GoesOn deps payload (.hashFile wasmPath) (.ok actual) ↔ actual = approved := by
    show textProperty payload "approvedWasmSha256" "" = .ok actual ↔ _
    rw [happroved, Except.ok.injEq]
    exact eq_comm
  rw [hgoes]
  by_cases hactual : actual ≠ approved
  · rw [if_pos hactual]
    exact ⟨⟨fun h => (by cases h), fun h => absurd h hactual⟩, trivial⟩
  · rw [if_neg hactual]
    exact ⟨⟨fun _ => not_not.mp hactual, fun _ => rfl⟩, gated_last (fun _ h => h) fun _ => rfl⟩

theorem creLifecycle_gated :
    Gated (GoesOn deps payload) (creLifecycle deps session payload ()) := by
  refine gated_textOf fun workflow _ => gated_textOf fun action _ => ?_
  by_cases hw : workflow ∉ session.permissions.allowedCreWorkflows
  · rw [if_pos hw]
    trivial
  rw [if_neg hw]
  by_cases haction : action ∉ ["get", "pause", "activate", "list"]
  · rw [if_pos haction]
    trivial
  rw [if_neg haction]
  by_cases hcre : deps.creDeploy = true
  · rw [if_pos hcre]
    exact gated_last (fun _ h => h) fun _ => rfl
  · rw [if_neg hcre]
    trivial

theorem ledgerAction_gated {operation : BridgeOperation} {now : Nat} :
    Gated (GoesOn deps payload) (ledgerAction deps session operation payload now ()) := by
  refine gated_textOf fun actionType _ => ?_
  by_cases ha : actionType ∉ session.permissions.allowedLedgerActionTypes
  · rw [if_pos ha]
    trivial
  rw [if_neg ha]
  cases amountAbove session payload with
  | none => exact gated_ledgerApprove deps payload actionType
  | some amount =>
    change Gated _ ((if deps.askHuman = true then _ else _ : Handling BridgeOutcome) ())
    by_cases hask : deps.askHuman = true
    swap
    · rw [if_neg hask]
      trivial
    rw [if_pos hask]
    refine gated_textOf fun policyReason _ => gated_call (fun _ h => h) fun (approved : Bool) => ?_
    cases approved with
    | false => exact ⟨⟨fun h => (by cases h), fun h => h.elim⟩, trivial⟩
    | true =>
      exact ⟨ledgerApprove_ended deps payload actionType,
        gated_ledgerApprove deps payload actionType⟩

theorem perform_gated (operation : BridgeOperation) (now : Nat) :
    Gated (GoesOn deps payload) (perform deps session operation payload now ()) := by
  unfold perform
  by_cases hop : operation ∉ session.permissions.allowedOperations
  · rw [if_pos hop]
    trivial
  rw [if_neg hop]
  by_cases hproject : session.projectId ∉ session.permissions.allowedProjects
  · rw [if_pos hproject]
    trivial
  rw [if_neg hproject]
  cases operation with
  | performApiRequest => exact performApiRequest_gated
  | simulateWorkflow => exact simulateWorkflow_gated
  | status => exact creStatus_gated
  | buildWorkflow => exact creBuild_gated
  | deployWorkflow => exact creDeployWorkflow_gated
  | workflowLifecycle => exact creLifecycle_gated
  | approveContextLockAction | performProtectedBrokerAction => exact ledgerAction_gated

/-- **No call without a permission**: an operation that waits for a dependency is one that the
    session's permissions allow, in a project that they allow. -/
theorem perform_permitted {operation : BridgeOperation} {now : Nat}
    (h : (perform deps session operation payload now ()).ended = false) :
    operation ∈ session.permissions.allowedOperations ∧
      session.projectId ∈ session.permissions.allowedProjects := by
  unfold perform at h
  by_cases hop : operation ∉ session.permissions.allowedOperations
  · rw [if_pos hop] at h
    cases h
  rw [if_neg hop] at h
  by_cases hproject : session.projectId ∉ session.permissions.allowedProjects
  · rw [if_pos hproject] at h
    cases h
  · exact ⟨not_not.mp hop, not_not.mp hproject⟩

end Gates

/-! ## 4. Requests -/

/-- A call of `handle` up to its first `await`: the daemon, the place of the session and the
    request where it was admitted, and what is left to do. -/
structure Entered where
  bridge : LocalBridge
  admitted : Option (Nat × BridgeRequest)
  script : Script Unit Effect Reply Thrown BridgeOutcome

/-- `handle`. The vocabulary is checked before the authentication, so that an attempt to reach
    raw access is reported as such. -/
def handle (deps : BridgeDeps) (b : LocalBridge) (signed : SignedBridgeRequest)
    (clock : Nat → Nat) : Entered :=
  match property signed.request "operationType" with
  | .error _ => ⟨b, none, .threw .typeError ()⟩
  | .ok (some (.str op)) =>
    if op ∈ FORBIDDEN_OPERATIONS then
      ⟨b, none, .ok (.error ⟨.OPERATION_NOT_AVAILABLE, "\"" ++ op ++ "\" is not an operation this "
        ++ "bridge has. The bridge performs bounded tasks and returns bounded results; it does not "
        ++ "hand out access."⟩) ()⟩
    else
      match BridgeOperation.ofText? op with
      | none =>
        ⟨b, none, .ok (.error ⟨.UNKNOWN_OPERATION,
          "\"" ++ op ++ "\" is not in the operation vocabulary"⟩) ()⟩
      | some operation =>
        match b.authenticate signed (clock 0) with
        | .error refusal => ⟨b, none, .ok (.error refusal) ()⟩
        | .ok (b', i, session, r) =>
          ⟨b', some (i, r), perform deps session operation signed.payload (clock 1) ()⟩
  | .ok op =>
    match stringOf (op.getD (.str "undefined")) with
    | none => ⟨b, none, .threw .typeError ()⟩
    | some text =>
      ⟨b, none, .ok (.error ⟨.UNKNOWN_OPERATION,
        "\"" ++ text ++ "\" is not in the operation vocabulary"⟩) ()⟩

/-- The operation of a request that parses is the one that `handle` looks at. -/
theorem operationType_of_parse {request : Json} {r : BridgeRequest}
    (h : BridgeRequest.parse request = .ok r) :
    property request "operationType" = .ok (some (.str r.operationType)) := by
  cases request with
  | obj fields =>
    unfold BridgeRequest.parse at h
    dsimp only at h
    split at h
    · rename_i ho _ _ _ _
      simp only [Except.ok.injEq] at h
      subst h
      show Except.ok (fields.lookup "operationType") = _
      unfold textField at ho
      split at ho
      · rename_i s hs
        have hmin : minLength 1 s = .ok _ := ho
        unfold minLength at hmin
        split_ifs at hmin
        rw [hs, Except.ok.inj hmin]
      · cases ho
    · cases h
  | null => cases h
  | bool _ => cases h
  | num _ => cases h
  | str _ => cases h
  | arr _ => cases h

/-- What `handle` does with a request that is admitted. -/
theorem handle_of_admitted {deps : BridgeDeps} {b b' : LocalBridge} {signed : SignedBridgeRequest}
    {clock : Nat → Nat} {i : Nat} {session : BridgeSession} {r : BridgeRequest}
    {operation : BridgeOperation} (ha : b.authenticate signed (clock 0) = .ok (b', i, session, r))
    (hop : BridgeOperation.ofText? r.operationType = some operation) :
    handle deps b signed clock =
      ⟨b', some (i, r), perform deps session operation signed.payload (clock 1) ()⟩ := by
  have hr := operationType_of_parse (LocalBridge.authenticate_eq_ok ha).1.parsed
  have hforbidden : r.operationType ∉ FORBIDDEN_OPERATIONS := by
    rw [← BridgeOperation.text_of_ofText? hop]
    exact text_not_forbidden operation
  unfold handle
  simp only [hr, if_neg hforbidden, hop, ha]

section Handle

variable (deps : BridgeDeps) (b : LocalBridge) (signed : SignedBridgeRequest) (clock : Nat → Nat)

/-- What a call of `handle` comes to: a refusal that changes nothing, or an admission with the
    operation that the request names. -/
theorem handle_cases :
    (∃ script, handle deps b signed clock = ⟨b, none, script⟩) ∨
    ∃ b' i session r operation, b.authenticate signed (clock 0) = .ok (b', i, session, r) ∧
      operation.text = r.operationType ∧ handle deps b signed clock =
        ⟨b', some (i, r), perform deps session operation signed.payload (clock 1) ()⟩ := by
  unfold handle
  cases hop : property signed.request "operationType" with
  | error _ => exact Or.inl ⟨_, rfl⟩
  | ok value =>
  by_cases htext : ∃ op, value = some (.str op)
  · obtain ⟨op, rfl⟩ := htext
    dsimp only
    by_cases hforbidden : op ∈ FORBIDDEN_OPERATIONS
    · rw [if_pos hforbidden]
      exact Or.inl ⟨_, rfl⟩
    rw [if_neg hforbidden]
    cases hof : BridgeOperation.ofText? op with
    | none => exact Or.inl ⟨_, rfl⟩
    | some operation =>
    cases hauth : b.authenticate signed (clock 0) with
    | error refusal => exact Or.inl ⟨_, rfl⟩
    | ok admitted =>
    obtain ⟨b', i, session, r⟩ := admitted
    refine Or.inr ⟨b', i, session, r, operation, rfl, ?_, rfl⟩
    have hr := operationType_of_parse (LocalBridge.authenticate_eq_ok hauth).1.parsed
    rw [hop, Except.ok.injEq, Option.some.injEq, Json.str.injEq] at hr
    exact (BridgeOperation.text_of_ofText? hof).trans hr
  · refine Or.inl ?_
    split
    · exact ⟨_, rfl⟩
    · rename_i op heq
      exact absurd ⟨op, Except.ok.inj heq⟩ htext
    · split
      · exact ⟨_, rfl⟩
      · exact ⟨_, rfl⟩

end Handle

end ContextLock.Bridge
