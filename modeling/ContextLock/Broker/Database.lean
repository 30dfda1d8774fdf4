/-
  Subject:   The broker's tables: requests, observed authorizations, minted capabilities.

  The tables keep hashes and ids; a capability, its signature and the calldata it is for are
  not in them in a form a reader could hand out. Primary keys and the unique idempotency key
  are checked by every insert, and each `prepare(..).run(..)` is one step.
-/
import ContextLock.Broker.Adapters

namespace ContextLock.Broker

open Evm Js
open Policy (Verdict)

/-! ## 1. Rows -/

inductive RequestStatus where
  | PENDING
  | ALLOWED
  | ESCALATED
  | DENIED
  | FAILED

inductive IdentitySource where
  | stub
  | ensv2Sepolia

inductive EvaluationSource where
  | stub
  | creWorkflowLocal
  | creSimulator
  | creLive

/-- A row of `capability_requests`. -/
structure RequestRow where
  id : String
  idempotencyKey : String
  agentEnsName : String
  agentAddress : String
  agentIdentityHash : Option Bytes32
  policyHash : Bytes32
  actionKind : String
  intentHash : Bytes32
  target : String
  value : Int
  calldata : Bytes
  calldataHash : Bytes32
  amount : Nat
  status : RequestStatus
  reasonCode : Option String
  identitySource : Option IdentitySource

def RequestRow.withStatus (status : RequestStatus) (reasonCode : String) (r : RequestRow) :
    RequestRow :=
  { r with status := status, reasonCode := some reasonCode }

/-- A row of `cre_authorizations`. -/
structure AuthorizationRow where
  authorizationId : Bytes32
  requestId : String
  requestHash : Bytes32
  verdict : Verdict
  reasonCode : String
  contextCommitment : Bytes32
  evaluatedAt : Js.Num
  approvedUntil : Js.Num
  source : EvaluationSource

/-- A row of `capabilities`. -/
structure CapabilityRow where
  digest : Bytes32
  requestId : String
  nonce : Int
  issuedAt : Js.Num
  expiresAt : Js.Num

inductive AuditType where
  | REQUEST_RECEIVED
  | IDEMPOTENT_REPLAY
  | ENS_IDENTITY_VALIDATED
  | ENS_IDENTITY_FAILED
  | EVALUATION_REQUESTED
  | AUTHORIZATION_OBSERVED
  | CAPABILITY_MINTED
  | ESCALATION_CREATED
  | DENIED

structure DB where
  requests : List RequestRow
  authorizations : List AuthorizationRow
  capabilities : List CapabilityRow
  auditEvents : List (String × AuditType)

def DB.empty : DB := ⟨[], [], [], []⟩

/-! ## 2. Statements -/

namespace DB

variable (db : DB)

def audit (requestId : String) (type : AuditType) : DB :=
  { db with auditEvents := db.auditEvents ++ [(requestId, type)] }

/-- `SELECT … WHERE idempotency_key = ?`. -/
def requestOfKey (key : String) : Option RequestRow :=
  db.requests.find? (·.idempotencyKey = key)

/-- `SELECT * FROM capability_requests WHERE id = ?`. -/
def request (id : String) : Option RequestRow := db.requests.find? (·.id = id)

/-- `SELECT * FROM cre_authorizations WHERE request_id = ?`, its first row. -/
def authorizationOf (requestId : String) : Option AuthorizationRow :=
  db.authorizations.find? (·.requestId = requestId)

/-- `INSERT INTO capability_requests`: the id is the primary key, the idempotency key unique. -/
def insertRequest (row : RequestRow) : Option DB :=
  if db.requests.any (fun r => r.id = row.id ∨ r.idempotencyKey = row.idempotencyKey) then none
  else some { db with requests := db.requests ++ [row] }

/-- `INSERT INTO cre_authorizations`: the authorization id is the primary key. -/
def insertAuthorization (row : AuthorizationRow) : Option DB :=
  if db.authorizations.any (·.authorizationId = row.authorizationId) then none
  else some { db with authorizations := db.authorizations ++ [row] }

/-- `INSERT INTO capabilities`: the digest is the primary key. -/
def insertCapability (row : CapabilityRow) : Option DB :=
  if db.capabilities.any (·.digest = row.digest) then none
  else some { db with capabilities := db.capabilities ++ [row] }

/-- `UPDATE capability_requests SET … WHERE id = ?`. -/
def updateRequest (id : String) (set : RequestRow → RequestRow) : DB :=
  { db with requests := db.requests.map fun r => if r.id = id then set r else r }

def setStatus (requestId : String) (status : RequestStatus) (reasonCode : String) : DB :=
  db.updateRequest requestId (RequestRow.withStatus status reasonCode)

end DB

/-! ## 3. What the statements do -/

section Statements

variable {db db' : DB}

variable {id : String} {row : RequestRow} {set : RequestRow → RequestRow}

theorem insertRequest_eq_some :
    db.insertRequest row = some db' ↔
      (∀ r ∈ db.requests, r.id ≠ row.id ∧ r.idempotencyKey ≠ row.idempotencyKey) ∧
        db' = { db with requests := db.requests ++ [row] } := by
  rw [DB.insertRequest, Option.ite_none_left_eq_some, Option.some.injEq, eq_comm (a := db')]
  simp

theorem insertAuthorization_eq_some {row : AuthorizationRow} :
    db.insertAuthorization row = some db' ↔
      (∀ a ∈ db.authorizations, a.authorizationId ≠ row.authorizationId) ∧
        db' = { db with authorizations := db.authorizations ++ [row] } := by
  rw [DB.insertAuthorization, Option.ite_none_left_eq_some, Option.some.injEq, eq_comm (a := db')]
  simp

theorem insertCapability_eq_some {row : CapabilityRow} :
    db.insertCapability row = some db' ↔
      (∀ c ∈ db.capabilities, c.digest ≠ row.digest) ∧
        db' = { db with capabilities := db.capabilities ++ [row] } := by
  rw [DB.insertCapability, Option.ite_none_left_eq_some, Option.some.injEq, eq_comm (a := db')]
  simp

/-- The id and the key of every request. -/
def DB.rows (db : DB) : List (String × String) :=
  db.requests.map fun r => (r.id, r.idempotencyKey)

theorem rows_updateRequest
    (hset : ∀ r, (set r).id = r.id ∧ (set r).idempotencyKey = r.idempotencyKey) :
    (db.updateRequest id set).rows = db.rows := by
  simp only [DB.rows, DB.updateRequest, List.map_map, List.map_inj_left, Function.comp]
  intro r _
  by_cases h : r.id = id
  · rw [if_pos h, (hset r).1, (hset r).2]
  · rw [if_neg h]

theorem request_updateRequest {i : String} (hset : ∀ r, (set r).id = r.id) :
    (db.updateRequest id set).request i
      = (db.request i).map fun r => if i = id then set r else r := by
  have hid : ∀ r, (if r.id = id then set r else r).id = r.id := fun r => by
    by_cases h : r.id = id
    · rw [if_pos h, hset]
    · rw [if_neg h]
  simp only [DB.request, DB.updateRequest, List.find?_map, Function.comp_def, hid]
  refine Option.map_congr fun r hr => ?_
  have hri : r.id = i := by simpa using List.find?_some hr
  rw [hri]

theorem request_updateRequest_of_ne {i : String} (hset : ∀ r, (set r).id = r.id) (h : i ≠ id) :
    (db.updateRequest id set).request i = db.request i := by
  simp [request_updateRequest hset, h]

theorem request_updateRequest_self (hset : ∀ r, (set r).id = r.id) (h : db.request id = some row) :
    (db.updateRequest id set).request id = some (set row) := by
  simp [request_updateRequest hset, h]

theorem request_setStatus {reasonCode : String} {status : RequestStatus}
    (h : db.request id = some row) :
    (db.setStatus id status reasonCode).request id = some (row.withStatus status reasonCode) :=
  request_updateRequest_self (fun _ => rfl) h

@[simp] theorem audit_request (i id : String) (type : AuditType) :
    (db.audit i type).request id = db.request id := rfl

@[simp] theorem audit_authorizationOf (i id : String) (type : AuditType) :
    (db.audit i type).authorizationOf id = db.authorizationOf id := rfl

theorem request_id (h : db.request id = some row) :
    row.id = id := by
  simpa using List.find?_some h

theorem request_of_mem_rows {key : String} (h : (id, key) ∈ db.rows) :
    ∃ row, db.request id = some row := by
  obtain ⟨r, hr, hrow⟩ := List.mem_map.mp h
  have hid : r.id = id := congrArg Prod.fst hrow
  have hsome : (db.request id).isSome := List.find?_isSome.mpr ⟨r, hr, by simpa using hid⟩
  exact Option.isSome_iff_exists.mp hsome

theorem requestOfKey_some {key : String} (h : db.requestOfKey key = some row) :
    (row.id, key) ∈ db.rows := by
  have hkey : row.idempotencyKey = key := by simpa using List.find?_some h
  exact List.mem_map.mpr ⟨row, List.mem_of_find?_eq_some h, by rw [hkey]⟩

theorem requestOfKey_none {key : String} (h : db.requestOfKey key = none) :
    key ∉ db.rows.map (·.2) := by
  intro hmem
  obtain ⟨pair, hpair, rfl⟩ := List.mem_map.mp hmem
  obtain ⟨r, hr, rfl⟩ := List.mem_map.mp hpair
  have := List.find?_eq_none.mp h r hr
  simp at this

theorem authorizationOf_append {row : AuthorizationRow} {i : String} :
    ({ db with authorizations := db.authorizations ++ [row] } : DB).authorizationOf i
      = (db.authorizationOf i).or (if row.requestId = i then some row else none) := by
  simp only [DB.authorizationOf, List.find?_append, List.find?_singleton, decide_eq_true_eq]

theorem authorizationOf_none {i : String}
    (h : i ∉ db.authorizations.map (·.requestId)) : db.authorizationOf i = none := by
  refine List.find?_eq_none.mpr fun a ha hi => h ?_
  have hai : a.requestId = i := by simpa using hi
  exact List.mem_map.mpr ⟨a, ha, hai⟩

end Statements

/-! ## 4. Statements about one request -/

/-- From `db` to `db'` only the request `id` is touched; `auths` and `caps` are the requests of
    the authorizations and capabilities inserted on the way. -/
structure DB.Touches (id : String) (db db' : DB) (auths caps : List String) : Prop where
  rows : db'.rows = db.rows
  request : ∀ i, i ≠ id → db'.request i = db.request i
  authorizationOf : ∀ i, i ≠ id → db'.authorizationOf i = db.authorizationOf i
  authorizations : db'.authorizations.map (·.requestId)
    = db.authorizations.map (·.requestId) ++ auths
  capabilities : db'.capabilities.map (·.requestId) = db.capabilities.map (·.requestId) ++ caps

namespace DB.Touches

variable {id : String} {db db' db'' : DB} {auths caps : List String}

theorem refl (id : String) (db : DB) : DB.Touches id db db [] [] :=
  ⟨rfl, fun _ _ => rfl, fun _ _ => rfl, (List.append_nil _).symm, (List.append_nil _).symm⟩

theorem audit (h : DB.Touches id db db' auths caps) (i : String) (type : AuditType) :
    DB.Touches id db (db'.audit i type) auths caps :=
  ⟨h.rows, h.request, h.authorizationOf, h.authorizations, h.capabilities⟩

theorem update (h : DB.Touches id db db' auths caps) {set : RequestRow → RequestRow}
    (hset : ∀ r, (set r).id = r.id ∧ (set r).idempotencyKey = r.idempotencyKey) :
    DB.Touches id db (db'.updateRequest id set) auths caps where
  rows := (rows_updateRequest hset).trans h.rows
  request i hi := by
    rw [request_updateRequest_of_ne (fun r => (hset r).1) hi, h.request i hi]
  authorizationOf := h.authorizationOf
  authorizations := h.authorizations
  capabilities := h.capabilities

theorem setStatus (h : DB.Touches id db db' auths caps) (status : RequestStatus)
    (reasonCode : String) : DB.Touches id db (db'.setStatus id status reasonCode) auths caps :=
  h.update fun _ => ⟨rfl, rfl⟩

theorem insertAuthorization (h : DB.Touches id db db' [] caps) {row : AuthorizationRow}
    (hrow : row.requestId = id) (hi : db'.insertAuthorization row = some db'') :
    DB.Touches id db db'' [id] caps := by
  obtain ⟨_, rfl⟩ := insertAuthorization_eq_some.mp hi
  refine ⟨h.rows, h.request, fun i hne => ?_, ?_, h.capabilities⟩
  · have hni : row.requestId ≠ i := hrow.trans_ne hne.symm
    rw [authorizationOf_append, if_neg hni, Option.or_none, h.authorizationOf i hne]
  · rw [List.map_append, h.authorizations, List.append_nil, List.map_singleton, hrow]

theorem insertCapability (h : DB.Touches id db db' auths []) {row : CapabilityRow}
    (hrow : row.requestId = id) (hi : db'.insertCapability row = some db'') :
    DB.Touches id db db'' auths [id] := by
  obtain ⟨_, rfl⟩ := insertCapability_eq_some.mp hi
  refine ⟨h.rows, h.request, h.authorizationOf, h.authorizations, ?_⟩
  rw [List.map_append, h.capabilities, List.append_nil, List.map_singleton, hrow]

end DB.Touches

end ContextLock.Broker
