/-
  Subject:   The bridge daemon: pairing codes, sessions, and how a request is admitted.

  Pairing codes and sessions are objects that are changed where they stand, so they are kept in
  the order in which they were made, and the maps of the daemon hold their places. What is
  random (a code, an id, a key) and the readings of the clock are arguments.
-/
import ContextLock.Bridge.Protocol
import ContextLock.Js.Map

namespace ContextLock.Bridge

open Js Evm

/-! ## 1. Permissions, sessions, codes -/

/-- Default deny, at every level: an empty list permits nothing. -/
structure BridgePermissions where
  allowedProjects : List String
  allowedOperations : List BridgeOperation
  allowedCredentialRefs : List String
  allowedHosts : List String
  allowedApiOperationIds : List String
  allowedCreWorkflows : List String
  allowedLedgerActionTypes : List String
  humanApprovalAboveUsdCents : Js.Num

def DENY_ALL : BridgePermissions :=
  ⟨[], [], [], [], [], [], [], .int 0⟩

structure BridgeSession where
  bridgeId : String
  userId : String
  projectId : String
  key : Bytes
  createdAtMs : Nat
  expiresAtMs : Int
  revokedAtMs : Option Nat
  permissions : BridgePermissions

structure PairingCode where
  code : String
  userId : String
  projectId : String
  expiresAtMs : Int
  usedAtMs : Option Nat

/-- The daemon: the codes and sessions it made, which code and session a text stands for, and
    the nonces seen under an id. -/
structure LocalBridge where
  codes : List PairingCode
  pairings : Map Nat
  opened : List BridgeSession
  sessions : Map Nat
  nonces : Map (List String)

def LocalBridge.new : LocalBridge := ⟨[], .empty, [], .empty, .empty⟩

namespace LocalBridge

def seen (b : LocalBridge) (bridgeId : String) : List String := (b.nonces.get? bridgeId).getD []

/-! ## 2. Pairing -/

def DEFAULT_TTL_MS : Int := 5 * 60000

def createPairingCode (b : LocalBridge) (userId projectId : String) (ttlMs : Int) (code : String)
    (now : Nat) : LocalBridge :=
  { b with
    codes := b.codes ++ [⟨code, userId, projectId, now + ttlMs, none⟩]
    pairings := b.pairings.set code b.codes.length }

def DEFAULT_SESSION_TTL_MS : Int := 8 * 60 * 60000

/-- `pair`: the daemon, and the place of the new session. The clock is read up to four times. -/
def pair (b : LocalBridge) (code : String) (permissions : BridgePermissions) (sessionTtlMs : Int)
    (bridgeId : String) (key : Bytes) (clock : Nat → Nat) :
    Except Refusal (LocalBridge × Nat × BridgeSession) :=
  match b.pairings.get? code with
  | none => .error ⟨.PAIRING_UNKNOWN, "no such pairing code"⟩
  | some i =>
    match b.codes[i]? with
    | none => .error ⟨.PAIRING_UNKNOWN, "no such pairing code"⟩
    | some p =>
      match p.usedAtMs with
      | some usedAt => .error ⟨.PAIRING_USED, "code was used at " ++ toISOString usedAt⟩
      | none =>
        if p.expiresAtMs < clock 0 then .error ⟨.PAIRING_EXPIRED, "code has expired"⟩
        else
          let session : BridgeSession :=
            { bridgeId, userId := p.userId, projectId := p.projectId, key,
              createdAtMs := clock 2, expiresAtMs := clock 3 + sessionTtlMs, revokedAtMs := none,
              permissions }
          .ok (
            { codes := b.codes.set i { p with usedAtMs := some (clock 1) }
              pairings := b.pairings
              opened := b.opened ++ [session]
              sessions := b.sessions.set bridgeId b.opened.length
              nonces := b.nonces.set bridgeId [] }, i, session)

/-- `revoke`: the daemon, and the place of the session that was revoked, if there is one. -/
def revoke (b : LocalBridge) (bridgeId : String) (now : Nat) : LocalBridge × Option Nat :=
  match b.sessions.get? bridgeId with
  | none => (b, none)
  | some i =>
    ({ b with opened := b.opened.modify i fun s => { s with revokedAtMs := some now } }, some i)

/-- A code that opens a session was not used before. -/
theorem pair_eq_ok {b b' : LocalBridge} {code : String} {permissions : BridgePermissions}
    {sessionTtlMs : Int} {bridgeId : String} {key : Bytes} {clock : Nat → Nat} {i : Nat}
    {session : BridgeSession}
    (h : b.pair code permissions sessionTtlMs bridgeId key clock = .ok (b', i, session)) :
    ∃ p, b.codes[i]? = some p ∧ p.usedAtMs = none ∧ session.revokedAtMs = none ∧
      session.bridgeId = bridgeId ∧
      b' = { codes := b.codes.set i { p with usedAtMs := some (clock 1) }
             pairings := b.pairings
             opened := b.opened ++ [session]
             sessions := b.sessions.set bridgeId b.opened.length
             nonces := b.nonces.set bridgeId [] } := by
  unfold pair at h
  cases hget : b.pairings.get? code with
  | none => simp [hget] at h
  | some j =>
  cases hcode : b.codes[j]? with
  | none => simp [hget, hcode] at h
  | some p =>
  cases hused : p.usedAtMs with
  | some usedAt => simp [hget, hcode, hused] at h
  | none =>
  simp only [hget, hcode, hused] at h
  split_ifs at h
  simp only [Except.ok.injEq, Prod.mk.injEq] at h
  obtain ⟨rfl, rfl, rfl⟩ := h
  exact ⟨p, hcode, hused, rfl, rfl, rfl⟩

/-! ## 3. Authentication -/

/-- The refusal of a request, once the session it names is found. -/
def refusal? (b : LocalBridge) (session : BridgeSession) (r : BridgeRequest)
    (signed : SignedBridgeRequest) (now : Nat) : Option Refusal :=
  match session.revokedAtMs with
  | some revokedAt => some ⟨.SESSION_REVOKED, "revoked at " ++ toISOString revokedAt⟩
  | none =>
  if session.expiresAtMs < now then some ⟨.NO_SESSION, "session has expired"⟩
  else if verifySignature r session.key signed.signature = false then
    some ⟨.BAD_SIGNATURE, "signature does not verify against this session's key"⟩
  else if r.userId ≠ session.userId then
    some ⟨.WRONG_USER, "request is for " ++ r.userId ++ ", session belongs to " ++ session.userId⟩
  else if r.projectId ≠ session.projectId then
    some ⟨.WRONG_PROJECT,
      "request is for " ++ r.projectId ++ ", session is paired to " ++ session.projectId⟩
  else if r.expiresAtMs < now then
    some ⟨.EXPIRED, "expired " ++ toString (now - r.expiresAtMs) ++ "ms ago"⟩
  else if now + 30000 < r.issuedAtMs then some ⟨.NOT_YET_VALID, "issued in the future"⟩
  else if payloadHash signed.payload ≠ r.payloadHash then
    some ⟨.PAYLOAD_MUTATED, "payload does not match the signed payloadHash"⟩
  else if r.nonce ∈ b.seen r.bridgeId then
    some ⟨.REPLAY, "nonce " ++ r.nonce ++ " has already been used"⟩
  else none

/-- `authenticate`: the daemon with the nonce recorded, the place of the session, the session
    and the request. -/
def authenticate (b : LocalBridge) (signed : SignedBridgeRequest) (now : Nat) :
    Except Refusal (LocalBridge × Nat × BridgeSession × BridgeRequest) :=
  match BridgeRequest.parse signed.request with
  | .error issues => .error ⟨.BAD_SIGNATURE, "; ".intercalate issues⟩
  | .ok r =>
    match b.sessions.get? r.bridgeId with
    | none => .error ⟨.WRONG_BRIDGE, "no session for " ++ r.bridgeId⟩
    | some i =>
      match b.opened[i]? with
      | none => .error ⟨.WRONG_BRIDGE, "no session for " ++ r.bridgeId⟩
      | some session =>
        match b.refusal? session r signed now with
        | some refusal => .error refusal
        | none =>
          .ok ({ b with nonces := b.nonces.set r.bridgeId (b.seen r.bridgeId ++ [r.nonce]) },
            i, session, r)

/-- What an admitted request has passed. -/
structure Admitted (b : LocalBridge) (signed : SignedBridgeRequest) (now i : Nat)
    (session : BridgeSession) (r : BridgeRequest) : Prop where
  parsed : BridgeRequest.parse signed.request = .ok r
  found : b.sessions.get? r.bridgeId = some i
  object : b.opened[i]? = some session
  unrevoked : session.revokedAtMs = none
  unexpired : now ≤ session.expiresAtMs
  verified : SignedWith session.key r signed.signature
  user : r.userId = session.userId
  project : r.projectId = session.projectId
  current : now ≤ r.expiresAtMs ∧ r.issuedAtMs ≤ now + 30000
  payload : payloadHash signed.payload = r.payloadHash
  unseen : r.nonce ∉ b.seen r.bridgeId

/-- When there is nothing to refuse. -/
theorem refusal?_eq_none {b : LocalBridge} {session : BridgeSession} {r : BridgeRequest}
    {signed : SignedBridgeRequest} {now : Nat} :
    b.refusal? session r signed now = none ↔
      session.revokedAtMs = none ∧ now ≤ session.expiresAtMs ∧
        SignedWith session.key r signed.signature ∧ r.userId = session.userId ∧
        r.projectId = session.projectId ∧ (now ≤ r.expiresAtMs ∧ r.issuedAtMs ≤ now + 30000) ∧
        payloadHash signed.payload = r.payloadHash ∧ r.nonce ∉ b.seen r.bridgeId := by
  unfold refusal?
  cases hrev : session.revokedAtMs with
  | some revokedAt => simp
  | none =>
    rw [← verifySignature_iff]
    constructor
    · intro h
      dsimp only at h
      split_ifs at h with hexp hsig huser hproject hcurrent hissued hpayload hseen
      simp only [Bool.not_eq_false] at hsig
      exact ⟨rfl, not_lt.mp hexp, hsig, not_not.mp huser, not_not.mp hproject,
        ⟨not_lt.mp hcurrent, not_lt.mp hissued⟩, not_not.mp hpayload, hseen⟩
    · rintro ⟨_, hexp, hsig, huser, hproject, ⟨hcurrent, hissued⟩, hpayload, hseen⟩
      dsimp only
      rw [if_neg (not_lt.mpr hexp), if_neg (by simp [hsig]), if_neg (not_not.mpr huser),
        if_neg (not_not.mpr hproject), if_neg (not_lt.mpr hcurrent), if_neg (not_lt.mpr hissued),
        if_neg (not_not.mpr hpayload), if_neg hseen]

/-- **Admission.** -/
theorem authenticate_eq_ok {b b' : LocalBridge} {signed : SignedBridgeRequest} {now i : Nat}
    {session : BridgeSession} {r : BridgeRequest}
    (h : b.authenticate signed now = .ok (b', i, session, r)) :
    Admitted b signed now i session r ∧
      b' = { b with nonces := b.nonces.set r.bridgeId (b.seen r.bridgeId ++ [r.nonce]) } := by
  unfold authenticate at h
  cases hparse : BridgeRequest.parse signed.request with
  | error issues => simp [hparse] at h
  | ok r' =>
  rw [hparse] at h
  cases hfound : b.sessions.get? r'.bridgeId with
  | none => simp [hfound] at h
  | some j =>
  cases hobject : b.opened[j]? with
  | none => simp [hfound, hobject] at h
  | some s =>
  cases hrefusal : b.refusal? s r' signed now with
  | some refusal => simp [hfound, hobject, hrefusal] at h
  | none =>
  simp only [hfound, hobject, hrefusal, Except.ok.injEq, Prod.mk.injEq] at h
  obtain ⟨rfl, rfl, rfl, rfl⟩ := h
  obtain ⟨hrev, hexp, hsig, huser, hproject, hcurrent, hpayload, hseen⟩ :=
    refusal?_eq_none.mp hrefusal
  exact ⟨⟨hparse, hfound, hobject, hrev, hexp, hsig, huser, hproject, hcurrent, hpayload, hseen⟩, rfl⟩

theorem authenticate_of_admitted {b : LocalBridge} {signed : SignedBridgeRequest} {now i : Nat}
    {session : BridgeSession} {r : BridgeRequest} (h : Admitted b signed now i session r) :
    b.authenticate signed now = .ok
      ({ b with nonces := b.nonces.set r.bridgeId (b.seen r.bridgeId ++ [r.nonce]) },
        i, session, r) := by
  have hrefusal : b.refusal? session r signed now = none :=
    refusal?_eq_none.mpr ⟨h.unrevoked, h.unexpired, h.verified, h.user, h.project, h.current,
      h.payload, h.unseen⟩
  unfold authenticate
  simp only [h.parsed, h.found, h.object, hrefusal]

end LocalBridge

end ContextLock.Bridge
