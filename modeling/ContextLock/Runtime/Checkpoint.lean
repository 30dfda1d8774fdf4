/-
  Subject:   Event cursors at the telemetry gateway, and runs of them with the event log.

  A runtime saves its cursor under the deployment and the agent of its token, and loads it after
  a restart. `assertAdvance` says when a cursor may replace another; the gateway does not ask it.
  The state also remembers every save, what each load returned, and the admitted events.
-/
import ContextLock.Runtime.EventLog
import ContextLock.Runtime.Tokens

namespace ContextLock.Runtime

open Evm Js Machine

/-! ## 1. Cursors -/

structure EventCursor where
  chainId : Nat
  subscriptionId : String
  eventSource : String
  lastFinalizedBlock : String
  lastProcessedEventId : String
  checkpointedAtMs : Int
  agentId : String
  deploymentId : String

/-- `BigInt(cursor.lastFinalizedBlock)`. -/
def EventCursor.block (c : EventCursor) : Nat := decimalValue c.lastFinalizedBlock

inductive CheckpointReason where
  | WOULD_GO_BACKWARDS
  | WRONG_AGENT
  | NOT_FINALIZED

structure CheckpointError where
  reason : CheckpointReason
  detail : String

/-- `assertAdvance(from, to, finalizedHead)`. -/
def assertAdvance (from' : Option EventCursor) (to' : EventCursor) (finalizedHead : Nat) :
    Except CheckpointError Unit :=
  if to'.agentId ≠ (from'.map EventCursor.agentId).getD to'.agentId ∨
      to'.deploymentId ≠ (from'.map EventCursor.deploymentId).getD to'.deploymentId then
    .error ⟨.WRONG_AGENT, "cursor belongs to " ++
      (from'.map EventCursor.agentId).getD "undefined" ++ "/" ++
      (from'.map EventCursor.deploymentId).getD "undefined" ++ ", not " ++ to'.agentId ++ "/" ++
      to'.deploymentId⟩
  else if finalizedHead < to'.block then
    .error ⟨.NOT_FINALIZED, "block " ++ to'.lastFinalizedBlock ++
      " is beyond the finalized head " ++ toString finalizedHead ++
      "; advancing there would skip events a reorganization could restore"⟩
  else if from'.any fun c => to'.block < c.block then
    .error ⟨.WOULD_GO_BACKWARDS, "cursor would move from block " ++
      (from'.map EventCursor.lastFinalizedBlock).getD "" ++ " back to " ++
      to'.lastFinalizedBlock⟩
  else .ok ()

/-- The cursor lies within the finalized chain and not before the one it replaces. -/
structure Forward (from' : Option EventCursor) (to' : EventCursor) (finalizedHead : Nat) :
    Prop where
  finalized : to'.block ≤ finalizedHead
  ahead : ∀ c, from' = some c → c.block ≤ to'.block

/-! ## 2. The gateway -/

/-- The deployment and the agent that a token names. -/
structure Owner where
  deploymentId : String
  agentId : String
  deriving DecidableEq

def RuntimeTokenClaims.owner (c : RuntimeTokenClaims) : Owner := ⟨c.deploymentId, c.agentId⟩

/-- The key under which a checkpoint is stored. -/
def Owner.key (o : Owner) : String := o.deploymentId ++ ":" ++ o.agentId

structure TelemetryGateway where
  checkpoints : Map EventCursor

variable (ed : Ed25519) (nearest : Rounding)

/-- `this.verifier.verify(token, { ...ctx, audience: "TELEMETRY" })`. -/
def verifyTelemetry (v : RuntimeTokenVerifier) (token : String) (ctx : VerificationContext) :
    Except Refusal RuntimeTokenClaims :=
  v.verify ed nearest token { ctx with audience := .TELEMETRY }

/-- `gateway.saveCheckpoint(token, ctx, cursor)`, and the gateway after it. -/
def TelemetryGateway.saveCheckpoint (g : TelemetryGateway) (v : RuntimeTokenVerifier)
    (token : String) (ctx : VerificationContext) (cursor : EventCursor) :
    Except Refusal RuntimeTokenClaims × TelemetryGateway :=
  match verifyTelemetry ed nearest v token ctx with
  | .error e => (.error e, g)
  | .ok claims => (.ok claims, ⟨g.checkpoints.set claims.owner.key cursor⟩)

/-- `gateway.loadCheckpoint(token, ctx)`. -/
def TelemetryGateway.loadCheckpoint (g : TelemetryGateway) (v : RuntimeTokenVerifier)
    (token : String) (ctx : VerificationContext) :
    Except Refusal (Owner × Option EventCursor) :=
  match verifyTelemetry ed nearest v token ctx with
  | .error e => .error e
  | .ok claims => .ok (claims.owner, g.checkpoints.get? claims.owner.key)

/-! ## 3. Runs -/

structure Save where
  owner : Owner
  cursor : EventCursor
  head : Nat
  replaced : Option EventCursor

structure Load where
  owner : Owner
  result : Option EventCursor
  before : List Save

structure TelemetryState where
  gateway : TelemetryGateway
  saves : List Save
  loads : List Load
  log : ProcessedEventLog
  clock : Int
  admitted : List Admission

def TelemetryState.start (windowMs : Int) (maxEntries : Nat) (clock : Int) : TelemetryState :=
  ⟨⟨Map.empty⟩, [], [], ProcessedEventLog.new windowMs maxEntries, clock, []⟩

/-- A call of a runtime, with the verifier as it then is; `head` is the finalized head of the
    cursor's chain. -/
inductive TelemetryCall where
  | save (v : RuntimeTokenVerifier) (token : String) (ctx : VerificationContext)
      (cursor : EventCursor) (head : Nat)
  | load (v : RuntimeTokenVerifier) (token : String) (ctx : VerificationContext)
  | admitEvent (eventId : String) (nowMs : Int)

def TelemetryState.step (s : TelemetryState) : TelemetryCall → Option TelemetryState
  | .save v token ctx cursor head =>
    match s.gateway.saveCheckpoint ed nearest v token ctx cursor with
    | (.error _, _) => some s
    | (.ok claims, g) =>
      let save := ⟨claims.owner, cursor, head, s.gateway.checkpoints.get? claims.owner.key⟩
      some { s with gateway := g, saves := s.saves ++ [save] }
  | .load v token ctx =>
    match s.gateway.loadCheckpoint ed nearest v token ctx with
    | .error _ => some s
    | .ok (owner, result) => some { s with loads := s.loads ++ [⟨owner, result, s.saves⟩] }
  | .admitEvent eventId nowMs =>
    if nowMs < s.clock then none
    else
      match s.log.admitEvent eventId nowMs with
      | (false, log) => some { s with log := log, clock := nowMs }
      | (true, log) =>
        some { s with log := log, clock := nowMs, admitted := s.admitted ++ [(eventId, nowMs)] }

/-! ## 4. The law -/

/-- The save is the owner's, for this chain and subscription. -/
def Save.IsFor (owner : Owner) (chainId : Nat) (subscriptionId : String) (r : Save) : Prop :=
  r.owner = owner ∧ r.cursor.chainId = chainId ∧ r.cursor.subscriptionId = subscriptionId

instance instDecidableIsFor (owner : Owner) (chainId : Nat) (subscriptionId : String) :
    DecidablePred (Save.IsFor owner chainId subscriptionId) :=
  fun _ => inferInstanceAs (Decidable (_ ∧ _ ∧ _))

def lastSaved (saves : List Save) (owner : Owner) (chainId : Nat) (subscriptionId : String) :
    Option EventCursor :=
  ((saves.filter (Save.IsFor owner chainId subscriptionId)).getLast?).map Save.cursor

/-- What checkpoints and the event log promise. -/
structure LawfulTelemetry (windowMs : Int) (maxEntries : Nat) (s : TelemetryState) : Prop where
  /-- A load returns the owner's last cursor, for every chain and subscription it saved. -/
  loads : ∀ l ∈ s.loads, ∀ r ∈ l.before, r.owner = l.owner →
    l.result = lastSaved l.before l.owner r.cursor.chainId r.cursor.subscriptionId
  /-- An owner that saved nothing loads nothing. -/
  absent : ∀ l ∈ s.loads, (∀ r ∈ l.before, r.owner ≠ l.owner) → l.result = none
  /-- A saved cursor is finalized, and not before the one it replaces. -/
  forward : ∀ r ∈ s.saves, Forward r.replaced r.cursor r.head
  /-- What a save replaces is a cursor of the same owner. -/
  apart : ∀ front r back, s.saves = front ++ r :: back → ∀ c, r.replaced = some c →
    ∃ q ∈ front, q.owner = r.owner ∧ q.cursor = c
  once : Once windowMs maxEntries s.admitted

/-! ## 5. The invariant -/

variable {ed nearest}

/-- Nobody else saved under the text of this owner. -/
def Unmistaken (s : TelemetryState) (owner : Owner) : Prop :=
  ∀ r ∈ s.saves, r.owner.key = owner.key → r.owner = owner

/-- What a call is asked to meet, in the state before it. -/
def MeetsTelemetry (ed : Ed25519) (nearest : Rounding) (s : TelemetryState) :
    TelemetryCall → Prop
  | .save v token ctx cursor head => ∀ claims, verifyTelemetry ed nearest v token ctx = .ok claims →
      Unmistaken s claims.owner ∧
      (∀ r ∈ s.saves, r.owner = claims.owner →
        r.cursor.chainId = cursor.chainId ∧ r.cursor.subscriptionId = cursor.subscriptionId) ∧
      Forward (s.gateway.checkpoints.get? claims.owner.key) cursor head
  | .load v token ctx => ∀ claims, verifyTelemetry ed nearest v token ctx = .ok claims →
      Unmistaken s claims.owner
  | .admitEvent _ _ => True

noncomputable instance instDecidableMeetsTelemetry (s : TelemetryState) (c : TelemetryCall) :
    Decidable (MeetsTelemetry ed nearest s c) :=
  Classical.propDecidable _

/-- The checkpoints are the last saves of their owners, and owners keep one cursor. -/
structure Stored (s : TelemetryState) : Prop where
  last : ∀ key, s.gateway.checkpoints.get? key
    = ((s.saves.filter fun r => r.owner.key = key).getLast?).map Save.cursor
  owned : ∀ r ∈ s.saves, ∀ q ∈ s.saves, r.owner.key = q.owner.key → r.owner = q.owner
  single : ∀ r ∈ s.saves, ∀ q ∈ s.saves, r.owner = q.owner →
    r.cursor.chainId = q.cursor.chainId ∧ r.cursor.subscriptionId = q.cursor.subscriptionId

structure TelemetryInv (windowMs : Int) (maxEntries : Nat) (s : TelemetryState) : Prop where
  stored : Stored s
  loads : ∀ l ∈ s.loads, ∀ r ∈ l.before, r.owner = l.owner →
    l.result = lastSaved l.before l.owner r.cursor.chainId r.cursor.subscriptionId
  absent : ∀ l ∈ s.loads, (∀ r ∈ l.before, r.owner ≠ l.owner) → l.result = none
  forward : ∀ r ∈ s.saves, Forward r.replaced r.cursor r.head
  replaced : ∀ front r back, s.saves = front ++ r :: back → ∀ c, r.replaced = some c →
    ∃ q ∈ front, q.owner = r.owner ∧ q.cursor = c
  window : s.log.windowMs = windowMs
  entries : s.log.maxEntries = maxEntries
  remembers : Remembers s.log s.clock s.admitted
  apart : Apart windowMs maxEntries s.admitted

variable {windowMs : Int} {maxEntries : Nat} {s s' : TelemetryState}

theorem TelemetryInv.lawful (h : TelemetryInv windowMs maxEntries s) :
    LawfulTelemetry windowMs maxEntries s :=
  ⟨h.loads, h.absent, h.forward, h.replaced, once_of_apart h.apart h.remembers.sorted⟩

/-- **What stands under an owner's text is the owner's last cursor**, where nobody is mistaken
    for it. -/
theorem Stored.get? (h : Stored s) {owner : Owner} (howner : Unmistaken s owner) :
    s.gateway.checkpoints.get? owner.key
      = ((s.saves.filter fun r => r.owner = owner).getLast?).map Save.cursor := by
  have hfilter : (s.saves.filter fun r => r.owner.key = owner.key)
      = s.saves.filter fun r => r.owner = owner := by
    refine List.filter_congr fun r hr => ?_
    exact decide_eq_decide.mpr ⟨howner r hr, fun heq => by rw [heq]⟩
  rw [h.last, hfilter]

theorem Stored.lastSaved (h : Stored s) {owner : Owner} {r : Save} (hr : r ∈ s.saves)
    (howner : r.owner = owner) :
    lastSaved s.saves owner r.cursor.chainId r.cursor.subscriptionId
      = ((s.saves.filter fun r => r.owner = owner).getLast?).map Save.cursor := by
  have hfilter : s.saves.filter (Save.IsFor owner r.cursor.chainId r.cursor.subscriptionId)
      = s.saves.filter fun r => r.owner = owner := by
    refine List.filter_congr fun q hq => ?_
    refine decide_eq_decide.mpr ⟨fun hfor => hfor.1, fun heq => ⟨heq, ?_⟩⟩
    exact h.single q hq r hr (heq.trans howner.symm)
  rw [Runtime.lastSaved, hfilter]

theorem getLast?_filter_concat {α : Type} (p : α → Bool) (as : List α) (a : α) :
    ((as ++ [a]).filter p).getLast? = if p a then some a else (as.filter p).getLast? := by
  rw [List.filter_append]
  cases ha : p a with
  | true => simp [ha]
  | false => simp [ha]

theorem Stored.save (h : Stored s) {owner : Owner} {cursor : EventCursor} {head : Nat}
    {replaced : Option EventCursor} (howner : Unmistaken s owner)
    (hsingle : ∀ r ∈ s.saves, r.owner = owner →
      r.cursor.chainId = cursor.chainId ∧ r.cursor.subscriptionId = cursor.subscriptionId)
    (hgateway : s'.gateway = ⟨s.gateway.checkpoints.set owner.key cursor⟩)
    (hsaves : s'.saves = s.saves ++ [⟨owner, cursor, head, replaced⟩]) : Stored s' := by
  constructor
  · intro key
    rw [hgateway, hsaves, getLast?_filter_concat, Map.get?_set]
    by_cases hkey : key = owner.key
    · rw [if_pos hkey, if_pos (decide_eq_true hkey.symm)]
      rfl
    · rw [if_neg hkey, if_neg (by simpa using Ne.symm hkey)]
      exact h.last key
  · rw [hsaves]
    intro r hr q hq hkey
    rcases List.mem_append.mp hr with hr | hr
    · rcases List.mem_append.mp hq with hq | hq
      · exact h.owned r hr q hq hkey
      · rw [List.mem_singleton.mp hq] at hkey ⊢
        exact howner r hr hkey
    · rcases List.mem_append.mp hq with hq | hq
      · rw [List.mem_singleton.mp hr] at hkey ⊢
        exact (howner q hq hkey.symm).symm
      · rw [List.mem_singleton.mp hr, List.mem_singleton.mp hq]
  · rw [hsaves]
    intro r hr q hq heq
    rcases List.mem_append.mp hr with hr | hr
    · rcases List.mem_append.mp hq with hq | hq
      · exact h.single r hr q hq heq
      · rw [List.mem_singleton.mp hq] at heq ⊢
        exact hsingle r hr heq
    · rcases List.mem_append.mp hq with hq | hq
      · rw [List.mem_singleton.mp hr] at heq ⊢
        obtain ⟨hchain, hsub⟩ := hsingle q hq heq.symm
        exact ⟨hchain.symm, hsub.symm⟩
      · rw [List.mem_singleton.mp hr, List.mem_singleton.mp hq]
        exact ⟨rfl, rfl⟩

/-! ## 6. Steps and runs -/

def TelemetryState.saved (s : TelemetryState) (owner : Owner) (cursor : EventCursor)
    (head : Nat) : TelemetryState :=
  { s with
    gateway := ⟨s.gateway.checkpoints.set owner.key cursor⟩
    saves := s.saves ++ [⟨owner, cursor, head, s.gateway.checkpoints.get? owner.key⟩] }

end ContextLock.Runtime
