/-
  Subject:   When the device is asked without a person.

  A session has an amount above which a person has to approve. The payload of a request is any
  JSON; only a number that compares as greater takes a Ledger action through the person.
-/
import ContextLock.Bridge.Revocation

namespace ContextLock.Bridge

open Js Evm Machine

/-! ## 1. Amounts -/

/-- `n` is at most the ceiling. -/
def atMost (n : Int) : Js.Num → Bool
  | .int ceiling => n ≤ ceiling
  | .inf negative => !negative
  | .nan => false

def statesWithin (permissions : BridgePermissions) (payload : Json) : Bool :=
  match property payload "amountUsdCents" with
  | .ok (some (.num (.int n))) => decide (0 ≤ n) && atMost n permissions.humanApprovalAboveUsdCents
  | _ => false

def statesAbove (permissions : BridgePermissions) (payload : Json) : Bool :=
  match property payload "amountUsdCents" with
  | .ok (some (.num amount)) => permissions.humanApprovalAboveUsdCents.lt amount
  | _ => false

def actionPermitted (permissions : BridgePermissions) (payload : Json) : Bool :=
  match textProperty payload "actionType" "" with
  | .ok actionType => actionType ∈ permissions.allowedLedgerActionTypes
  | .error _ => false

def BridgeOperation.ofLedger : BridgeOperation → Bool
  | .approveContextLockAction | .performProtectedBrokerAction => true
  | _ => false

/-- The session permits the request, which is for the device, and there is one. -/
def forDevice (deps : BridgeDeps) (session : BridgeSession) (operation : BridgeOperation)
    (payload : Json) : Bool :=
  operation.ofLedger && decide (operation ∈ session.permissions.allowedOperations) &&
    decide (session.projectId ∈ session.permissions.allowedProjects) &&
    actionPermitted session.permissions payload && deps.ledger

theorem amountAbove_isSome (session : BridgeSession) (payload : Json) :
    (amountAbove session payload).isSome = statesAbove session.permissions payload := by
  unfold amountAbove statesAbove
  cases hamount : property payload "amountUsdCents" with
  | error _ => rfl
  | ok value =>
    cases value with
    | none => rfl
    | some json =>
      cases json with
      | num amount =>
        by_cases habove : session.permissions.humanApprovalAboveUsdCents.lt amount = true
        · simp [habove]
        · simp [habove]
      | _ => rfl

/-! ## 2. Calls of the device -/

def Effect.ofDevice : Effect → Bool
  | .ledgerApprove _ _ => true
  | _ => false

/-- A person says yes. -/
def Effect.yes : (e : Effect) → Reply e → Bool
  | .askHuman _, .ok true => true
  | _, _ => false

/-- The device is called after a yes only. -/
def AsksFirst : Script Unit Effect Reply Thrown BridgeOutcome → Prop
  | .ok _ _ => True
  | .threw _ _ => True
  | .call _ e k => e.ofDevice = false ∧ ∀ r, e.yes r = false → AsksFirst (k r)

def RestAsksFirst : Script Unit Effect Reply Thrown BridgeOutcome → Prop
  | .ok _ _ => True
  | .threw _ _ => True
  | .call _ e k => ∀ r, e.yes r = false → AsksFirst (k r)

def startsDevice : Script Unit Effect Reply Thrown BridgeOutcome → Bool
  | .call _ e _ => e.ofDevice
  | _ => false

theorem AsksFirst.rest {p : Script Unit Effect Reply Thrown BridgeOutcome} (h : AsksFirst p) :
    RestAsksFirst p ∧ startsDevice p = false := by
  cases p with
  | ok _ _ => exact ⟨trivial, rfl⟩
  | threw _ _ => exact ⟨trivial, rfl⟩
  | call _ e k => exact ⟨h.2, h.1⟩

abbrev NoDevice {α : Type} (m : Handling α) : Prop :=
  Act.Keeps (fun u => u) (fun e => e.ofDevice = false) m

theorem asksFirst_of_keeps {p : Script Unit Effect Reply Thrown BridgeOutcome}
    (h : p.Keeps (fun u => u) (fun e => e.ofDevice = false) ()) : AsksFirst p := by
  induction p with
  | ok _ _ => trivial
  | threw _ _ => trivial
  | call _ e k ih => exact ⟨h.2.1, fun r _ => ih r (h.2.2 r)⟩

section Operations

variable {deps : BridgeDeps} {session : BridgeSession} {payload : Json}

theorem noDevice_textOf (name fallback : String) : NoDevice (textOf payload name fallback) := by
  unfold textOf
  cases textProperty payload name fallback with
  | ok s => exact .pure s
  | error _ => exact .fail _

theorem noDevice_awaited {e : Effect} (he : e.ofDevice = false) : NoDevice (awaited e) := by
  refine .bind (.call he) fun r => ?_
  cases r with
  | ok result => exact .pure result
  | error message => exact .fail _

theorem noDevice_refuse (reason : BridgeReason) (detail : String) :
    NoDevice (refuse reason detail) := .pure _

theorem noDevice_ite {p : Prop} [Decidable p] {m m' : Handling BridgeOutcome} (hm : NoDevice m)
    (hm' : NoDevice m') : NoDevice (if p then m else m') := by
  by_cases hp : p
  · rw [if_pos hp]
    exact hm
  · rw [if_neg hp]
    exact hm'

theorem performApiRequest_noDevice : NoDevice (performApiRequest deps session payload) := by
  refine .bind (noDevice_textOf _ _) fun credentialRef => .bind (noDevice_textOf _ _)
    fun operationId => .bind (noDevice_textOf _ _) fun url => ?_
  refine noDevice_ite (noDevice_refuse _ _) (noDevice_ite (noDevice_refuse _ _) ?_)
  refine .bind (noDevice_awaited rfl) fun (verdict : EgressVerdict) => ?_
  cases verdict with
  | error _ => exact noDevice_refuse _ _
  | ok parsed =>
    exact noDevice_ite (.bind (noDevice_awaited rfl) fun _ => .pure _) (noDevice_refuse _ _)

theorem simulateWorkflow_noDevice : NoDevice (simulateWorkflow deps session payload) :=
  .bind (noDevice_textOf _ _) fun _ => noDevice_ite (noDevice_refuse _ _)
    (noDevice_ite (.bind (noDevice_awaited rfl) fun _ => .pure _) (noDevice_refuse _ _))

theorem creStatus_noDevice : NoDevice (creStatus deps) :=
  noDevice_ite (.bind (noDevice_awaited rfl) fun _ => .pure _) (noDevice_refuse _ _)

theorem creBuild_noDevice : NoDevice (creBuild deps session payload) :=
  .bind (noDevice_textOf _ _) fun _ => noDevice_ite (noDevice_refuse _ _)
    (noDevice_ite (.bind (noDevice_awaited rfl) fun _ => .pure _) (noDevice_refuse _ _))

theorem creDeployWorkflow_noDevice : NoDevice (creDeployWorkflow deps session payload) := by
  refine .bind (noDevice_textOf _ _) fun workflow => .bind (noDevice_textOf _ _)
    fun wasmPath => .bind (noDevice_textOf _ _) fun registry => .bind (noDevice_textOf _ _)
    fun approved => ?_
  refine noDevice_ite (noDevice_refuse _ _) (noDevice_ite (noDevice_refuse _ _)
    (noDevice_ite (noDevice_refuse _ _) (noDevice_ite ?_ (noDevice_refuse _ _))))
  refine .bind (noDevice_awaited rfl) fun (actual : String) => ?_
  exact noDevice_ite (noDevice_refuse _ _) (.bind (noDevice_awaited rfl) fun _ => .pure _)

theorem creLifecycle_noDevice : NoDevice (creLifecycle deps session payload) :=
  .bind (noDevice_textOf _ _) fun _ => .bind (noDevice_textOf _ _) fun _ =>
    noDevice_ite (noDevice_refuse _ _) (noDevice_ite (noDevice_refuse _ _)
      (noDevice_ite (.bind (noDevice_awaited rfl) fun _ => .pure _) (noDevice_refuse _ _)))

theorem rest_of_noDevice {m : Handling BridgeOutcome} (h : NoDevice m) :
    RestAsksFirst (m ()) ∧ startsDevice (m ()) = false :=
  (asksFirst_of_keeps (h ())).rest

theorem ledgerApprove_rest (actionType : String) :
    RestAsksFirst (ledgerApprove deps actionType payload ()) ∧
      startsDevice (ledgerApprove deps actionType payload ()) = deps.ledger := by
  unfold ledgerApprove
  by_cases hledger : deps.ledger = true
  · rw [if_pos hledger, hledger]
    refine ⟨fun r _ => ?_, rfl⟩
    cases r with
    | ok _ => trivial
    | error _ => trivial
  · rw [if_neg hledger]
    exact ⟨trivial, (Bool.eq_false_of_not_eq_true hledger).symm⟩

theorem askHuman_rest (prompt : ApprovalPrompt) {f : Bool → Handling BridgeOutcome}
    (hf : AsksFirst (f false ())) :
    AsksFirst ((awaited (.askHuman prompt) >>= f) ()) := by
  refine ⟨rfl, fun r hno => ?_⟩
  cases r with
  | error message => trivial
  | ok approved =>
    cases approved with
    | false => exact hf
    | true => cases hno

theorem ledgerAction_rest {operation : BridgeOperation} {now : Nat} :
    RestAsksFirst (ledgerAction deps session operation payload now ()) ∧
      startsDevice (ledgerAction deps session operation payload now ()) =
        (actionPermitted session.permissions payload && deps.ledger &&
          !statesAbove session.permissions payload) := by
  rw [← amountAbove_isSome]
  unfold ledgerAction actionPermitted
  cases haction : textProperty payload "actionType" "" with
  | error e =>
    have happ : textOf payload "actionType" "" () = .threw .typeError () := by
      simp only [textOf, haction]
      rfl
    rw [Act.bind_apply, happ]
    exact ⟨trivial, rfl⟩
  | ok actionType =>
    have happ : textOf payload "actionType" "" () = .ok actionType () := by
      simp only [textOf, haction]
      rfl
    rw [Act.bind_apply, happ, Script.bind_ok]
    by_cases hpermitted : actionType ∈ session.permissions.allowedLedgerActionTypes
    swap
    · rw [if_pos hpermitted]
      exact ⟨trivial, by simp [hpermitted, notPermitted, refuse, startsDevice]⟩
    rw [if_neg (not_not.mpr hpermitted)]
    cases hamount : amountAbove session payload with
    | none =>
      obtain ⟨hrest, hstarts⟩ := @ledgerApprove_rest deps payload actionType
      exact ⟨hrest, by simpa [hpermitted] using hstarts⟩
    | some amount =>
      have hasks : AsksFirst ((if deps.askHuman = true then (do
            let policyReason ← textOf payload "policyReason" "above the bridge's autonomous ceiling"
            let approved : Bool ← awaited (.askHuman
              { projectId := session.projectId, operation := operation.text, what := actionType,
                amountUsdCents := amount, destination := destinationOf payload, policyReason,
                expiresAtMs := now + 120000 })
            if approved then ledgerApprove deps actionType payload
            else refuse .APPROVAL_REQUIRED "the person at the keyboard declined")
          else refuse .APPROVAL_REQUIRED
            "this operation needs a person and no approval channel is available"
            : Handling BridgeOutcome) ()) := by
        by_cases hask : deps.askHuman = true
        swap
        · rw [if_neg hask]
          trivial
        rw [if_pos hask]
        cases hreason : textProperty payload "policyReason"
            "above the bridge's autonomous ceiling" with
        | error e =>
          have hthrew : textOf payload "policyReason" "above the bridge's autonomous ceiling" ()
              = .threw .typeError () := by
            simp only [textOf, hreason]
            rfl
          rw [Act.bind_apply, hthrew]
          trivial
        | ok reason =>
          have hok : textOf payload "policyReason" "above the bridge's autonomous ceiling" ()
              = .ok reason () := by
            simp only [textOf, hreason]
            rfl
          rw [Act.bind_apply, hok, Script.bind_ok]
          exact askHuman_rest _ trivial
      obtain ⟨hrest, hstarts⟩ := hasks.rest
      exact ⟨hrest, by simpa using hstarts⟩

/-- **Every operation** calls the device at once, where it may, or after a yes only. -/
theorem perform_rest {operation : BridgeOperation} {now : Nat} :
    RestAsksFirst (perform deps session operation payload now ()) ∧
      startsDevice (perform deps session operation payload now ()) =
        (forDevice deps session operation payload &&
          !statesAbove session.permissions payload) := by
  unfold perform forDevice
  by_cases hop : operation ∉ session.permissions.allowedOperations
  · rw [if_pos hop]
    exact ⟨trivial, by simp [hop, refuse, startsDevice]⟩
  rw [if_neg hop]
  by_cases hproject : session.projectId ∉ session.permissions.allowedProjects
  · rw [if_pos hproject]
    exact ⟨trivial, by simp [hproject, refuse, startsDevice]⟩
  rw [if_neg hproject]
  have hpermitted : decide (operation ∈ session.permissions.allowedOperations) = true ∧
      decide (session.projectId ∈ session.permissions.allowedProjects) = true :=
    ⟨decide_eq_true (not_not.mp hop), decide_eq_true (not_not.mp hproject)⟩
  rw [hpermitted.1, hpermitted.2, Bool.and_true, Bool.and_true]
  cases operation with
  | performApiRequest => exact rest_of_noDevice performApiRequest_noDevice
  | simulateWorkflow => exact rest_of_noDevice simulateWorkflow_noDevice
  | status => exact rest_of_noDevice creStatus_noDevice
  | buildWorkflow => exact rest_of_noDevice creBuild_noDevice
  | deployWorkflow => exact rest_of_noDevice creDeployWorkflow_noDevice
  | workflowLifecycle => exact rest_of_noDevice creLifecycle_noDevice
  | approveContextLockAction => exact ledgerAction_rest
  | performProtectedBrokerAction => exact ledgerAction_rest

end Operations

/-! ## 3. The daemon and who said yes -/

/-- The daemon, and the calls for which a person has said yes. -/
structure Watched where
  daemon : Daemon
  approved : List Nat

def Watched.start : Watched := ⟨.start, []⟩

def saysYes (d : Daemon) : Move → List Nat
  | .answer call reply =>
    match d.waiting.find? (·.call = call) with
    | none => []
    | some w =>
      match w.script with
      | .call _ e _ => if e.yes (reply e) then [call] else []
      | _ => []
  | _ => []

def watchedStep (deps : BridgeDeps) (w : Watched) (a : Move) : Option Watched :=
  (step deps w.daemon a).map fun d => ⟨d, saysYes w.daemon a ++ w.approved⟩

def StatedBy (d : Daemon) (call : Nat) : Prop :=
  ∃ i signed r now session, Event.admitted call i signed r now ∈ d.history ∧
    d.bridge.opened[i]? = some session ∧ statesWithin session.permissions signed.payload = true

/-- **The ceiling is kept**: the device was called after a yes, or for such a payload. -/
def CeilingKept (w : Watched) : Prop :=
  ∀ call actionType digest, .started call (.ledgerApprove actionType digest) ∈ w.daemon.history →
    call ∈ w.approved ∨ StatedBy w.daemon call

/-- The move admits no request for the device whose payload states neither an amount from zero to
    the ceiling nor one above it. -/
def Meets (deps : BridgeDeps) (w : Watched) : Move → Bool
  | .handle signed clock =>
    match w.daemon.bridge.authenticate signed (clock 0) with
    | .error _ => true
    | .ok (_, _, session, r) =>
      match BridgeOperation.ofText? r.operationType with
      | none => true
      | some operation =>
        !forDevice deps session operation signed.payload ||
          statesWithin session.permissions signed.payload ||
          statesAbove session.permissions signed.payload
  | _ => true

section Steps

variable {deps : BridgeDeps} {d d' : Daemon} {w w' : Watched} {a : Move}

/-- What the condition says of a request that is admitted. -/
theorem meets_handle {signed : SignedBridgeRequest} {clock : Nat → Nat} {b : LocalBridge} {i : Nat}
    {session : BridgeSession} {r : BridgeRequest} {operation : BridgeOperation}
    (ha : w.daemon.bridge.authenticate signed (clock 0) = .ok (b, i, session, r))
    (hop : BridgeOperation.ofText? r.operationType = some operation) :
    Meets deps w (.handle signed clock) = (!forDevice deps session operation signed.payload ||
      statesWithin session.permissions signed.payload ||
      statesAbove session.permissions signed.payload) := by
  simp only [Meets, ha, hop]

theorem ofText?_text (operation : BridgeOperation) :
    BridgeOperation.ofText? operation.text = some operation := by
  cases operation <;> decide

/-- What a call that has run to its next `await` adds to the history. -/
theorem mem_settle_iff {x : Waiting} {ev : Event} :
    ev ∈ (d.settle x).history ↔
      ev ∈ d.history ∨ ∃ e k, x.script = .call () e k ∧ ev = .started x.call e := by
  unfold Daemon.settle
  cases hscript : x.script with
  | ok _ _ => simp
  | threw _ _ => simp
  | call u e k =>
    simp only [List.mem_cons]
    constructor
    · intro h
      rcases h with h | h
      · exact .inr ⟨e, k, rfl, h⟩
      · exact .inl h
    · intro h
      rcases h with h | ⟨e', k', heq, h⟩
      · exact .inr h
      · cases heq
        exact .inl h

theorem mem_waiting_settle {x y : Waiting} (h : y ∈ (d.settle x).waiting) :
    y ∈ d.waiting ∨ y = x := by
  unfold Daemon.settle at h
  cases hscript : x.script with
  | ok _ _ | threw _ _ =>
    rw [hscript] at h
    exact .inl h
  | call u e k =>
    rw [hscript] at h
    exact (List.mem_cons.mp h).symm

theorem settle_bridge (x : Waiting) : (d.settle x).bridge = d.bridge := by
  unfold Daemon.settle
  cases x.script <;> rfl

theorem settle_calls (x : Waiting) : (d.settle x).calls = d.calls := by
  unfold Daemon.settle
  cases x.script <;> rfl

section Enter

variable {b : LocalBridge} {x : Waiting} {r : BridgeRequest} {now : Nat}

theorem enter_bridge : (d.enter b x r now).bridge = b := settle_bridge x

theorem enter_calls : (d.enter b x r now).calls = d.calls + 1 := settle_calls x

theorem mem_enter_iff {ev : Event} :
    ev ∈ (d.enter b x r now).history ↔
      ev ∈ .admitted x.call x.session x.signed r now :: d.history ∨
        ∃ e k, x.script = .call () e k ∧ ev = .started x.call e :=
  mem_settle_iff

end Enter

/-- A step loses no event, no session's permissions and no number. -/
structure Grows (d d' : Daemon) : Prop where
  history : ∀ ev ∈ d.history, ev ∈ d'.history
  opened : ∀ (i : Nat) s, d.bridge.opened[i]? = some s →
    ∃ s', d'.bridge.opened[i]? = some s' ∧ s'.permissions = s.permissions
  calls : d.calls ≤ d'.calls

theorem Grows.of_bridge (hhistory : ∀ ev ∈ d.history, ev ∈ d'.history)
    (hbridge : d'.bridge.opened = d.bridge.opened) (hcalls : d.calls ≤ d'.calls) : Grows d d' :=
  ⟨hhistory, fun _ s hs => ⟨s, by rw [hbridge, hs], rfl⟩, hcalls⟩

theorem grows_of_stepped (h : Stepped deps d a d') : Grows d d' := by
  cases h with
  | issued | unpaired | unknown => exact .of_bridge (fun _ h => h) rfl le_rfl
  | refused => exact .of_bridge (fun _ h => h) rfl (Nat.le_succ _)
  | paired hp =>
    obtain ⟨p, -, -, -, -, rfl⟩ := LocalBridge.pair_eq_ok hp
    refine ⟨fun _ h => List.mem_cons_of_mem _ h, fun i s hs => ⟨s, ?_, rfl⟩, le_rfl⟩
    exact Machine.getElem?_concat_of_some hs
  | @revoked bridgeId now b i hr =>
    refine ⟨fun _ h => List.mem_cons_of_mem _ h, fun j s hs => ?_, le_rfl⟩
    unfold LocalBridge.revoke at hr
    cases hget : d.bridge.sessions.get? bridgeId with
    | none =>
      rw [hget] at hr
      cases hr
    | some k =>
      rw [hget] at hr
      obtain ⟨rfl, -⟩ := Prod.mk.inj hr
      by_cases hkj : k = j
      · subst hkj
        exact ⟨{ s with revokedAtMs := some now }, by simp [hs], rfl⟩
      · exact ⟨s, by simp [hkj, hs], rfl⟩
  | @admitted signed clock b i session r operation ha hop =>
    obtain ⟨-, rfl⟩ := LocalBridge.authenticate_eq_ok ha
    refine .of_bridge (fun ev hev => mem_enter_iff.mpr (.inl (List.mem_cons_of_mem _ hev))) ?_ ?_
    · rw [enter_bridge]
    · rw [enter_calls]
      exact Nat.le_succ _
  | answered hfind hscript =>
    refine .of_bridge (fun ev hev => mem_settle_iff.mpr (.inl hev)) ?_ ?_
    · rw [settle_bridge]
    · rw [settle_calls]

theorem StatedBy.grows {call : Nat} (h : StatedBy d call) (hgrows : Grows d d') :
    StatedBy d' call := by
  obtain ⟨i, signed, r, now, session, hadmitted, hopened, hwithin⟩ := h
  obtain ⟨session', hopened', hpermissions⟩ := hgrows.opened i session hopened
  exact ⟨i, signed, r, now, session', hgrows.history _ hadmitted, hopened',
    by rw [hpermissions, hwithin]⟩

/-- **A request that is handled** is admitted for an operation, or changes nothing but the number
    of calls and meets the condition. -/
theorem handle_stepped {signed : SignedBridgeRequest} {clock : Nat → Nat}
    (h : step deps w.daemon (.handle signed clock) = some d') :
    (∃ b i session r operation,
      w.daemon.bridge.authenticate signed (clock 0) = .ok (b, i, session, r) ∧
      BridgeOperation.ofText? r.operationType = some operation ∧
      d' = w.daemon.enter b ⟨w.daemon.calls, i, signed,
        perform deps session operation signed.payload (clock 1) ()⟩ r (clock 0)) ∨
    (d' = { w.daemon with calls := w.daemon.calls + 1 } ∧
      Meets deps w (.handle signed clock) = true) := by
  by_cases hadmitted : ∃ b i session r operation,
      w.daemon.bridge.authenticate signed (clock 0) = .ok (b, i, session, r) ∧
      BridgeOperation.ofText? r.operationType = some operation
  · obtain ⟨b, i, session, r, operation, ha, hop⟩ := hadmitted
    have hstep := @step_of_admitted deps _ _ _ _ _ _ _ _ ha hop
    rw [hstep] at h
    exact .inl ⟨b, i, session, r, operation, ha, hop, (Option.some.inj h).symm⟩
  · refine .inr ⟨?_, ?_⟩
    · cases stepped_of_step h with
      | refused => rfl
      | @admitted _ _ b i session r operation ha hop =>
        exact absurd ⟨b, i, session, r, operation, ha, hop ▸ ofText?_text operation⟩ hadmitted
    · cases ha : w.daemon.bridge.authenticate signed (clock 0) with
      | error _ => simp only [Meets, ha]
      | ok admitted =>
        obtain ⟨b, i, session, r⟩ := admitted
        cases hop : BridgeOperation.ofText? r.operationType with
        | none => simp only [Meets, ha, hop]
        | some operation => exact absurd ⟨b, i, session, r, operation, ha, hop⟩ hadmitted

/-- **What every run keeps**: the invariant of the daemon; of every call that waits, the device is
    not called but after a yes, unless one was said; who said yes is known. -/
structure Watch (deps : BridgeDeps) (w : Watched) : Prop where
  inv : Inv deps w.daemon
  rest : ∀ x ∈ w.daemon.waiting, RestAsksFirst x.script ∨ x.call ∈ w.approved
  known : ∀ call ∈ w.approved, call < w.daemon.calls

theorem watchedStep_eq_some :
    watchedStep deps w a = some w' ↔
      ∃ d, step deps w.daemon a = some d ∧ w' = ⟨d, saysYes w.daemon a ++ w.approved⟩ := by
  unfold watchedStep
  rw [Option.map_eq_some_iff]
  exact exists_congr fun d => and_congr_right fun _ => eq_comm

/-- An answer to a call that waits. -/
theorem saysYes_answer {call : Nat} {reply : (e : Effect) → Reply e} {x : Waiting} {u : Unit}
    {e : Effect} {k : Reply e → Script Unit Effect Reply Thrown BridgeOutcome}
    (hfind : d.waiting.find? (·.call = call) = some x) (hscript : x.script = .call u e k) :
    saysYes d (.answer call reply) = if e.yes (reply e) then [call] else [] := by
  simp only [saysYes, hfind, hscript]

/-- The rest of a call once it is answered: a yes, or what asks first. -/
theorem Watch.answered {call : Nat} {reply : (e : Effect) → Reply e} {x : Waiting} {u : Unit}
    {e : Effect} {k : Reply e → Script Unit Effect Reply Thrown BridgeOutcome} (h : Watch deps w)
    (hfind : w.daemon.waiting.find? (·.call = call) = some x) (hscript : x.script = .call u e k) :
    x.call ∈ saysYes w.daemon (.answer call reply) ++ w.approved ∨ AsksFirst (k (reply e)) := by
  have hcall : x.call = call := by simpa using List.find?_some hfind
  rw [saysYes_answer hfind hscript]
  by_cases hyes : e.yes (reply e) = true
  · rw [if_pos hyes, hcall]
    exact .inl List.mem_cons_self
  · rcases h.rest x (List.mem_of_find?_eq_some hfind) with hrest | happroved
    · rw [hscript] at hrest
      exact .inr (hrest _ (Bool.eq_false_of_not_eq_true hyes))
    · exact .inl (List.mem_append_right _ happroved)

/-- **Every step keeps it.** -/
theorem watch_step (h : Watch deps w) (hstep : watchedStep deps w a = some w') : Watch deps w' := by
  obtain ⟨d', hd', rfl⟩ := watchedStep_eq_some.mp hstep
  have hstepped := stepped_of_step hd'
  have hgrows := grows_of_stepped hstepped
  have hknown : ∀ call ∈ w.approved, call < d'.calls :=
    fun call hcall => lt_of_lt_of_le (h.known call hcall) hgrows.calls
  have hinv := inv_step h.inv hstepped
  cases hstepped with
  | issued | unpaired | paired | unknown | revoked | refused => exact ⟨hinv, h.rest, hknown⟩
  | admitted ha hop =>
    refine ⟨hinv, fun x hx => ?_, hknown⟩
    rcases mem_waiting_settle hx with hold | rfl
    · exact h.rest x hold
    · exact .inl perform_rest.1
  | @answered call reply x u e k hfind hscript =>
    refine ⟨hinv, fun y hy => ?_, fun c hc => ?_⟩
    · rcases mem_waiting_settle hy with hold | rfl
      · rcases h.rest y (List.mem_of_mem_filter hold) with hrest | happroved
        · exact .inl hrest
        · exact .inr (List.mem_append_right _ happroved)
      · exact (h.answered hfind hscript).symm.imp_left fun hasks => hasks.rest.1
    · rw [saysYes_answer hfind hscript] at hc
      rcases List.mem_append.mp hc with hnew | hold
      · have hcall : x.call = call := by simpa using List.find?_some hfind
        have hc' : c = x.call := by
          by_cases hyes : e.yes (reply e) = true
          · rw [if_pos hyes, List.mem_singleton] at hnew
            rw [hnew, hcall]
          · rw [if_neg hyes] at hnew
            cases hnew
        obtain ⟨r, n, hadmitted⟩ := (h.inv.held x (List.mem_of_find?_eq_some hfind)).admitted
        rw [hc']
        exact lt_of_lt_of_le (h.inv.numbered _ _ _ _ _ hadmitted) hgrows.calls
      · exact hknown c hold

theorem CeilingKept.grows {call : Nat} {actionType digest : String} (h : CeilingKept w)
    (hgrows : Grows w.daemon w'.daemon) (happroved : ∀ c ∈ w.approved, c ∈ w'.approved)
    (hcalled : .started call (.ledgerApprove actionType digest) ∈ w.daemon.history) :
    call ∈ w'.approved ∨ StatedBy w'.daemon call :=
  (h call actionType digest hcalled).imp (happroved call) fun hstated => hstated.grows hgrows

theorem startsDevice_iff {p : Script Unit Effect Reply Thrown BridgeOutcome} :
    startsDevice p = true ↔
      ∃ actionType digest k, p = .call () (.ledgerApprove actionType digest) k := by
  cases p with
  | ok _ _ => simp [startsDevice]
  | threw _ _ => simp [startsDevice]
  | call u e k =>
    constructor
    · intro h
      cases e with
      | ledgerApprove actionType digest => exact ⟨actionType, digest, k, rfl⟩
      | _ => cases h
    · intro h
      obtain ⟨actionType, digest, k', h⟩ := h
      cases h
      rfl

/-- **An admission** keeps the ceiling exactly where it meets the condition. -/
theorem kept_admitted_iff {signed : SignedBridgeRequest} {clock : Nat → Nat} {b : LocalBridge}
    {i : Nat} {session : BridgeSession} {r : BridgeRequest} {operation : BridgeOperation}
    (h : Watch deps w) (hkept : CeilingKept w)
    (ha : w.daemon.bridge.authenticate signed (clock 0) = .ok (b, i, session, r))
    (hop : BridgeOperation.ofText? r.operationType = some operation)
    (hdaemon : w'.daemon = w.daemon.enter b ⟨w.daemon.calls, i, signed,
      perform deps session operation signed.payload (clock 1) ()⟩ r (clock 0))
    (happroved : w'.approved = w.approved) (hgrows : Grows w.daemon w'.daemon) :
    CeilingKept w' ↔ Meets deps w (.handle signed clock) = true := by
  obtain ⟨hadm, hb⟩ := LocalBridge.authenticate_eq_ok ha
  have hopened : w'.daemon.bridge.opened[i]? = some session := by
    rw [hdaemon, enter_bridge, hb]
    exact hadm.object
  have hadmitted : Event.admitted w.daemon.calls i signed r (clock 0) ∈ w'.daemon.history := by
    rw [hdaemon]
    exact mem_enter_iff.mpr (.inl List.mem_cons_self)
  have hmeets := @meets_handle deps w signed clock b i session r operation ha hop
  have hstarts := (@perform_rest deps session signed.payload operation (clock 1)).2
  rw [hmeets]
  constructor
  · intro hkept'
    by_contra hnot
    simp only [Bool.or_eq_true, Bool.not_eq_true', not_or, Bool.not_eq_false,
      Bool.not_eq_true] at hnot
    obtain ⟨⟨hdevice, hwithin⟩, habove⟩ := hnot
    rw [hdevice, habove] at hstarts
    obtain ⟨actionType, digest, k, hscript⟩ := startsDevice_iff.mp hstarts
    have hcalled : Event.started w.daemon.calls (.ledgerApprove actionType digest)
        ∈ w'.daemon.history := by
      rw [hdaemon]
      exact mem_enter_iff.mpr (.inr ⟨_, k, hscript, rfl⟩)
    rcases hkept' _ _ _ hcalled with hyes | hstated
    · -- nobody has said yes for a call that is new
      rw [happroved] at hyes
      exact absurd (h.known _ hyes) (lt_irrefl _)
    · obtain ⟨j, signed', r', now', session', hev, hopened', hwithin'⟩ := hstated
      have hsame : j = i ∧ signed' = signed := by
        rw [hdaemon] at hev
        rcases mem_enter_iff.mp hev with hev | ⟨_, _, _, heq⟩
        · rcases List.mem_cons.mp hev with heq | hold
          · obtain ⟨-, hj, hsigned, -, -⟩ := Event.admitted.inj heq
            exact ⟨hj, hsigned⟩
          · exact absurd (h.inv.numbered _ _ _ _ _ hold) (lt_irrefl _)
        · cases heq
      obtain ⟨rfl, rfl⟩ := hsame
      rw [hopened, Option.some.injEq] at hopened'
      rw [← hopened', hwithin] at hwithin'
      cases hwithin'
  · intro hcondition call actionType digest hcalled
    have hcases : Event.started call (.ledgerApprove actionType digest) ∈ w.daemon.history ∨
        (call = w.daemon.calls ∧ startsDevice
          (perform deps session operation signed.payload (clock 1) ()) = true) := by
      rw [hdaemon] at hcalled
      rcases mem_enter_iff.mp hcalled with hold | ⟨e, k, hscript, heq⟩
      · rcases List.mem_cons.mp hold with heq | hold
        · cases heq
        · exact .inl hold
      · obtain ⟨rfl, rfl⟩ := Event.started.inj heq
        exact .inr ⟨rfl, startsDevice_iff.mpr ⟨_, _, k, hscript⟩⟩
    rcases hcases with hold | ⟨rfl, hnew⟩
    · exact hkept.grows hgrows (fun c hc => by rw [happroved]; exact hc) hold
    · rw [hstarts, Bool.and_eq_true, Bool.not_eq_true'] at hnew
      rw [hnew.1, hnew.2, Bool.not_true, Bool.false_or, Bool.or_false] at hcondition
      exact .inr ⟨i, signed, r, clock 0, session, hadmitted, hopened, hcondition⟩

/-- **One step.** After a run that has kept the ceiling, the next step keeps it exactly when it
    meets the condition. -/
theorem ceilingKept_step_iff (h : Watch deps w) (hkept : CeilingKept w)
    (hstep : watchedStep deps w a = some w') : CeilingKept w' ↔ Meets deps w a = true := by
  obtain ⟨d', hd', rfl⟩ := watchedStep_eq_some.mp hstep
  have hstepped := stepped_of_step hd'
  have hgrows := grows_of_stepped hstepped
  have happroved : ∀ c ∈ w.approved, c ∈ saysYes w.daemon a ++ w.approved :=
    fun c hc => List.mem_append_right _ hc
  -- a move that calls nothing
  have hquiet : (∀ call e, Event.started call e ∈ d'.history →
      Event.started call e ∈ w.daemon.history) →
      CeilingKept ⟨d', saysYes w.daemon a ++ w.approved⟩ := by
    intro hsame call actionType digest hcalled
    exact hkept.grows hgrows happroved (hsame _ _ hcalled)
  cases a with
  | createPairingCode userId projectId ttlMs code now =>
    refine iff_of_true (hquiet ?_) rfl
    cases hstepped
    exact fun _ _ hin => hin
  | pair code permissions sessionTtlMs bridgeId key clock =>
    refine iff_of_true (hquiet ?_) rfl
    cases hstepped with
    | unpaired => exact fun _ _ hin => hin
    | paired => exact fun _ _ hin => by simpa using hin
  | revoke bridgeId now =>
    refine iff_of_true (hquiet ?_) rfl
    cases hstepped with
    | unknown => exact fun _ _ hin => hin
    | revoked => exact fun _ _ hin => by simpa using hin
  | handle signed clock =>
    rcases handle_stepped hd' with ⟨b, i, session, r, operation, ha, hop, hdaemon⟩ | ⟨hd, hmeets⟩
    · exact kept_admitted_iff h hkept ha hop hdaemon rfl hgrows
    · refine iff_of_true (hquiet ?_) hmeets
      rw [hd]
      exact fun _ _ hin => hin
  | answer call reply =>
    refine iff_of_true ?_ rfl
    cases hstepped with
    | @answered _ _ x u e k hfind hscript =>
      intro c actionType digest hcalled
      rcases mem_settle_iff.mp hcalled with hold | ⟨e', k', hscript', heq⟩
      · exact hkept.grows hgrows happroved hold
      · obtain ⟨rfl, rfl⟩ := Event.started.inj heq
        rcases @Watch.answered deps w call reply x u e k h hfind hscript with hyes | hasks
        · exact .inl hyes
        · have hnext : k (reply e) = .call () (.ledgerApprove actionType digest) k' := hscript'
          rw [hnext] at hasks
          cases hasks.1

end Steps

/-! ## 4. Whole runs -/

theorem watch_start (deps : BridgeDeps) : Watch deps .start :=
  ⟨.start, fun x hx => (by cases hx), fun c hc => (by cases hc)⟩

/-- **When the ceiling is kept**: in every run that admits no permitted request for the device whose
    payload states neither an amount from zero to the ceiling nor one above it; any other such
    request has the device called without a person. -/
theorem ceiling_kept (deps : BridgeDeps) :
    (∀ w, Reaches (guarded (watchedStep deps) fun w a => Meets deps w a = true) .start w →
      CeilingKept w) ∧
    ∀ w a w', Reaches (watchedStep deps) .start w → CeilingKept w →
      watchedStep deps w a = some w' → (CeilingKept w' ↔ Meets deps w a = true) := by
  constructor
  · intro w h
    have hstart : CeilingKept .start := fun call actionType digest hcalled => by cases hcalled
    have hrun : Watch deps w ∧ CeilingKept w := by
      refine h.invariant (P := fun w => Watch deps w ∧ CeilingKept w) (fun w a w' hw hstep => ?_)
        ⟨watch_start deps, hstart⟩
      obtain ⟨hmeets, hstep⟩ := guarded_eq_some.mp hstep
      exact ⟨watch_step hw.1 hstep, (ceilingKept_step_iff hw.1 hw.2 hstep).mpr hmeets⟩
    exact hrun.2
  · intro w a w' h hkept hstep
    have hwatch : Watch deps w :=
      h.invariant (fun _ _ _ hw hs => watch_step hw hs) (watch_start deps)
    exact ceilingKept_step_iff hwatch hkept hstep

/-! ## 5. A person who is asked, and one who is not -/

/-- The daemon with one session, and nobody asked. -/
def pairedWatched : Watched := ⟨pairedDaemon, []⟩

theorem pairedWatched_reached :
    Reaches (guarded (watchedStep walletDeps) fun w a => Meets walletDeps w a = true) .start
      pairedWatched := by
  have hmoves : execute (guarded (watchedStep walletDeps) fun w a => Meets walletDeps w a = true)
      .start pairingMoves = some pairedWatched := rfl
  exact reaches_of_execute hmoves

/-- A request above the ceiling waits for the person. -/
theorem ceiling_kept_asked : ∃ w,
    Reaches (guarded (watchedStep walletDeps) fun w a => Meets walletDeps w a = true) .start w ∧
      w.daemon = askedDaemon ∧ CeilingKept w := by
  have hop : BridgeOperation.ofText? transferRequest.operationType =
      some .approveContextLockAction := by decide
  have ha := LocalBridge.authenticate_of_admitted transfer_admitted
  have hmeets : Meets walletDeps pairedWatched (.handle signedTransfer fun _ => 1) = true := by
    have hpayload : signedTransfer.payload = transferPayload := rfl
    have habove : statesAbove walletSession.permissions transferPayload = true := by decide
    rw [meets_handle ha hop, hpayload, habove, Bool.or_true]
  have hstep : watchedStep walletDeps pairedWatched (.handle signedTransfer fun _ => 1)
      = some ⟨askedDaemon, []⟩ := by
    rw [watchedStep_eq_some]
    exact ⟨askedDaemon, askedDaemon_step, rfl⟩
  have hreach : Reaches (guarded (watchedStep walletDeps) fun w a => Meets walletDeps w a = true)
      .start ⟨askedDaemon, []⟩ :=
    pairedWatched_reached.tail ⟨_, guarded_eq_some.mpr ⟨hmeets, hstep⟩⟩
  exact ⟨⟨askedDaemon, []⟩, hreach, rfl, (ceiling_kept walletDeps).1 _ hreach⟩

def barePayload : Json := .obj [("actionType", .str "APPROVE_TRANSFER")]

def bareRequest : BridgeRequest := { transferRequest with payloadHash := payloadHash barePayload }

def signedBare : SignedBridgeRequest := bareRequest.signedBy walletKey barePayload

theorem bareRequest_parsed : BridgeRequest.parse signedBare.request = .ok bareRequest :=
  BridgeRequest.parse_signedBy walletKey barePayload rfl (by decide) (digestText_sha256Hex _)
    (by decide)

theorem bare_admitted :
    pairedDaemon.bridge.Admitted signedBare 1 0 walletSession bareRequest where
  parsed := bareRequest_parsed
  found := transfer_admitted.found
  object := rfl
  unrevoked := rfl
  unexpired := by decide
  verified := signedWith_sign _ _
  user := rfl
  project := rfl
  current := by decide
  payload := rfl
  unseen := transfer_admitted.unseen

/-- **A device asked without a person**: the payload states no amount, and nobody has said yes. -/
theorem unstated_amount_approved : ∃ w call actionType digest,
    Reaches (watchedStep walletDeps) .start w ∧
      .started call (.ledgerApprove actionType digest) ∈ w.daemon.history ∧
      w.approved = [] ∧ statesWithin walletPermissions barePayload = false ∧ ¬ CeilingKept w := by
  have hop : BridgeOperation.ofText? bareRequest.operationType =
      some .approveContextLockAction := by decide
  have ha := LocalBridge.authenticate_of_admitted bare_admitted
  have hstep : watchedStep walletDeps pairedWatched (.handle signedBare fun _ => 1) = some _ :=
    watchedStep_eq_some.mpr ⟨_, step_of_admitted ha hop, rfl⟩
  have hwithin : statesWithin walletPermissions barePayload = false := by decide
  have hstarts : startsDevice
      (perform walletDeps walletSession .approveContextLockAction barePayload 1 ()) = true := by
    rw [perform_rest.2]
    decide
  have hmoves : execute (watchedStep walletDeps) .start pairingMoves = some pairedWatched := rfl
  have hpaired := reaches_of_execute hmoves
  obtain ⟨actionType, digest, k, hscript⟩ := startsDevice_iff.mp hstarts
  refine ⟨_, 0, actionType, digest, hpaired.tail ⟨_, hstep⟩, ?_, rfl, hwithin, fun hkept => ?_⟩
  · exact mem_enter_iff.mpr (.inr ⟨_, k, hscript, rfl⟩)
  · have hpairedKept : CeilingKept pairedWatched := by
      intro call actionType digest hcalled
      rcases List.mem_cons.mp hcalled with heq | hnil
      · cases heq
      · cases hnil
    have hwatch : Watch walletDeps pairedWatched :=
      hpaired.invariant (fun _ _ _ hw hs => watch_step hw hs) (watch_start walletDeps)
    have hmeets := (ceilingKept_step_iff hwatch hpairedKept hstep).mp hkept
    have hfails : Meets walletDeps pairedWatched (.handle signedBare fun _ => 1) = false := by
      have hpayload : signedBare.payload = barePayload := rfl
      rw [meets_handle ha hop, hpayload]
      decide
    rw [hfails] at hmeets
    cases hmeets

end ContextLock.Bridge
