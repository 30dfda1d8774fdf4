/-
  Subject:   `OrgBudgetLedger`: reserve, settle, release and revoke over the spend table.

  Every call is one transaction that takes the write lock at its start, so calls are serial;
  the clock is read by the calls that read it in the source, twice by `reserve`. A call that
  throws rolls back and leaves the tables as they were.
-/
import ContextLock.Accounting.Window
import ContextLock.Evm.Host

namespace ContextLock.Org

/-! ## 1. The organization, as the ledger reads it -/

inductive ExecutionClass where
  | NONE
  | READ_ONLY
  | EXECUTE
  deriving DecidableEq

structure OrgAgent where
  id : String
  executionClass : ExecutionClass
  escalationMaxUsdCents : Option Nat
  dailyMaxUsdCents : Option Nat

structure AggregateLimit where
  maxUsdCents : Nat
  windowMs : Nat
  windowMs_pos : 0 < windowMs

theorem day_pos : 0 < 24 * 60 * 60 * 1000 := by decide

structure Organization where
  orgId : String
  agents : List OrgAgent
  aggregateLimits : List AggregateLimit

/-! ## 2. The tables -/

inductive SpendState where
  | HELD
  | SETTLED
  | RELEASED
  deriving DecidableEq

/-- A row of `org_spend`. -/
structure SpendRow where
  id : Nat
  orgId : String
  agentId : String
  usdCents : Int
  state : SpendState
  actionRef : String
  createdAtMs : Int

/-- A row of `org_revocations`. -/
structure RevocationRow where
  orgId : String
  agentId : String
  revokedAtMs : Int
  reason : String

structure DB where
  spend : List SpendRow
  lastRowid : Nat
  revocations : List RevocationRow

inductive OrgBudgetReason where
  | UNKNOWN_AGENT
  | NOT_EXECUTOR
  | REVOKED
  | UNKNOWN_LIMIT
  | PER_ACTION
  | AGENT_DAILY
  | AGGREGATE
  | OVERSPEND
  | NO_RESERVATION

/-- `OrgBudgetError`: the reason and its detail. -/
structure OrgBudgetError where
  reason : OrgBudgetReason
  agentId : String
  requestedUsdCents : Option Int
  usedUsdCents : Option Int
  limitUsdCents : Option Int

/-! ## 3. Limits and totals -/

section Ledger

variable (org : Organization) (db : DB)

/-- `aggregate`: the limit with the smallest maximum, the first of them in the source's order. -/
def aggregate : Option AggregateLimit :=
  (org.aggregateLimits.mergeSort fun a b => a.maxUsdCents ≤ b.maxUsdCents).head?

def Counted (e : SpendRow) : Prop := e.orgId = org.orgId ∧ (e.state = .HELD ∨ e.state = .SETTLED)

instance : DecidablePred (Counted org) := fun _ => inferInstanceAs (Decidable (_ ∧ _))

/-- `totals(..).orgUsdCents`: the spend of the organization after `since`. -/
def orgUsdCents (since : Int) : Int :=
  Accounting.sumWhere SpendRow.usdCents (fun e => Counted org e ∧ since < e.createdAtMs) db.spend

/-- `totals(..).agentUsdCents`: the spend of one agent after `since`. -/
def agentUsdCents (agentId : String) (since : Int) : Int :=
  Accounting.sumWhere SpendRow.usdCents
    (fun e => (Counted org e ∧ since < e.createdAtMs) ∧ e.agentId = agentId) db.spend

def isRevoked (agentId : String) : Bool :=
  db.revocations.any fun r => r.orgId = org.orgId ∧ r.agentId = agentId

/-! ## 4. The calls -/

/-- `revoke`: `INSERT OR REPLACE`. -/
def revoke (agentId reason : String) (now : Int) : DB :=
  { db with revocations :=
      db.revocations.filter (fun r => ¬ (r.orgId = org.orgId ∧ r.agentId = agentId))
        ++ [⟨org.orgId, agentId, now, reason⟩] }

/-- The two ceilings of an agent, or why it has none. -/
def ceilings (agentId : String) (usdCents : Int) : Except OrgBudgetError (Nat × Nat) :=
  match org.agents.find? (·.id = agentId) with
  | none => .error ⟨.UNKNOWN_AGENT, agentId, none, none, none⟩
  | some agent =>
    if agent.executionClass ≠ .EXECUTE then .error ⟨.NOT_EXECUTOR, agentId, none, none, none⟩
    else match agent.escalationMaxUsdCents, agent.dailyMaxUsdCents with
      | some perAction, some agentDaily => .ok (perAction, agentDaily)
      | _, _ => .error ⟨.UNKNOWN_LIMIT, agentId, some usdCents, none, none⟩

/-- `agg?.windowMs ?? 24 h`. -/
def windowMs : Int := (aggregate org).elim (24 * 60 * 60 * 1000) fun agg => agg.windowMs

def heldRow (agentId : String) (usdCents : Int) (actionRef : String) (createdAtMs : Int) :
    SpendRow where
  id := db.lastRowid + 1
  orgId := org.orgId
  agentId := agentId
  usdCents := usdCents
  state := .HELD
  actionRef := actionRef
  createdAtMs := createdAtMs

/-- `reserve`: the id of the reservation; `checked` and `created` are the two clock readings. -/
def reserve (agentId : String) (usdCents : Int) (actionRef : String) (checked created : Int) :
    Except OrgBudgetError (DB × Nat) := do
  let (perAction, agentDaily) ← ceilings org agentId usdCents
  let since := checked - windowMs org
  let agentUsed := agentUsdCents org db agentId since
  let orgUsed := orgUsdCents org db since
  if isRevoked org db agentId then .error ⟨.REVOKED, agentId, some usdCents, none, none⟩
  else if (perAction : Int) < usdCents then
    .error ⟨.PER_ACTION, agentId, some usdCents, none, some perAction⟩
  else if (agentDaily : Int) < agentUsed + usdCents then
    .error ⟨.AGENT_DAILY, agentId, some usdCents, some agentUsed, some agentDaily⟩
  else match (aggregate org).filter fun agg => (agg.maxUsdCents : Int) < orgUsed + usdCents with
    | some agg => .error ⟨.AGGREGATE, agentId, some usdCents, some orgUsed, some agg.maxUsdCents⟩
    | none => .ok ({ db with spend := db.spend ++ [heldRow org db agentId usdCents actionRef created]
                             lastRowid := db.lastRowid + 1 }, db.lastRowid + 1)

/-- `settle`: a held reservation, to no more than was reserved. -/
def settle (reservationId : Nat) (actualUsdCents : Int) : Except OrgBudgetError DB :=
  match db.spend.find? fun e => e.id = reservationId ∧ e.orgId = org.orgId with
  | none => .error ⟨.NO_RESERVATION, "?", none, none, none⟩
  | some row =>
    if row.state ≠ .HELD then .error ⟨.NO_RESERVATION, row.agentId, none, none, none⟩
    else if row.usdCents < actualUsdCents then
      .error ⟨.OVERSPEND, row.agentId, some actualUsdCents, none, some row.usdCents⟩
    else .ok { db with spend := db.spend.map fun e =>
      if e.id = reservationId then { e with state := .SETTLED, usdCents := actualUsdCents } else e }

/-- `release`: a reservation that is still held. -/
def release (reservationId : Nat) : DB :=
  { db with spend := db.spend.map fun e =>
      if e.id = reservationId ∧ e.orgId = org.orgId ∧ e.state = .HELD then
        { e with state := .RELEASED } else e }

end Ledger

/-! ## 5. What is enforced -/

section Enforced

variable {org : Organization} {db db' : DB} {A : AggregateLimit}

theorem aggregate_mem (h : aggregate org = some A) : A ∈ org.aggregateLimits :=
  List.mem_mergeSort.mp (List.mem_of_head? h)

/-- **The enforced limit has the smallest maximum.** -/
theorem aggregate_le (h : aggregate org = some A) {L : AggregateLimit}
    (hL : L ∈ org.aggregateLimits) : A.maxUsdCents ≤ L.maxUsdCents := by
  have hsorted : List.Pairwise (fun a b => decide (a.maxUsdCents ≤ b.maxUsdCents) = true)
      (org.aggregateLimits.mergeSort fun a b => a.maxUsdCents ≤ b.maxUsdCents) := by
    refine List.pairwise_mergeSort (fun a b c hab hbc => ?_) (fun a b => ?_) _
    · exact decide_eq_true ((of_decide_eq_true hab).trans (of_decide_eq_true hbc))
    · rw [Bool.or_eq_true, decide_eq_true_eq, decide_eq_true_eq]
      exact le_total _ _
  obtain ⟨rest, hrest⟩ := List.head?_eq_some_iff.mp h
  have hmem : L ∈ A :: rest := hrest ▸ List.mem_mergeSort.mpr hL
  rw [hrest] at hsorted
  rcases List.mem_cons.mp hmem with rfl | hin
  · exact le_rfl
  · exact of_decide_eq_true (List.rel_of_pairwise_cons hsorted hin)

theorem aggregate_isSome {L : AggregateLimit} (hL : L ∈ org.aggregateLimits) :
    ∃ A, aggregate org = some A := by
  have hmem : L ∈ org.aggregateLimits.mergeSort fun a b => a.maxUsdCents ≤ b.maxUsdCents :=
    List.mem_mergeSort.mpr hL
  refine Option.isSome_iff_exists.mp ?_
  rw [aggregate, List.isSome_head?]
  exact fun hnil => by simp [hnil] at hmem

theorem windowMs_eq (h : aggregate org = some A) : windowMs org = A.windowMs := by
  rw [windowMs, h, Option.elim_some]

/-- Who has ceilings: the first agent of the id, if it executes and both are known. -/
theorem ceilings_eq_ok {agentId : String} {usdCents : Int} {perAction agentDaily : Nat} :
    ceilings org agentId usdCents = .ok (perAction, agentDaily) ↔
      ∃ agent, org.agents.find? (·.id = agentId) = some agent ∧
        agent.executionClass = .EXECUTE ∧ agent.escalationMaxUsdCents = some perAction ∧
        agent.dailyMaxUsdCents = some agentDaily := by
  unfold ceilings
  cases ha : org.agents.find? (·.id = agentId) with
  | none => simp
  | some agent =>
    simp only [Evm.ite_error_eq_ok, not_not, Option.some.injEq, exists_eq_left']
    refine and_congr_right fun _ => ?_
    cases agent.escalationMaxUsdCents <;> cases agent.dailyMaxUsdCents <;> simp

/-- **When a reservation is made**: by an executing agent with known ceilings that is not
    revoked, within its ceilings and the enforced limit. -/
theorem reserve_eq_ok {agentId actionRef : String} {usdCents checked created : Int} {n : Nat} :
    reserve org db agentId usdCents actionRef checked created = .ok (db', n) ↔
      ∃ perAction agentDaily, ceilings org agentId usdCents = .ok (perAction, agentDaily) ∧
        isRevoked org db agentId = false ∧ usdCents ≤ perAction ∧
        agentUsdCents org db agentId (checked - windowMs org) + usdCents ≤ agentDaily ∧
        (∀ agg, aggregate org = some agg →
          orgUsdCents org db (checked - windowMs org) + usdCents ≤ agg.maxUsdCents) ∧
        db' = { db with spend := db.spend ++ [heldRow org db agentId usdCents actionRef created]
                        lastRowid := db.lastRowid + 1 } ∧ n = db.lastRowid + 1 := by
  have hfilter : ((aggregate org).filter fun agg => (agg.maxUsdCents : Int)
      < orgUsdCents org db (checked - windowMs org) + usdCents) = none ↔
      ∀ agg, aggregate org = some agg →
        orgUsdCents org db (checked - windowMs org) + usdCents ≤ agg.maxUsdCents := by
    rw [Option.filter_eq_none_iff]
    simp only [decide_eq_true_eq, not_lt]
  simp only [reserve, Evm.bind_eq_ok, Evm.ite_error_eq_ok, Bool.not_eq_true, not_lt]
  constructor
  · rintro ⟨⟨perAction, agentDaily⟩, hc, hrev, hper, hdaily, h⟩
    split at h
    · cases h
    · next hagg =>
      cases h
      exact ⟨perAction, agentDaily, hc, hrev, hper, hdaily, hfilter.mp hagg, rfl, rfl⟩
  · rintro ⟨perAction, agentDaily, hc, hrev, hper, hdaily, hagg, rfl, rfl⟩
    refine ⟨⟨perAction, agentDaily⟩, hc, hrev, hper, hdaily, ?_⟩
    rw [hfilter.mpr hagg]

/-- **What a settlement does**: to a row that is held, and downwards. -/
theorem settle_ok {reservationId : Nat} {actualUsdCents : Int}
    (h : settle org db reservationId actualUsdCents = .ok db') :
    ∃ row ∈ db.spend, row.id = reservationId ∧ row.orgId = org.orgId ∧ row.state = .HELD ∧
      actualUsdCents ≤ row.usdCents ∧ db' = { db with spend := db.spend.map fun e =>
        if e.id = reservationId then { e with state := .SETTLED, usdCents := actualUsdCents }
        else e } := by
  unfold settle at h
  split at h
  · cases h
  · next row hrow =>
    simp only [Evm.ite_error_eq_ok, not_not, not_lt, Except.ok.injEq] at h
    obtain ⟨hheld, hle, rfl⟩ := h
    have hid : row.id = reservationId ∧ row.orgId = org.orgId := by
      simpa using List.find?_some hrow
    exact ⟨row, List.mem_of_find?_eq_some hrow, hid.1, hid.2, hheld, hle, rfl⟩

end Enforced

end ContextLock.Org
