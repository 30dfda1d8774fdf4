/-
  Subject:   What the ledger's one enforced limit means for all the declared ones.

  The ledger enforces the limit `A` with the smallest maximum, over `A`'s window, and the
  agents' daily maxima over the same window. So within any window as long as `A`'s, the
  organization spends up to its BURST and no more; and within a longer window one burst for
  every `A`-window that begins in it.
-/
import ContextLock.Org.Budget
import ContextLock.Machine.Transition
import Mathlib.Algebra.BigOperators.Ring.Finset
import Mathlib.Data.List.Nodup

namespace ContextLock.Org

open Accounting Machine

/-! ## 1. Runs of a ledger -/

structure Ledger where
  db : DB
  clock : Int

def Ledger.start (clock : Int) : Ledger := ⟨⟨[], 0, []⟩, clock⟩

inductive Action where
  | reserve (agentId : String) (usdCents : Int) (actionRef : String) (checked created : Int)
  | settle (reservationId : Nat) (actualUsdCents : Int)
  | release (reservationId : Nat)
  | revoke (agentId reason : String) (now : Int)

/-- One call; the clock never runs backwards. A call that throws changes no table. -/
def step (org : Organization) (s : Ledger) : Action → Option Ledger
  | .reserve agentId usdCents actionRef checked created =>
    if s.clock ≤ checked ∧ checked ≤ created then
      match reserve org s.db agentId usdCents actionRef checked created with
      | .ok (db, _) => some ⟨db, created⟩
      | .error _ => some ⟨s.db, checked⟩
    else none
  | .settle reservationId actualUsdCents =>
    match settle org s.db reservationId actualUsdCents with
    | .ok db => some { s with db := db }
    | .error _ => some s
  | .release reservationId => some { s with db := release org s.db reservationId }
  | .revoke agentId reason now =>
    if s.clock ≤ now then some ⟨revoke org s.db agentId reason now, now⟩ else none

def NonNegative : Action → Prop
  | .reserve _ usdCents _ _ _ => 0 ≤ usdCents
  | .settle _ actualUsdCents => 0 ≤ actualUsdCents
  | _ => True

instance : DecidablePred NonNegative
  | .reserve _ usdCents _ _ _ => inferInstanceAs (Decidable (0 ≤ usdCents))
  | .settle _ actualUsdCents => inferInstanceAs (Decidable (0 ≤ actualUsdCents))
  | .release _ => inferInstanceAs (Decidable True)
  | .revoke _ _ _ => inferInstanceAs (Decidable True)

def call (org : Organization) : Ledger → Action → Option Ledger :=
  guarded (step org) fun _ a => NonNegative a

/-- The held and settled spend of the organization after `since`. -/
def Ledger.spend (org : Organization) (s : Ledger) (since : Int) : Int :=
  orgUsdCents org s.db since

/-- **Every declared limit is respected**: in every run, at every time, the spend inside the
    limit's own window is at most its maximum. -/
def LimitsRespected (org : Organization) : Prop :=
  ∀ clock s, Reaches (call org) (.start clock) s → ∀ L ∈ org.aggregateLimits, ∀ now,
    s.clock ≤ now → s.spend org (now - L.windowMs) ≤ L.maxUsdCents

/-! ## 2. The burst -/

/-- What one agent can spend in a window of the enforced limit. -/
def dailyOf (org : Organization) (agentId : String) : Nat :=
  match ceilings org agentId 0 with
  | .ok (perAction, agentDaily) => if perAction = 0 then 0 else agentDaily
  | .error _ => 0

def agentIds (org : Organization) : Finset String := (org.agents.map (·.id)).toFinset

/-- What the organization can spend in a window of the enforced limit `A`. -/
def burst (org : Organization) (A : AggregateLimit) : Nat :=
  min A.maxUsdCents (∑ agentId ∈ agentIds org, dailyOf org agentId)

/-- How many windows of `A` begin inside one of `L`. -/
def windowsOf (A L : AggregateLimit) : Nat := (L.windowMs + A.windowMs - 1) / A.windowMs

def EnforcedImplies (org : Organization) : Prop :=
  ∀ A, aggregate org = some A → ∀ L ∈ org.aggregateLimits,
    windowsOf A L * burst org A ≤ L.maxUsdCents

theorem windowsOf_mul_ge (A L : AggregateLimit) : L.windowMs ≤ windowsOf A L * A.windowMs := by
  have hpos := A.windowMs_pos
  have hdiv := Nat.div_add_mod (L.windowMs + A.windowMs - 1) A.windowMs
  have hmod := Nat.mod_lt (L.windowMs + A.windowMs - 1) hpos
  have hcomm : windowsOf A L * A.windowMs
      = A.windowMs * ((L.windowMs + A.windowMs - 1) / A.windowMs) := Nat.mul_comm _ _
  omega

theorem windowsOf_pred_mul_lt (A L : AggregateLimit) :
    (windowsOf A L - 1) * A.windowMs < L.windowMs := by
  have hpos := A.windowMs_pos
  have hLpos := L.windowMs_pos
  have hle := Nat.div_mul_le_self (L.windowMs + A.windowMs - 1) A.windowMs
  have hone : 1 ≤ windowsOf A L := (Nat.one_le_div_iff hpos).mpr (by omega)
  have hsub : (windowsOf A L - 1) * A.windowMs = windowsOf A L * A.windowMs - A.windowMs := by
    rw [Nat.sub_mul, Nat.one_mul]
  have hmul : windowsOf A L * A.windowMs ≤ L.windowMs + A.windowMs - 1 := hle
  omega

theorem windowsOf_pos (A L : AggregateLimit) : 0 < windowsOf A L := by
  have hpos := A.windowMs_pos
  have hLpos := L.windowMs_pos
  exact (Nat.one_le_div_iff hpos).mpr (by omega)

section Agents

variable {org : Organization} {agentId : String} {usdCents : Int} {perAction agentDaily : Nat}

theorem mem_agentIds (h : ceilings org agentId usdCents = .ok (perAction, agentDaily)) :
    agentId ∈ agentIds org := by
  obtain ⟨agent, ha, _⟩ := ceilings_eq_ok.mp h
  have hid : agent.id = agentId := by simpa using List.find?_some ha
  exact List.mem_toFinset.mpr (List.mem_map.mpr ⟨agent, List.mem_of_find?_eq_some ha, hid⟩)

theorem dailyOf_of_ceilings (h : ceilings org agentId usdCents = .ok (perAction, agentDaily)) :
    dailyOf org agentId = if perAction = 0 then 0 else agentDaily := by
  have h0 : ceilings org agentId 0 = .ok (perAction, agentDaily) :=
    ceilings_eq_ok.mpr (ceilings_eq_ok.mp h)
  simp only [dailyOf, h0]

theorem ceilings_of_dailyOf (h : 0 < dailyOf org agentId) (usdCents : Int) :
    ∃ perAction : Nat, ceilings org agentId usdCents = .ok (perAction, dailyOf org agentId) ∧
      0 < perAction := by
  cases hc : ceilings org agentId 0 with
  | error e => simp [dailyOf, hc] at h
  | ok c =>
    obtain ⟨perAction, agentDaily⟩ := c
    rw [dailyOf_of_ceilings hc] at h ⊢
    by_cases h0 : perAction = 0
    · rw [if_pos h0] at h
      exact absurd h (lt_irrefl 0)
    · rw [if_neg h0]
      exact ⟨perAction, ceilings_eq_ok.mpr (ceilings_eq_ok.mp hc), Nat.pos_of_ne_zero h0⟩

end Agents

/-! ## 3. No window holds more than the burst -/

def orgBetween (org : Organization) (db : DB) (a b : Int) : Int :=
  sumWhere SpendRow.usdCents (Within SpendRow.createdAtMs (Counted org) a b) db.spend

def agentBetween (org : Organization) (db : DB) (agentId : String) (a b : Int) : Int :=
  sumWhere SpendRow.usdCents (fun e => Within SpendRow.createdAtMs (Counted org) a b e ∧ e.agentId = agentId)
    db.spend

/-- A ledger is BOUNDED by the limit `A`. -/
structure Bounded (org : Organization) (A : AggregateLimit) (s : Ledger) : Prop where
  nonneg : ∀ e ∈ s.db.spend, 0 ≤ e.usdCents
  past : ∀ e ∈ s.db.spend, e.createdAtMs ≤ s.clock
  ids : (s.db.spend.map (·.id)).Nodup
  issued : ∀ e ∈ s.db.spend, e.id ≤ s.db.lastRowid
  agents : ∀ e ∈ s.db.spend, e.agentId ∈ agentIds org
  byOrg : ∀ a, orgBetween org s.db a (a + A.windowMs) ≤ A.maxUsdCents
  byAgent : ∀ i a, agentBetween org s.db i a (a + A.windowMs) ≤ dailyOf org i

section Bound

variable {org : Organization} {A : AggregateLimit} {s s' : Ledger}

theorem bounded_start (clock : Int) : Bounded org A (.start clock) where
  nonneg e h := by cases h
  past e h := by cases h
  ids := .nil
  issued e h := by cases h
  agents e h := by cases h
  byOrg a := Int.natCast_nonneg _
  byAgent i a := Int.natCast_nonneg _

theorem orgBetween_eq_sum (hs : Bounded org A s) (a b : Int) :
    orgBetween org s.db a b = ∑ i ∈ agentIds org, agentBetween org s.db i a b :=
  sumWhere_by_key fun e he _ => hs.agents e he

/-- **A window as long as the limit's holds at most the burst.** -/
theorem orgBetween_le_burst (hs : Bounded org A s) (a : Int) :
    orgBetween org s.db a (a + A.windowMs) ≤ burst org A := by
  have hsum : orgBetween org s.db a (a + A.windowMs)
      ≤ ∑ i ∈ agentIds org, (dailyOf org i : Int) := by
    rw [orgBetween_eq_sum hs]
    exact Finset.sum_le_sum fun i _ => hs.byAgent i a
  have horg := hs.byOrg a
  rw [burst, Nat.cast_min, Nat.cast_sum]
  exact le_min horg hsum

/-- Rows changed one by one, keeping id, agent and date and no amount upwards, stay bounded. -/
theorem bounded_of_map (hs : Bounded org A s) {f : SpendRow → SpendRow}
    (hclock : s'.clock = s.clock) (hspend : s'.db.spend = s.db.spend.map f)
    (hrow : s'.db.lastRowid = s.db.lastRowid) (hid : ∀ e, (f e).id = e.id)
    (hagent : ∀ e, (f e).agentId = e.agentId) (hdate : ∀ e, (f e).createdAtMs = e.createdAtMs)
    (hnonneg : ∀ e ∈ s.db.spend, 0 ≤ (f e).usdCents)
    (hle : ∀ e ∈ s.db.spend, Counted org (f e) → Counted org e ∧ (f e).usdCents ≤ e.usdCents) :
    Bounded org A s' := by
  -- whatever is selected by dates and agent, its sum does not grow
  have hsum : ∀ (P : SpendRow → Prop) [DecidablePred P], (∀ e, P (f e) ↔ P e) →
      ∀ a b, sumWhere SpendRow.usdCents
        (fun e => Within SpendRow.createdAtMs (Counted org) a b e ∧ P e) s'.db.spend
        ≤ sumWhere SpendRow.usdCents
          (fun e => Within SpendRow.createdAtMs (Counted org) a b e ∧ P e) s.db.spend := by
    intro P _ hP a b
    rw [hspend]
    refine sumWhere_map_le fun e he => ?_
    by_cases hf : Within SpendRow.createdAtMs (Counted org) a b (f e) ∧ P (f e)
    · obtain ⟨⟨hcount, hlt, hge⟩, hp⟩ := hf
      obtain ⟨hcount', hamount⟩ := hle e he hcount
      have hin : Within SpendRow.createdAtMs (Counted org) a b e ∧ P e := by
        refine ⟨⟨hcount', ?_, ?_⟩, (hP e).mp hp⟩
        · rw [← hdate e]
          exact hlt
        · rw [← hdate e]
          exact hge
      rw [if_pos hin, if_pos ⟨⟨hcount, hlt, hge⟩, hp⟩]
      exact hamount
    · rw [if_neg hf]
      by_cases hin : Within SpendRow.createdAtMs (Counted org) a b e ∧ P e
      · rw [if_pos hin]
        exact hs.nonneg e he
      · rw [if_neg hin]
  have hmem : ∀ e ∈ s'.db.spend, ∃ e₀ ∈ s.db.spend, e = f e₀ := by
    intro e he
    rw [hspend] at he
    obtain ⟨e₀, he₀, rfl⟩ := List.mem_map.mp he
    exact ⟨e₀, he₀, rfl⟩
  refine ⟨fun e he => ?_, fun e he => ?_, ?_, fun e he => ?_, fun e he => ?_, fun a => ?_,
    fun i a => ?_⟩
  · obtain ⟨e₀, he₀, rfl⟩ := hmem e he
    exact hnonneg e₀ he₀
  · obtain ⟨e₀, he₀, rfl⟩ := hmem e he
    rw [hdate, hclock]
    exact hs.past e₀ he₀
  · rw [hspend, List.map_map]
    have hfun : (fun e : SpendRow => e.id) ∘ f = fun e => e.id := funext hid
    rw [hfun]
    exact hs.ids
  · obtain ⟨e₀, he₀, rfl⟩ := hmem e he
    rw [hid, hrow]
    exact hs.issued e₀ he₀
  · obtain ⟨e₀, he₀, rfl⟩ := hmem e he
    rw [hagent]
    exact hs.agents e₀ he₀
  · have h := hsum (fun _ => True) (fun _ => Iff.rfl) a (a + A.windowMs)
    simp only [and_true] at h
    exact h.trans (hs.byOrg a)
  · exact (hsum (fun e => e.agentId = i) (fun e => by rw [hagent]) a (a + A.windowMs)).trans
      (hs.byAgent i a)

theorem bounded_of_reserve (hs : Bounded org A s) (hA : aggregate org = some A)
    {agentId actionRef : String} {usdCents checked created : Int} {db' : DB} {n : Nat}
    (hclock : s.clock ≤ checked) (hcreated : checked ≤ created) (hnonneg : 0 ≤ usdCents)
    (h : reserve org s.db agentId usdCents actionRef checked created = .ok (db', n)) :
    Bounded org A ⟨db', created⟩ := by
  obtain ⟨perAction, agentDaily, hc, _, hper, hdaily, hagg, rfl, _⟩ := reserve_eq_ok.mp h
  rw [windowMs_eq hA] at hdaily
  have horg := hagg A hA
  rw [windowMs_eq hA] at horg
  have hmem : ∀ e ∈ s.db.spend ++ [heldRow org s.db agentId usdCents actionRef created],
      e ∈ s.db.spend ∨ e = heldRow org s.db agentId usdCents actionRef created :=
    fun e he => (List.mem_append.mp he).imp id List.mem_singleton.mp
  -- within the window of the reservation, everything spent was seen by its check
  have hseen : ∀ a, Within SpendRow.createdAtMs (Counted org) a (a + A.windowMs)
      (heldRow org s.db agentId usdCents actionRef created) →
      ∀ e, Within SpendRow.createdAtMs (Counted org) a (a + A.windowMs) e →
        checked - A.windowMs < e.createdAtMs := by
    intro a hnew e he
    have hend : created ≤ a + A.windowMs := hnew.2.2
    have hafter : a < e.createdAtMs := he.2.1
    omega
  refine ⟨fun e he => ?_, fun e he => ?_, ?_, fun e he => ?_, fun e he => ?_, fun a => ?_,
    fun i a => ?_⟩
  · rcases hmem e he with hold | rfl
    · exact hs.nonneg e hold
    · exact hnonneg
  · rcases hmem e he with hold | rfl
    · exact (hs.past e hold).trans (hclock.trans hcreated)
    · exact le_rfl
  · show ((s.db.spend ++ [_]).map _).Nodup
    rw [List.map_append, List.nodup_append]
    refine ⟨hs.ids, List.nodup_cons.mpr ⟨List.not_mem_nil, .nil⟩, fun i hi j hj hij => ?_⟩
    obtain ⟨e, he, rfl⟩ := List.mem_map.mp hi
    rw [List.map_singleton, List.mem_singleton] at hj
    have hle := hs.issued e he
    have hnew : (heldRow org s.db agentId usdCents actionRef created).id = s.db.lastRowid + 1 := rfl
    omega
  · rcases hmem e he with hold | rfl
    · exact (hs.issued e hold).trans (Nat.le_succ _)
    · exact le_rfl
  · rcases hmem e he with hold | rfl
    · exact hs.agents e hold
    · exact mem_agentIds hc
  · refine sumWhere_concat_le hs.nonneg (hs.byOrg a) (fun hnew e _ he => ?_) horg
    exact ⟨he.1, hseen a hnew e he⟩
  · by_cases hi : agentId = i
    · subst hi
      rw [dailyOf_of_ceilings hc]
      by_cases h0 : perAction = 0
      · -- an agent that may not act reserves nothing
        have hzero : usdCents = 0 := by omega
        have hbefore := hs.byAgent agentId a
        rw [dailyOf_of_ceilings hc] at hbefore
        refine le_trans (le_of_eq ?_) hbefore
        show sumWhere _ _ (s.db.spend ++ [_]) = _
        rw [sumWhere_concat]
        have hadd : ∀ c : Prop, [Decidable c] → (if c then usdCents else 0) = 0 := fun c _ => by
          rw [hzero, ite_self]
        exact (congrArg _ (hadd _)).trans (add_zero _)
      · rw [if_neg h0]
        have hbefore := hs.byAgent agentId a
        rw [dailyOf_of_ceilings hc, if_neg h0] at hbefore
        refine sumWhere_concat_le hs.nonneg hbefore (fun hnew e _ he => ?_) hdaily
        exact ⟨⟨he.1.1, hseen a hnew.1 e he.1⟩, he.2⟩
    · have hold : agentBetween org ⟨s.db.spend ++ [heldRow org s.db agentId usdCents actionRef
          created], s.db.lastRowid + 1, s.db.revocations⟩ i a (a + A.windowMs)
          = agentBetween org s.db i a (a + A.windowMs) := by
        rw [agentBetween, sumWhere_concat, if_neg fun h => hi h.2, add_zero]
        rfl
      exact hold.le.trans (hs.byAgent i a)

theorem bounded_of_spend (hs : Bounded org A s) (hspend : s'.db.spend = s.db.spend)
    (hrow : s'.db.lastRowid = s.db.lastRowid) (hclock : s.clock ≤ s'.clock) :
    Bounded org A s' := by
  obtain ⟨hnonneg, hpast, hids, hissued, hagents, hbyOrg, hbyAgent⟩ := hs
  refine ⟨hspend ▸ hnonneg, ?_, hspend ▸ hids, ?_, hspend ▸ hagents, fun a => ?_, fun i a => ?_⟩
  · rw [hspend]
    exact fun e he => (hpast e he).trans hclock
  · rw [hspend, hrow]
    exact hissued
  · rw [orgBetween, hspend]
    exact hbyOrg a
  · rw [agentBetween, hspend]
    exact hbyAgent i a

theorem bounded_of_settle (hs : Bounded org A s) {reservationId : Nat} {actualUsdCents : Int}
    {db' : DB} (hnonneg : 0 ≤ actualUsdCents)
    (h : settle org s.db reservationId actualUsdCents = .ok db') :
    Bounded org A { s with db := db' } := by
  obtain ⟨row, hrow, hid, horg, hheld, hle, rfl⟩ := settle_ok h
  -- the settled row is the only one of its id
  have hrow_unique : ∀ e ∈ s.db.spend, e.id = reservationId → e = row := fun e he hei =>
    List.inj_on_of_nodup_map hs.ids he hrow (hei.trans hid.symm)
  refine bounded_of_map hs rfl rfl rfl (fun e => ?_) (fun e => ?_) (fun e => ?_)
    (fun e he => ?_) (fun e he hcount => ?_)
  · by_cases h : e.id = reservationId <;> simp [h]
  · by_cases h : e.id = reservationId <;> simp [h]
  · by_cases h : e.id = reservationId <;> simp [h]
  · by_cases h : e.id = reservationId
    · rw [if_pos h]
      exact hnonneg
    · rw [if_neg h]
      exact hs.nonneg e he
  · by_cases h : e.id = reservationId
    · rw [if_pos h]
      have he' := hrow_unique e he h
      subst he'
      exact ⟨⟨horg, .inl hheld⟩, hle⟩
    · rw [if_neg h] at hcount ⊢
      exact ⟨hcount, le_rfl⟩

theorem bounded_of_release (hs : Bounded org A s) (reservationId : Nat) :
    Bounded org A { s with db := release org s.db reservationId } := by
  refine bounded_of_map hs rfl rfl rfl (fun e => ?_) (fun e => ?_) (fun e => ?_)
    (fun e he => ?_) (fun e he hcount => ?_)
  · split <;> rfl
  · split <;> rfl
  · split <;> rfl
  · have := hs.nonneg e he
    split <;> exact this
  · split at hcount
    · rcases hcount.2 with h | h <;> cases h
    · next hnot =>
      rw [if_neg hnot]
      exact ⟨hcount, le_rfl⟩

/-- **Every call keeps the ledger bounded by the enforced limit.** -/
theorem bounded_step (hA : aggregate org = some A) {a : Action} (hs : Bounded org A s)
    (h : call org s a = some s') : Bounded org A s' := by
  obtain ⟨hnonneg, h⟩ := guarded_eq_some.mp h
  cases a with
  | reserve agentId usdCents actionRef checked created =>
    simp only [step] at h
    split at h
    · next hclock =>
      split at h
      · next db' n hok =>
        cases h
        exact bounded_of_reserve hs hA hclock.1 hclock.2 hnonneg hok
      · cases h
        exact bounded_of_spend hs rfl rfl hclock.1
    · cases h
  | settle reservationId actualUsdCents =>
    simp only [step] at h
    split at h
    · next db' hok =>
      cases h
      exact bounded_of_settle hs hnonneg hok
    · cases h
      exact hs
  | release reservationId =>
    cases h
    exact bounded_of_release hs reservationId
  | revoke agentId reason now =>
    simp only [step] at h
    split at h
    · next hclock =>
      cases h
      exact bounded_of_spend hs rfl rfl hclock
    · cases h

/-- **The ledger is bounded by the enforced limit in every state of every run.** -/
theorem bounded_of_reaches (hA : aggregate org = some A) {clock : Int}
    (h : Reaches (call org) (.start clock) s) : Bounded org A s :=
  h.invariant (fun _ _ _ hs hstep => bounded_step hA hs hstep) (bounded_start clock)

theorem spend_le_bursts (hs : Bounded org A s) (L : AggregateLimit) {now : Int}
    (hnow : s.clock ≤ now) :
    s.spend org (now - L.windowMs) ≤ windowsOf A L * burst org A := by
  have hcover := window_cover hs.nonneg (orgBetween_le_burst hs) (windowsOf A L) now
  refine le_trans (sumWhere_mono hs.nonneg fun e he hsel => ?_) hcover
  obtain ⟨hcount, hafter⟩ := hsel
  have hge : (L.windowMs : Int) ≤ windowsOf A L * A.windowMs := by
    exact_mod_cast windowsOf_mul_ge A L
  have hpast := hs.past e he
  exact ⟨hcount, by omega, hpast.trans hnow⟩

end Bound

/-! ## 4. Every burst can be spent -/

section Spend

variable {org : Organization} {A : AggregateLimit} {s : Ledger}

theorem exists_agent_below (hs : Bounded org A s) {since : Int}
    (h : s.spend org since < burst org A) :
    ∃ i, agentUsdCents org s.db i since < dailyOf org i := by
  by_contra hnone
  have hall : ∀ i, (dailyOf org i : Int) ≤ agentUsdCents org s.db i since :=
    fun i => not_lt.mp fun hi => hnone ⟨i, hi⟩
  have hsum : s.spend org since = ∑ i ∈ agentIds org, agentUsdCents org s.db i since :=
    sumWhere_by_key fun e he _ => hs.agents e he
  have hle : (burst org A : Int) ≤ ∑ i ∈ agentIds org, agentUsdCents org s.db i since := by
    have hmin : burst org A ≤ ∑ i ∈ agentIds org, dailyOf org i := Nat.min_le_right _ _
    calc (burst org A : Int) ≤ (∑ i ∈ agentIds org, dailyOf org i : Nat) := Nat.cast_le.mpr hmin
      _ = ∑ i ∈ agentIds org, (dailyOf org i : Int) := Nat.cast_sum _ _
      _ ≤ _ := Finset.sum_le_sum fun i _ => hall i
  omega

/-- **Below the burst, one more cent can be reserved.** -/
theorem reserve_cent (hs : Bounded org A s) (hA : aggregate org = some A)
    (hrev : s.db.revocations = []) {now : Int} (hnow : s.clock ≤ now)
    (hlt : s.spend org (now - A.windowMs) < burst org A) :
    ∃ a s', call org s a = some s' ∧ s'.db.revocations = [] ∧ s'.clock = now ∧
      ∀ since, since < now → s'.spend org since = s.spend org since + 1 := by
  obtain ⟨i, hi⟩ := exists_agent_below hs hlt
  have hused : 0 ≤ agentUsdCents org s.db i (now - A.windowMs) := by
    have h0 : sumWhere SpendRow.usdCents (fun _ => False) s.db.spend = 0 :=
      sumWhere_eq_zero fun _ _ h => h
    rw [← h0]
    exact sumWhere_mono hs.nonneg fun _ _ h => h.elim
  obtain ⟨perAction, hc, hper⟩ := ceilings_of_dailyOf (by omega : 0 < dailyOf org i) 1
  have hmax : (burst org A : Int) ≤ A.maxUsdCents := Nat.cast_le.mpr (Nat.min_le_left _ _)
  let db' : DB := { s.db with spend := s.db.spend ++ [heldRow org s.db i 1 "" now]
                              lastRowid := s.db.lastRowid + 1 }
  have hok : reserve org s.db i 1 "" now now = .ok (db', s.db.lastRowid + 1) := by
    refine reserve_eq_ok.mpr ⟨perAction, dailyOf org i, hc, ?_, by omega, ?_, fun agg hagg => ?_,
      rfl, rfl⟩
    · rw [isRevoked, hrev]
      rfl
    · rw [windowMs_eq hA]
      omega
    · rw [hA, Option.some.injEq] at hagg
      subst hagg
      rw [windowMs_eq hA]
      have hspend : orgUsdCents org s.db (now - A.windowMs) < burst org A := hlt
      omega
  refine ⟨.reserve i 1 "" now now, ⟨db', now⟩, guarded_eq_some.mpr ⟨?_, ?_⟩, hrev, rfl,
    fun since hsince => ?_⟩
  · show (0 : Int) ≤ 1
    omega
  · simp only [step, hok]
    rw [if_pos ⟨hnow, le_rfl⟩]
  · show sumWhere _ _ (s.db.spend ++ [_]) = _
    rw [sumWhere_concat]
    have hsel : Counted org (heldRow org s.db i 1 "" now) ∧ since < now := ⟨⟨rfl, .inl rfl⟩, hsince⟩
    exact congrArg _ (if_pos hsel)

/-- Where nothing was spent in the last window, any amount up to the burst can be reserved at
    once. -/
theorem reserve_amount (hs : Bounded org A s) (hA : aggregate org = some A)
    (hrev : s.db.revocations = []) {now : Int} (hnow : s.clock ≤ now)
    (hquiet : s.spend org (now - A.windowMs) = 0) (m : Nat) (hm : m ≤ burst org A) :
    ∃ s', Reaches (call org) s s' ∧ Bounded org A s' ∧ s'.db.revocations = [] ∧ s'.clock ≤ now ∧
      ∀ since, since < now → s'.spend org since = s.spend org since + m := by
  have hpos := A.windowMs_pos
  induction m with
  | zero => exact ⟨s, .refl s, hs, hrev, hnow, fun _ _ => (add_zero _).symm⟩
  | succ m ih =>
    obtain ⟨t, hreach, ht, htrev, htnow, htspend⟩ := ih (by omega)
    have hused := htspend (now - A.windowMs) (by omega)
    obtain ⟨a, s', hcall, hrev', hclock', hspend'⟩ :=
      reserve_cent ht hA htrev htnow (by omega)
    refine ⟨s', hreach.trans (.head hcall (.refl s')), bounded_step hA ht hcall, hrev',
      hclock'.le, fun since hsince => ?_⟩
    rw [hspend' since hsince, htspend since hsince]
    push_cast
    ring

/-- **Any number of bursts can be spent, one window apart.** -/
theorem burst_reachable (hA : aggregate org = some A) (k : Nat) :
    ∃ s, Reaches (call org) (.start (-A.windowMs)) s ∧ Bounded org A s ∧ s.db.revocations = [] ∧
      s.clock ≤ k * A.windowMs - A.windowMs ∧
      ∀ since, since < 0 → s.spend org since = k * burst org A := by
  have hpos := A.windowMs_pos
  induction k with
  | zero =>
    refine ⟨_, .refl _, bounded_start _, rfl, by simp [Ledger.start], fun _ _ => ?_⟩
    rw [Nat.cast_zero, zero_mul]
    rfl
  | succ k ih =>
    obtain ⟨s, hreach, hs, hrev, hclock, hspend⟩ := ih
    -- the bursts so far are at least one window old
    have hquiet : s.spend org (k * A.windowMs - A.windowMs) = 0 := by
      refine sumWhere_eq_zero fun e he hsel => ?_
      have hpast := hs.past e he
      have hafter := hsel.2
      omega
    obtain ⟨s', hreach', hs', hrev', hclock', hspend'⟩ :=
      reserve_amount hs hA hrev (by omega) hquiet (burst org A) le_rfl
    refine ⟨s', hreach.trans hreach', hs', hrev', ?_, fun since hsince => ?_⟩
    · push_cast
      rw [add_mul, one_mul]
      omega
    · have hnonneg : (0 : Int) ≤ k * A.windowMs := mul_nonneg (by omega) (by omega)
      rw [hspend' since (by omega), hspend since hsince]
      push_cast
      ring

/-- **Every declared limit is respected in every run exactly where it allows its number of
    bursts of the enforced one.** -/
theorem limits_respected_iff (org : Organization) : LimitsRespected org ↔ EnforcedImplies org := by
  constructor
  · intro h A hA L hL
    obtain ⟨s, hreach, _, _, hclock, hspend⟩ := burst_reachable hA (windowsOf A L)
    -- at the last burst, all of them are inside the limit's window
    have hlast := windowsOf_pred_mul_lt A L
    have hone := windowsOf_pos A L
    have hnow : (windowsOf A L : Int) * A.windowMs - A.windowMs < L.windowMs := by
      have hcast : (((windowsOf A L - 1) * A.windowMs : Nat) : Int) < L.windowMs :=
        Nat.cast_lt.mpr hlast
      have hsub : ((windowsOf A L - 1 : Nat) : Int) = windowsOf A L - 1 := by omega
      rw [Nat.cast_mul, hsub, sub_mul, one_mul] at hcast
      exact hcast
    have hle := h _ s hreach L hL _ hclock
    rw [hspend _ (by omega)] at hle
    exact_mod_cast hle
  · intro h clock s hreach L hL now hnow
    obtain ⟨A, hA⟩ := aggregate_isSome hL
    have hspend := spend_le_bursts (bounded_of_reaches hA hreach) L hnow
    have himplied : (windowsOf A L * burst org A : Int) ≤ L.maxUsdCents := by
      exact_mod_cast h A hA L hL
    exact hspend.trans himplied

end Spend

/-! ## 5. A wider limit that is exceeded -/

def hourlyLimit : AggregateLimit := ⟨100, 60 * 60 * 1000, by decide⟩

/-- 1.50 dollars a day. -/
def dailyLimit : AggregateLimit := ⟨150, 24 * 60 * 60 * 1000, day_pos⟩

/-- One agent that may spend a dollar, under both limits. -/
def treasuryOrg : Organization where
  orgId := "acme"
  agents := [⟨"guardian", .EXECUTE, some 100, some 100⟩]
  aggregateLimits := [hourlyLimit, dailyLimit]

theorem aggregate_treasuryOrg : aggregate treasuryOrg = some hourlyLimit := by
  obtain ⟨A, hA⟩ : ∃ A, aggregate treasuryOrg = some A :=
    aggregate_isSome (L := hourlyLimit) (by simp [treasuryOrg])
  have hle := aggregate_le hA (L := hourlyLimit) (by simp [treasuryOrg])
  have hmem := aggregate_mem hA
  simp only [treasuryOrg, List.mem_cons, List.not_mem_nil, or_false] at hmem
  rcases hmem with rfl | rfl
  · exact hA
  · exact absurd hle (by decide)

def dollarsAt (times : List Int) : DB where
  spend := times.mapIdx fun i t => ⟨i + 1, "acme", "guardian", 100, .HELD, "", t⟩
  lastRowid := times.length
  revocations := []

theorem first_dollar : call treasuryOrg (.start 0) (.reserve "guardian" 100 "" 0 0)
    = some ⟨dollarsAt [0], 0⟩ := by
  have hok : reserve treasuryOrg (dollarsAt []) "guardian" 100 "" 0 0
      = .ok (dollarsAt [0], 1) := by
    refine reserve_eq_ok.mpr ⟨100, 100, rfl, rfl, le_rfl, ?_, fun agg hagg => ?_, rfl, rfl⟩
    · rw [windowMs_eq aggregate_treasuryOrg]
      decide
    · rw [aggregate_treasuryOrg, Option.some.injEq] at hagg
      subst hagg
      rw [windowMs_eq aggregate_treasuryOrg]
      decide
  refine guarded_eq_some.mpr ⟨by decide, ?_⟩
  show step treasuryOrg ⟨dollarsAt [], 0⟩ _ = _
  simp only [step, hok]
  rfl

theorem second_dollar : call treasuryOrg ⟨dollarsAt [0], 0⟩
    (.reserve "guardian" 100 "" 3600000 3600000) = some ⟨dollarsAt [0, 3600000], 3600000⟩ := by
  have hok : reserve treasuryOrg (dollarsAt [0]) "guardian" 100 "" 3600000 3600000
      = .ok (dollarsAt [0, 3600000], 2) := by
    refine reserve_eq_ok.mpr ⟨100, 100, rfl, rfl, le_rfl, ?_, fun agg hagg => ?_, rfl, rfl⟩
    · rw [windowMs_eq aggregate_treasuryOrg]
      decide
    · rw [aggregate_treasuryOrg, Option.some.injEq] at hagg
      subst hagg
      rw [windowMs_eq aggregate_treasuryOrg]
      decide
  refine guarded_eq_some.mpr ⟨by decide, ?_⟩
  simp only [step, hok]
  rfl

/-- **The wider limit is exceeded**: a dollar, and one hour later a dollar again, are two
    dollars within a day whose limit is 1.50. -/
theorem wider_limit_exceeded : ¬ LimitsRespected treasuryOrg := by
  intro h
  have hreach : Reaches (call treasuryOrg) (.start 0) ⟨dollarsAt [0, 3600000], 3600000⟩ :=
    .head first_dollar (.head second_dollar (.refl _))
  have hle := h 0 _ hreach dailyLimit (by simp [treasuryOrg]) 3600000 le_rfl
  exact absurd hle (by decide)

end ContextLock.Org
