/-
  Subject:   What a compromised agent can get reserved in a window, against its blast radius.

  The attacker holds the authority of the agent and of every agent the radius reaches. The
  radius gives the window cap of the compromised agent alone.
-/
import ContextLock.Org.Blast
import ContextLock.Org.Limits

namespace ContextLock.Org

open Accounting Machine

/-! ## 1. The attacker -/

/-- The compromised agent, and those whose authority is obtained with its own. -/
def attackers (radius : BlastRadius) : Finset String :=
  insert radius.compromisedAgentId (radius.authorityReachesAgents.map (·.agentId)).toFinset

/-- The held and settled spend of some agents after `a` and not after `b`. -/
def spendOf (org : Organization) (ids : Finset String) (db : DB) (a b : Int) : Int :=
  sumWhere SpendRow.usdCents
    (fun e => Within SpendRow.createdAtMs (Counted org) a b e ∧ e.agentId ∈ ids) db.spend

/-- **The radius bounds every run**: whatever calls are made, no window of the ledger holds more
    of the attacker's spend than the radius says. -/
def WindowBound (calls : Ledger → Action → Option Ledger) (org : OrganizationBlueprint)
    (agentId : String) : Prop :=
  ∀ radius cap, computeBlastRadius org agentId = .ok radius → radius.maxWindowUsdCents = some cap →
    ∀ clock s, Reaches calls (.start clock) s → ∀ a,
      spendOf org.ledger (attackers radius) s.db a (a + windowMs org.ledger) ≤ cap

/-- The agents that an agent's authority reaches, and itself. -/
def obtained (org : OrganizationBlueprint) (agent : AgentBlueprint) : Finset String :=
  insert agent.id ((sharedAuthority org agent).map (·.agentId)).toFinset

def ownDaily (agent : AgentBlueprint) : Option Nat :=
  if agent.executionClass = .EXECUTE then agent.dailyMaxUsdCents else some 0

/-- The agent's own daily maximum covers those of all agents it obtains, or the enforced limit is
    no higher. -/
def Covers (org : OrganizationBlueprint) (agent : AgentBlueprint) : Prop :=
  ∀ daily, ownDaily agent = some daily →
    ∑ i ∈ obtained org agent, dailyOf org.ledger i ≤ daily ∨
      ∃ A, aggregate org.ledger = some A ∧ A.maxUsdCents ≤ daily

/-- Nothing is said of the agent, or no agent it obtains may act for a cent. -/
def Idle (org : OrganizationBlueprint) (agent : AgentBlueprint) : Prop :=
  (ownDaily agent = none ∧ aggregate org.ledger = none) ∨
    ∀ i ∈ obtained org agent, ∀ perAction daily,
      ceilings org.ledger i 0 = .ok (perAction, daily) → perAction = 0

section Radius

variable {org : OrganizationBlueprint} {agentId : String} {agent : AgentBlueprint}
  {radius : BlastRadius}

theorem computeBlastRadius_ok (h : computeBlastRadius org agentId = .ok radius) :
    ∃ agent, org.agents.find? (·.id = agentId) = some agent ∧
      attackers radius = obtained org agent ∧
      radius.maxWindowUsdCents
        = if agent.executionClass = .EXECUTE then bindingWindowCap org agent else some 0 := by
  unfold computeBlastRadius at h
  cases hfind : org.agents.find? (·.id = agentId) with
  | none =>
    rw [hfind] at h
    cases h
  | some agent =>
    rw [hfind] at h
    cases h
    refine ⟨agent, rfl, ?_, rfl⟩
    have hid : agent.id = agentId := by simpa using List.find?_some hfind
    unfold attackers obtained
    rw [hid]
    congr 1
    ext i
    simp only [List.mem_toFinset, List.mem_map, List.mem_mergeSort]

theorem exists_radius (h : org.agents.find? (·.id = agentId) = some agent) :
    ∃ radius, computeBlastRadius org agentId = .ok radius ∧ attackers radius = obtained org agent ∧
      radius.maxWindowUsdCents
        = if agent.executionClass = .EXECUTE then bindingWindowCap org agent else some 0 := by
  have hok : ∃ radius, computeBlastRadius org agentId = .ok radius := by
    unfold computeBlastRadius
    rw [h]
    exact ⟨_, rfl⟩
  obtain ⟨radius, hradius⟩ := hok
  obtain ⟨agent', hfind, hattackers, hcap⟩ := computeBlastRadius_ok hradius
  obtain rfl := Option.some.inj (h.symm.trans hfind)
  exact ⟨radius, hradius, hattackers, hcap⟩

/-- What the radius says: the smaller of the agent's own maximum and the enforced limit, as far
    as there are any. -/
theorem windowCap_eq_some {cap : Nat} :
    (if agent.executionClass = .EXECUTE then bindingWindowCap org agent else some 0) = some cap ↔
      (∃ daily, ownDaily agent = some daily ∧ aggregate org.ledger = none ∧ cap = daily) ∨
        (∃ A, ownDaily agent = none ∧ aggregate org.ledger = some A ∧ cap = A.maxUsdCents) ∨
        ∃ daily A, ownDaily agent = some daily ∧ aggregate org.ledger = some A ∧
          cap = min daily A.maxUsdCents := by
  unfold ownDaily bindingWindowCap
  by_cases hexec : agent.executionClass = .EXECUTE
  · rw [if_pos hexec, if_pos hexec]
    cases agent.dailyMaxUsdCents <;> cases aggregate org.ledger <;> simp [eq_comm]
  · rw [if_neg hexec, if_neg hexec]
    cases aggregate org.ledger <;> simp [eq_comm]

end Radius

/-! ## 2. What a window holds -/

def Organization.withLimit (org : Organization) (maxUsdCents : Nat) : Organization :=
  { org with aggregateLimits := [⟨maxUsdCents, 24 * 60 * 60 * 1000, day_pos⟩] }

section Window

variable {org : Organization} {s s' t : Ledger} {ids : Finset String}

theorem aggregate_withLimit (M : Nat) :
    aggregate (org.withLimit M) = some ⟨M, 24 * 60 * 60 * 1000, day_pos⟩ := by
  simp [aggregate, Organization.withLimit]

theorem windowMs_withLimit (hnone : aggregate org = none) (M : Nat) :
    windowMs (org.withLimit M) = windowMs org := by
  rw [windowMs, windowMs, aggregate_withLimit, hnone]
  rfl

/-- A limit that is high enough refuses nothing. -/
theorem reserve_withLimit (hnone : aggregate org = none) {db : DB} {agentId actionRef : String}
    {usdCents checked created : Int} {M : Nat}
    (hM : orgUsdCents org db (checked - windowMs org) + usdCents ≤ M) :
    reserve (org.withLimit M) db agentId usdCents actionRef checked created
      = reserve org db agentId usdCents actionRef checked created := by
  have hseen : ¬ ((M : Int)
      < orgUsdCents (org.withLimit M) db (checked - windowMs org) + usdCents) := not_lt.mpr hM
  unfold reserve
  rw [windowMs_withLimit hnone, aggregate_withLimit, hnone]
  simp only [Option.filter_some, Option.filter_none, hseen, decide_false]
  rfl

theorem step_withLimit (hnone : aggregate org = none) {a : Action} (h : call org s a = some s') :
    ∃ M, ∀ M' ≥ M, call (org.withLimit M') s a = some s' := by
  obtain ⟨hnonneg, hstep⟩ := guarded_eq_some.mp h
  cases a with
  | reserve agentId usdCents actionRef checked created =>
    refine ⟨(orgUsdCents org s.db (checked - windowMs org) + usdCents).toNat, fun M' hM' => ?_⟩
    refine guarded_eq_some.mpr ⟨hnonneg, ?_⟩
    simp only [step] at hstep ⊢
    rwa [reserve_withLimit hnone (Int.toNat_le.mp hM')]
  | settle reservationId actualUsdCents =>
    exact ⟨0, fun M' _ => guarded_eq_some.mpr ⟨hnonneg, hstep⟩⟩
  | release reservationId | revoke agentId reason now =>
    exact ⟨0, fun M' _ => guarded_eq_some.mpr ⟨hnonneg, hstep⟩⟩

theorem reaches_withLimit (hnone : aggregate org = none) (h : Reaches (call org) s t) :
    ∃ M, ∀ M' ≥ M, Reaches (call (org.withLimit M')) s t := by
  induction h with
  | refl => exact ⟨0, fun _ _ => .refl s⟩
  | tail _ hlast ih =>
    obtain ⟨a, ha⟩ := hlast
    obtain ⟨M, hM⟩ := ih
    obtain ⟨N, hN⟩ := step_withLimit hnone ha
    refine ⟨max M N, fun M' hM' => (hM M' ?_).trans (.head (hN M' ?_) (.refl _))⟩
    · exact (le_max_left M N).trans hM'
    · exact (le_max_right M N).trans hM'

/-- **In every run, a window holds of an agent at most its daily maximum.** -/
theorem agentBetween_le_dailyOf {clock : Int} (h : Reaches (call org) (.start clock) s) (i : String)
    (a : Int) : agentBetween org s.db i a (a + windowMs org) ≤ dailyOf org i := by
  cases hA : aggregate org with
  | some A =>
    rw [windowMs_eq hA]
    exact (bounded_of_reaches hA h).byAgent i a
  | none =>
    obtain ⟨M, hM⟩ := reaches_withLimit hA h
    have hbounded := bounded_of_reaches (aggregate_withLimit M) (hM M le_rfl)
    rw [← windowMs_withLimit hA M, windowMs_eq (aggregate_withLimit M)]
    exact hbounded.byAgent i a

theorem spendOf_eq_sum (db : DB) (a b : Int) :
    spendOf org ids db a b = ∑ i ∈ ids, agentBetween org db i a b := by
  have hsplit : spendOf org ids db a b = ∑ i ∈ ids, sumWhere SpendRow.usdCents
      (fun e => (Within SpendRow.createdAtMs (Counted org) a b e ∧ e.agentId ∈ ids) ∧ e.agentId = i)
      db.spend := sumWhere_by_key fun e _ he => he.2
  rw [hsplit]
  refine Finset.sum_congr rfl fun i hi => sumWhere_congr fun e _ => ?_
  constructor
  · exact fun h => ⟨h.1.1, h.2⟩
  · exact fun h => ⟨⟨h.1, h.2 ▸ hi⟩, h.2⟩

/-- **In every run, a window holds of some agents at most their daily maxima together**, and at
    most the enforced limit. -/
theorem spendOf_le {clock : Int} (h : Reaches (call org) (.start clock) s) (a : Int) :
    spendOf org ids s.db a (a + windowMs org) ≤ (∑ i ∈ ids, dailyOf org i : Nat) ∧
      ∀ A, aggregate org = some A → spendOf org ids s.db a (a + windowMs org) ≤ A.maxUsdCents := by
  constructor
  · rw [spendOf_eq_sum, Nat.cast_sum]
    exact Finset.sum_le_sum fun i _ => agentBetween_le_dailyOf h i a
  · intro A hA
    have hbounded := bounded_of_reaches hA h
    rw [windowMs_eq hA]
    exact (sumWhere_mono hbounded.nonneg fun e _ he => he.1).trans (hbounded.byOrg a)

end Window

/-! ## 3. Attacks -/

section Attacks

variable {org : Organization} {db : DB} {i : String} {perAction daily : Nat}

theorem windowMs_pos : 0 < windowMs org := by
  cases hA : aggregate org with
  | none =>
    rw [windowMs, hA, Option.elim_none]
    omega
  | some A =>
    have hpos := A.windowMs_pos
    rw [windowMs_eq hA]
    omega

def addCent (org : Organization) (db : DB) (i : String) : DB :=
  { db with spend := db.spend ++ [heldRow org db i 1 "" 0], lastRowid := db.lastRowid + 1 }

/-- **A cent can be reserved** below the daily maximum and the enforced limit. -/
theorem reserve_one (hc : ceilings org i 1 = .ok (perAction, daily)) (hper : 0 < perAction)
    (hrev : db.revocations = []) (hdaily : agentUsdCents org db i (0 - windowMs org) + 1 ≤ daily)
    (hagg : ∀ A, aggregate org = some A →
      orgUsdCents org db (0 - windowMs org) + 1 ≤ A.maxUsdCents) :
    call org ⟨db, 0⟩ (.reserve i 1 "" 0 0) = some ⟨addCent org db i, 0⟩ := by
  have hrevoked : isRevoked org db i = false := by
    rw [isRevoked, hrev]
    rfl
  have hok : reserve org db i 1 "" 0 0 = .ok (addCent org db i, db.lastRowid + 1) :=
    reserve_eq_ok.mpr ⟨perAction, daily, hc, hrevoked, by omega, hdaily, hagg, rfl, rfl⟩
  refine guarded_eq_some.mpr ⟨Int.one_nonneg, ?_⟩
  simp only [step, hok]
  rw [if_pos ⟨le_rfl, le_rfl⟩]

theorem orgUsdCents_addCent {since : Int} (h : since < 0) :
    orgUsdCents org (addCent org db i) since = orgUsdCents org db since + 1 := by
  have hnew : Counted org (heldRow org db i 1 "" 0) ∧ since < (heldRow org db i 1 "" 0).createdAtMs :=
    ⟨⟨rfl, .inl rfl⟩, h⟩
  show sumWhere _ _ (db.spend ++ [_]) = _
  rw [sumWhere_concat]
  exact congrArg _ (if_pos hnew)

/-- **Some agents can spend their daily maxima together**, up to the enforced limit. -/
theorem exists_attack (ids : Finset String) (m : Nat) (hdaily : m ≤ ∑ i ∈ ids, dailyOf org i)
    (hagg : ∀ A, aggregate org = some A → m ≤ A.maxUsdCents) :
    ∃ db, Reaches (call org) (.start 0) ⟨db, 0⟩ ∧ db.revocations = [] ∧
      (∀ e ∈ db.spend, e.agentId ∈ ids ∧ e.createdAtMs = 0 ∧ 0 ≤ e.usdCents) ∧
      ∀ since, since < 0 → orgUsdCents org db since = m := by
  have hpos : 0 < windowMs org := windowMs_pos
  induction m with
  | zero => exact ⟨⟨[], 0, []⟩, .refl _, rfl, by simp, fun _ _ => rfl⟩
  | succ m ih =>
    obtain ⟨db, hreach, hrev, hrows, htotal⟩ := ih (by omega) fun A hA => by
      have := hagg A hA
      omega
    have hused := htotal (0 - windowMs org) (by omega)
    -- some agent has spent less than its daily maximum
    have hsum : ∑ i ∈ ids, agentUsdCents org db i (0 - windowMs org) = m := by
      rw [← hused]
      exact (sumWhere_by_key fun e he _ => (hrows e he).1).symm
    have hlt : ∑ i ∈ ids, agentUsdCents org db i (0 - windowMs org) < ∑ i ∈ ids, (dailyOf org i : Int) := by
      have hcast : ((∑ i ∈ ids, dailyOf org i : Nat) : Int) = ∑ i ∈ ids, (dailyOf org i : Int) :=
        Nat.cast_sum _ _
      omega
    obtain ⟨i, hi, hbelow⟩ := Finset.exists_lt_of_sum_lt hlt
    have hnonneg : 0 ≤ agentUsdCents org db i (0 - windowMs org) := by
      have hempty : sumWhere SpendRow.usdCents (fun _ => False) db.spend = 0 :=
        sumWhere_eq_zero fun _ _ h => h
      rw [← hempty]
      exact sumWhere_mono (fun e he => (hrows e he).2.2) fun _ _ h => h.elim
    obtain ⟨perAction, hc, hper⟩ := ceilings_of_dailyOf (by omega : 0 < dailyOf org i) 1
    have hcall : call org ⟨db, 0⟩ (.reserve i 1 "" 0 0) = some ⟨addCent org db i, 0⟩ := by
      refine reserve_one hc hper hrev (by omega) fun A hA => ?_
      have := hagg A hA
      rw [hused]
      omega
    refine ⟨addCent org db i, hreach.trans (.head hcall (.refl _)), hrev, fun e he => ?_,
      fun since hsince => ?_⟩
    · rcases List.mem_append.mp he with hold | hnew
      · exact hrows e hold
      · rw [List.mem_singleton.mp hnew]
        exact ⟨hi, rfl, Int.one_nonneg⟩
    · rw [orgUsdCents_addCent hsince, htotal since hsince]
      push_cast
      rfl

theorem spendOf_eq_total {ids : Finset String}
    (hrows : ∀ e ∈ db.spend, e.agentId ∈ ids ∧ e.createdAtMs = 0) :
    spendOf org ids db (-1) (-1 + windowMs org) = orgUsdCents org db (-1) := by
  have hpos : 0 < windowMs org := windowMs_pos
  refine sumWhere_congr fun e he => ?_
  obtain ⟨hid, hdate⟩ := hrows e he
  constructor
  · intro h
    exact ⟨h.1.1, h.1.2.1⟩
  · intro h
    exact ⟨⟨h.1, h.2, by omega⟩, hid⟩

/-- A cent of the agent, other than the first row. -/
structure CentOf (org : Organization) (i : String) (e : SpendRow) : Prop where
  agent : e.agentId = i
  date : e.createdAtMs = 0
  counted : Counted org e
  cent : e.usdCents = 1
  notFirst : e.id ≠ 1

/-- The tables after a reservation of a negative amount, and some cents. -/
structure Overdrawn (org : Organization) (i : String) (n m : Nat) (db : DB) : Prop where
  reached : Reaches (step org) (.start 0) ⟨db, 0⟩
  unrevoked : db.revocations = []
  issued : 1 ≤ db.lastRowid
  rows : ∃ cents, db.spend = heldRow org ⟨[], 0, []⟩ i (-n) "" 0 :: cents ∧ cents.length = m ∧
    ∀ e ∈ cents, CentOf org i e

theorem overdrawn_start (hc : ceilings org i 0 = .ok (perAction, daily)) (n : Nat) :
    ∃ db, Overdrawn org i n 0 db := by
  let db' : DB := ⟨[heldRow org ⟨[], 0, []⟩ i (-n) "" 0], 1, []⟩
  have hok : reserve org ⟨[], 0, []⟩ i (-n) "" 0 0 = .ok (db', 1) := by
    refine reserve_eq_ok.mpr ⟨perAction, daily, ceilings_eq_ok.mpr (ceilings_eq_ok.mp hc), rfl,
      by omega, ?_, fun A _ => ?_, rfl, rfl⟩
    · show 0 + -(n : Int) ≤ daily
      omega
    · show 0 + -(n : Int) ≤ A.maxUsdCents
      omega
  have hstep : step org (.start 0) (.reserve i (-n) "" 0 0) = some ⟨db', 0⟩ := by
    simp only [step, Ledger.start, hok]
    rw [if_pos ⟨le_rfl, le_rfl⟩]
  exact ⟨db', .head hstep (.refl _), rfl, le_rfl, [], rfl, rfl, by simp⟩

theorem overdrawn_totals {n m : Nat} (h : Overdrawn org i n m db) {since : Int} (hsince : since < 0) :
    orgUsdCents org db since = m - n ∧ agentUsdCents org db i since = m - n := by
  obtain ⟨cents, hspend, rfl, hcents⟩ := h.rows
  have hfirst : Counted org (heldRow org ⟨[], 0, []⟩ i (-n) "" 0) ∧
      since < (heldRow org ⟨[], 0, []⟩ i (-n) "" 0).createdAtMs := ⟨⟨rfl, .inl rfl⟩, hsince⟩
  have hall : ∀ e ∈ cents, Counted org e ∧ since < e.createdAtMs := by
    intro e he
    rw [(hcents e he).date]
    exact ⟨(hcents e he).counted, hsince⟩
  unfold orgUsdCents agentUsdCents
  rw [hspend, sumWhere_cons, sumWhere_cons, if_pos hfirst, if_pos ⟨hfirst, rfl⟩,
    sumWhere_eq_length fun e he => ⟨hall e he, (hcents e he).cent⟩,
    sumWhere_eq_length fun e he => ⟨⟨hall e he, (hcents e he).agent⟩, (hcents e he).cent⟩]
  have hamount : (heldRow org ⟨[], 0, []⟩ i (-n) "" 0).usdCents = -n := rfl
  rw [hamount]
  omega

theorem overdrawn_cent (hc : ceilings org i 0 = .ok (perAction, daily)) (hper : 0 < perAction)
    {n m : Nat} (hm : m < n) (h : Overdrawn org i n m db) : ∃ db', Overdrawn org i n (m + 1) db' := by
  have hpos : 0 < windowMs org := windowMs_pos
  have hbefore : 0 - windowMs org < 0 := by omega
  obtain ⟨horg, hagent⟩ := overdrawn_totals h hbefore
  have hcall := reserve_one (ceilings_eq_ok.mpr (ceilings_eq_ok.mp hc)) hper h.unrevoked
    (by omega) fun A _ => by omega
  obtain ⟨cents, hspend, hlength, hcents⟩ := h.rows
  have hissued := h.issued
  refine ⟨addCent org db i, h.reached.trans (.head (guarded_eq_some.mp hcall).2 (.refl _)),
    h.unrevoked, Nat.le_succ_of_le hissued, cents ++ [heldRow org db i 1 "" 0], ?_, ?_, ?_⟩
  · rw [addCent, hspend, List.cons_append]
  · rw [List.length_append, hlength]
    rfl
  · intro e he
    rcases List.mem_append.mp he with hold | hnew
    · exact hcents e hold
    · rw [List.mem_singleton.mp hnew]
      refine ⟨rfl, rfl, ⟨rfl, .inl rfl⟩, rfl, ?_⟩
      show db.lastRowid + 1 ≠ 1
      omega

/-- **An agent that may act for a cent can hold any amount**: it reserves a negative amount, the
    cents that this hides, and releases the negative amount. -/
theorem exists_overdraw {ids : Finset String} (hi : i ∈ ids)
    (hc : ceilings org i 0 = .ok (perAction, daily)) (hper : 0 < perAction) (n : Nat) :
    ∃ s, Reaches (step org) (.start 0) s ∧ spendOf org ids s.db (-1) (-1 + windowMs org) = n := by
  have hpos : 0 < windowMs org := windowMs_pos
  have hcents : ∀ m ≤ n, ∃ db, Overdrawn org i n m db := by
    intro m hm
    induction m with
    | zero => exact overdrawn_start hc n
    | succ m ih =>
      obtain ⟨db, h⟩ := ih (by omega)
      exact overdrawn_cent hc hper (by omega) h
  obtain ⟨db, h⟩ := hcents n le_rfl
  obtain ⟨cents, hspend, hlength, hcents⟩ := h.rows
  have hstep : step org ⟨db, 0⟩ (.release 1) = some ⟨release org db 1, 0⟩ := rfl
  refine ⟨_, h.reached.trans (.head hstep (.refl _)), ?_⟩
  have hkept : cents.map (fun e => if e.id = 1 ∧ e.orgId = org.orgId ∧ e.state = .HELD then
      { e with state := .RELEASED } else e) = cents := by
    refine (List.map_congr_left fun e he => ?_).trans (List.map_id cents)
    exact if_neg fun heq => (hcents e he).notFirst heq.1
  have hfirst : (heldRow org ⟨[], 0, []⟩ i (-n) "" 0).id = 1 ∧
      (heldRow org ⟨[], 0, []⟩ i (-n) "" 0).orgId = org.orgId ∧
      (heldRow org ⟨[], 0, []⟩ i (-n) "" 0).state = .HELD := ⟨rfl, rfl, rfl⟩
  unfold spendOf release
  dsimp only
  rw [hspend, List.map_cons, hkept, if_pos hfirst, sumWhere_cons, if_neg, Int.zero_add,
    sumWhere_eq_length, hlength]
  · intro e he
    obtain ⟨hagent, hdate, hcounted, hcent, _⟩ := hcents e he
    rw [← hagent] at hi
    exact ⟨⟨⟨hcounted, by omega, by omega⟩, hi⟩, hcent⟩
  · intro h
    rcases h.1.1.2 with hstate | hstate <;> cases hstate

end Attacks

/-! ## 4. Agents that may not act -/

section Idle

variable {org : Organization} {ids : Finset String} {s s' : Ledger}

/-- No row of these agents counts upwards. -/
structure Unspent (org : Organization) (ids : Finset String) (s : Ledger) : Prop where
  distinct : (s.db.spend.map (·.id)).Nodup
  issued : ∀ e ∈ s.db.spend, e.id ≤ s.db.lastRowid
  nothing : ∀ e ∈ s.db.spend, e.agentId ∈ ids → e.usdCents ≤ 0

theorem unspent_of_map (hs : Unspent org ids s) {f : SpendRow → SpendRow} {db' : DB}
    (hspend : db'.spend = s.db.spend.map f) (hrow : db'.lastRowid = s.db.lastRowid)
    (hid : ∀ e, (f e).id = e.id)
    (hle : ∀ e ∈ s.db.spend, (f e).agentId ∈ ids → (f e).usdCents ≤ 0) :
    Unspent org ids { s with db := db' } := by
  refine ⟨?_, fun e he => ?_, fun e he => ?_⟩
  · show (db'.spend.map (·.id)).Nodup
    rw [hspend, List.map_map]
    have hfun : (fun e : SpendRow => e.id) ∘ f = fun e => e.id := funext hid
    rw [hfun]
    exact hs.distinct
  · rw [hspend] at he
    obtain ⟨e₀, he₀, rfl⟩ := List.mem_map.mp he
    rw [hid, hrow]
    exact hs.issued e₀ he₀
  · rw [hspend] at he
    obtain ⟨e₀, he₀, rfl⟩ := List.mem_map.mp he
    exact hle e₀ he₀

/-- **Agents that may not act spend nothing**, whatever the amounts. -/
theorem unspent_step
    (hidle : ∀ i ∈ ids, ∀ perAction daily, ceilings org i 0 = .ok (perAction, daily) → perAction = 0)
    {a : Action} (hs : Unspent org ids s) (h : step org s a = some s') : Unspent org ids s' := by
  cases a with
  | reserve agentId usdCents actionRef checked created =>
    simp only [step] at h
    split at h
    · split at h
      · next db' n hok =>
        cases h
        obtain ⟨perAction, daily, hc, _, hper, _, _, rfl, _⟩ := reserve_eq_ok.mp hok
        refine ⟨?_, fun e he => ?_, fun e he hmem => ?_⟩
        · show ((s.db.spend ++ [_]).map _).Nodup
          rw [List.map_append, List.nodup_append]
          refine ⟨hs.distinct, List.nodup_cons.mpr ⟨List.not_mem_nil, .nil⟩, fun i hi j hj hij => ?_⟩
          obtain ⟨e, he, rfl⟩ := List.mem_map.mp hi
          rw [List.map_singleton, List.mem_singleton] at hj
          have hissued := hs.issued e he
          have hnew : (heldRow org s.db agentId usdCents actionRef created).id
              = s.db.lastRowid + 1 := rfl
          omega
        · rcases List.mem_append.mp he with hold | hnew
          · exact (hs.issued e hold).trans (Nat.le_succ _)
          · rw [List.mem_singleton.mp hnew]
            exact le_rfl
        · rcases List.mem_append.mp he with hold | hnew
          · exact hs.nothing e hold hmem
          · rw [List.mem_singleton.mp hnew] at hmem ⊢
            have hzero := hidle agentId hmem perAction daily
              (ceilings_eq_ok.mpr (ceilings_eq_ok.mp hc))
            show usdCents ≤ 0
            omega
      · cases h
        exact ⟨hs.distinct, hs.issued, hs.nothing⟩
    · cases h
  | settle reservationId actualUsdCents =>
    simp only [step] at h
    split at h
    · next db' hok =>
      cases h
      obtain ⟨row, hrow, hid, _, _, hle, rfl⟩ := settle_ok hok
      refine unspent_of_map hs rfl rfl (fun e => ?_) fun e he hmem => ?_
      · by_cases h : e.id = reservationId <;> simp [h]
      · by_cases h : e.id = reservationId
        · have hsame : e = row := List.inj_on_of_nodup_map hs.distinct he hrow (h.trans hid.symm)
          rw [if_pos h] at hmem ⊢
          rw [hsame] at hmem
          exact hle.trans (hs.nothing row hrow hmem)
        · rw [if_neg h] at hmem ⊢
          exact hs.nothing e he hmem
    · cases h
      exact hs
  | release reservationId =>
    cases h
    refine unspent_of_map hs rfl rfl (fun e => ?_) fun e he hmem => ?_
    · split <;> rfl
    · have hnothing := hs.nothing e he
      split at hmem
      · next h =>
        rw [if_pos h]
        exact hnothing hmem
      · next h =>
        rw [if_neg h]
        exact hnothing hmem
  | revoke agentId reason now =>
    simp only [step] at h
    split at h
    · cases h
      exact ⟨hs.distinct, hs.issued, hs.nothing⟩
    · cases h

theorem spendOf_nonpos
    (hidle : ∀ i ∈ ids, ∀ perAction daily, ceilings org i 0 = .ok (perAction, daily) → perAction = 0)
    {clock : Int} (h : Reaches (step org) (.start clock) s) (a b : Int) :
    spendOf org ids s.db a b ≤ 0 := by
  have hunspent : Unspent org ids s :=
    h.invariant (fun _ _ _ hs hstep => unspent_step hidle hs hstep)
      ⟨List.nodup_nil, by simp [Ledger.start], by simp [Ledger.start]⟩
  exact sumWhere_nonpos fun e he hsel => hunspent.nothing e he hsel.2

end Idle

/-! ## 5. Exactly when the radius bounds the attacker -/

section Bound

variable (org : OrganizationBlueprint) (agentId : String)

/-- **With amounts that are not negative**, the radius bounds every run exactly where the agent's
    own daily maximum covers those of all agents it obtains, or the enforced limit is no
    higher. -/
theorem windowBound_call_iff : WindowBound (call org.ledger) org agentId ↔
    ∀ agent, org.agents.find? (·.id = agentId) = some agent → Covers org agent := by
  constructor
  · intro h agent hfind daily hdaily
    by_contra hnot
    rw [not_or] at hnot
    obtain ⟨hsum, hagg⟩ := hnot
    obtain ⟨radius, hradius, hattackers, hcap⟩ := exists_radius hfind
    have hbelow : ∀ A, aggregate org.ledger = some A → daily + 1 ≤ A.maxUsdCents := by
      intro A hA
      by_contra hle
      exact hagg ⟨A, hA, by omega⟩
    obtain ⟨db, hreach, _, hrows, htotal⟩ :=
      exists_attack (obtained org agent) (daily + 1) (by omega) hbelow
    have hspend : spendOf org.ledger (obtained org agent) db (-1) (-1 + windowMs org.ledger)
        = orgUsdCents org.ledger db (-1) :=
      spendOf_eq_total fun e he => ⟨(hrows e he).1, (hrows e he).2.1⟩
    rw [htotal (-1) (by omega)] at hspend
    have hle : ∀ cap, radius.maxWindowUsdCents = some cap → daily + 1 ≤ cap := by
      intro cap hmax
      have hbound := h radius cap hradius hmax 0 _ hreach (-1)
      rw [hattackers, hspend] at hbound
      omega
    rw [hcap] at hle
    cases hA : aggregate org.ledger with
    | none =>
      have hmax := hle daily (windowCap_eq_some.mpr (.inl ⟨daily, hdaily, hA, rfl⟩))
      omega
    | some A =>
      have hmax := hle _ (windowCap_eq_some.mpr (.inr (.inr ⟨daily, A, hdaily, hA, rfl⟩)))
      omega
  · intro h radius cap hradius hmax clock s hreach a
    obtain ⟨agent, hfind, hattackers, hcap⟩ := computeBlastRadius_ok hradius
    rw [hattackers]
    obtain ⟨hsum, hagg⟩ := @spendOf_le org.ledger s (obtained org agent) clock hreach a
    rw [hcap] at hmax
    have hcovers := h agent hfind
    rcases windowCap_eq_some.mp hmax with ⟨daily, hdaily, hA, rfl⟩ | ⟨A, _, hA, rfl⟩ |
      ⟨daily, A, hdaily, hA, rfl⟩
    · rcases hcovers cap hdaily with hle | ⟨A, hA', _⟩
      · omega
      · rw [hA] at hA'
        cases hA'
    · exact hagg A hA
    · have hlimit := hagg A hA
      rcases hcovers daily hdaily with hle | ⟨A', hA', hle⟩
      · omega
      · obtain rfl := Option.some.inj (hA.symm.trans hA')
        omega

/-- **With any amounts**, it bounds every run exactly where it says nothing or no agent obtained
    may act for a cent. -/
theorem windowBound_step_iff : WindowBound (step org.ledger) org agentId ↔
    ∀ agent, org.agents.find? (·.id = agentId) = some agent → Idle org agent := by
  constructor
  · intro h agent hfind
    by_contra hnot
    unfold Idle at hnot
    rw [not_or] at hnot
    obtain ⟨hsaid, hacts⟩ := hnot
    obtain ⟨radius, hradius, hattackers, hcap⟩ := exists_radius hfind
    have hmax : ∃ cap, radius.maxWindowUsdCents = some cap := by
      rw [hcap]
      cases hdaily : ownDaily agent with
      | none =>
        cases hA : aggregate org.ledger with
        | none => exact absurd ⟨hdaily, hA⟩ hsaid
        | some A => exact ⟨_, windowCap_eq_some.mpr (.inr (.inl ⟨A, hdaily, hA, rfl⟩))⟩
      | some daily =>
        cases hA : aggregate org.ledger with
        | none => exact ⟨_, windowCap_eq_some.mpr (.inl ⟨daily, hdaily, hA, rfl⟩)⟩
        | some A => exact ⟨_, windowCap_eq_some.mpr (.inr (.inr ⟨daily, A, hdaily, hA, rfl⟩))⟩
    obtain ⟨cap, hmax⟩ := hmax
    refine hacts fun i hi perAction daily hc => ?_
    by_contra hper
    obtain ⟨s, hreach, hspend⟩ := exists_overdraw hi hc (Nat.pos_of_ne_zero hper) (cap + 1)
    have hbound := h radius cap hradius hmax 0 s hreach (-1)
    rw [hattackers, hspend] at hbound
    omega
  · intro h radius cap hradius hmax clock s hreach a
    obtain ⟨agent, hfind, hattackers, hcap⟩ := computeBlastRadius_ok hradius
    rw [hattackers]
    rcases h agent hfind with hnothing | hidle
    · rw [hcap] at hmax
      obtain ⟨hdaily, hA⟩ := hnothing
      rcases windowCap_eq_some.mp hmax with ⟨daily, hdaily', _⟩ | ⟨A, _, hA', _⟩ |
        ⟨daily, A, hdaily', _⟩
      · rw [hdaily] at hdaily'
        cases hdaily'
      · rw [hA] at hA'
        cases hA'
      · rw [hdaily] at hdaily'
        cases hdaily'
    · exact (spendOf_nonpos hidle hreach a _).trans (Int.natCast_nonneg _)

/-- **Exactly when the radius bounds what an attacker can get reserved in a window**, with any
    amounts and with amounts that are not negative. -/
theorem window_bound_iff :
    (WindowBound (step org.ledger) org agentId ↔
      ∀ agent, org.agents.find? (·.id = agentId) = some agent → Idle org agent) ∧
    (WindowBound (call org.ledger) org agentId ↔
      ∀ agent, org.agents.find? (·.id = agentId) = some agent → Covers org agent) :=
  ⟨windowBound_step_iff org agentId, windowBound_call_iff org agentId⟩

end Bound

/-- A guardian that may spend 750 dollars a day. -/
def guardian : AgentBlueprint where
  id := "guardian"
  executionClass := .EXECUTE
  escalationMaxUsdCents := some 75000
  dailyMaxUsdCents := some 75000
  ensLabel := "guardian"
  ensName := "guardian.agents.acme.eth"
  executionCapabilities := ["aave-v3-execution:REPAY"]
  dataCapabilities := []
  autonomousMaxUsdCents := some 50000
  executionDomain := "domain:guardian"
  policyId := "policy-treasury"

def sharedPolicyDepartment : OrganizationBlueprint :=
  { treasuryDepartment with
    agents := [guardian, { guardian with id := "payer", executionDomain := "domain:payer" }] }

/-- The radius of the guardian says 750 dollars, and reaches the payer, which can spend another
    500. -/
theorem shared_policy_unbounded :
    ¬ WindowBound (call sharedPolicyDepartment.ledger) sharedPolicyDepartment "guardian" := by
  rw [windowBound_call_iff]
  intro h
  have hfind : sharedPolicyDepartment.agents.find? (·.id = "guardian") = some guardian := by
    simp [sharedPolicyDepartment, guardian]
  rcases h guardian hfind 75000 rfl with hsum | ⟨A, hA, hle⟩
  · revert hsum
    decide
  · have hmem : A ∈ [(⟨125000, 86400000, by decide⟩ : AggregateLimit)] := aggregate_mem hA
    rw [List.mem_singleton.mp hmem] at hle
    revert hle
    decide

end ContextLock.Org
