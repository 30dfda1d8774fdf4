/-
  Subject:   The daily caps of the agents, over days.

  The ledger measures an agent's spend over the window of its one enforced limit, not over a day.
  So within a day an agent spends what it may in one window, for every window that begins in the
  day; the caps hold exactly where that is no more than they say.
-/
import ContextLock.Org.Attack

namespace ContextLock.Org

open Accounting Machine

/-! ## 1. Caps over days -/

/-- 24 hours, as a limit. -/
def day : AggregateLimit := ⟨0, 24 * 60 * 60 * 1000, day_pos⟩

/-- **The daily caps hold**: in every run, an agent's held and settled spend inside 24 hours is at
    most its daily maximum. -/
def CapsHold (org : Organization) : Prop :=
  ∀ clock s, Reaches (call org) (.start clock) s → ∀ agent ∈ org.agents, ∀ daily,
    agent.dailyMaxUsdCents = some daily →
    ∀ b, agentBetween org s.db agent.id (b - day.windowMs) b ≤ daily

/-- The limit whose window the ledger uses: a day, where none is declared. -/
def measured (org : Organization) : AggregateLimit := (aggregate org).getD day

/-- What an agent can have reserved in one window. -/
def capacity (org : Organization) (i : String) : Nat :=
  (aggregate org).elim (dailyOf org i) fun A => min A.maxUsdCents (dailyOf org i)

def CapsCovered (org : Organization) : Prop :=
  ∀ agent ∈ org.agents, ∀ daily, agent.dailyMaxUsdCents = some daily →
    windowsOf (measured org) day * capacity org agent.id ≤ daily

theorem windowMs_measured (org : Organization) : windowMs org = (measured org).windowMs := by
  unfold windowMs measured
  cases aggregate org with
  | none => rfl
  | some A => rfl

theorem capacity_le_dailyOf (org : Organization) (i : String) : capacity org i ≤ dailyOf org i := by
  unfold capacity
  cases aggregate org with
  | none => exact le_rfl
  | some A => exact Nat.min_le_right _ _

theorem capacity_le_max {org : Organization} {A : AggregateLimit} (hA : aggregate org = some A)
    (i : String) : capacity org i ≤ A.maxUsdCents := by
  rw [capacity, hA]
  exact Nat.min_le_left _ _

/-! ## 2. No day holds more -/

section Day

variable {org : Organization} {s : Ledger} {clock : Int} {i : String}

theorem nonneg_of_reaches (h : Reaches (call org) (.start clock) s) :
    ∀ e ∈ s.db.spend, 0 ≤ e.usdCents := by
  cases hA : aggregate org with
  | some A => exact (bounded_of_reaches hA h).nonneg
  | none =>
    obtain ⟨M, hM⟩ := reaches_withLimit hA h
    exact (bounded_of_reaches (aggregate_withLimit M) (hM M le_rfl)).nonneg

theorem agentBetween_le_capacity (h : Reaches (call org) (.start clock) s) (a : Int) :
    agentBetween org s.db i a (a + windowMs org) ≤ capacity org i := by
  have hdaily := agentBetween_le_dailyOf h i a
  unfold capacity
  cases hA : aggregate org with
  | none => exact hdaily
  | some A =>
    have hsum : spendOf org {i} s.db a (a + windowMs org) ≤ A.maxUsdCents :=
      (spendOf_le h a).2 A hA
    rw [spendOf_eq_sum, Finset.sum_singleton] at hsum
    rw [Option.elim_some, Nat.cast_min]
    exact le_min hsum hdaily

/-- **One day** holds at most the capacity of the windows that begin in it. -/
theorem agentBetween_day_le (h : Reaches (call org) (.start clock) s) (b : Int) :
    agentBetween org s.db i (b - day.windowMs) b
      ≤ windowsOf (measured org) day * capacity org i := by
  have hnonneg := nonneg_of_reaches h
  have hcongr : ∀ a c, agentBetween org s.db i a c = sumWhere SpendRow.usdCents
      (Within SpendRow.createdAtMs (fun e => Counted org e ∧ e.agentId = i) a c) s.db.spend := by
    intro a c
    refine sumWhere_congr fun e _ => ?_
    constructor
    · exact fun h => ⟨⟨h.1.1, h.2⟩, h.1.2⟩
    · exact fun h => ⟨⟨h.1.1, h.2⟩, h.1.2⟩
  have hwindow : ∀ a, sumWhere SpendRow.usdCents
      (Within SpendRow.createdAtMs (fun e => Counted org e ∧ e.agentId = i) a
        (a + (measured org).windowMs)) s.db.spend ≤ (capacity org i : Int) := by
    intro a
    rw [← hcongr, ← windowMs_measured]
    exact agentBetween_le_capacity h a
  have hcover := window_cover hnonneg hwindow (windowsOf (measured org) day) b
  refine le_trans ?_ hcover
  rw [← hcongr]
  refine sumWhere_mono hnonneg fun e _ he => ?_
  obtain ⟨⟨hcount, hafter, hbefore⟩, hid⟩ := he
  have hge : (day.windowMs : Int) ≤ windowsOf (measured org) day * (measured org).windowMs := by
    exact_mod_cast windowsOf_mul_ge (measured org) day
  exact ⟨⟨hcount, by omega, hbefore⟩, hid⟩

end Day

/-! ## 3. So much can be spent -/

/-- A ledger in which only one agent has spent, and nobody is revoked. -/
structure Solo (org : Organization) (i : String) (s : Ledger) : Prop where
  rows : ∀ e ∈ s.db.spend, e.agentId = i ∧ e.createdAtMs ≤ s.clock ∧ 0 ≤ e.usdCents
  unrevoked : s.db.revocations = []

section Spend

variable {org : Organization} {s : Ledger} {i : String}

theorem Solo.spend_eq (h : Solo org i s) (since : Int) :
    agentUsdCents org s.db i since = s.spend org since :=
  sumWhere_congr fun e he => ⟨fun hsel => hsel.1, fun hsel => ⟨hsel, (h.rows e he).1⟩⟩

theorem Solo.spend_nonneg (h : Solo org i s) (since : Int) : 0 ≤ s.spend org since := by
  have hempty : sumWhere SpendRow.usdCents (fun _ => False) s.db.spend = 0 :=
    sumWhere_eq_zero fun _ _ hf => hf
  rw [← hempty]
  exact sumWhere_mono (fun e he => (h.rows e he).2.2) fun _ _ hf => hf.elim

def centAt (org : Organization) (s : Ledger) (i : String) (now : Int) : Ledger :=
  ⟨{ s.db with spend := s.db.spend ++ [heldRow org s.db i 1 "" now]
               lastRowid := s.db.lastRowid + 1 }, now⟩

theorem Solo.cent (h : Solo org i s) {now : Int} (hnow : s.clock ≤ now) :
    Solo org i (centAt org s i now) := by
  refine ⟨fun e he => ?_, h.unrevoked⟩
  rcases List.mem_append.mp he with hold | hnew
  · obtain ⟨hid, hdate, hamount⟩ := h.rows e hold
    exact ⟨hid, hdate.trans hnow, hamount⟩
  · rw [List.mem_singleton.mp hnew]
    exact ⟨rfl, le_rfl, Int.one_nonneg⟩

theorem spend_centAt {now since : Int} (hsince : since < now) :
    (centAt org s i now).spend org since = s.spend org since + 1 := by
  have hnew : Counted org (heldRow org s.db i 1 "" now) ∧
      since < (heldRow org s.db i 1 "" now).createdAtMs := ⟨⟨rfl, .inl rfl⟩, hsince⟩
  show sumWhere _ _ (s.db.spend ++ [_]) = _
  rw [sumWhere_concat]
  exact congrArg _ (if_pos hnew)

/-- **Below its capacity the agent can reserve one more cent.** -/
theorem call_cent (h : Solo org i s) {now : Int} (hnow : s.clock ≤ now)
    (hlt : s.spend org (now - windowMs org) < capacity org i) :
    call org s (.reserve i 1 "" now now) = some (centAt org s i now) := by
  have hused := h.spend_nonneg (now - windowMs org)
  have hdaily : (capacity org i : Int) ≤ dailyOf org i := by
    exact_mod_cast capacity_le_dailyOf org i
  obtain ⟨perAction, hc, hper⟩ := ceilings_of_dailyOf (by omega : 0 < dailyOf org i) 1
  have hrevoked : isRevoked org s.db i = false := by
    rw [isRevoked, h.unrevoked]
    rfl
  have hagent := h.spend_eq (now - windowMs org)
  have hok : reserve org s.db i 1 "" now now
      = .ok ((centAt org s i now).db, s.db.lastRowid + 1) := by
    refine reserve_eq_ok.mpr ⟨perAction, dailyOf org i, hc, hrevoked, by omega, by omega,
      fun A hA => ?_, rfl, rfl⟩
    have hmax : (capacity org i : Int) ≤ A.maxUsdCents := by
      exact_mod_cast capacity_le_max hA i
    have hspend : orgUsdCents org s.db (now - windowMs org) < capacity org i := hlt
    omega
  refine guarded_eq_some.mpr ⟨Int.one_nonneg, ?_⟩
  simp only [step, hok]
  rw [if_pos ⟨hnow, le_rfl⟩]
  rfl

theorem reserve_cents (h : Solo org i s) {now : Int} (hnow : s.clock ≤ now)
    (hquiet : s.spend org (now - windowMs org) = 0) (m : Nat) (hm : m ≤ capacity org i) :
    ∃ t, Reaches (call org) s t ∧ Solo org i t ∧ t.clock ≤ now ∧
      ∀ since, since < now → t.spend org since = s.spend org since + m := by
  have hpos : 0 < windowMs org := windowMs_pos
  induction m with
  | zero => exact ⟨s, .refl s, h, hnow, fun _ _ => (add_zero _).symm⟩
  | succ m ih =>
    obtain ⟨t, hreach, ht, hclock, hspend⟩ := ih (by omega)
    have hused := hspend (now - windowMs org) (by omega)
    have hcall := call_cent ht hclock (by omega)
    refine ⟨centAt org t i now, hreach.trans (.head hcall (.refl _)), ht.cent hclock, le_rfl,
      fun since hsince => ?_⟩
    rw [spend_centAt hsince, hspend since hsince]
    push_cast
    ring

/-- **In any number of windows, one after the other**, the agent can spend its capacity. -/
theorem days_reachable (org : Organization) (i : String) (k : Nat) :
    ∃ s, Reaches (call org) (.start (-windowMs org)) s ∧ Solo org i s ∧
      s.clock ≤ k * windowMs org - windowMs org ∧
      ∀ since, since < 0 → s.spend org since = k * capacity org i := by
  have hpos : 0 < windowMs org := windowMs_pos
  induction k with
  | zero =>
    refine ⟨_, .refl _, ⟨fun e he => ?_, rfl⟩, by simp [Ledger.start], fun _ _ => ?_⟩
    · cases he
    · rw [Nat.cast_zero, zero_mul]
      rfl
  | succ k ih =>
    obtain ⟨s, hreach, hs, hclock, hspend⟩ := ih
    -- what was spent so far is at least one window old
    have hquiet : s.spend org (k * windowMs org - windowMs org) = 0 := by
      refine sumWhere_eq_zero fun e he hsel => ?_
      have hdate := (hs.rows e he).2.1
      have hafter := hsel.2
      omega
    obtain ⟨t, hreach', ht, hclock', hspend'⟩ :=
      reserve_cents hs (by omega) hquiet (capacity org i) le_rfl
    refine ⟨t, hreach.trans hreach', ht, ?_, fun since hsince => ?_⟩
    · push_cast
      rw [add_mul, one_mul]
      omega
    · have hnonneg : (0 : Int) ≤ k * windowMs org := mul_nonneg (by omega) (by omega)
      rw [hspend' since (by omega), hspend since hsince]
      push_cast
      ring

theorem agentBetween_day_eq (h : Solo org i s) {b : Int} (hb : s.clock ≤ b) :
    agentBetween org s.db i (b - day.windowMs) b = s.spend org (b - day.windowMs) := by
  refine sumWhere_congr fun e he => ?_
  obtain ⟨hid, hdate, -⟩ := h.rows e he
  constructor
  · exact fun hsel => ⟨hsel.1.1, hsel.1.2.1⟩
  · exact fun hsel => ⟨⟨hsel.1, hsel.2, hdate.trans hb⟩, hid⟩

/-- **The daily caps hold in every run exactly where each covers what its agent can spend in the
    windows that begin in a day.** -/
theorem caps_hold_iff (org : Organization) : CapsHold org ↔ CapsCovered org := by
  constructor
  · intro h agent hagent daily hdaily
    obtain ⟨s, hreach, hs, hclock, hspend⟩ :=
      days_reachable org agent.id (windowsOf (measured org) day)
    -- the last of the windows begins in the day
    have hlast := windowsOf_pred_mul_lt (measured org) day
    have hone := windowsOf_pos (measured org) day
    have hend : (windowsOf (measured org) day : Int) * windowMs org - windowMs org
        < day.windowMs := by
      have hcast : (((windowsOf (measured org) day - 1) * (measured org).windowMs : Nat) : Int)
          < day.windowMs := Nat.cast_lt.mpr hlast
      have hsub : ((windowsOf (measured org) day - 1 : Nat) : Int)
          = windowsOf (measured org) day - 1 := by omega
      rw [Nat.cast_mul, hsub, sub_mul, one_mul, ← windowMs_measured] at hcast
      exact hcast
    have hle := h _ s hreach agent hagent daily hdaily
      (windowsOf (measured org) day * windowMs org - windowMs org)
    rw [agentBetween_day_eq hs hclock, hspend _ (by omega)] at hle
    exact_mod_cast hle
  · intro h clock s hreach agent hagent daily hdaily b
    have hcovered : (windowsOf (measured org) day * capacity org agent.id : Int) ≤ daily := by
      exact_mod_cast h agent hagent daily hdaily
    exact (agentBetween_day_le hreach b).trans hcovered

end Spend

/-! ## 4. A cap that is exceeded -/

/-- **A daily cap is exceeded**: under an hourly limit, an agent whose cap is a dollar a day spends
    a dollar, and one hour later a dollar again. -/
theorem daily_cap_exceeded : ¬ CapsHold treasuryOrg := by
  intro h
  have hreach : Reaches (call treasuryOrg) (.start 0) ⟨dollarsAt [0, 3600000], 3600000⟩ :=
    .head first_dollar (.head second_dollar (.refl _))
  have hle := h 0 _ hreach _ List.mem_cons_self 100 rfl 3600000
  exact absurd hle (by decide)

end ContextLock.Org
