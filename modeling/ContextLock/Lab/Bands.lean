/-
  Subject:   Which rule governs an amount: what runs alone, what a human is asked for, what is
             denied.
-/
import ContextLock.Lab.Enforced

namespace ContextLock.Lab

/-! ## 1. Bands -/

/-- The autonomous ceiling, the escalation floor and the escalation ceiling, in US cents. -/
structure Band where
  auto : Nat
  floor : Nat
  cap : Nat
  deriving DecidableEq

inductive Rule where
  | autonomous
  | escalation
  | denial
  deriving DecidableEq

/-- The rule speaks of the amount. -/
def Band.Governs (b : Band) (amount : Nat) : Rule → Prop
  | .autonomous => amount ≤ b.auto
  | .escalation => b.floor < amount ∧ amount ≤ b.cap
  | .denial => b.cap < amount

/-- Whichever band in force is asked, exactly one rule governs each amount, and the same one;
    some amount escalates. -/
structure Partition (inForce : Band → Prop) : Prop where
  one : ∀ b, inForce b → ∀ amount, ∃! rule, b.Governs amount rule
  escalates : ∀ b, inForce b → ∃ amount, b.Governs amount .escalation
  agree : ∀ b b', inForce b → inForce b' → ∀ amount rule, b.Governs amount rule →
    b'.Governs amount rule

/-- What the band permits, the other one permits. -/
structure Band.Within (b g : Band) : Prop where
  autonomous : ∀ amount, b.Governs amount .autonomous → g.Governs amount .autonomous
  denial : ∀ amount, g.Governs amount .denial → b.Governs amount .denial

section

variable {b b' g : Band} {inForce : Band → Prop}

/-- **Each amount is governed once iff the floor is the autonomous ceiling.** -/
theorem one_rule_iff_thresholds :
    ((∀ amount, ∃! rule, b.Governs amount rule) ∧ ∃ amount, b.Governs amount .escalation) ↔
      b.floor = b.auto ∧ b.auto < b.cap := by
  constructor
  · intro h
    obtain ⟨hone, amount, hfloor, hcap⟩ := h
    have hle : ¬ b.floor < b.auto := by
      intro hlt
      obtain ⟨rule, _, huniq⟩ := hone (b.floor + 1)
      have hauto : b.Governs (b.floor + 1) .autonomous := hlt
      have hesc : b.Governs (b.floor + 1) .escalation := ⟨by omega, by omega⟩
      exact absurd ((huniq _ hauto).trans (huniq _ hesc).symm) (by decide)
    have hge : ¬ b.auto < b.floor := by
      intro hlt
      obtain ⟨rule, hrule, _⟩ := hone (b.auto + 1)
      cases rule with
      | autonomous => exact absurd hrule (Nat.not_succ_le_self _)
      | escalation =>
        have hgap : b.floor < b.auto + 1 := hrule.1
        omega
      | denial =>
        have hdeny : b.cap < b.auto + 1 := hrule
        omega
    omega
  · intro h
    obtain ⟨hfloor, hcap⟩ := h
    refine ⟨fun amount => ?_, b.cap, by omega, le_refl _⟩
    have hsame : ∀ rule rule', b.Governs amount rule → b.Governs amount rule' → rule = rule' := by
      intro rule rule' hr hr'
      cases rule <;> cases rule' <;> simp only [Band.Governs] at hr hr' <;> first | rfl | omega
    have hsome : ∃ rule, b.Governs amount rule := by
      by_cases hauto : amount ≤ b.auto
      · exact ⟨.autonomous, hauto⟩
      · by_cases hesc : amount ≤ b.cap
        · exact ⟨.escalation, by omega, hesc⟩
        · exact ⟨.denial, Nat.lt_of_not_le hesc⟩
    obtain ⟨rule, hrule⟩ := hsome
    exact ⟨rule, hrule, fun rule' hr => hsame _ _ hr hrule⟩

theorem agree_iff (hb : b.floor = b.auto) (hb' : b'.floor = b'.auto) :
    (∀ amount rule, b.Governs amount rule → b'.Governs amount rule) ↔
      b'.cap ≤ b.cap ∧ b.auto ≤ b'.auto ∧ (b.auto < b.cap → b'.auto ≤ b.auto ∧ b.cap ≤ b'.cap) := by
  constructor
  · intro h
    have hauto : b.auto ≤ b'.auto := h b.auto .autonomous (le_refl b.auto)
    have hdeny : b'.cap < b.cap + 1 := h (b.cap + 1) .denial (Nat.lt_succ_self b.cap)
    refine ⟨by omega, hauto, fun hlt => ?_⟩
    have hlow : b'.floor < b.auto + 1 ∧ _ := h (b.auto + 1) .escalation ⟨by omega, hlt⟩
    have hhigh : _ ∧ b.cap ≤ b'.cap := h b.cap .escalation ⟨by omega, le_refl _⟩
    omega
  · intro h amount rule hr
    cases rule <;> simp only [Band.Governs] at hr ⊢ <;> omega

/-- **Bands partition the amounts iff they are one band** whose floor is its autonomous ceiling. -/
theorem partition_iff : Partition inForce ↔
    (∀ b, inForce b → b.floor = b.auto ∧ b.auto < b.cap) ∧
      ∀ b b', inForce b → inForce b' → b = b' := by
  constructor
  · intro h
    have hall : ∀ b, inForce b → b.floor = b.auto ∧ b.auto < b.cap := fun b hb =>
      one_rule_iff_thresholds.mp ⟨h.one b hb, h.escalates b hb⟩
    refine ⟨hall, fun b b' hb hb' => ?_⟩
    obtain ⟨hfloor, hcap⟩ := hall b hb
    obtain ⟨hfloor', _⟩ := hall b' hb'
    have hagree := (agree_iff hfloor hfloor').mp (h.agree b b' hb hb')
    obtain ⟨auto, floor, cap⟩ := b
    obtain ⟨auto', floor', cap'⟩ := b'
    simp only [Band.mk.injEq] at *
    omega
  · intro h
    have hone := fun b hb => one_rule_iff_thresholds.mpr (h.1 b hb)
    exact ⟨fun b hb => (hone b hb).1, fun b hb => (hone b hb).2,
      fun b b' hb hb' _ _ hr => h.2 b b' hb hb' ▸ hr⟩

theorem within_iff : b.Within g ↔ b.auto ≤ g.auto ∧ b.cap ≤ g.cap := by
  constructor
  · intro h
    have hdeny : b.cap < g.cap + 1 := h.denial (g.cap + 1) (Nat.lt_succ_self g.cap)
    exact ⟨h.autonomous b.auto (le_refl b.auto), by omega⟩
  · exact fun h => ⟨fun _ ha => le_trans ha h.1, fun _ hd => lt_of_le_of_lt h.2 hd⟩

end

/-! ## 2. The limits in force -/

/-- The global limits, all of them known. -/
def globalBand (bp : Blueprint) : Option Band := do
  let auto ← bp.autonomousPolicy.maxValueUsdCents.value?
  let floor ← bp.escalationPolicy.minValueUsdCents.value?
  let cap ← bp.escalationPolicy.maxValueUsdCents.value?
  return ⟨auto, floor, cap⟩

/-- The global limits, but where the entry knows its own. -/
def Band.tightened (g : Band) (l : PerActionLimit) : Band where
  auto := l.autonomousMaxUsdCents.value?.getD g.auto
  floor := l.escalationMinUsdCents.value?.getD g.floor
  cap := l.escalationMaxUsdCents.value?.getD g.cap

/-- The limits of an action: one for each entry that names it, else the global ones. -/
def InForce (bp : Blueprint) (g : Band) (id : String) (b : Band) : Prop :=
  (∃ l ∈ bp.perActionLimits, l.actionRef = id ∧ b = g.tightened l) ∨
    (∀ l ∈ bp.perActionLimits, l.actionRef ≠ id) ∧ b = g

/-- **Exactly one policy governs each amount**, of the agent and of every action, and no action's
    is wider than the agent's. -/
structure OneRule (bp : Blueprint) (g : Band) : Prop where
  agent : Partition (· = g)
  action : ∀ a ∈ bp.actions, Partition (InForce bp g a.id)
  within : ∀ a ∈ bp.actions, ∀ b, InForce bp g a.id b → b.Within g

/-- The escalation floor is the autonomous ceiling, for the agent and for every entry; no entry is
    left with an empty band; entries of one action leave the same limits. -/
structure Aligned (bp : Blueprint) (g : Band) : Prop where
  agent : g.floor = g.auto
  entry : ∀ l ∈ bp.perActionLimits, (g.tightened l).floor = (g.tightened l).auto ∧
    (g.tightened l).auto < (g.tightened l).cap
  agree : ∀ l ∈ bp.perActionLimits, ∀ l' ∈ bp.perActionLimits, l.actionRef = l'.actionRef →
    g.tightened l = g.tightened l'

section

variable {bp : Blueprint} {g : Band}

theorem globalBand_eq_some (hg : globalBand bp = some g) :
    bp.autonomousPolicy.maxValueUsdCents.value? = some g.auto ∧
      bp.escalationPolicy.maxValueUsdCents.value? = some g.cap := by
  simp only [globalBand, Option.bind_eq_bind, Option.bind_eq_some_iff] at hg
  obtain ⟨auto, hauto, floor, _, cap, hcap, hband⟩ := hg
  obtain rfl := Option.some.inj hband
  exact ⟨hauto, hcap⟩

theorem issueIf_eq_nil {c : Bool} {i : ValidationIssue} : issueIf c i = [] ↔ c = false := by
  cases c <;> simp [issueIf]

theorem perActionIssues_eq_nil (h : (validateBlueprint bp).buildable = true) {l : PerActionLimit}
    (hl : l ∈ bp.perActionLimits) : perActionIssues bp.autonomousPolicy.maxValueUsdCents.value?
      bp.escalationPolicy.maxValueUsdCents.value? (bp.actions.map Action.id) l = [] := by
  obtain ⟨_, _, hissues⟩ := buildable_iff.mp h
  refine List.eq_nil_iff_forall_not_mem.mpr fun i hi => ?_
  have hmem : i ∈ blueprintIssues bp :=
    List.mem_flatten.mpr ⟨_, .head _, List.mem_flatMap.mpr ⟨l, hl, hi⟩⟩
  refine (hissues i hmem).1 ?_
  unfold perActionIssues issueIf at hi
  split at hi
  · rw [List.mem_singleton.mp hi]
  · simp only [List.mem_append] at hi
    rcases hi with (hi | hi) | hi <;> split at hi <;> simp at hi <;> rw [hi]

/-- **An entry names an action and tightens**: where it knows a limit, it is no greater. -/
theorem within_global (h : (validateBlueprint bp).buildable = true) (hg : globalBand bp = some g)
    {l : PerActionLimit} (hl : l ∈ bp.perActionLimits) :
    l.actionRef ∈ bp.actions.map Action.id ∧ (g.tightened l).Within g := by
  obtain ⟨hauto, hcap⟩ := globalBand_eq_some hg
  have hnil := perActionIssues_eq_nil h hl
  unfold perActionIssues at hnil
  split at hnil
  · cases hnil
  · rename_i href
    simp only [List.append_eq_nil_iff, issueIf_eq_nil, hauto, hcap, Option.any_some] at hnil
    refine ⟨not_not.mp href, within_iff.mpr ⟨?_, ?_⟩⟩
    · show l.autonomousMaxUsdCents.value?.getD g.auto ≤ g.auto
      cases hown : l.autonomousMaxUsdCents.value? with
      | none => exact le_refl _
      | some auto => simpa [hown] using hnil.1.1
    · show l.escalationMaxUsdCents.value?.getD g.cap ≤ g.cap
      cases hown : l.escalationMaxUsdCents.value? with
      | none => exact le_refl _
      | some cap => simpa [hown] using hnil.1.2

/-- **When exactly one policy governs each amount**: when floors are ceilings, and entries agree. -/
theorem aligned_iff (h : (validateBlueprint bp).buildable = true) (hg : globalBand bp = some g) :
    OneRule bp g ↔ Aligned bp g := by
  obtain ⟨hauto, hcap⟩ := globalBand_eq_some hg
  have hband : g.auto < g.cap := escalation_above_autonomous h hauto hcap
  have hnamed : ∀ l ∈ bp.perActionLimits, ∃ a ∈ bp.actions, a.id = l.actionRef := fun l hl =>
    List.mem_map.mp (within_global h hg hl).1
  constructor
  · intro hone
    refine ⟨((partition_iff.mp hone.agent).1 g rfl).1, fun l hl => ?_, fun l hl l' hl' hsame => ?_⟩
    · obtain ⟨a, ha, hid⟩ := hnamed l hl
      exact (partition_iff.mp (hone.action a ha)).1 _ (.inl ⟨l, hl, hid.symm, rfl⟩)
    · obtain ⟨a, ha, hid⟩ := hnamed l hl
      exact (partition_iff.mp (hone.action a ha)).2 _ _ (.inl ⟨l, hl, hid.symm, rfl⟩)
        (.inl ⟨l', hl', hsame.symm.trans hid.symm, rfl⟩)
  · intro haligned
    refine ⟨partition_iff.mpr ⟨fun b hb => ?_, fun b b' hb hb' => hb.trans hb'.symm⟩,
      fun a _ => partition_iff.mpr ⟨fun b hb => ?_, fun b b' hb hb' => ?_⟩, fun a _ b hb => ?_⟩
    · rw [hb]
      exact ⟨haligned.agent, hband⟩
    · obtain ⟨l, hl, _, rfl⟩ | ⟨_, rfl⟩ := hb
      · exact haligned.entry l hl
      · exact ⟨haligned.agent, hband⟩
    · obtain ⟨l, hl, href, rfl⟩ | ⟨hnone, rfl⟩ := hb <;>
        obtain ⟨l', hl', href', rfl⟩ | ⟨hnone', rfl⟩ := hb'
      · exact haligned.agree l hl l' hl' (href.trans href'.symm)
      · exact absurd href (hnone' l hl)
      · exact absurd href' (hnone l' hl')
      · rfl
    · obtain ⟨l, hl, _, rfl⟩ | ⟨_, rfl⟩ := hb
      · exact (within_global h hg hl).2
      · exact within_iff.mpr ⟨le_refl _, le_refl _⟩

end

theorem aligned_iff_sample : OneRule sampleBlueprint ⟨100000, 100000, 500000⟩ ↔
    Aligned sampleBlueprint ⟨100000, 100000, 500000⟩ :=
  aligned_iff (by decide) rfl

/-- The same agent, who asks a human from $3,000 on and acts alone up to $1,000. -/
def gappedBlueprint : Blueprint :=
  { sampleBlueprint with
    escalationPolicy := ⟨.known 300000, .known 500000, .approvalRegistryStandin⟩ }

/-- **No policy governs $2,000**, and the Blueprint is buildable. -/
theorem gap_counterexample : (validateBlueprint gappedBlueprint).buildable = true ∧
    globalBand gappedBlueprint = some ⟨100000, 300000, 500000⟩ ∧
    ¬ OneRule gappedBlueprint ⟨100000, 300000, 500000⟩ := by
  refine ⟨by decide, rfl, fun h => ?_⟩
  have hfloor := ((partition_iff.mp h.agent).1 _ rfl).1
  exact absurd hfloor (by decide)

end ContextLock.Lab
