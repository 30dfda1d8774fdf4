/-
  Subject:   What the validation of a Blueprint vouches for.

  An autonomous action is looked up by its id, and covered by a permission that names it or by a
  word of an allowed statement; a denied permission's reference is not read; and any bound adapter
  serves a data requirement.
-/
import ContextLock.Lab.Enforced

namespace ContextLock.Lab

/-! ## 1. What is vouched for -/

def RecipientPolicy.Fixed (p : RecipientPolicy) : Prop := ∀ justification, p ≠ .arbitrary justification

/-- A declared protocol has the contract that the target is resolved to. -/
def Resolved (bp : Blueprint) (a : Action) : Prop :=
  ∀ protocolRef contractRole, a.targetPolicy = .protocolResolved protocolRef contractRole →
    ∃ p ∈ bp.protocols, p.id = protocolRef ∧ ∃ c ∈ p.contracts, c.role = contractRole

/-- Every action of the id is named by an allowed permission and by no denied one, and every data
    requirement is served in a data role. -/
structure Sound (bp : Blueprint) : Prop where
  granted : ∀ ref ∈ bp.autonomousPolicy.allowedActionRefs, ∀ a ∈ bp.actions, a.id = ref →
    (∃ p ∈ bp.permissions.allowed, p.actionRef = some ref) ∧
      (∀ p ∈ bp.permissions.denied, p.actionRef ≠ some ref) ∧ a.recipientPolicy.Fixed
  resolved : ∀ a ∈ bp.actions, Resolved bp a
  served : ∀ r ∈ bp.dataRequirements, ∃ b ∈ bp.adapters, b.configRef = r.key ∧ b.role ≠ .EXECUTION

/-- The first action of the id is named or shares its words, and every data requirement has an
    adapter. -/
structure Checked (bp : Blueprint) : Prop where
  covered : ∀ ref ∈ bp.autonomousPolicy.allowedActionRefs, ∃ a, actionOf bp ref = some a ∧
    coveredBy bp.permissions.allowed ref a = true
  fixed : ∀ a ∈ bp.actions, a.recipientPolicy.Fixed
  resolved : ∀ a ∈ bp.actions, Resolved bp a
  bound : ∀ r ∈ bp.dataRequirements, ∃ b ∈ bp.adapters, b.configRef = r.key

/-! ## 2. The rules -/

section

variable {bp : Blueprint} {rule : List ValidationIssue} {i : ValidationIssue}

theorem not_blocking (h : (validateBlueprint bp).buildable = true) (hrule : rule ∈ ruleIssues bp)
    (hi : i ∈ rule) : i.severity ≠ .CRITICAL ∧ i.severity ≠ .HIGH :=
  (buildable_iff.mp h).2.2 i (List.mem_flatten.mpr ⟨rule, hrule, hi⟩)

theorem not_of_issueIf {c : Bool} (hblocks : i.severity = .CRITICAL ∨ i.severity = .HIGH)
    (hclean : ∀ j ∈ rule, j.severity ≠ .CRITICAL ∧ j.severity ≠ .HIGH)
    (hsub : ∀ j ∈ issueIf c i, j ∈ rule) : c = false := by
  by_contra hc
  rw [Bool.not_eq_false] at hc
  have hmem : i ∈ issueIf c i := by rw [hc]; exact List.mem_cons_self
  obtain ⟨hcritical, hhigh⟩ := hclean i (hsub i hmem)
  exact hblocks.elim hcritical hhigh

theorem resolved_of_buildable (h : (validateBlueprint bp).buildable = true) {a : Action}
    (ha : a ∈ bp.actions) : Resolved bp a := by
  intro protocolRef contractRole htarget
  have hclean : ∀ j ∈ targetIssues bp a, j.severity ≠ .CRITICAL ∧ j.severity ≠ .HIGH :=
    fun j hj => not_blocking h (.tail _ (.tail _ (.head _))) (List.mem_flatMap.mpr ⟨a, ha, hj⟩)
  unfold targetIssues at hclean
  rw [htarget] at hclean
  dsimp only at hclean
  cases hfind : bp.protocols.find? fun p => p.id = protocolRef with
  | none =>
    rw [hfind] at hclean
    exact absurd rfl (hclean _ List.mem_cons_self).1
  | some proto =>
    rw [hfind] at hclean
    have hrole := not_of_issueIf (.inl rfl) hclean fun _ => id
    rw [Bool.not_eq_eq_eq_not, Bool.not_false, List.any_eq_true] at hrole
    obtain ⟨c, hc, hsame⟩ := hrole
    have hid := List.find?_some hfind
    exact ⟨proto, List.mem_of_find?_eq_some hfind, of_decide_eq_true hid, c, hc,
      of_decide_eq_true hsame⟩

theorem fixed_of_buildable (h : (validateBlueprint bp).buildable = true) {a : Action}
    (ha : a ∈ bp.actions) : a.recipientPolicy.Fixed := by
  intro justification hrecipient
  have hclean : ∀ j ∈ recipientIssues a, j.severity ≠ .CRITICAL ∧ j.severity ≠ .HIGH :=
    fun j hj => not_blocking h (.tail _ (.tail _ (.tail _ (.head _))))
      (List.mem_flatMap.mpr ⟨a, ha, hj⟩)
  unfold recipientIssues at hclean
  rw [hrecipient] at hclean
  exact (hclean _ List.mem_cons_self).1 rfl

theorem covered_of_buildable (h : (validateBlueprint bp).buildable = true) {ref : String}
    (href : ref ∈ bp.autonomousPolicy.allowedActionRefs) :
    ∃ a, actionOf bp ref = some a ∧ coveredBy bp.permissions.allowed ref a = true := by
  have hundeclared : ∀ j ∈ undeclaredIssues bp, j.severity ≠ .CRITICAL ∧ j.severity ≠ .HIGH :=
    fun j => not_blocking h (by unfold ruleIssues; simp)
  have hcoverage : ∀ j ∈ coverageIssues bp, j.severity ≠ .CRITICAL ∧ j.severity ≠ .HIGH :=
    fun j => not_blocking h (by unfold ruleIssues; simp)
  have hdeclared := not_of_issueIf (.inl rfl) hundeclared
    fun j hj => List.mem_flatMap.mpr ⟨ref, href, hj⟩
  obtain ⟨a, ha, hid⟩ := List.mem_map.mp (not_not.mp (of_decide_eq_false hdeclared))
  have hsome : (actionOf bp ref).isSome = true := List.find?_isSome.mpr ⟨a, ha, decide_eq_true hid⟩
  obtain ⟨a', ha'⟩ := Option.isSome_iff_exists.mp hsome
  have hsub : ∀ j, j ∈ (actionOf bp ref).elim [] _ → j ∈ coverageIssues bp :=
    fun j hj => List.mem_flatMap.mpr ⟨ref, href, hj⟩
  rw [ha'] at hsub
  have hcovered := not_of_issueIf (.inr rfl) hcoverage hsub
  rw [Bool.not_eq_eq_eq_not, Bool.not_false] at hcovered
  exact ⟨a', ha', hcovered⟩

theorem bound_of_buildable (h : (validateBlueprint bp).buildable = true) {r : DataRequirement}
    (hr : r ∈ bp.dataRequirements) : ∃ b ∈ bp.adapters, b.configRef = r.key := by
  have hclean : ∀ j ∈ requirementIssues bp r, j.severity ≠ .CRITICAL ∧ j.severity ≠ .HIGH :=
    fun j hj => not_blocking h (by unfold ruleIssues; simp) (List.mem_flatMap.mpr ⟨r, hr, hj⟩)
  have hnot := not_of_issueIf (.inl rfl) hclean fun j hj => List.mem_append_left _ hj
  rw [Bool.not_eq_eq_eq_not, Bool.not_false, List.any_eq_true] at hnot
  obtain ⟨b, hb, hsame⟩ := hnot
  exact ⟨b, hb, of_decide_eq_true hsame⟩

/-- **What holds of every buildable Blueprint.** -/
theorem buildable_checked (h : (validateBlueprint bp).buildable = true) : Checked bp :=
  ⟨fun _ => covered_of_buildable h, fun _ => fixed_of_buildable h,
    fun _ => resolved_of_buildable h, fun _ => bound_of_buildable h⟩

end

theorem buildable_checked_sample : Checked sampleBlueprint := buildable_checked (by decide)

/-- **A repayment that no permission names**, only a word of a statement. -/
theorem covered_by_words : (validateBlueprint sampleBlueprint).buildable = true ∧
    ¬ Sound sampleBlueprint := by
  refine ⟨by decide, fun h => ?_⟩
  obtain ⟨⟨p, hp, href⟩, -⟩ :=
    h.granted "repay" List.mem_cons_self _ List.mem_cons_self rfl
  obtain rfl := List.mem_singleton.mp hp
  cases href

end ContextLock.Lab
