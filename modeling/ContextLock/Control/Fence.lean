/-
  Subject:   The fence of runtime revisions: one active revision for each agent.

  The active revisions are kept by agent, the fenced ones by revision alone. An activation
  fences what it replaces and takes the fence off what it names, whoever the agent is.
-/
import ContextLock.Js.Map

namespace ContextLock.Control

open Js

/-! ## 1. The fence -/

structure FencedRevision where
  revisionId : String
  fencedAtMs : Int
  reason : String
  /-- The revision that replaced it. -/
  supersededBy : String
  deriving DecidableEq

/-- `RuntimeFenceError`, with the values its message names. -/
inductive RuntimeFenceError where
  | FENCED (fenced : FencedRevision)
  | NOT_ACTIVE (revisionId agentId : String) (active : Option String)
  deriving DecidableEq

structure RuntimeRevisionFence where
  active : Js.Map String
  fenced : Js.Map FencedRevision

/-- The arguments of a call of `activate`, and the clock at the call. -/
structure Activation where
  agentId : String
  revisionId : String
  reason : String
  nowMs : Int

namespace RuntimeRevisionFence

def new : RuntimeRevisionFence := ⟨Map.empty, Map.empty⟩

variable (fence : RuntimeRevisionFence)

/-- Make a revision active, fencing whatever it replaced. -/
def activate (c : Activation) : Option FencedRevision × RuntimeRevisionFence :=
  let active := fence.active.set c.agentId c.revisionId
  let fenced := fence.fenced.delete c.revisionId
  match fence.active.get? c.agentId with
  | none => (none, ⟨active, fenced⟩)
  | some previous =>
    -- The empty text is falsy: nothing is fenced for it.
    if previous = "" ∨ previous = c.revisionId then (none, ⟨active, fenced⟩)
    else
      let f := ⟨previous, c.nowMs, c.reason, c.revisionId⟩
      (some f, ⟨active, fenced.set previous f⟩)

def activeRevision (agentId : String) : Option String := fence.active.get? agentId

def isFenced (revisionId : String) : Bool := (fence.fenced.get? revisionId).isSome

/-- The check every gateway makes. -/
def assertActive (agentId revisionId : String) : Except RuntimeFenceError Unit :=
  match fence.fenced.get? revisionId with
  | some f => .error (.FENCED f)
  | none =>
    if fence.active.get? agentId ≠ some revisionId then
      .error (.NOT_ACTIVE revisionId agentId (fence.active.get? agentId))
    else .ok ()

/-- The fence after some activations. -/
def run (calls : List Activation) : RuntimeRevisionFence :=
  calls.foldl (fun fence c => (fence.activate c).2) new

end RuntimeRevisionFence

open RuntimeRevisionFence

/-! ## 2. The activations made -/

def lastActivated (calls : List Activation) (agentId : String) : Option String :=
  (calls.reverse.find? (·.agentId = agentId)).map Activation.revisionId

def MovesOff (before : List Activation) (c : Activation) (revisionId : String) : Prop :=
  lastActivated before c.agentId = some revisionId ∧ revisionId ≠ "" ∧ revisionId ≠ c.revisionId

instance decidableMovesOff (before : List Activation) (c : Activation) (revisionId : String) :
    Decidable (MovesOff before c revisionId) :=
  inferInstanceAs (Decidable (lastActivated before c.agentId = some revisionId ∧ revisionId ≠ "" ∧
    revisionId ≠ c.revisionId))

/-- An agent was moved off the revision, and no activation named the revision since. -/
def Superseded (calls : List Activation) (revisionId : String) : Prop :=
  ∃ before c after, calls = before ++ c :: after ∧ MovesOff before c revisionId ∧
    ∀ d ∈ after, d.revisionId ≠ revisionId

/-- Another agent was, so that the revision was that of two agents. -/
def SupersededElsewhere (calls : List Activation) (agentId revisionId : String) : Prop :=
  ∃ before c after, calls = before ++ c :: after ∧ c.agentId ≠ agentId ∧
    MovesOff before c revisionId ∧ ∀ d ∈ after, d.revisionId ≠ revisionId

variable {calls : List Activation} {c : Activation} {agentId revisionId : String}

@[simp] theorem lastActivated_nil : lastActivated [] agentId = none := rfl

theorem lastActivated_concat : lastActivated (calls ++ [c]) agentId =
    if c.agentId = agentId then some c.revisionId else lastActivated calls agentId := by
  unfold lastActivated
  rw [List.reverse_append, List.reverse_singleton, List.singleton_append, List.find?_cons]
  by_cases h : c.agentId = agentId
  · simp only [h, decide_true, if_pos, Option.map_some]
  · simp only [h, decide_false, if_false]

theorem lastActivated_append_of_mem {after : List Activation}
    (h : ∃ d ∈ after, d.agentId = agentId) :
    lastActivated (calls ++ after) agentId = lastActivated after agentId := by
  have hsome : (after.reverse.find? (·.agentId = agentId)).isSome = true := by
    obtain ⟨d, hd, hagent⟩ := h
    exact List.find?_isSome.mpr ⟨d, List.mem_reverse.mpr hd, decide_eq_true hagent⟩
  obtain ⟨d, hd⟩ := Option.isSome_iff_exists.mp hsome
  unfold lastActivated
  rw [List.reverse_append, List.find?_append, hd]
  rfl

theorem mem_of_lastActivated (h : lastActivated calls agentId = some revisionId) :
    ∃ d ∈ calls, d.agentId = agentId ∧ d.revisionId = revisionId := by
  obtain ⟨d, hd, hrev⟩ := Option.map_eq_some_iff.mp h
  have hagent : d.agentId = agentId := by simpa using List.find?_some hd
  exact ⟨d, List.mem_reverse.mp (List.mem_of_find?_eq_some hd), hagent, hrev⟩

theorem not_superseded_nil : ¬ Superseded [] revisionId := by
  rintro ⟨before, c, after, h, -⟩
  exact List.append_ne_nil_of_right_ne_nil before (List.cons_ne_nil c after) h.symm

theorem superseded_concat : Superseded (calls ++ [c]) revisionId ↔
    MovesOff calls c revisionId ∨ Superseded calls revisionId ∧ c.revisionId ≠ revisionId := by
  constructor
  · intro h
    obtain ⟨before, d, after, heq, hmoves, hafter⟩ := h
    obtain rfl | ⟨after', e, rfl⟩ := List.eq_nil_or_concat after
    · obtain ⟨rfl, hlast⟩ := List.append_inj' heq rfl
      cases hlast
      exact .inl hmoves
    · rw [List.concat_eq_append, ← List.cons_append, ← List.append_assoc] at heq
      obtain ⟨rfl, hlast⟩ := List.append_inj' heq rfl
      cases hlast
      refine .inr ⟨⟨before, d, after', rfl, hmoves, fun x hx => hafter x ?_⟩, hafter c ?_⟩
      · simp [hx]
      · simp
  · intro h
    rcases h with hmoves | ⟨⟨before, d, after, rfl, hmoves, hafter⟩, hne⟩
    · exact ⟨calls, c, [], rfl, hmoves, fun _ hd => absurd hd List.not_mem_nil⟩
    · refine ⟨before, d, after ++ [c], by simp, hmoves, fun x hx => ?_⟩
      rcases List.mem_append.mp hx with hin | hlast
      · exact hafter x hin
      · rw [List.mem_singleton.mp hlast]
        exact hne

/-! ## 3. What the two maps say -/

theorem run_concat : run (calls ++ [c]) = ((run calls).activate c).2 := by
  unfold run
  rw [List.foldl_append]
  rfl

theorem active_activate (fence : RuntimeRevisionFence) :
    (fence.activate c).2.active = fence.active.set c.agentId c.revisionId := by
  unfold activate
  split
  · rfl
  · split <;> rfl

theorem isFenced_activate (fence : RuntimeRevisionFence) :
    (fence.activate c).2.isFenced revisionId = true ↔
      (fence.activeRevision c.agentId = some revisionId ∧ revisionId ≠ "" ∧
        revisionId ≠ c.revisionId) ∨
      fence.isFenced revisionId = true ∧ c.revisionId ≠ revisionId := by
  have hkept : ((fence.fenced.delete c.revisionId).get? revisionId).isSome = true ↔
      fence.isFenced revisionId = true ∧ c.revisionId ≠ revisionId := by
    rw [Map.get?_delete]
    by_cases h : revisionId = c.revisionId
    · simp [h]
    · simp [h, isFenced, Ne.symm h]
  unfold activate activeRevision
  cases hprevious : fence.active.get? c.agentId with
  | none => simpa [isFenced] using hkept
  | some previous =>
    by_cases hsame : previous = "" ∨ previous = c.revisionId
    · have hnone : ¬ (some previous = some revisionId ∧ revisionId ≠ "" ∧
          revisionId ≠ c.revisionId) := by
        intro h
        obtain ⟨heq, hempty, hnamed⟩ := h
        cases heq
        exact hsame.elim hempty hnamed
      simp only [if_pos hsame]
      rw [or_iff_right hnone]
      exact hkept
    · obtain ⟨hempty, hnamed⟩ := not_or.mp hsame
      simp only [if_neg hsame, isFenced, Map.get?_set]
      by_cases h : revisionId = previous
      · subst h
        simp [hempty, hnamed]
      · have hother : ¬ (some previous = some revisionId ∧ revisionId ≠ "" ∧
            revisionId ≠ c.revisionId) := fun hp => h (Option.some.inj hp.1).symm
        rw [if_neg h, or_iff_right hother]
        exact hkept

theorem activeRevision_run (calls : List Activation) (agentId : String) :
    (run calls).activeRevision agentId = lastActivated calls agentId := by
  induction calls using List.reverseRecOn with
  | nil => rfl
  | append_singleton calls c ih =>
    rw [lastActivated_concat, ← ih, run_concat]
    unfold activeRevision
    rw [active_activate, Map.get?_set]
    simp only [eq_comm]

theorem isFenced_run (calls : List Activation) (revisionId : String) :
    (run calls).isFenced revisionId = true ↔ Superseded calls revisionId := by
  induction calls using List.reverseRecOn with
  | nil => exact iff_of_false Bool.false_ne_true not_superseded_nil
  | append_singleton calls c ih =>
    rw [run_concat, isFenced_activate, superseded_concat, ih, activeRevision_run]
    rfl

/-! ## 4. The check of the gateways -/

theorem assertActive_ok_iff (fence : RuntimeRevisionFence) :
    fence.assertActive agentId revisionId = .ok () ↔
      fence.activeRevision agentId = some revisionId ∧ fence.isFenced revisionId = false := by
  unfold assertActive isFenced activeRevision
  cases fence.fenced.get? revisionId with
  | some f => simp
  | none => simp

theorem supersededElsewhere_of_last (hlast : lastActivated calls agentId = some revisionId)
    (h : Superseded calls revisionId) : SupersededElsewhere calls agentId revisionId := by
  obtain ⟨before, c, after, rfl, hmoves, hafter⟩ := h
  refine ⟨before, c, after, rfl, fun hagent => ?_, hmoves, hafter⟩
  have hmem : ∃ d ∈ c :: after, d.agentId = agentId := ⟨c, List.mem_cons_self, hagent⟩
  rw [lastActivated_append_of_mem hmem] at hlast
  obtain ⟨d, hd, -, hrev⟩ := mem_of_lastActivated hlast
  rcases List.mem_cons.mp hd with rfl | hin
  · exact hmoves.2.2 hrev.symm
  · exact hafter d hin hrev

theorem superseded_of_elsewhere (h : SupersededElsewhere calls agentId revisionId) :
    Superseded calls revisionId := by
  obtain ⟨before, c, after, heq, -, hmoves, hafter⟩ := h
  exact ⟨before, c, after, heq, hmoves, hafter⟩

/-- **The gateway's check and the last activation.** After any activations, the check passes
    exactly for the revision the agent was last given, unless this revision is one that another
    agent was moved off since it was last activated. -/
theorem assertActive_exact_iff (calls : List Activation) (agentId revisionId : String) :
    ((run calls).assertActive agentId revisionId = .ok () ↔
      lastActivated calls agentId = some revisionId) ↔
    ¬ (lastActivated calls agentId = some revisionId ∧
      SupersededElsewhere calls agentId revisionId) := by
  have hok : (run calls).assertActive agentId revisionId = .ok () ↔
      lastActivated calls agentId = some revisionId ∧ ¬ Superseded calls revisionId := by
    rw [assertActive_ok_iff, activeRevision_run, ← isFenced_run, Bool.not_eq_true]
  rw [hok]
  constructor
  · intro hexact hshared
    exact (hexact.mpr hshared.1).2 (superseded_of_elsewhere hshared.2)
  · intro hnot
    refine ⟨And.left, fun hlast => ⟨hlast, fun hsup => ?_⟩⟩
    exact hnot ⟨hlast, supersededElsewhere_of_last hlast hsup⟩

def sharedRevision : List Activation :=
  [⟨"guardian", "rev_1", "superseded by a newer revision", 0⟩,
    ⟨"rebalancer", "rev_1", "superseded by a newer revision", 1⟩,
    ⟨"guardian", "rev_2", "superseded by a newer revision", 2⟩]

/-- **An active revision refused.** The other agent still runs the revision it was last given,
    and the gateways refuse it. -/
theorem shared_revision_refused :
    lastActivated sharedRevision "rebalancer" = some "rev_1" ∧
      (run sharedRevision).assertActive "rebalancer" "rev_1" =
        .error (.FENCED ⟨"rev_1", 2, "superseded by a newer revision", "rev_2"⟩) ∧
      ¬ ((run sharedRevision).assertActive "rebalancer" "rev_1" = .ok () ↔
        lastActivated sharedRevision "rebalancer" = some "rev_1") := by
  decide

end ContextLock.Control
