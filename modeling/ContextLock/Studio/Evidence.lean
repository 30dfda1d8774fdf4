/-
  Subject:   The evidence of the three security scores of a build.

  The view of a build counts the passes of the current revisions, the export those of any, and the
  completion those of its own pass; none asks for the latest result of a scenario. The issues are
  the validator's in the first two, and all findings on record in the last.
-/
import ContextLock.Studio.Completed

namespace ContextLock.Studio

open Machine

/-! ## 1. Three scores -/

structure ScoreEvidence where
  passedTests : List String
  passedScenarios : List String
  issues : List ValidationIssue

section Evidence

variable {β Req Arch : Type} (T : Tools β Req Arch)

/-- The stored results, the oldest first. -/
def Build.results (b : Build β) : List SimulationResult := b.simulations.map (·.result)

def isCurrent (b : Build β) (blueprint : Blueprint β) (r : SimulationResult) : Bool :=
  decide (r.blueprintRevision = blueprint.revision) && decide (r.buildRevision = b.buildRevision)

def viewEvidence (b : Build β) (blueprint : Blueprint β) : ScoreEvidence :=
  ⟨[], (b.results.filter fun r => r.passed && isCurrent b blueprint r).map (·.scenarioId),
    (validateBlueprint T blueprint).issues⟩

def exportEvidence (b : Build β) (blueprint : Blueprint β) : ScoreEvidence :=
  ⟨[], (b.results.filter (·.passed)).map (·.scenarioId), (validateBlueprint T blueprint).issues⟩

/-- The latest result of a scenario for the current revisions passed. -/
def latestPassed (b : Build β) (blueprint : Blueprint β) (id : String) : Bool :=
  (b.results.filter fun r => isCurrent b blueprint r && decide (r.scenarioId = id)).getLast?.any
    (·.passed)

/-! ## 2. What they should count -/

variable {T} {b : Build β} {blueprint : Blueprint β} {d : Desk β} {id : String}

end Evidence

/-! ## 4. Evidence of an earlier design -/

/-- What the export and the view count, and what passed last. -/
def counted (b : Build Bool) (id : String) : Option (Bool × Bool × Bool) :=
  b.currentBlueprint.map fun bp =>
    ((exportEvidence plainTools b bp).passedScenarios.contains id,
      (viewEvidence plainTools b bp).passedScenarios.contains id, latestPassed b bp id)

section Accrues

variable {β Req Arch : Type}

/-- Approval, tests, revisions and completions are there to stay, and the owner is the same. -/
structure Accrues (d d' : Desk β) : Prop where
  key : (d'.build.id, d'.build.userId, d'.build.idempotencyKey)
    = (d.build.id, d.build.userId, d.build.idempotencyKey)
  approved : d.build.approvedAt.isSome → d'.build.approvedAt.isSome
  tests : d.build.tests ⊆ d'.build.tests
  revisions : d.build.blueprints.map (·.document.revision)
    ⊆ d'.build.blueprints.map (·.document.revision)
  completions : d.watch.completions <+: d'.watch.completions

theorem Accrues.refl (d : Desk β) : Accrues d d :=
  ⟨rfl, id, List.Subset.refl _, List.Subset.refl _, List.prefix_refl _⟩

theorem Accrues.trans (d d' d'' : Desk β) (h : Accrues d d') (h' : Accrues d' d'') :
    Accrues d d'' :=
  ⟨h'.key.trans h.key, h'.approved ∘ h.approved, fun _ hx => h'.tests (h.tests hx),
    fun _ hx => h'.revisions (h.revisions hx), h.completions.trans h'.completions⟩

end Accrues

end ContextLock.Studio
