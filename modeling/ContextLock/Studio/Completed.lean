/-
  Subject:   What a build that was set to COMPLETED has proven.

  The final gate asks that every planned simulation was run and passed. A passed run was compared
  with the first entry of its id; whether the baseline attack scenarios are declared is a MEDIUM
  issue, which blocks nothing; and no gate reads the findings. The tests are what a completion
  always rests on.
-/
import ContextLock.Studio.Abandoned

namespace ContextLock.Studio

open Machine

variable {β Req Arch α : Type}

/-! ## 1. Completions -/

def passedRows (buildRevision : Nat) : List TestRow :=
  [⟨buildRevision, .typecheck, 0⟩, ⟨buildRevision, .generatedTests, 0⟩]

/-- What every completion rests on: all planned simulations, passed, and a passed suite. -/
structure Ran (c : Completion β) : Prop where
  planned : ∃ fixtures, c.simulations = runAllScenarios c.blueprint c.buildRevision fixtures
  passed : ∀ r ∈ c.simulations, r.passed = true
  tests : passedRows c.buildRevision ⊆ c.tests

def CompletionsRan (d : Desk β) : Prop := ∀ c ∈ d.watch.completions, Ran c

/-- Test rows are never removed. -/
def completionContract : Pool.Contract (Desk β) (Op β) :=
  .common (Op β) CompletionsRan (fun d d' => d.build.tests ⊆ d'.build.tests)
    (fun _ _ h => h) (fun _ _ _ h h' _ hmem => h' (h hmem))

/-- The law, where some rows of tests are there. -/
structure Kept (rows : List TestRow) (d : Desk β) : Prop where
  ran : CompletionsRan d
  rows : rows ⊆ d.build.tests

/-! ## 2. The final gate -/

section Gate

variable {T : Tools β Req Arch} {d d' : Desk β} {op : Op β} {rows : List TestRow}

/-- The part of a job does its part of the law. -/
abbrev Proves (op : Op β) (Q : α → Desk β → Prop) (p : Job β Req Arch α) (d : Desk β) : Prop :=
  p.Safe Ask.instant (completionContract.law op) Q (fun _ => CompletionsRan) d

theorem Kept.tame (h : Kept rows d) (hd : Tame d d') : Kept rows d' := by
  refine ⟨fun c hc => h.ran c ?_, fun row hrow => hd.tests (h.rows hrow)⟩
  rw [hd.watch] at hc
  exact hc

/-- **A tame job**, and what follows it. -/
theorem Kept.proves {p : Job β Req Arch α} (h : Kept rows d) (hp : p.Within Tame) :
    p.Safe Ask.instant (completionContract.law op) (fun _ => Kept rows) (fun _ => Kept rows) d := by
  refine (hp.safe (L := completionContract.law op) (I := Kept rows) (fun d d' hI _ htame => ?_)
    (fun d d' hI hinv hrely => ?_) h h.ran).mono (fun _ _ h => h.2) fun _ _ h => h.2
  · exact ⟨(hI.tame htame).ran, htame.tests, hI.tame htame⟩
  · exact ⟨hinv, fun row hrow => hrely (hI.rows hrow)⟩

theorem Kept.next {α' : Type} {p : Job β Req Arch α} {f : α → Job β Req Arch α'}
    {Q : α' → Desk β → Prop} (h : Kept rows d) (hp : p.Within Tame)
    (hf : ∀ a d', Kept rows d' → Proves op Q (f a) d') : Proves op Q (p >>= f) d :=
  Thread.Safe.bind ((h.proves hp).mono hf fun _ _ h => h.ran)

variable {blueprint : Blueprint β} {buildRevision : Nat} {files : List GeneratedFile}

end Gate

/-! ## 5. Runs -/

variable {T : Tools β Req Arch} {id projectId userId : String} {idempotencyKey : Option String}
  {p : Calls β Req Arch} {c : Completion β}

end ContextLock.Studio
