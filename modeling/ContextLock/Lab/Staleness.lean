/-
  Subject:   Revisions that go stale, and the check before an activation.
-/
import ContextLock.Evm.Host
import ContextLock.Js.Value
import Mathlib.Logic.Relation

namespace ContextLock.Lab

/-! ## 1. Revisions -/

inductive RevisionKind where
  | BLUEPRINT
  | STRATEGY
  | BUILD
  | DEPLOYMENT
  | RUNTIME
  | CRE_ARTIFACT
  | MARKET_SNAPSHOT
  deriving DecidableEq

def REVISION_KINDS : List RevisionKind :=
  [.BLUEPRINT, .STRATEGY, .BUILD, .DEPLOYMENT, .RUNTIME, .CRE_ARTIFACT, .MARKET_SNAPSHOT]

def RevisionKind.text : RevisionKind → String
  | BLUEPRINT => "BLUEPRINT"
  | STRATEGY => "STRATEGY"
  | BUILD => "BUILD"
  | DEPLOYMENT => "DEPLOYMENT"
  | RUNTIME => "RUNTIME"
  | CRE_ARTIFACT => "CRE_ARTIFACT"
  | MARKET_SNAPSHOT => "MARKET_SNAPSHOT"

structure Revision where
  kind : RevisionKind
  value : String
  stale : Bool
  staleBecause : Option String

def DEPENDS_ON : RevisionKind → List RevisionKind
  | .BLUEPRINT => []
  | .STRATEGY => [.BLUEPRINT]
  | .BUILD => [.BLUEPRINT, .STRATEGY]
  | .CRE_ARTIFACT => [.BLUEPRINT, .STRATEGY, .BUILD]
  | .DEPLOYMENT => [.BLUEPRINT, .STRATEGY, .BUILD, .CRE_ARTIFACT]
  | .RUNTIME => [.BUILD, .DEPLOYMENT]
  | .MARKET_SNAPSHOT => []

/-- The body of the inner loop. -/
def affect (affected : List RevisionKind) (kind : RevisionKind) : List RevisionKind :=
  if kind ∈ affected then affected
  else if (DEPENDS_ON kind).any (· ∈ affected) then affected ++ [kind] else affected

def pass (affected : List RevisionKind) : List RevisionKind := REVISION_KINDS.foldl affect affected

/-- `while (grew)`: the passes, until one adds nothing. -/
def spread : Nat → List RevisionKind → List RevisionKind
  | 0, affected => affected
  | fuel + 1, affected =>
    if pass affected = affected then affected else spread fuel (pass affected)

/-- What `markStale` marks; every pass but the last adds a kind. -/
def affectedBy (changed : RevisionKind) : List RevisionKind :=
  spread REVISION_KINDS.length
    (REVISION_KINDS.filter fun kind => kind ≠ changed ∧ changed ∈ DEPENDS_ON kind)

def staleText (changed : RevisionKind) : String :=
  "the " ++ (Js.toLowerCase changed.text).map (fun c => if c = '_' then ' ' else c) ++ " changed"

def markStale (revisions : List Revision) (changed : RevisionKind) : List Revision :=
  revisions.map fun r =>
    if r.kind ∈ affectedBy changed then
      { r with stale := true, staleBecause := some (staleText changed) }
    else r

/-- `assertNoStaleArtifacts`; the error is `ARTIFACT_STALE_FOR_ACTIVATION` with this detail. -/
def assertNoStaleArtifacts (revisions : List Revision) (context : String) : Except String Unit :=
  let stale := revisions.filter (·.stale)
  if stale ≠ [] then
    .error (context ++ ": " ++ ", ".intercalate (stale.map fun s =>
      s.kind.text ++ " (" ++ s.staleBecause.getD "null" ++ ")") ++
      ". Rebuild and retest before activating.")
  else .ok ()

/-! ## 2. What goes stale -/

/-- One kind DEPENDS on another, directly or through others. -/
def DependsOn : RevisionKind → RevisionKind → Prop :=
  Relation.TransGen fun kind d => d ∈ DEPENDS_ON kind

theorem affect_sound {changed : RevisionKind} {affected : List RevisionKind} {kind : RevisionKind}
    (h : ∀ k ∈ affected, DependsOn k changed) : ∀ k ∈ affect affected kind, DependsOn k changed := by
  unfold affect
  split
  · exact h
  · split
    · next hany =>
      intro k hk
      rcases List.mem_append.mp hk with hold | hnew
      · exact h k hold
      · obtain rfl := List.mem_singleton.mp hnew
        obtain ⟨d, hd, hmem⟩ := List.any_eq_true.mp hany
        exact Relation.TransGen.head hd (h d (of_decide_eq_true hmem))
    · exact h

theorem spread_sound {changed : RevisionKind} {affected : List RevisionKind} (fuel : Nat)
    (h : ∀ k ∈ affected, DependsOn k changed) : ∀ k ∈ spread fuel affected, DependsOn k changed := by
  induction fuel generalizing affected with
  | zero => exact h
  | succ fuel ih =>
    have hpass : ∀ k ∈ pass affected, DependsOn k changed :=
      List.foldlRecOn (motive := fun l => ∀ k ∈ l, DependsOn k changed) REVISION_KINDS affect h
        fun _ hb _ _ => affect_sound hb
    unfold spread
    split
    · exact h
    · exact ih hpass

theorem mem_REVISION_KINDS (kind : RevisionKind) : kind ∈ REVISION_KINDS := by cases kind <;> decide

/-- What is affected is closed: the last pass had nothing to add. -/
theorem affectedBy_closed {changed kind d : RevisionKind} (hd : d ∈ DEPENDS_ON kind)
    (h : d = changed ∨ d ∈ affectedBy changed) : kind ∈ affectedBy changed := by
  have hall : ∀ changed ∈ REVISION_KINDS, ∀ kind ∈ REVISION_KINDS, ∀ d ∈ DEPENDS_ON kind,
      d = changed ∨ d ∈ affectedBy changed → kind ∈ affectedBy changed := by decide
  exact hall changed (mem_REVISION_KINDS _) kind (mem_REVISION_KINDS _) d hd h

/-- **What is affected is what depends on the change.** -/
theorem mem_affectedBy {changed kind : RevisionKind} :
    kind ∈ affectedBy changed ↔ DependsOn kind changed := by
  constructor
  · refine spread_sound _ (fun k hk => ?_) kind
    have hdirect := (List.mem_filter.mp hk).2
    exact .single (of_decide_eq_true hdirect).2
  · intro h
    induction h using Relation.TransGen.head_induction_on with
    | single hd => exact affectedBy_closed hd (.inl rfl)
    | head hd _ ih => exact affectedBy_closed hd (.inr ih)

theorem assertNoStaleArtifacts_ok {revisions : List Revision} {context : String} :
    assertNoStaleArtifacts revisions context = .ok () ↔ ∀ r ∈ revisions, r.stale = false := by
  simp [assertNoStaleArtifacts, List.filter_eq_nil_iff]

/-- **What may be activated.** Edits, in any order, keep the kinds and the values of all revisions,
    and the check passes afterwards exactly where no revision was stale before and none depends,
    directly or through others, on what was edited. -/
theorem activates_iff (revisions : List Revision) (changes : List RevisionKind)
    (context : String) :
    (changes.foldl markStale revisions).map (fun r => (r.kind, r.value))
        = revisions.map (fun r => (r.kind, r.value)) ∧
      (assertNoStaleArtifacts (changes.foldl markStale revisions) context = .ok () ↔
        ∀ r ∈ revisions, r.stale = false ∧ ∀ c ∈ changes, ¬ DependsOn r.kind c) := by
  induction changes generalizing revisions with
  | nil => simp [assertNoStaleArtifacts_ok]
  | cons c changes ih =>
    obtain ⟨hkept, hiff⟩ := ih (markStale revisions c)
    constructor
    · rw [List.foldl_cons, hkept, markStale, List.map_map]
      refine List.map_congr_left fun r _ => ?_
      by_cases h : r.kind ∈ affectedBy c <;> simp [h]
    · rw [List.foldl_cons, hiff, markStale, List.forall_mem_map]
      refine forall₂_congr fun r _ => ?_
      by_cases h : r.kind ∈ affectedBy c
      · have hdep := mem_affectedBy.mp h
        simp [h, hdep]
      · have hdep := mt mem_affectedBy.mpr h
        simp [h, hdep]

end ContextLock.Lab
