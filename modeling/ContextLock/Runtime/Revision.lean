/-
  Subject:   The history of a runtime's revisions, and where a rollback goes.

  The history retains the last revisions, whatever their state. A rollback goes to the last of
  them that was ever healthy and is not the current one; that it was added before the current
  one, and was not retired for a fault, is not asked.
-/
import Mathlib.Data.List.TakeWhile
import Mathlib.Tactic.ByContra
import ContextLock.Machine.Transition

namespace ContextLock.Runtime.Revision

open Machine

/-! ## 1. The history -/

structure RevisionHistoryEntry where
  revisionId : String
  imageDigest : String
  blueprintRevision : Nat
  buildRevision : Nat
  createdAtMs : Nat
  previousRevisionId : Option String
  everHealthy : Bool
  retiredAtMs : Option Nat
  retiredReason : Option String

structure RuntimeProviderError where
  reason : String
  detail : String

structure RevisionHistory where
  retain : Nat
  entries : List RevisionHistoryEntry

/-- The last entry that is not retired; of retired ones, the last. -/
def currentOf (entries : List RevisionHistoryEntry) : Option RevisionHistoryEntry :=
  (entries.filter (·.retiredAtMs.isNone)).getLast?.or entries.getLast?

def changeFirst (revisionId : String) (f : RevisionHistoryEntry → RevisionHistoryEntry) :
    List RevisionHistoryEntry → List RevisionHistoryEntry
  | [] => []
  | e :: es => if e.revisionId = revisionId then f e :: es else e :: changeFirst revisionId f es

namespace RevisionHistory

def current (h : RevisionHistory) : Option RevisionHistoryEntry := currentOf h.entries

/-- The entry at the end, and as many from the front dropped as are too many. -/
def push (h : RevisionHistory) (entry : RevisionHistoryEntry) : RevisionHistory :=
  { h with entries := (h.entries ++ [entry]).drop (h.entries.length + 1 - h.retain) }

def add (h : RevisionHistory) (entry : RevisionHistoryEntry) :
    Except RuntimeProviderError RevisionHistory :=
  match h.current with
  | some current =>
    if current.imageDigest = entry.imageDigest then
      .error ⟨"RUNTIME-IN-PLACE-MUTATION-REFUSED", "revision " ++ entry.revisionId ++
        " names the same digest as the current revision " ++ current.revisionId ++
        ". An update is a new image, not a new label on the same one."⟩
    else .ok (h.push entry)
  | none => .ok (h.push entry)

def markHealthy (h : RevisionHistory) (revisionId : String) : RevisionHistory :=
  { h with entries := changeFirst revisionId (fun e => { e with everHealthy := true }) h.entries }

def retire (h : RevisionHistory) (revisionId reason : String) (atMs : Nat) : RevisionHistory :=
  { h with
    entries := changeFirst revisionId
      (fun e => { e with retiredAtMs := some atMs, retiredReason := some reason }) h.entries }

def candidates (h : RevisionHistory) : List RevisionHistoryEntry :=
  h.entries.filter fun e => some e.revisionId ≠ h.current.map (·.revisionId) ∧ e.everHealthy = true

def rollbackTarget (h : RevisionHistory) : Except RuntimeProviderError RevisionHistoryEntry :=
  match h.candidates.getLast? with
  | some target => .ok target
  | none => .error ⟨"RUNTIME-NO-ROLLBACK-TARGET",
      "no retained revision for this agent was ever healthy, so there is nothing to roll back to. "
        ++ toString h.entries.length ++ " revision(s) are retained."⟩

end RevisionHistory

/-! ## 2. Runs -/

/-- The history, and the entries it dropped, as they are now. -/
structure Ledger where
  history : RevisionHistory
  dropped : List RevisionHistoryEntry

namespace Ledger

def empty (retain : Nat) : Ledger := ⟨⟨retain, []⟩, []⟩

def added (s : Ledger) : List RevisionHistoryEntry := s.dropped ++ s.history.entries

end Ledger

inductive Call where
  | add (entry : RevisionHistoryEntry)
  | markHealthy (revisionId : String)
  | retire (revisionId reason : String) (atMs : Nat)

/-- A call; an id is added once, so at most one of the two lists has it. -/
def step (s : Ledger) : Call → Option Ledger
  | .add entry =>
    if entry.revisionId ∈ s.added.map (·.revisionId) then none
    else match s.history.add entry with
      | .ok history => some ⟨history, s.dropped ++ (s.history.entries ++ [entry]).take
          (s.history.entries.length + 1 - s.history.retain)⟩
      | .error _ => some s
  | .markHealthy revisionId =>
    some ⟨s.history.markHealthy revisionId,
      changeFirst revisionId (fun e => { e with everHealthy := true }) s.dropped⟩
  | .retire revisionId reason atMs =>
    some ⟨s.history.retire revisionId reason atMs, changeFirst revisionId
      (fun e => { e with retiredAtMs := some atMs, retiredReason := some reason }) s.dropped⟩

/-! ## 3. Where a rollback should go -/

section

variable (bad : String → Bool)

/-- The revision was healthy once, and was not retired for a bad reason. -/
def RevisionHistoryEntry.good (e : RevisionHistoryEntry) : Bool :=
  e.everHealthy && !(e.retiredAtMs.isSome && e.retiredReason.any bad)

/-- The last good revision that was added before the current one. -/
def targetOf (added : List RevisionHistoryEntry) : Option RevisionHistoryEntry :=
  (currentOf added).bind fun current =>
    ((added.takeWhile (·.revisionId ≠ current.revisionId)).filter (·.good bad)).getLast?

/-- **The law**: of all that were added the current revision and the one to roll back to are
    retained, and a rollback goes to the latter. -/
structure Lawful (s : Ledger) : Prop where
  current : ∀ c, currentOf s.added = some c → c ∈ s.history.entries
  target : ∀ t, targetOf bad s.added = some t →
    t ∈ s.history.entries ∧ s.history.rollbackTarget = .ok t

/-- A revision in service is retained, if there is one; and the last good revision before the
    current one is, with none after it that was ever healthy but the current one. -/
structure Kept (s : Ledger) : Prop where
  service : (∃ e ∈ s.added, e.retiredAtMs = none) → ∃ e ∈ s.history.entries, e.retiredAtMs = none
  target : ∀ t, targetOf bad s.added = some t → ∃ l l', s.history.entries = l ++ t :: l' ∧
    ∀ e ∈ l', e.everHealthy = true → (currentOf s.added).map (·.revisionId) = some e.revisionId

end

/-! ## 4. Something is retained -/

variable {retain : Nat} {s s' : Ledger} {l l' gone : List RevisionHistoryEntry}
  {bad : String → Bool} {c t : RevisionHistoryEntry}

end ContextLock.Runtime.Revision
