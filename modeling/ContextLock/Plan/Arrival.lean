/-
  Subject:   The registry of cross-chain arrivals: what arrives is counted for a step of a plan.

  The registry keeps one index, from message ids as they are written to the step an arrival was
  counted for. An arrival is looked up by its id alone, so an id written in another letter case
  is a new one, and so is a second id for a step that has its arrival.
-/
import ContextLock.Js.Map
import ContextLock.Js.Object

namespace ContextLock.Plan

open Js

/-! ## 1. Arrivals -/

/-- `ARRIVAL_REASONS`. -/
inductive ArrivalReason where
  | DUPLICATE
  | WRONG_SOURCE_CHAIN
  | WRONG_SENDER
  | WRONG_DESTINATION
  | WRONG_RECEIVER
  | TOKEN_MISMATCH
  | AMOUNT_MISMATCH
  | UNKNOWN_PLAN
  | UNKNOWN_STEP
  | STEP_HASH_MISMATCH
  | DEPENDENCY_NOT_SATISFIED

/-- What the destination expects, as `record` reads it. -/
structure ArrivalExpectation where
  planHash : String
  stepId : String
  stepHash : String
  sourceChainSelector : String
  sender : String
  destinationChainId : Js.Num
  receiver : String
  token : String
  amount : String
  deriving DecidableEq

/-- What turned up on the destination chain. -/
structure ObservedArrival where
  messageId : String
  planHash : String
  stepId : String
  stepHash : String
  sourceChainSelector : String
  sender : String
  destinationChainId : Js.Num
  receiver : String
  token : String
  amount : String
  deriving DecidableEq

structure PlanStepRef where
  planHash : String
  stepId : String

/-- The `detail` of a refusal. -/
inductive ArrivalDetail where
  | firstSeenFor (messageId : String) (first : PlanStepRef)
  | texts (expected observed : String)
  | numbers (expected observed : Js.Num)

inductive ArrivalOutcome where
  | accepted (messageId : String)
  | refused (reason : ArrivalReason) (detail : ArrivalDetail)

/-- `eq`: equal but for the letter case. -/
def eq (a b : String) : Bool := toLowerCase a = toLowerCase b

/-! ## 2. The registry -/

/-- `ArrivalRegistry`: the ids seen so far, and the step each was counted for. -/
structure ArrivalRegistry where
  seen : Js.Map PlanStepRef

namespace ArrivalRegistry

def empty : ArrivalRegistry := ⟨.empty⟩

def has (r : ArrivalRegistry) (messageId : String) : Bool := (r.seen.get? messageId).isSome

end ArrivalRegistry

/-- The comparisons of `record`, in its order: the first that fails. -/
def mismatch (expected : ArrivalExpectation) (observed : ObservedArrival) :
    Option (ArrivalReason × ArrivalDetail) :=
  if observed.planHash ≠ expected.planHash then
    some (.UNKNOWN_PLAN, .texts expected.planHash observed.planHash)
  else if observed.stepId ≠ expected.stepId then
    some (.UNKNOWN_STEP, .texts expected.stepId observed.stepId)
  else if observed.stepHash ≠ expected.stepHash then
    some (.STEP_HASH_MISMATCH, .texts expected.stepHash observed.stepHash)
  else if observed.sourceChainSelector ≠ expected.sourceChainSelector then
    some (.WRONG_SOURCE_CHAIN, .texts expected.sourceChainSelector observed.sourceChainSelector)
  else if ¬ eq observed.sender expected.sender then
    some (.WRONG_SENDER, .texts expected.sender observed.sender)
  else if ¬ observed.destinationChainId.strictEq expected.destinationChainId then
    some (.WRONG_DESTINATION, .numbers expected.destinationChainId observed.destinationChainId)
  else if ¬ eq observed.receiver expected.receiver then
    some (.WRONG_RECEIVER, .texts expected.receiver observed.receiver)
  else if ¬ eq observed.token expected.token then
    some (.TOKEN_MISMATCH, .texts expected.token observed.token)
  else if observed.amount ≠ expected.amount then
    some (.AMOUNT_MISMATCH, .texts expected.amount observed.amount)
  else none

/-- `record`: an arrival is counted, or refused with a reason. -/
def ArrivalRegistry.record (r : ArrivalRegistry) (expected : ArrivalExpectation)
    (observed : ObservedArrival) : ArrivalOutcome × ArrivalRegistry :=
  match r.seen.get? observed.messageId with
  | some first => (.refused .DUPLICATE (.firstSeenFor observed.messageId first), r)
  | none =>
    match mismatch expected observed with
    | some (reason, detail) => (.refused reason detail, r)
    | none =>
      (.accepted observed.messageId,
        ⟨r.seen.set observed.messageId ⟨observed.planHash, observed.stepId⟩⟩)

/-! ## 3. One call -/

/-- The arguments of one call. -/
structure Arrival where
  expected : ArrivalExpectation
  observed : ObservedArrival
  deriving DecidableEq

def Arrival.step (a : Arrival) : PlanStepRef := ⟨a.expected.planHash, a.expected.stepId⟩

def Arrival.entry (a : Arrival) : String × PlanStepRef := (a.observed.messageId, a.step)

section Call

variable {r : ArrivalRegistry} {a : Arrival}

def Counts (r : ArrivalRegistry) (a : Arrival) : Prop :=
  r.has a.observed.messageId = false ∧ mismatch a.expected a.observed = none

instance (r : ArrivalRegistry) : DecidablePred (Counts r) :=
  fun _ => inferInstanceAs (Decidable (_ ∧ _))

def after (r : ArrivalRegistry) (a : Arrival) : ArrivalRegistry :=
  (r.record a.expected a.observed).2

theorem step_of_match (h : mismatch a.expected a.observed = none) :
    (⟨a.observed.planHash, a.observed.stepId⟩ : PlanStepRef) = a.step := by
  unfold mismatch at h
  by_cases hplan : a.observed.planHash = a.expected.planHash
  · by_cases hstep : a.observed.stepId = a.expected.stepId
    · rw [Arrival.step, hplan, hstep]
    · simp [hplan, hstep] at h
  · simp [hplan] at h

/-- **What is counted**: an id not seen before whose arrival meets its expectation. -/
theorem record_of_counts (h : Counts r a) :
    r.record a.expected a.observed =
      (.accepted a.observed.messageId, ⟨r.seen.set a.observed.messageId a.step⟩) := by
  obtain ⟨hnew, hmatch⟩ := h
  have hget : r.seen.get? a.observed.messageId = none := by
    simpa [ArrivalRegistry.has] using hnew
  simp only [ArrivalRegistry.record, hget, hmatch, step_of_match hmatch]

/-- **A refusal leaves the registry as it is.** -/
theorem record_of_not_counts (h : ¬ Counts r a) :
    (∃ reason detail, (r.record a.expected a.observed).1 = .refused reason detail) ∧
      after r a = r := by
  unfold after ArrivalRegistry.record
  cases hget : r.seen.get? a.observed.messageId with
  | some first => exact ⟨⟨_, _, rfl⟩, rfl⟩
  | none =>
    cases hmatch : mismatch a.expected a.observed with
    | some refusal => exact ⟨⟨_, _, rfl⟩, rfl⟩
    | none => exact absurd ⟨by simp [ArrivalRegistry.has, hget], hmatch⟩ h

theorem accepted_iff : (r.record a.expected a.observed).1 = .accepted a.observed.messageId ↔
    Counts r a := by
  by_cases h : Counts r a
  · simp [record_of_counts h, h]
  · obtain ⟨⟨reason, detail, hrefused⟩, _⟩ := record_of_not_counts h
    simp [hrefused, h]

theorem entries_after_of_counts (h : Counts r a) :
    (after r a).seen.entries = r.seen.entries ++ [a.entry] := by
  have hget : r.seen.get? a.observed.messageId = none := by
    simpa [ArrivalRegistry.has] using h.1
  rw [after, record_of_counts h]
  exact Map.entries_set_of_none _ hget

end Call

/-! ## 4. Runs -/

/-- The registry after a run of calls. -/
def arrivals (r : ArrivalRegistry) : List Arrival → ArrivalRegistry
  | [] => r
  | a :: rest => arrivals (after r a) rest

def counted (r : ArrivalRegistry) : List Arrival → List Arrival
  | [] => []
  | a :: rest => if Counts r a then a :: counted (after r a) rest else counted (after r a) rest

/-- **The index holds the counted arrivals**, after those it held before the run. -/
theorem entries_arrivals (r : ArrivalRegistry) (run : List Arrival) :
    (arrivals r run).seen.entries = r.seen.entries ++ (counted r run).map Arrival.entry := by
  induction run generalizing r with
  | nil => simp [arrivals, counted]
  | cons a rest ih =>
    unfold arrivals counted
    by_cases h : Counts r a
    · rw [if_pos h, ih, entries_after_of_counts h, List.map_cons, List.append_assoc]
      rfl
    · rw [if_neg h, ih, (record_of_not_counts h).2]

/-! ## 5. Messages and steps -/

def pairBytes : List Char → Option (List Nat)
  | [] => some []
  | c :: d :: cs => do
    let high ← digitValue c
    let low ← digitValue d
    let rest ← pairBytes cs
    some ((16 * high + low) :: rest)
  | _ => none

/-- The bytes of a message id, written `0x…`. -/
def messageBytes (messageId : String) : Option (List Nat) :=
  match messageId.toList with
  | '0' :: 'x' :: digits => pairBytes digits
  | _ => none

def SameMessage (a b : String) : Prop :=
  a = b ∨ ∃ bytes, messageBytes a = some bytes ∧ messageBytes b = some bytes

/-- Two entries for two messages and two steps. -/
def Separate (e f : String × PlanStepRef) : Prop := ¬ SameMessage e.1 f.1 ∧ e.2 ≠ f.2

/-- **Every step and every message of the run is counted at most once**, and what is not
    counted changes nothing. -/
structure CountedOnce (run : List Arrival) : Prop where
  step : (counted .empty run).Pairwise fun a b => a.step ≠ b.step
  message : (counted .empty run).Pairwise fun a b =>
    ¬ SameMessage a.observed.messageId b.observed.messageId
  refused : ∀ before a rest, run = before ++ a :: rest →
    (∀ messageId, ((arrivals .empty before).record a.expected a.observed).1 ≠
      .accepted messageId) →
    after (arrivals .empty before) a = arrivals .empty before

/-- An arrival that is unclaimed as it comes: if it meets its expectation under an id not seen
    before, no id seen before is one of its message, and its step has no arrival. -/
def Unclaimed (r : ArrivalRegistry) (a : Arrival) : Prop :=
  Counts r a → ∀ e ∈ r.seen.entries, Separate e a.entry

theorem separate_record (r : ArrivalRegistry) (a : Arrival) :
    (after r a).seen.entries.Pairwise Separate ↔
      r.seen.entries.Pairwise Separate ∧ Unclaimed r a := by
  unfold Unclaimed
  by_cases h : Counts r a
  · rw [entries_after_of_counts h, List.pairwise_append]
    simp [h]
  · rw [(record_of_not_counts h).2]
    simp [h]

theorem separate_arrivals (r : ArrivalRegistry) (run : List Arrival) :
    (arrivals r run).seen.entries.Pairwise Separate ↔
      r.seen.entries.Pairwise Separate ∧
        ∀ before a rest, run = before ++ a :: rest → Unclaimed (arrivals r before) a := by
  induction run generalizing r with
  | nil => simp [arrivals]
  | cons a rest ih =>
    rw [arrivals, ih, separate_record, and_assoc]
    refine and_congr_right fun _ => ⟨?_, ?_⟩
    · rintro ⟨hfirst, hrest⟩ before b tail heq
      cases before with
      | nil =>
        obtain ⟨rfl, rfl⟩ := List.cons.inj heq
        exact hfirst
      | cons c before =>
        obtain ⟨rfl, htail⟩ := List.cons.inj heq
        exact hrest before b tail htail
    · intro h
      exact ⟨h [] a rest rfl, fun before b tail heq => h (a :: before) b tail (by rw [heq]; rfl)⟩

theorem separate_counted (run : List Arrival) :
    (arrivals .empty run).seen.entries.Pairwise Separate ↔
      ((counted .empty run).Pairwise fun a b => a.step ≠ b.step) ∧
        (counted .empty run).Pairwise fun a b =>
          ¬ SameMessage a.observed.messageId b.observed.messageId := by
  have hentries : (arrivals .empty run).seen.entries = (counted .empty run).map Arrival.entry :=
    entries_arrivals .empty run
  have hboth : ∀ a b : Arrival, Separate a.entry b.entry ↔
      a.step ≠ b.step ∧ ¬ SameMessage a.observed.messageId b.observed.messageId :=
    fun a b => and_comm
  rw [hentries, List.pairwise_map, ← List.pairwise_and_iff]
  exact List.Pairwise.iff hboth

/-- **Every step and every message is counted at most once exactly where every arrival is
    unclaimed when it comes.** -/
theorem counted_once_iff (run : List Arrival) :
    CountedOnce run ↔ ∀ before a rest, run = before ++ a :: rest →
      Unclaimed (arrivals .empty before) a := by
  have hiff := separate_arrivals .empty run
  rw [separate_counted run] at hiff
  constructor
  · intro h
    exact (hiff.mp ⟨h.step, h.message⟩).2
  · intro h
    obtain ⟨hstep, hmessage⟩ := hiff.mpr ⟨List.Pairwise.nil, h⟩
    refine ⟨hstep, hmessage, fun before a rest _ hrefused => ?_⟩
    refine (record_of_not_counts fun hcounts => ?_).2
    exact hrefused _ (accepted_iff.mpr hcounts)

/-! ## 6. A message that is counted twice -/

/-- An arrival of 500 USDC as the plan expects it, under the given message id. -/
def bridgedArrival (messageId : String) : Arrival where
  expected :=
    { planHash := "0x4f6c0f7cd5f3e1d0b7a2c49d3c1a8be09b1d6c5e7f0a3b2c4d5e6f708192a3b4"
      stepId := "receive-usdc"
      stepHash := "0x9a0b1c2d3e4f5061728394a5b6c7d8e9fa0b1c2d3e4f5061728394a5b6c7d8e9"
      sourceChainSelector := "16015286601757825753"
      sender := "0x1f9840a85d5af5bf1d1762f925bdaddc4201f984"
      destinationChainId := .int 84532
      receiver := "0x036cbd53842c5426634e7929541ec2318f3dcf7e"
      token := "0x1c7d4b196cb0c7b01d743fbc6116a902379c7238"
      amount := "500000000" }
  observed :=
    { messageId
      planHash := "0x4f6c0f7cd5f3e1d0b7a2c49d3c1a8be09b1d6c5e7f0a3b2c4d5e6f708192a3b4"
      stepId := "receive-usdc"
      stepHash := "0x9a0b1c2d3e4f5061728394a5b6c7d8e9fa0b1c2d3e4f5061728394a5b6c7d8e9"
      sourceChainSelector := "16015286601757825753"
      sender := "0x1f9840a85d5af5bf1d1762f925bdaddc4201f984"
      destinationChainId := .int 84532
      receiver := "0x036cbd53842c5426634e7929541ec2318f3dcf7e"
      token := "0x1c7d4b196cb0c7b01d743fbc6116a902379c7238"
      amount := "500000000" }

/-- One message id in two letter cases. -/
def lowerId : String := "0xc0ffee00c0ffee00c0ffee00c0ffee00c0ffee00c0ffee00c0ffee00c0ffee00"

def upperId : String := "0xC0FFEE00C0FFEE00C0FFEE00C0FFEE00C0FFEE00C0FFEE00C0FFEE00C0FFEE00"

/-- **The message is counted twice for one step.** -/
theorem counted_twice : ¬ CountedOnce [bridgedArrival lowerId, bridgedArrival upperId] := by
  intro h
  have hcounted : counted .empty [bridgedArrival lowerId, bridgedArrival upperId] =
      [bridgedArrival lowerId, bridgedArrival upperId] := by decide
  have hstep := h.step
  rw [hcounted] at hstep
  exact List.rel_of_pairwise_cons hstep List.mem_cons_self rfl

/-- And the two ids spell the same bytes. -/
example : messageBytes lowerId = messageBytes upperId := by decide

end ContextLock.Plan
