/-
  Subject:   A deployment as a system: the running script, the chain, the wallet, crashes.

  The script of a run waits at every call. While it waits the chain mines, drops, reverts and
  reorganizes transactions, a wallet request may be broadcast before it is answered, and the
  process may be lost and a persisted run loaded in its place. A reader that answers answers
  with what the chain holds then; every call may also fail.
-/
import ContextLock.Machine.Transition
import ContextLock.Orchestrator.Run

namespace ContextLock.Orchestrator

open Js Deploy Machine

/-! ## 1. The chain -/

/-- What has become of a broadcast transaction. -/
inductive Fate where
  /-- In the mempool. -/
  | pending
  | succeeded
  | reverted
  /-- Neither on the chain nor in the mempool. -/
  | absent
  deriving DecidableEq

/-- The transaction has taken no effect. -/
def Fate.dead (f : Fate) : Prop := f = .reverted ∨ f = .absent

instance (f : Fate) : Decidable f.dead := inferInstanceAs (Decidable (_ ∨ _))

def Fate.mined (f : Fate) : Prop := f = .succeeded ∨ f = .reverted

instance (f : Fate) : Decidable f.mined := inferInstanceAs (Decidable (_ ∨ _))

/-- A transaction that was broadcast for a step. -/
structure Attempt where
  stepId : String
  chainId : Nat
  sender : String
  nonce : Nat
  hash : String
  fate : Fate
  deriving DecidableEq

/-- The transaction, its fate aside. -/
def Attempt.core (a : Attempt) : Attempt := { a with fate := .pending }

/-- The transactions broadcast, newest first, and the next nonce of every account. -/
structure Ledger where
  attempts : List Attempt
  count : Nat → String → Nat
  mined_lt : ∀ a ∈ attempts, a.fate.mined → a.nonce < count a.chainId a.sender

namespace Ledger

/-- The transactions broadcast for a step, newest first. -/
def attemptsOf (l : Ledger) (stepId : String) : List Attempt :=
  l.attempts.filter (·.stepId = stepId)

/-- The transactions of a step that took effect. -/
def successes (l : Ledger) (stepId : String) : List Attempt :=
  (l.attemptsOf stepId).filter (·.fate = .succeeded)

/-- The chain moved: the same transactions, with any fates. -/
def movesTo (l l' : Ledger) : Prop := l'.attempts.map Attempt.core = l.attempts.map Attempt.core

instance (l l' : Ledger) : Decidable (l.movesTo l') := inferInstanceAs (Decidable (_ = _))

/-- A transaction enters the mempool. -/
def broadcast (l : Ledger) (stepId : String) (req : SendRequest) (hash : String) : Ledger where
  attempts :=
    { stepId, chainId := req.chainId, sender := req.sender, nonce := req.nonce, hash,
      fate := .pending } :: l.attempts
  count := l.count
  mined_lt := by
    intro a ha hm
    obtain rfl | hin := List.mem_cons.mp ha
    · simp [Fate.mined] at hm
    · exact l.mined_lt a hin hm

end Ledger

/-! ## 2. The system -/

/-- What is outside the process: the ledger, and the step whose transaction was broadcast by a
    wallet request that the run has not recorded yet. -/
structure World where
  ledger : Ledger
  inFlight : Option String

/-- The world after the answer to a call. The record of a send is written once the clock has
    been read. -/
def World.after (w : World) : Effect → World
  | .sendTransaction _ _ => w
  | _ => { w with inFlight := none }

/-- The reader answers with what the chain holds, and the wallet with the hash of the
    transaction it broadcast. -/
def admissible (w : World) : (e : Effect) → Reply e → Prop
  | .getTransactionCount chainId address _, .ok n => n = w.ledger.count chainId address
  | .getTransactionReceipt chainId hash, .ok (some receipt) =>
    ∀ a ∈ w.ledger.attempts, a.hash = hash ∧ a.chainId = chainId →
      a.fate = (match receipt.status with
        | .success => .succeeded
        | .reverted => .reverted)
  | .sendTransaction step _, .ok hash =>
    w.inFlight = some step.id ∧
      ((w.ledger.attemptsOf step.id).head?.map (·.hash)) = some (toLowerCase hash)
  | _, _ => True

instance (w : World) (e : Effect) (r : Reply e) : Decidable (admissible w e r) := by
  unfold admissible
  split <;> infer_instance

structure Deployment where
  process : Script DeploymentRun Effect Reply DeployError Unit
  world : World

inductive Move where
  /-- `runToCompletion` is called on the run in memory. -/
  | begin (deps : Deps) (polls : Nat) (manifest : DeploymentManifest) (maxSteps : Nat)
  /-- The call the script waits for is answered. -/
  | answer (reply : (e : Effect) → Option (Reply e))
  /-- The wallet broadcasts the transaction it was asked to send. -/
  | broadcast (hash : String)
  | chain (ledger : Ledger)
  /-- The process is lost, and a run is loaded. -/
  | reload (run : DeploymentRun)

def answered (world : World) (reply : (e : Effect) → Option (Reply e)) :
    Script DeploymentRun Effect Reply DeployError Unit → Option Deployment
  | .call _ e k =>
    (reply e).bind fun r => if admissible world e r then some ⟨k r, world.after e⟩ else none
  | _ => none

/-- The move of a broadcast. A transaction already broadcast is not a new one. -/
def broadcasts (world : World) (hash : String) :
    Script DeploymentRun Effect Reply DeployError Unit → Option World
  | .call _ (.sendTransaction step req) _ =>
    if world.inFlight = none ∧ hash ∉ world.ledger.attempts.map (·.hash) then
      some { ledger := world.ledger.broadcast step.id req hash, inFlight := some step.id }
    else none
  | _ => none

/-- One move of the system; `none` where it is not possible. -/
def step (d : Deployment) : Move → Option Deployment
  | .begin deps polls manifest maxSteps =>
    if d.process.ended then
      some { d with process := runToCompletion deps polls manifest maxSteps d.process.state }
    else none
  | .answer reply => answered d.world reply d.process
  | .broadcast hash => (broadcasts d.world hash d.process).map fun w => { d with world := w }
  | .chain ledger =>
    if d.world.ledger.movesTo ledger then
      some { d with world := { d.world with ledger := ledger } }
    else none
  | .reload run => some ⟨.ok () run, { d.world with inFlight := none }⟩

/-- A run before its first move, on a chain with the given nonces. -/
def start (run : DeploymentRun) (count : Nat → String → Nat) : Deployment :=
  ⟨.ok () run, ⟨⟨[], count, by simp⟩, none⟩⟩

/-- The run is about to ask the wallet for a transaction of the step. -/
def Requests (d : Deployment) (stepId : String) : Prop :=
  d.world.inFlight = none ∧
    match d.process with
    | .call _ (.sendTransaction step _) _ => step.id = stepId
    | _ => False

instance (d : Deployment) (stepId : String) : Decidable (Requests d stepId) := by
  unfold Requests
  split <;> infer_instance

/-! ## 3. What each move does -/

theorem answered_eq_some {w : World} {reply : (e : Effect) → Option (Reply e)}
    {p : Script DeploymentRun Effect Reply DeployError Unit} {d' : Deployment}
    (h : answered w reply p = some d') : ∃ s e k r, p = .call s e k ∧ reply e = some r ∧
      admissible w e r ∧ d' = ⟨k r, w.after e⟩ := by
  cases p with
  | ok a s => cases h
  | threw e s => cases h
  | call s e k =>
    obtain ⟨r, hr, hrest⟩ := Option.bind_eq_some_iff.mp h
    by_cases ha : admissible w e r
    · rw [if_pos ha] at hrest
      exact ⟨s, e, k, r, rfl, hr, ha, (Option.some.inj hrest).symm⟩
    · rw [if_neg ha] at hrest
      cases hrest

theorem broadcasts_eq_some {w w' : World} {hash : String}
    {p : Script DeploymentRun Effect Reply DeployError Unit}
    (h : broadcasts w hash p = some w') :
    ∃ s step req k, p = .call s (.sendTransaction step req) k ∧ w.inFlight = none ∧
      hash ∉ w.ledger.attempts.map (·.hash) ∧
      w' = ⟨w.ledger.broadcast step.id req hash, some step.id⟩ := by
  unfold broadcasts at h
  split at h
  · rename_i s step req k
    by_cases hc : w.inFlight = none ∧ hash ∉ w.ledger.attempts.map (·.hash)
    · rw [if_pos hc] at h
      exact ⟨s, step, req, k, rfl, hc.1, hc.2, (Option.some.inj h).symm⟩
    · rw [if_neg hc] at h
      cases h
  · cases h

theorem Requests.process {d : Deployment} {stepId : String} (h : Requests d stepId) :
    ∃ run step req k, d.process = .call run (.sendTransaction step req) k ∧ step.id = stepId := by
  obtain ⟨p, w⟩ := d
  obtain ⟨_, h⟩ := h
  dsimp only at h
  split at h
  · exact ⟨_, _, _, _, rfl, h⟩
  · exact h.elim

end ContextLock.Orchestrator
