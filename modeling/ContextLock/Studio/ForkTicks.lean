/-
  Subject:   What a tick of the runtime does, turn by turn.

  Apart from its acts and from the escalations it keeps, a tick only changes what is shown of it. It
  acts (it issues a capability, records an authorization or submits a step) only in turns that
  begin with certain answers.
-/
import ContextLock.Machine.Paced
import ContextLock.Studio.ForkRuntime

namespace ContextLock.Studio.ForkRuntime

open Machine Policy

/-! ## 1. Updates -/

/-- The answers after which a tick may issue a capability, record an authorization or submit a
    step. -/
def marked : Ask → Bool
  | .preparing (.recordAuthorization _ _) => false
  | .preparing _ => true
  | .executing _ (.receipt _) => true
  | _ => false

/-- An update that touches neither the switches nor the escalations, nor what is noted. -/
structure Plain (s s' : RuntimeState) : Prop where
  watch : s'.watch = s.watch
  pending : s'.pendingByCorrelation = s.pendingByCorrelation
  paused : s'.paused = s.paused
  stopping : s'.stopping = s.stopping

theorem Plain.refl (s : RuntimeState) : Plain s s := ⟨rfl, rfl, rfl, rfl⟩

def RuntimeState.acted (s : RuntimeState) (a : Act) : RuntimeState :=
  if s.held then { s with watch := { s.watch with heldActs := s.watch.heldActs ++ [a] } } else s

/-- `G` holds of the updates of a tick; of its acts where the turn's assumption `I true` holds.
    The assumptions are kept. -/
structure Covers (I : Bool → RuntimeState → Prop) (G : RuntimeState → RuntimeState → Prop) :
    Prop where
  keeps : ∀ m s s', I m s → G s s' → I m s'
  plain : ∀ s s', Plain s s' → G s s'
  acted : ∀ s a, I true s → G s (s.acted a)
  escalate : ∀ s e steps obs, G s (s.escalate e steps obs)

/-! ## 2. Parts of a tick -/

section Paced

variable {α β : Type} {m : Bool} {D : Deps} {I : Bool → RuntimeState → Prop}
  {G : RuntimeState → RuntimeState → Prop}

/-- A part of a tick, begun in a turn of kind `m`, that ends with `Q`. -/
abbrev Ticks (I : Bool → RuntimeState → Prop) (G : RuntimeState → RuntimeState → Prop)
    (Q : Bool → α → Prop) (m : Bool) (p : Job α) : Prop :=
  p.Paced Ask.instant marked I G Q (fun _ _ => True) m

/-- A part that goes on with `f`. -/
theorem Ticks.bind {p : Job α} {f : α → Job β} {Q : Bool → β → Prop}
    (h : Ticks I G (fun m a => Ticks I G Q m (f a)) m p) : Ticks I G Q m (p >>= f) :=
  Thread.Paced.bind h

theorem now_ticks {Q : Bool → Int → Prop} (h : ∀ atMs, Q m atMs) : Ticks I G Q m now :=
  Thread.Paced.answer rfl h

theorem preparing_ticks {q : ChainAsk} {Q : Bool → ChainValue q → Prop}
    (h : ∀ a, Q (marked (.preparing q)) a) : Ticks I G Q m (preparing q) :=
  Thread.Paced.bind (Thread.Paced.ask rfl fun _ => Thread.Paced.lift h fun _ => trivial)

theorem executing_ticks {human : Option Nat} {q : ChainAsk} {Q : Bool → ChainValue q → Prop}
    (h : ∀ a, Q (marked (.executing human q)) a) : Ticks I G Q m (executing human q) :=
  Thread.Paced.bind (Thread.Paced.ask rfl fun _ => Thread.Paced.lift h fun _ => trivial)

variable (c : Covers I G)
include c

theorem read_ticks {Q : Bool → RuntimeState → Prop} (h : ∀ s, Q m s) :
    Ticks I G Q m Thread.read :=
  Thread.Paced.read (fun s => c.plain s s (.refl s)) h

theorem Ticks.of_within {p : Job α} {Q : Bool → α → Prop} (h : p.Within G) (hQ : ∀ m a, Q m a) :
    Ticks I G Q m p :=
  Thread.Paced.of_within c.keeps h hQ fun _ _ => trivial

variable {Q : Bool → Unit → Prop} {correlationId : String} {ctx : MarketContext} {driver : Driver}
  {obs : DriverObservation} {proposal : Proposal} {sample : TickSample}

theorem update_ticks {f : RuntimeState → RuntimeState} (hf : ∀ s, Plain s (f s)) (h : Q m ()) :
    Ticks I G Q m (Thread.update f) :=
  Thread.Paced.update
    (fun s hI => ⟨c.plain s _ (hf s), c.keeps m s _ hI (c.plain s _ (hf s))⟩) h

theorem emit_ticks (type : EventType) (correlationId : String) (h : Q m ()) :
    Ticks I G Q m (emit type correlationId) :=
  update_ticks c (fun _ => ⟨rfl, rfl, rfl, rfl⟩) h

/-- **An act of the runtime's own.** -/
theorem own_ticks (a : Act) (h : Q true ()) : Ticks I G Q true (own a) :=
  Thread.Paced.update (fun s hI => ⟨c.acted s a hI, c.keeps true s _ hI (c.acted s a hI)⟩) h

theorem escalate_ticks {e : PendingEscalation} {steps : List PreparedStep} (h : Q m ()) :
    Ticks I G Q m (Thread.update fun s => s.escalate e steps obs) :=
  Thread.Paced.update
    (fun s hI => ⟨c.escalate s e steps obs, c.keeps m s _ hI (c.escalate s e steps obs)⟩) h

/-! ## 3. The ContextLock path -/

/-- **Preparing** begins and ends in a turn that a marked answer began. -/
theorem prepareSteps_ticks {verdict : Verdict} {issuedAt : Int} (steps : List ProposalStep)
    (out : List PreparedStep) :
    Ticks I G (fun m _ => m = true) true
      (prepareSteps D correlationId ctx verdict issuedAt steps out) := by
  induction steps generalizing out with
  | nil => exact rfl
  | cons step steps ih =>
    refine Ticks.bind (update_ticks c (fun _ => ⟨rfl, rfl, rfl, rfl⟩) ?_)
    refine Ticks.bind (now_ticks fun atMs => ?_)
    refine Ticks.bind (read_ticks c fun s => ?_)
    refine Ticks.bind (own_ticks c .capability ?_)
    refine Ticks.bind (preparing_ticks fun signature => ?_)
    refine Ticks.bind (emit_ticks c _ _ ?_)
    refine Ticks.bind (own_ticks c .authorization ?_)
    refine Ticks.bind (preparing_ticks fun authHash => ?_)
    refine Ticks.bind (preparing_ticks fun receipt => ?_)
    refine Ticks.bind (emit_ticks c _ _ ?_)
    exact ih _

theorem prepare_ticks {verdict : Verdict} :
    Ticks I G (fun m _ => m = true) m (prepare D correlationId proposal ctx verdict) :=
  Ticks.bind (preparing_ticks fun _ => prepareSteps_ticks c _ _)

/-- **Executing** begins in such a turn, and so does every further step. -/
theorem executeSteps_ticks (steps : List PreparedStep) (i : Nat) (txs : List String) :
    Ticks I G (fun _ _ => True) true (executeSteps correlationId none steps i txs) := by
  induction steps generalizing i txs with
  | nil => trivial
  | cons step steps ih =>
    refine Ticks.bind (emit_ticks c _ _ ?_)
    refine Ticks.bind (own_ticks c .submission ?_)
    refine Ticks.bind (Thread.Paced.attempt (Thread.Paced.bind (Thread.Paced.ask rfl fun r => ?_)))
    cases r with
    | error message => exact Ticks.bind (emit_ticks c _ _ trivial)
    | ok hash =>
      refine Ticks.bind (executing_ticks fun receipt => ?_)
      by_cases hsuccess : receipt.success = true
      · rw [if_pos hsuccess]
        exact Ticks.bind (emit_ticks c _ _ (ih _ _))
      · rw [if_neg hsuccess]
        exact Ticks.bind (emit_ticks c _ _ trivial)

theorem execute_ticks {driverId label : String} {amountUsd6 : Int} {before : DriverObservation}
    {steps : List PreparedStep} :
    Ticks I G (fun _ _ => True) true
      (execute correlationId driverId label amountUsd6 before steps none) := by
  refine Ticks.bind ((executeSteps_ticks c _ _ _).mono (fun m txs _ => ?_) fun _ _ h => h)
  refine Ticks.bind (executing_ticks fun after => ?_)
  refine Ticks.bind (now_ticks fun atMs => ?_)
  refine Ticks.bind (update_ticks c (fun _ => ⟨rfl, rfl, rfl, rfl⟩) ?_)
  exact Ticks.bind (emit_ticks c _ _ trivial)

theorem carryOut_ticks {decision : PolicyDecision} {atMs : Int} :
    Ticks I G (fun _ _ => True) m
      (carryOut D driver obs correlationId proposal ctx decision atMs) := by
  refine Ticks.bind ((prepare_ticks c).mono (fun m prepared hm => ?_) fun _ _ h => h)
  rw [hm]
  by_cases hescalate : decision.verdict = .escalate
  · rw [if_pos hescalate]
    refine Ticks.bind (escalate_ticks c ?_)
    exact Ticks.bind (emit_ticks c _ _ trivial)
  · rw [if_neg hescalate]
    refine Ticks.bind ((execute_ticks c).mono (fun m exec _ => ?_) fun _ _ h => h)
    exact Ticks.bind (update_ticks c (fun _ => ⟨rfl, rfl, rfl, rfl⟩) trivial)

/-! ## 4. The tick -/

theorem ruled_ticks {decision : PolicyDecision} {atMs : Int} :
    Ticks I G (fun _ _ => True) m
      (ruled D driver obs sample correlationId proposal ctx decision atMs) := by
  refine Ticks.bind (emit_ticks c _ _ ?_)
  refine Ticks.bind (emit_ticks c _ _ ?_)
  refine Ticks.bind (emit_ticks c _ _ ?_)
  refine Ticks.bind (emit_ticks c _ _ ?_)
  refine Ticks.bind (emit_ticks c _ _ ?_)
  refine Ticks.bind (update_ticks c (fun _ => ⟨rfl, rfl, rfl, rfl⟩) ?_)
  by_cases hdeny : decision.verdict = .deny
  · rw [if_pos hdeny]
    trivial
  · rw [if_neg hdeny]
    refine Ticks.bind (Thread.Paced.attempt ((carryOut_ticks c).mono (fun m outcome _ => ?_)
      fun m message _ => ?_))
    · trivial
    · exact Ticks.bind (emit_ticks c _ _ trivial)

theorem ruleAndRecord_ticks {atMs : Int} :
    Ticks I G (fun _ _ => True) m (ruleAndRecord D driver obs sample atMs proposal) := by
  unfold ruleAndRecord
  dsimp only
  split
  · trivial
  · refine Ticks.bind (read_ticks c fun s => ?_)
    split
    · trivial
    · refine Ticks.bind (update_ticks c (fun _ => ⟨rfl, rfl, rfl, rfl⟩) ?_)
      exact Ticks.bind ((ruled_ticks c).mono (fun _ _ _ => trivial) fun _ _ h => h)

theorem decideFor_ticks :
    Ticks I G (fun _ _ => True) m (decideFor D driver obs sample) := by
  refine Ticks.bind (now_ticks fun atMs => ?_)
  refine Ticks.bind (read_ticks c fun s => ?_)
  split
  · trivial
  · refine Ticks.bind (Thread.Paced.bind (Thread.Paced.ask rfl fun r => ?_))
    refine Thread.Paced.lift (fun proposal => ?_) fun _ => trivial
    cases proposal with
    | none =>
      refine Ticks.bind (read_ticks c fun s => ?_)
      split
      · refine Ticks.bind (update_ticks c (fun _ => ⟨rfl, rfl, rfl, rfl⟩) ?_)
        exact Ticks.bind (emit_ticks c _ _ trivial)
      · trivial
    | some proposal => exact ruleAndRecord_ticks c

theorem decideAll_ticks (drivers : List Driver) (result : TickSample) :
    Ticks I G (fun _ _ => True) m (decideAll D sample drivers result) := by
  induction drivers generalizing m result with
  | nil => trivial
  | cons d drivers ih =>
    rw [decideAll]
    split
    · trivial
    · exact Ticks.bind ((decideFor_ticks c).mono (fun _ _ _ => ih _) fun _ _ h => h)

omit c in
theorem observe_within (atMs : Int) : (observe D atMs).Within G := by
  have hdrivers : ∀ (drivers : List Driver) (out : List DriverObservation),
      (observeDrivers drivers out).Within G := by
    intro drivers
    induction drivers with
    | nil => exact fun _ => trivial
    | cons d drivers ih =>
      intro out
      refine Thread.Within.bind (Thread.Within.bind (Thread.Within.ask _) fun r => ?_) fun _ => ih _
      cases r <;> trivial
  refine Thread.Within.bind (Thread.Within.bind (Thread.Within.ask _) fun r => ?_) fun _ => ?_
  · cases r <;> trivial
  · exact Thread.Within.bind (hdrivers _ _) fun _ => trivial

theorem observeAndDecide_ticks (atMs : Int) :
    Ticks I G (fun _ _ => True) m (observeAndDecide D atMs) := by
  refine Ticks.bind (Ticks.of_within c (observe_within atMs) fun m sample => ?_)
  refine Ticks.bind (update_ticks c (fun _ => ⟨rfl, rfl, rfl, rfl⟩) ?_)
  refine Ticks.bind ((decideAll_ticks c _ _).mono (fun m result _ => ?_) fun _ _ h => h)
  refine Ticks.bind (read_ticks c fun s => ?_)
  dsimp only
  split
  · refine Ticks.bind (update_ticks c (fun _ => ⟨rfl, rfl, rfl, rfl⟩) ?_)
    refine Ticks.bind (emit_ticks c _ _ ?_)
    exact Ticks.bind (update_ticks c (fun _ => ⟨rfl, rfl, rfl, rfl⟩) trivial)
  · exact Ticks.bind (update_ticks c (fun _ => ⟨rfl, rfl, rfl, rfl⟩) trivial)

theorem runTick_ticks : Ticks I G (fun _ _ => True) m (runTick D) := by
  refine Ticks.bind (now_ticks fun atMs => ?_)
  refine Ticks.bind (update_ticks c (fun _ => ⟨rfl, rfl, rfl, rfl⟩) ?_)
  have hbody : ∀ m, Ticks I G (fun _ _ => True) m (unlessPaused D atMs) := by
    intro m
    refine Ticks.bind (read_ticks c fun s => ?_)
    split
    · trivial
    · exact observeAndDecide_ticks c atMs
  refine Ticks.bind (Thread.Paced.attempt ((hbody m).mono (fun m sample _ => ?_)
    fun m message _ => ?_))
  · trivial
  · refine Ticks.bind (update_ticks c (fun _ => ⟨rfl, rfl, rfl, rfl⟩) ?_)
    exact Ticks.bind (emit_ticks c _ _ trivial)

/-- **A tick** issues, records and submits only in turns that a marked answer began. -/
theorem tick_paced : Ticks I G (fun _ _ => True) m (tick D) := by
  refine Ticks.bind (read_ticks c fun s => ?_)
  split
  · trivial
  · split
    · trivial
    · refine Ticks.bind (update_ticks c (fun _ => ⟨rfl, rfl, rfl, rfl⟩) ?_)
      refine Ticks.bind ((runTick_ticks c).mono (fun m sample _ => ?_) fun _ _ h => h)
      exact Ticks.bind (update_ticks c (fun _ => ⟨rfl, rfl, rfl, rfl⟩) trivial)

end Paced

end ContextLock.Studio.ForkRuntime
