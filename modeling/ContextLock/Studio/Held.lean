/-
  Subject:   What a paused or stopped runtime does on its own.

  The switches are read once, where a tick begins. A tick that is under way goes on: it issues
  capabilities, records authorizations and submits steps although the runtime was paused or stopped
  meanwhile. So a pause and a stop hold where no tick is resumed in the middle of this work while
  the runtime is held.
-/
import ContextLock.Studio.ForkTicks

namespace ContextLock.Studio.ForkRuntime

open Machine Policy

/-! ## 1. Ticks -/

/-- In a turn that such an answer begins, the runtime is not held. -/
def Free (m : Bool) (s : RuntimeState) : Prop := m = true → s.held = false

/-- Nothing was done that should not be, and the switches stay. -/
structure Quiet (s s' : RuntimeState) : Prop where
  acts : s'.watch.heldActs = s.watch.heldActs
  paused : s'.paused = s.paused
  stopping : s'.stopping = s.stopping

theorem Quiet.refl (s : RuntimeState) : Quiet s s := ⟨rfl, rfl, rfl⟩

theorem Quiet.trans (s t u : RuntimeState) (h : Quiet s t) (h' : Quiet t u) : Quiet s u :=
  ⟨h'.acts.trans h.acts, h'.paused.trans h.paused, h'.stopping.trans h.stopping⟩

theorem Quiet.free (m : Bool) (s s' : RuntimeState) (hfree : Free m s) (h : Quiet s s') :
    Free m s' := by
  intro hm
  rw [RuntimeState.held, h.paused, h.stopping]
  exact hfree hm

theorem covers : Covers Free Quiet where
  keeps := Quiet.free
  plain _ _ h := ⟨congrArg Watch.heldActs h.watch, h.paused, h.stopping⟩
  acted s a hfree := by
    have hfalse : ¬ s.held = true := Bool.eq_false_iff.mp (hfree rfl)
    rw [RuntimeState.acted, if_neg hfalse]
    exact Quiet.refl s
  escalate _ _ _ _ := ⟨rfl, rfl, rfl⟩

/-! ## 2. The other calls -/

/-- Nothing was done that should not be. -/
def Blameless (s s' : RuntimeState) : Prop := s'.watch.heldActs = s.watch.heldActs

theorem Blameless.refl (s : RuntimeState) : Blameless s s := rfl

theorem Blameless.trans (s t u : RuntimeState) (h : Blameless s t) (h' : Blameless t u) :
    Blameless s u :=
  Eq.trans h' h

section Others

variable {D : Deps}

theorem lift_within {α : Type} {G : RuntimeState → RuntimeState → Prop} (x : Except String α) :
    (Thread.lift x : Job α).Within G := by
  cases x with
  | ok a => trivial
  | error message => trivial

theorem answering_within {G : RuntimeState → RuntimeState → Prop} (number : Nat) (q : ChainAsk) :
    (answering number q).Within G :=
  Thread.Within.bind (Thread.Within.ask _) fun _ => lift_within _

theorem executing_within {G : RuntimeState → RuntimeState → Prop} (human : Option Nat)
    (q : ChainAsk) : (executing human q).Within G :=
  Thread.Within.bind (Thread.Within.ask _) fun _ => lift_within _

theorem update_blameless {f : RuntimeState → RuntimeState} (hf : ∀ s, Blameless s (f s)) :
    (Thread.update f : Job Unit).Within Blameless :=
  Thread.Within.update hf

theorem collect_within {G : RuntimeState → RuntimeState → Prop} (pending : Pending)
    (signatures : List ApprovalSignature) (timestamp : Int) :
    (collect D pending signatures timestamp).Within G := by
  have hwallet : ∀ (signatures : List ApprovalSignature) (signed : Signed),
      (checkSignatures D pending.number timestamp signatures signed).Within G := by
    intro signatures
    induction signatures with
    | nil => exact fun _ => trivial
    | cons s rest ih =>
      intro signed
      refine Thread.Within.ite trivial ?_
      refine Thread.Within.bind (answering_within _ _) fun digest => ?_
      refine Thread.Within.bind (answering_within _ _) fun recovered => ?_
      exact Thread.Within.ite trivial (ih _)
  have hstandIn : ∀ (steps : List PreparedStep) (signed : Signed),
      (standIn pending.number (timestamp + 1800) steps signed).Within G := by
    intro steps
    induction steps with
    | nil => exact fun _ => trivial
    | cons step steps ih =>
      intro signed
      refine Thread.Within.bind (answering_within _ _) fun digest => ?_
      exact Thread.Within.bind (answering_within _ _) fun signature => ih _
  unfold collect
  split
  · refine Thread.Within.ite trivial ?_
    refine Thread.Within.bind (hwallet _ _) fun signed => ?_
    exact Thread.Within.ite trivial trivial
  · exact hstandIn _ _

theorem recordApprovals_blameless (correlationId : String) (number : Nat) (signed : Signed)
    (steps : List PreparedStep) :
    (recordApprovals correlationId number signed steps).Within Blameless := by
  induction steps with
  | nil => trivial
  | cons step steps ih =>
    rw [recordApprovals]
    split
    · trivial
    · refine Thread.Within.bind (update_blameless fun _ => rfl) fun _ => ?_
      refine Thread.Within.bind (answering_within _ _) fun hash => ?_
      refine Thread.Within.bind (answering_within _ _) fun receipt => ?_
      refine Thread.Within.ite ?_ trivial
      refine Thread.Within.bind (update_blameless fun _ => rfl) fun _ => ?_
      exact Thread.Within.bind (update_blameless fun _ => rfl) fun _ => ih

theorem executeSteps_blameless (correlationId : String) (number : Nat) (steps : List PreparedStep)
    (i : Nat) (txs : List String) :
    (executeSteps correlationId (some number) steps i txs).Within Blameless := by
  induction steps generalizing i txs with
  | nil => trivial
  | cons step steps ih =>
    refine Thread.Within.bind (update_blameless fun _ => rfl) fun _ => ?_
    refine Thread.Within.bind (update_blameless fun _ => rfl) fun _ => ?_
    refine Thread.Within.bind (executing_within _ _).attempt fun sent => ?_
    cases sent with
    | error message => exact Thread.Within.bind (update_blameless fun _ => rfl) fun _ => trivial
    | ok hash =>
      refine Thread.Within.bind (executing_within _ _) fun receipt => ?_
      exact Thread.Within.ite
        (Thread.Within.bind (update_blameless fun _ => rfl) fun _ => ih _ _)
        (Thread.Within.bind (update_blameless fun _ => rfl) fun _ => trivial)

theorem approve_blameless (correlationId : String) (signatures : List ApprovalSignature) :
    (approve D correlationId signatures).Within Blameless := by
  refine Thread.Within.bind (Thread.Within.read Blameless.refl) fun s => ?_
  cases s.pendingOf correlationId with
  | none => trivial
  | some pending =>
    refine Thread.Within.bind (answering_within _ _) fun timestamp => ?_
    refine Thread.Within.bind (collect_within _ _ _) fun signed => ?_
    refine Thread.Within.bind (recordApprovals_blameless _ _ _ _) fun _ => ?_
    refine Thread.Within.bind (update_blameless fun _ => rfl) fun _ => ?_
    refine Thread.Within.bind (Thread.Within.bind (executeSteps_blameless _ _ _ _ _) fun txs =>
      Thread.Within.bind (executing_within _ _) fun after => Thread.Within.bind (Thread.Within.ask _)
        fun atMs => Thread.Within.bind (update_blameless fun _ => rfl) fun _ =>
          Thread.Within.bind (update_blameless fun _ => rfl) fun _ => trivial) fun exec => ?_
    refine Thread.Within.bind (update_blameless fun _ => rfl) fun _ => ?_
    exact Thread.Within.bind (update_blameless fun _ => rfl) fun _ => trivial

theorem decline_blameless (correlationId : String) : (decline correlationId).Within Blameless := by
  refine Thread.Within.bind (Thread.Within.read Blameless.refl) fun s => ?_
  cases s.pendingOf correlationId with
  | none => trivial
  | some pending =>
    refine Thread.Within.bind (update_blameless fun _ => rfl) fun _ => ?_
    exact Thread.Within.bind (update_blameless fun _ => rfl) fun _ => trivial

/-- **Every call but a tick** does nothing on the runtime's own initiative. -/
theorem program_blameless {op : Op} (hop : op ≠ .tick) : (program D op).Within Blameless := by
  cases op with
  | start =>
    refine Thread.Within.bind (Thread.Within.read Blameless.refl) fun s => ?_
    refine Thread.Within.ite trivial ?_
    refine Thread.Within.bind (Thread.Within.ask _) fun startedAt => ?_
    refine Thread.Within.bind (Thread.Within.ask _) fun heartbeat => ?_
    refine Thread.Within.bind (update_blameless fun _ => rfl) fun _ => ?_
    exact Thread.Within.bind (update_blameless fun _ => rfl) fun _ => trivial
  | loop => exact Thread.Within.bind (update_blameless fun _ => rfl) fun _ => trivial
  | stop | pause | resume =>
    refine Thread.Within.bind (update_blameless fun _ => rfl) fun _ => ?_
    exact Thread.Within.bind (update_blameless fun _ => rfl) fun _ => trivial
  | tick => exact absurd rfl hop
  | approve correlationId signatures => exact approve_blameless correlationId signatures
  | decline correlationId => exact decline_blameless correlationId

end Others

/-! ## 3. Runs -/

def heldBack (p : Runtime) : RuntimeTurn → Bool
  | .start _ _ => true
  | .resume i _ =>
    match p.threads[i]? with
    | some (.tick, .call e _) => !marked e || !p.shared.held
    | _ => true

/-- Nothing was done so far, every tick waits, and the other calls do nothing of their own. -/
structure Obedient (p : Runtime) : Prop where
  acts : p.shared.watch.heldActs = []
  ticks : ∀ entry ∈ p.threads, entry.1 = .tick →
    entry.2.Waiting Ask.instant marked Free Quiet
  others : ∀ entry ∈ p.threads, entry.1 ≠ .tick → entry.2.Within Blameless

section Runs

variable {D : Deps} {p p' : Runtime}

/-- **One turn** of an obedient runtime. -/
theorem obedient_step {turn : RuntimeTurn} (h : Obedient p) (hguard : heldBack p turn = true)
    (hstep : Runtime.step D p turn = some p') : Obedient p' := by
  rcases Pool.step_cases hstep with ⟨op, o, rfl, rfl⟩ | ⟨i, o, op, e, k, rfl, hi, rfl⟩
  · by_cases hop : op = .tick
    · subst hop
      have hfree : Free false p.shared := fun hm => by cases hm
      have htick : Ticks Free Quiet (fun _ _ => True) false (tick D) := tick_paced covers
      obtain ⟨hquiet, hwaits⟩ := htick.settle Quiet.refl Quiet.trans hfree
      exact ⟨hquiet.acts.trans h.acts,
        List.forall_mem_append.mpr ⟨h.ticks, List.forall_mem_singleton.mpr fun _ => hwaits⟩,
        List.forall_mem_append.mpr ⟨h.others, List.forall_mem_singleton.mpr (absurd rfl)⟩⟩
    · obtain ⟨hsame, hrest⟩ := (program_blameless (D := D) hop).settle Blameless.refl
        Blameless.trans
      exact ⟨Eq.trans hsame h.acts,
        List.forall_mem_append.mpr ⟨h.ticks, List.forall_mem_singleton.mpr (absurd · hop)⟩,
        List.forall_mem_append.mpr ⟨h.others, List.forall_mem_singleton.mpr fun _ => hrest⟩⟩
  · have hold := List.mem_of_getElem? hi
    by_cases hop : op = .tick
    · subst hop
      have hk := h.ticks _ hold rfl (o 0 e)
      have hfree : Free (marked e) p.shared := by
        intro hm
        simpa [heldBack, hi, hm] using hguard
      obtain ⟨hquiet, hwaits⟩ := hk.settle Quiet.refl Quiet.trans hfree
      exact ⟨hquiet.acts.trans h.acts, forall_mem_set h.ticks fun _ => hwaits,
        forall_mem_set h.others (absurd rfl)⟩
    · obtain ⟨hsame, hrest⟩ := Thread.Within.settle Blameless.refl Blameless.trans
        (h.others _ hold hop (o 0 e))
      exact ⟨Eq.trans hsame h.acts, forall_mem_set h.ticks (absurd · hop),
        forall_mem_set h.others fun _ => hrest⟩

/-- **A pause and a stop hold.** In every run in which no tick is resumed in the middle of its work
    while the runtime is held, the runtime does nothing on its own initiative while it is paused or
    stopping. -/
theorem held_acts_none
    (h : Reaches (guarded (Runtime.step D) fun p turn => heldBack p turn = true) Runtime.new p) :
    p.shared.watch.heldActs = [] := by
  have hnew : Obedient Runtime.new := by
    refine ⟨rfl, fun entry hmem => ?_, fun entry hmem => ?_⟩
    · cases hmem
    · cases hmem
  refine (h.invariant (P := Obedient) (fun p turn p' hobedient hstep => ?_) hnew).acts
  obtain ⟨hguard, hstep⟩ := guarded_eq_some.mp hstep
  exact obedient_step hobedient hguard hstep

end Runs

/-! ## 4. A pause between ticks, and a stop in the middle of one -/

def repayPolicy : PrivatePolicy where
  policyId := "pol_1"
  policyVersion := .int 1
  enabled := true
  autoLimit := 1000000000
  escalationLimit := 5000000000
  maxSlippageBps := .int 100
  maxVolatilityBps := .int 500
  minLiquidity := 0
  targetEthAllocationBps := .int 5000
  rebalanceDriftBps := .int 500
  minHealthFactorBps := .int 11000
  targetHealthFactorBps := .int 15000
  proprietaryRiskThreshold := .int 50
  canary := ""
  allowedActionKinds := ["REPAY_DEBT"]
  allowedTargets := ["0xpool"]
  authorizedAgentIdentityHashes := ["0xagent"]

def oneDriver : Deps where
  deploymentId := "dep_1"
  agentIdentityHash := "0xagent"
  ensNode := "0xnode"
  policyHash := "0xpolicy"
  user := "0xuser"
  approver := "0xapprover"
  executor := "0xexecutor"
  approverMode := .STAND_IN
  policy := repayPolicy
  drivers := [⟨"aave-repay", "aave"⟩]
  keccak256 := id
  contextCommitment _ := "0xcontext"
  capabilityDigest cap := cap.intentHash

/-- The proposal of the driver, of one step. -/
def repayment (amountUsd6 : Int) : Proposal :=
  ⟨"REPAY_DEBT", "repay debt", amountUsd6, [⟨"REPAY_DEBT", "0xpool", "0xrepay", 0, "repay debt"⟩]⟩

/-- A chain on which every call succeeds. -/
def obliging : (q : ChainAsk) → Except String (ChainValue q)
  | .latestBlock => .ok (1772366400 : Int)
  | .receipt _ => .ok ⟨true⟩
  | .observe driverId => .ok ⟨driverId, "aave", some 15000, "health 1.5"⟩
  | .signCapability _ => .ok "0xsignature"
  | .recordAuthorization _ _ => .ok "0xauthorization"
  | .execute _ => .ok "0xexecution"
  | .approvalDigest _ _ => .ok "0xdigest"
  | .recoverAddress _ _ => .ok "0xapprover"
  | .signApproval _ => .ok "0xapproval"
  | .submitApproval _ _ _ => .ok "0xsubmission"

/-- An outside on whose fork the driver proposes that amount, and every call succeeds. -/
def onFork (amountUsd6 : Int) : Thread.Oracle Answer
  | _, .now => (1772366400000 : Int)
  | _, .readings => .ok true
  | _, .observe driverId => .ok ⟨driverId, "aave", some 12000, "health 1.2"⟩
  | _, .propose _ _ => .ok (some (repayment amountUsd6))
  | _, .preparing q => obliging q
  | _, .executing _ q => obliging q
  | _, .answering _ q => obliging q

def pausedTurns : List RuntimeTurn :=
  .start .tick (onFork 100000000) :: List.replicate 10 (.resume 0 (onFork 100000000)) ++
    [.start .pause (onFork 100000000), .start .tick (onFork 100000000)]

/-- The runtime that was paused after it acted, and what is true of it. -/
theorem paused_none :
    ∃ p, Reaches (guarded (Runtime.step oneDriver) fun p turn => heldBack p turn = true)
        Runtime.new p ∧ p.shared.paused = true ∧ p.shared.executions.length = 1 ∧
      p.shared.watch.heldActs = [] := by
  have hrun : ∃ p, Reaches (guarded (Runtime.step oneDriver) fun p turn => heldBack p turn = true)
      Runtime.new p ∧ (p.shared.paused, p.shared.executions.length) = (true, 1) :=
    reaches_of_observed (fun p : Runtime => (p.shared.paused, p.shared.executions.length))
      pausedTurns (by decide)
  obtain ⟨p, hreach, hseen⟩ := hrun
  obtain ⟨hpaused, hexecuted⟩ := Prod.mk.inj hseen
  exact ⟨p, hreach, hpaused, hexecuted, held_acts_none hreach⟩

/-- A tick up to its first capability, a stop, and the tick to its end. -/
def stoppedTurns : List RuntimeTurn :=
  [.start .tick (onFork 100000000), .resume 0 (onFork 100000000), .resume 0 (onFork 100000000),
    .resume 0 (onFork 100000000), .start .stop (onFork 100000000)] ++
    List.replicate 7 (.resume 0 (onFork 100000000))

/-- **A stopped runtime acts**: it issues a capability, records its authorization and submits the
    step after the stop has returned. -/
theorem executed_while_stopped :
    ∃ p, Reaches (Runtime.step oneDriver) Runtime.new p ∧ p.shared.stopping = true ∧
      p.shared.watch.heldActs = [.capability, .authorization, .submission] := by
  have hrun : ∃ p, Reaches (Runtime.step oneDriver) Runtime.new p ∧
      (p.shared.stopping, p.shared.watch.heldActs) =
        (true, [.capability, .authorization, .submission]) :=
    reaches_of_observed (fun p : Runtime => (p.shared.stopping, p.shared.watch.heldActs))
      stoppedTurns (by decide)
  obtain ⟨p, hreach, hseen⟩ := hrun
  obtain ⟨hstopping, hacts⟩ := Prod.mk.inj hseen
  exact ⟨p, hreach, hstopping, hacts⟩

end ContextLock.Studio.ForkRuntime
