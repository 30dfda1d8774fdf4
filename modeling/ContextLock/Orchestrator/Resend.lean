/-
  Subject:   A write step is not sent again while its transaction may still take effect.
-/
import ContextLock.Orchestrator.Approved
import ContextLock.Orchestrator.Tracking

namespace ContextLock.Orchestrator

open Js Deploy Machine

/-! ## 1. Waiting -/

/-- No transaction of the step has an effect, and its record says so. -/
def Cleared (records : Map TransactionRecord) (w : World) (stepId : String) : Prop :=
  (∀ a ∈ w.ledger.attemptsOf stepId, a.fate.dead) ∧
    ∀ r ∈ records.get? stepId, r.writtenOff

def ChainMoves (records : Map TransactionRecord) (w w' : World) : Prop :=
  ∃ l, w.ledger.movesTo l ∧ Settled records { w with ledger := l } ∧
    keepsReverted w.ledger l ∧ w' = { w with ledger := l }

/-- What may happen while a run waits, and what is to hold then: the records track the
    transactions, and a request goes to the wallet only for a cleared step. -/
def resendRules : Rules DeploymentRun Effect Reply World where
  drift run e w w' := ChainMoves run.transactions w w' ∨
    ∃ step req hash, e = .sendTransaction step req ∧ w.inFlight = none ∧
      w' = ⟨w.ledger.broadcast step.id req hash, some step.id⟩
  answer run e w r w' := admissible w e r ∧ answerMeets run w e r ∧ w' = w.after e
  holds run e w := Tracking run.transactions w ∧
    ∀ step req, e = .sendTransaction step req → w.inFlight = none →
      Cleared run.transactions w step.id

variable {T : DeployError → DeploymentRun → World → Prop} {d : Deployment} {q r : TransactionRecord}
  {records : Map TransactionRecord} {run : DeploymentRun} {s : String} {w w' : World}

theorem drift_quiet {e : Effect} (he : e.quiet) (hd : resendRules.drift run e w w') :
    ChainMoves run.transactions w w' := by
  obtain hc | ⟨step, req, hash, rfl, _, _⟩ := hd
  · exact hc
  · exact he.elim

theorem Steady.chain (h : Steady records w) (hc : ChainMoves records w w') : Steady records w' := by
  obtain ⟨l, hl, hs, _, rfl⟩ := hc
  exact ⟨h.1, h.2.chain hl hs⟩

theorem World.after_of_none (h : w.inFlight = none) (e : Effect) : w.after e = w := by
  obtain ⟨l, f⟩ := w
  obtain rfl : f = none := h
  unfold World.after
  split <;> rfl

theorem holds_quiet {e : Effect} (he : e.quiet) (h : Tracking run.transactions w) :
    resendRules.holds run e w := by
  refine ⟨h, ?_⟩
  rintro step req rfl
  exact he.elim

theorem steady_stable : resendRules.Stable DeploymentRun.commitments Effect.quiet
    fun c w => Steady c.1 w where
  drift _ _ _ _ he hd h := h.chain (drift_quiet he hd)
  answer run e w r w' _ ha h := by
    obtain ⟨_, _, rfl⟩ := ha
    rw [World.after_of_none h.1]
    exact h
  holds _ _ _ he h := holds_quiet he h.2

def SteadyRun (run : DeploymentRun) (w : World) : Prop := Steady run.transactions w

/-- From a steady state on, the script is safe and ends in a steady one. -/
def Tracks (p : Script DeploymentRun Effect Reply DeployError Unit) (w : World) : Prop :=
  p.Safe resendRules (fun _ => SteadyRun) (fun _ => SteadyRun) w

theorem Silent.tracks {m : Orchestrated Unit}
    (hm : Silent DeploymentRun.commitments (fun _ _ => True) m)
    {run : DeploymentRun} {w : World} (h : SteadyRun run w) : Tracks (m run) w := by
  refine (Script.Safe.of_keeps steady_stable (hm run) h).mono ?_ ?_
  · rintro _ run' w' ⟨he, hs⟩
    have hr : run'.transactions = run.transactions := congrArg Prod.fst he
    exact (show Steady run'.transactions w' from hr ▸ hs)
  · rintro _ run' w' ⟨he, hs⟩
    have hr : run'.transactions = run.transactions := congrArg Prod.fst he
    exact (show Steady run'.transactions w' from hr ▸ hs)

/-- A quiet action, and then the rest of the script. -/
theorem tracks_bind {α : Type} {m : Orchestrated α} {f : α → Orchestrated Unit}
    (hm : Silent DeploymentRun.commitments (fun _ _ => True) m) {run : DeploymentRun} {w : World}
    (h : SteadyRun run w)
    (hf : ∀ a run' w', run'.transactions = run.transactions → SteadyRun run' w' →
      Tracks (f a run') w') : Tracks ((m >>= f) run) w := by
  refine Script.Safe.bind ?_
  refine (Script.Safe.of_keeps steady_stable (hm run) h).mono ?_ ?_
  · rintro a run' w' ⟨he, hs⟩
    have hr : run'.transactions = run.transactions := congrArg Prod.fst he
    exact hf a run' w' hr (show Steady run'.transactions w' from hr ▸ hs)
  · rintro _ run' w' ⟨he, hs⟩
    have hr : run'.transactions = run.transactions := congrArg Prod.fst he
    exact (show Steady run'.transactions w' from hr ▸ hs)

/-- Waiting for a call that is no send, with an assertion that the chain keeps. -/
theorem wait_tracking {α : Type} {A : World → Prop} {e : Effect}
    {k : Reply e → Script DeploymentRun Effect Reply DeployError α}
    {Q : α → DeploymentRun → World → Prop} (he : e.quiet)
    (hchain : ∀ w w', A w → ChainMoves run.transactions w w' → A w')
    (htracks : ∀ w, A w → Tracking run.transactions w) (hw : A w)
    (hk : ∀ w' r, A w' → admissible w' e r → answerMeets run w' e r →
      (k r).Safe resendRules Q T (w'.after e)) :
    (Script.call run e k).Safe resendRules Q T w := by
  refine Script.Safe.wait (fun w w' h hd => hchain w w' h (drift_quiet he hd))
    (fun w h => holds_quiet he (htracks w h)) hw ?_
  rintro w' r _ hw' ⟨hadm, hmeets, rfl⟩
  exact hk w' r hw' hadm hmeets

/-- The same, with every broadcast recorded. -/
theorem wait_quiet {α : Type} {A : World → Prop} {e : Effect}
    {k : Reply e → Script DeploymentRun Effect Reply DeployError α}
    {Q : α → DeploymentRun → World → Prop} (he : e.quiet)
    (hchain : ∀ w w', A w → ChainMoves run.transactions w w' → A w')
    (hsteady : ∀ w, A w → SteadyRun run w) (hw : A w)
    (hk : ∀ w' r, A w' → admissible w' e r → answerMeets run w' e r →
      (k r).Safe resendRules Q T w') :
    (Script.call run e k).Safe resendRules Q T w := by
  refine wait_tracking he hchain (fun w h => (hsteady w h).2) hw fun w' r hw' hadm hmeets => ?_
  rw [World.after_of_none (hsteady w' hw').1]
  exact hk w' r hw' hadm hmeets

/-- The same, with nothing to keep but steadiness. -/
theorem wait_steady {α : Type} {e : Effect}
    {k : Reply e → Script DeploymentRun Effect Reply DeployError α}
    {Q : α → DeploymentRun → World → Prop} (he : e.quiet) (hw : SteadyRun run w)
    (hk : ∀ w' r, SteadyRun run w' → admissible w' e r → answerMeets run w' e r →
      (k r).Safe resendRules Q T w') :
    (Script.call run e k).Safe resendRules Q T w :=
  wait_quiet he (fun _ _ h hc => Steady.chain h hc) (fun _ h => h) hw hk

/-! ## 2. Reconciliation -/

/-- The record is of the same transaction as another. -/
structure TransactionRecord.Same (r r' : TransactionRecord) : Prop where
  stepId : r.deploymentStepId = r'.deploymentStepId
  chainId : r.chainId = r'.chainId
  sender : r.sender = r'.sender
  nonce : r.nonce = r'.nonce
  hash : r.txHash = r'.txHash

theorem TransactionRecord.Same.trans {r' r'' : TransactionRecord} (h : r.Same r') (h' : r'.Same r'')
    : r.Same r'' :=
  ⟨h.stepId.trans h'.stepId, h.chainId.trans h'.chainId, h.sender.trans h'.sender,
    h.nonce.trans h'.nonce, h.hash.trans h'.hash⟩

/-- What a reconciled record says about the transactions of its step. -/
structure Resolved (run : DeploymentRun) (stepId : String) (r r' : TransactionRecord)
    (w : World) : Prop where
  same : r'.Same r
  sent : r'.state ≠ .NOT_SUBMITTED
  reverted : r'.state = .MINED_REVERTED →
    ∀ a ∈ (w.ledger.attemptsOf stepId).head?, a.fate = .reverted
  absent : r'.state = .CONFIRMED_ABSENT →
    (∀ r ∈ run.transactions.get? stepId, r.state = .UNKNOWN_SUBMISSION_STATE) ∧
      ∀ a ∈ w.ledger.attemptsOf stepId, a.fate.dead

theorem settledBy_same (r : TransactionRecord) (receipt : Receipt) (head : Nat) :
    (settledBy r receipt head).Same r := ⟨rfl, rfl, rfl, rfl, rfl⟩

theorem stillUnknown_same (r : TransactionRecord) (hash : String) (now : Nat) :
    (stillUnknown r hash now).Same r := ⟨rfl, rfl, rfl, rfl, rfl⟩

theorem settledByNonce_same (r : TransactionRecord) (next : Nat) :
    (settledByNonce r next).Same r := by
  unfold settledByNonce
  split <;> exact ⟨rfl, rfl, rfl, rfl, rfl⟩

theorem reverted_chain (hc : ChainMoves records w w')
    (h : ∀ a ∈ (w.ledger.attemptsOf s).head?, a.fate = .reverted) :
    ∀ a ∈ (w'.ledger.attemptsOf s).head?, a.fate = .reverted := by
  obtain ⟨l, hl, _, hk, rfl⟩ := hc
  -- along the two lists of attempts, position by position
  have hzip : ∀ as bs : List Attempt, bs.map Attempt.core = as.map Attempt.core →
      (∀ p ∈ as.zip bs, p.1.fate = .reverted → p.2.fate = .reverted) →
      (∀ a ∈ (as.filter (·.stepId = s)).head?, a.fate = .reverted) →
      ∀ b ∈ (bs.filter (·.stepId = s)).head?, b.fate = .reverted := by
    intro as
    induction as with
    | nil =>
      intro bs hmap _ _ b hb
      rw [List.map_eq_nil_iff.mp hmap] at hb
      cases hb
    | cons a as ih =>
      intro bs hmap hkeep hhead b hb
      cases bs with
      | nil => cases hmap
      | cons b' bs =>
        obtain ⟨hcore, hrest⟩ := List.cons.inj hmap
        have hstep : b'.stepId = a.stepId := (congrArg Attempt.stepId hcore :)
        by_cases hs : a.stepId = s
        · have hb' : b = b' := by
            rw [List.filter_cons_of_pos (by simpa using hstep.trans hs)] at hb
            exact (Option.some.inj hb).symm
          have ha : a.fate = .reverted := by
            refine hhead a ?_
            rw [List.filter_cons_of_pos (by simpa using hs)]
            rfl
          exact hb' ▸ hkeep (a, b') List.mem_cons_self ha
        · rw [List.filter_cons_of_neg (by simpa using hstep ▸ hs)] at hb
          rw [List.filter_cons_of_neg (by simpa using hs)] at hhead
          exact ih bs hrest (fun p hp => hkeep p (List.mem_cons_of_mem _ hp)) hhead b hb
  exact hzip w.ledger.attempts l.attempts hl hk h

theorem absent_of_unused (h : Steady records w) (hr : records.get? s = some r)
    (hn : w.ledger.count r.chainId r.sender ≤ r.nonce)
    (hpending : ∀ a ∈ w.ledger.attemptsOf s, a.fate ≠ .pending) :
    ∀ a ∈ w.ledger.attemptsOf s, a.fate.dead := by
  intro a ha
  have hmem : a ∈ w.ledger.attempts := (List.mem_filter.mp ha).1
  obtain ⟨hle, hchain, hsender⟩ := h.2.anchored s r (by simp [h.1]) hr a ha
  have hmined : ¬ a.fate.mined := by
    intro hm
    have hlt := w.ledger.mined_lt a hmem hm
    rw [hchain, hsender] at hlt
    omega
  cases hf : a.fate with
  | pending => exact absurd hf (hpending a ha)
  | succeeded => exact absurd (Or.inl hf) hmined
  | reverted => exact Or.inl rfl
  | absent => exact Or.inr rfl

theorem reverted_of_receipt {x : String} {receipt : Receipt} (h : Steady records w)
    (hr : records.get? s = some r) (hw : r.awaited) (hx : r.hash = some x)
    (ha : admissible w (.getTransactionReceipt r.chainId x) (.ok (some receipt)))
    (hs : receipt.status = .reverted) :
    ∀ a ∈ (w.ledger.attemptsOf s).head?, a.fate = .reverted := by
  intro a hhead
  have hmem : a ∈ w.ledger.attemptsOf s := List.mem_of_mem_head? hhead
  have hhash : a.hash = x := h.2.hashed s r x (by simp [h.1]) hr hw hx a hhead
  have hchain : a.chainId = r.chainId := (h.2.anchored s r (by simp [h.1]) hr a hmem).2.1
  have hfate := ha a (List.mem_filter.mp hmem).1 ⟨hhash, hchain⟩
  rw [hs] at hfate
  exact hfate

/-- **Reconciling the record of an awaited transaction.** -/
theorem reconcile_resolves {r' : TransactionRecord} (now : Nat) (h : SteadyRun run w)
    (hr : run.transactions.get? s = some r) (hw : r.awaited) (hsame : r'.Same r) :
    (reconcile r' r'.chainId now run).Safe resendRules
      (fun q run' w' => run' = run ∧ SteadyRun run w' ∧ Resolved run s r q w')
      (fun _ run' w' => run' = run ∧ SteadyRun run w') w := by
  have hid : r'.deploymentStepId = s := hsame.stepId.trans (h.2.keyed s r hr)
  have hhash : r'.hash = r.hash := by
    unfold TransactionRecord.hash
    rw [hsame.hash]
  unfold reconcile
  cases hx : r'.hash with
  | some x =>
    have hrx : r.hash = some x := hhash ▸ hx
    refine wait_steady (by trivial) h fun w₁ reply h₁ hadm _ => ?_
    cases reply with
    | error e => exact ⟨rfl, h₁⟩
    | ok receipt? =>
      cases receipt? with
      | none =>
        exact ⟨rfl, h₁, (stillUnknown_same r' x now).trans hsame, by simp [stillUnknown],
          by simp [stillUnknown], by simp [stillUnknown]⟩
      | some receipt =>
        have hrev : receipt.status = .reverted →
            ∀ a ∈ (w₁.ledger.attemptsOf s).head?, a.fate = .reverted := by
          rw [hsame.chainId] at hadm
          exact reverted_of_receipt h₁ hr hw hrx hadm
        -- the head of the chain is read after the receipt, and the chain moves in between
        refine wait_quiet
          (A := fun w => SteadyRun run w ∧ (receipt.status = .reverted →
            ∀ a ∈ (w.ledger.attemptsOf s).head?, a.fate = .reverted))
          (by trivial) (fun w w' h hc => ⟨h.1.chain hc, fun hs => reverted_chain hc (h.2 hs)⟩)
          (fun w h => h.1) ⟨h₁, hrev⟩ ?_
        rintro w₂ reply ⟨h₂, hrev₂⟩ _ _
        cases reply with
        | error e => exact ⟨rfl, h₂⟩
        | ok head =>
          refine ⟨rfl, h₂, (settledBy_same r' receipt head).trans hsame, ?_, ?_, ?_⟩
          · cases hs : receipt.status <;> simp [settledBy, hs]
          · cases hs : receipt.status with
            | success => simp [settledBy, hs]
            | reverted => exact fun _ => hrev₂ hs
          · cases hs : receipt.status <;> simp [settledBy, hs]
  | none =>
    refine wait_steady (by trivial) h fun w₁ reply h₁ hadm hmeets => ?_
    cases reply with
    | error e => exact ⟨rfl, h₁⟩
    | ok next =>
      refine ⟨rfl, h₁, (settledByNonce_same r' next).trans hsame, ?_, ?_, ?_⟩
      · unfold settledByNonce
        split <;> simp
      · unfold settledByNonce
        split <;> simp
      · intro habs
        have hnext : next ≤ r'.nonce := by
          by_contra hlt
          simp [settledByNonce, hlt] at habs
        have hcond := hmeets r (hid ▸ hr)
        have hstate : r.state = .UNKNOWN_SUBMISSION_STATE := by
          obtain hsub | hunk := hw
          · rw [if_neg (by rw [hsub]; decide)] at hcond
            exact absurd hsub hcond.1
          · exact hunk
        rw [if_pos hstate] at hcond
        have hcount : next = w₁.ledger.count r.chainId r.sender := by
          rw [← hsame.chainId, ← hsame.sender]
          exact hadm
        refine ⟨fun q hq => ?_, ?_⟩
        · obtain rfl : r = q := Option.some.inj (hr.symm.trans hq)
          exact hstate
        · refine absent_of_unused h₁ hr ?_ (hid ▸ hcond (hsame.nonce ▸ hnext))
          rw [← hcount, ← hsame.nonce]
          exact hnext

/-- **A reconciled record is written.** -/
theorem Resolved.setRecord (hq : Resolved run s r q w) (h : SteadyRun run w)
    (hr : run.transactions.get? s = some r) (hw : r.awaited) :
    Steady (run.transactions.set s q) w := by
  have hflight : w.inFlight ≠ some s := by simp [h.1]
  have hworld : (⟨w.ledger, none⟩ : World) = w := by
    rw [← h.1]
  have hset : Tracking (run.transactions.set s q) ⟨w.ledger, none⟩ := by
    refine h.2.setRecord (Or.inl h.1) ?_ ?_ ?_ ?_
    · exact hq.same.stepId.trans (h.2.keyed s r hr)
    · rintro (hnot | habs | hrev)
      · exact absurd hnot hq.sent
      · exact (hq.absent habs).2
      · intro a ha
        -- the last transaction reverted, and the ones before it are written off
        have htail : ∀ b ∈ (w.ledger.attemptsOf s).tail, b.fate.dead :=
          fun b hb => h.2.settled s b (tail_superseded hb)
        have hhead := hq.reverted hrev
        cases hl : w.ledger.attemptsOf s with
        | nil => simp [hl] at ha
        | cons b bs =>
          rw [hl] at ha htail hhead
          obtain rfl | hin := List.mem_cons.mp ha
          · exact Or.inl (hhead a rfl)
          · exact htail a hin
    · intro a ha
      obtain ⟨hn, hc, hs⟩ := h.2.anchored s r hflight hr a ha
      exact ⟨hq.same.nonce ▸ hn, hq.same.chainId ▸ hc, hq.same.sender ▸ hs⟩
    · intro _ x hx a ha
      have hhash : r.hash = some x := by
        unfold TransactionRecord.hash at hx ⊢
        rw [← hq.same.hash]
        exact hx
      exact h.2.hashed s r x hflight hr hw hhash a ha
  exact ⟨h.1, hworld ▸ hset⟩

theorem reconcileUnknown_tracks (deps : Deps) (stepId : String) {run : DeploymentRun} {w : World}
    (h : SteadyRun run w) : Tracks (reconcileUnknown deps stepId run) w := by
  unfold reconcileUnknown
  simp only [Act.bind_apply, Act.get_apply, Script.bind_ok]
  cases hr : run.transactions.get? stepId with
  | none => exact h
  | some r =>
  by_cases hstate : r.state = .UNKNOWN_SUBMISSION_STATE
  swap
  · simp only [ne_eq, hstate, not_false_eq_true, if_true]
    exact h
  by_cases hreader : r.chainId ∈ deps.readers
  swap
  · simp only [ne_eq, hstate, hreader, not_true_eq_false, not_false_eq_true, if_false, if_true]
    exact h
  simp only [ne_eq, hstate, hreader, not_true_eq_false, if_false]
  have hw : r.awaited := Or.inr hstate
  refine wait_steady (by trivial) h fun w₁ now h₁ _ _ => ?_
  change Tracks ((reconcile r r.chainId now run).bind _) w₁
  refine Script.Safe.bind ?_
  refine (reconcile_resolves now h₁ hr hw ⟨rfl, rfl, rfl, rfl, rfl⟩).mono ?_ ?_
  · rintro q run' w₂ ⟨rfl, h₂, hq⟩
    have hset : Steady (run'.transactions.set stepId q) w₂ := hq.setRecord h₂ hr hw
    refine Silent.tracks (.bind (log_keeps _ _) fun _ => ?_)
      (show SteadyRun { run' with transactions := run'.transactions.set stepId q } w₂ from hset)
    split
    · exact setCreated_keeps _ _
    · exact .pure _
  · rintro _ run' w₂ ⟨rfl, h₂⟩
    exact h₂

/-! ## 3. Waiting for a transaction -/

theorem Resolved.chain (hq : Resolved run s r q w) (hr : run.transactions.get? s = some r)
    (hs : r.state = .SUBMITTED) (hc : ChainMoves run.transactions w w') :
    Resolved run s r q w' where
  same := hq.same
  sent := hq.sent
  reverted hrev := reverted_chain hc (hq.reverted hrev)
  absent habs := by
    have hunk := (hq.absent habs).1 r hr
    rw [hs] at hunk
    cases hunk

/-- What the loops that wait for a transaction end with. -/
abbrev Waited (run : DeploymentRun) (s : String) (r : TransactionRecord)
    (p : Script DeploymentRun Effect Reply DeployError TransactionRecord) (w : World) : Prop :=
  p.Safe resendRules (fun q run' w' => run' = run ∧ SteadyRun run w' ∧ Resolved run s r q w')
    (fun _ run' w' => run' = run ∧ SteadyRun run w') w

section Waiting

variable {run : DeploymentRun} {s : String} {r : TransactionRecord}
  (hr : run.transactions.get? s = some r) (hs : r.state = .SUBMITTED)

include hr hs

theorem reconcile_waited {q : TransactionRecord} {w : World} (now : Nat) (h : SteadyRun run w)
    (hq : q.Same r) : Waited run s r (reconcile q r.chainId now run) w := by
  rw [← hq.chainId]
  exact reconcile_resolves now h hr (Or.inl hs) hq

theorem pollForReceipt_waited (opts : Waiting) (deadline polls : Nat) {q : TransactionRecord}
    {w : World} (h : SteadyRun run w) (hq : q.Same r) :
    Waited run s r (pollForReceipt r.chainId opts deadline polls q run) w := by
  induction polls generalizing q w with
  | zero => exact wait_steady (by trivial) h fun _ reply _ _ _ => nomatch reply
  | succ polls ih =>
    refine wait_steady (by trivial) h fun w₁ now h₁ _ _ => ?_
    change Waited run s r ((reconcile q r.chainId now run).bind _) w₁
    refine Script.Safe.bind ?_
    refine (reconcile_waited hr hs now h₁ hq).mono ?_ fun _ _ _ h => h
    rintro current run' w₂ ⟨rfl, h₂, hres⟩
    split
    · exact ⟨rfl, h₂, hres⟩
    refine wait_quiet (A := fun w => SteadyRun run' w ∧ Resolved run' s r current w) (by trivial)
      (fun w w' h hc => ⟨Steady.chain h.1 hc, h.2.chain hr hs hc⟩) (fun w h => h.1) ⟨h₂, hres⟩ ?_
    rintro w₃ now' ⟨h₃, hres₃⟩ _ _
    show Waited _ s r ((if deadline ≤ now' then _ else _ : Orchestrated TransactionRecord) _) w₃
    split
    · exact ⟨rfl, h₃, hres₃⟩
    · exact wait_steady (by trivial) h₃ fun w₄ _ h₄ _ _ => ih h₄ hres₃.same

theorem pollForFinality_waited (confirmations : Nat) (opts : Waiting) (deadline polls : Nat)
    {q : TransactionRecord} {w : World} (h : SteadyRun run w) (hq : Resolved run s r q w) :
    Waited run s r (pollForFinality r.chainId confirmations opts deadline polls q run) w := by
  induction polls generalizing q w with
  | zero => exact wait_steady (by trivial) h fun _ reply _ _ _ => nomatch reply
  | succ polls ih =>
    unfold pollForFinality
    split
    · refine wait_quiet (A := fun w => SteadyRun run w ∧ Resolved run s r q w) (by trivial)
        (fun w w' h hc => ⟨Steady.chain h.1 hc, h.2.chain hr hs hc⟩) (fun w h => h.1) ⟨h, hq⟩ ?_
      rintro w₁ now ⟨h₁, hq₁⟩ _ _
      show Waited _ s r ((if now < deadline then _ else _ : Orchestrated TransactionRecord) _) w₁
      split
      · refine wait_steady (by trivial) h₁ fun w₂ _ h₂ _ _ => ?_
        refine wait_steady (by trivial) h₂ fun w₃ now' h₃ _ _ => ?_
        change Waited run s r ((reconcile q r.chainId now' run).bind _) w₃
        refine Script.Safe.bind ?_
        refine (reconcile_waited hr hs now' h₃ hq₁.same).mono ?_ fun _ _ _ h => h
        rintro current _ w₄ ⟨rfl, h₄, hres⟩
        exact ih h₄ hres
      · exact ⟨rfl, h₁, hq₁⟩
    · exact ⟨rfl, h, hq⟩

theorem waitForFinality_waited (confirmations : Nat) (opts : Waiting) (polls : Nat) {w : World}
    (h : SteadyRun run w) :
    Waited run s r (waitForFinality r r.chainId confirmations opts polls run) w := by
  refine wait_steady (by trivial) h fun w₁ now h₁ _ _ => ?_
  refine wait_steady (by trivial) h₁ fun w₂ now' h₂ _ _ => ?_
  change Waited run s r ((pollForReceipt r.chainId opts (now' + opts.timeoutMs) polls r run).bind _)
    w₂
  refine Script.Safe.bind ?_
  refine (pollForReceipt_waited hr hs opts _ polls h₂ ⟨rfl, rfl, rfl, rfl, rfl⟩).mono ?_
    fun _ _ _ h => h
  rintro current _ w₃ ⟨rfl, h₃, hres⟩
  exact pollForFinality_waited hr hs confirmations opts _ polls h₃ hres

end Waiting

theorem settleWrite_tracks (deps : Deps) (polls : Nat) (step : DeploymentStep)
    (manifest : DeploymentManifest) {run : DeploymentRun} {r : TransactionRecord} {w : World}
    (h : SteadyRun run w) (hr : run.transactions.get? step.id = some r)
    (hs : r.state = .SUBMITTED) :
    Tracks (settleWrite deps polls step manifest r.chainId r run) w := by
  refine Script.Safe.bind ?_
  refine (waitForFinality_waited hr hs _ _ polls h).mono ?_ ?_
  · rintro q run' w₁ ⟨rfl, h₁, hq⟩
    have hset : Steady (run'.transactions.set step.id q) w₁ := hq.setRecord h₁ hr (Or.inl hs)
    exact Silent.tracks (afterSettled_keeps (commitments_status _) trivial q)
      (show SteadyRun { run' with transactions := run'.transactions.set step.id q } w₁ from hset)
  · rintro _ run' w₁ ⟨rfl, h₁⟩
    exact h₁

/-! ## 4. Sending -/

/-- While the wallet is asked, and until the answer is recorded: the record to be written
    anchors every transaction of the step. -/
structure Sending (run : DeploymentRun) (s : String) (r : TransactionRecord) (w : World) :
    Prop where
  tracking : Tracking run.transactions w
  flight : w.inFlight = none ∨ w.inFlight = some s
  anchored : ∀ a ∈ w.ledger.attemptsOf s, r.Anchors a

theorem Sending.chain (h : Sending run s r w) (hc : ChainMoves run.transactions w w') :
    Sending run s r w' := by
  obtain ⟨l, hl, hs, _, rfl⟩ := hc
  refine ⟨h.tracking.chain hl hs, h.flight, fun a ha => ?_⟩
  obtain ⟨b, hb, hcore⟩ := exists_core hl ha
  exact anchors_of_core hcore (h.anchored b hb)

theorem dead_of_off (h : Tracking run.transactions w) (hw : w.inFlight = none)
    (hoff : ∀ r ∈ run.transactions.get? s, r.writtenOff) :
    ∀ a ∈ w.ledger.attemptsOf s, a.fate.dead := by
  intro a ha
  refine h.settled s a ?_
  rw [superseded_eq (by simp [hw]) hoff]
  exact ha

section Sends

variable {run : DeploymentRun} {step : DeploymentStep} {r : TransactionRecord}
  (hkey : r.deploymentStepId = step.id) (hoff : ∀ q ∈ run.transactions.get? step.id, q.writtenOff)

include hkey hoff

theorem sendFailed_tracks (signerId : String) (e : DeployError) {w : World}
    (h : Sending run step.id r w)
    (he : if readsAsRejection e then w.inFlight = none else r.hash = none) :
    Tracks (sendFailed step signerId r e run) w := by
  -- the assertion kept while the clock is read
  have hwait : ∀ w, Sending run step.id r w ∧
      (if readsAsRejection e then w.inFlight = none else r.hash = none) →
      ∀ now, Steady (run.transactions.set step.id
        (recordSendOutcome r (.error e) (readsAsRejection e) now)) (w.after .nowMs) := by
    rintro w ⟨h, he⟩ now
    refine ⟨rfl, ?_⟩
    unfold recordSendOutcome
    by_cases hrej : readsAsRejection e
    · simp only [hrej, if_true] at he ⊢
      refine h.tracking.setRecord (Or.inl he) hkey (fun _ => dead_of_off h.tracking he hoff)
        h.anchored ?_
      rintro (hs | hs) <;> cases hs
    · simp only [hrej, if_false, Bool.false_eq_true] at he ⊢
      refine h.tracking.setRecord h.flight hkey ?_ h.anchored ?_
      · rintro (hs | hs | hs) <;> cases hs
      · intro _ x hx
        have hnone : r.hash = some x := hx
        rw [he] at hnone
        cases hnone
  refine wait_tracking (A := fun w => Sending run step.id r w ∧
      (if readsAsRejection e then w.inFlight = none else r.hash = none)) (by trivial) ?_
    (fun w h => h.1.tracking) ⟨h, he⟩ fun w₁ now h₁ _ _ => ?_
  · rintro w₁ w₂ ⟨h₁, he₁⟩ hc
    refine ⟨h₁.chain hc, ?_⟩
    obtain ⟨l, _, _, _, rfl⟩ := hc
    exact he₁
  · exact Silent.tracks (sendStopped_keeps (commitments_status _) _ _)
      (show SteadyRun { run with transactions := _ } _ from hwait w₁ h₁ now)

omit hoff in
theorem sent_tracks (deps : Deps) (polls : Nat) (manifest : DeploymentManifest) (hash : String)
    {w : World} (h : Sending run step.id r w)
    (hhash : ∀ a ∈ (w.ledger.attemptsOf step.id).head?, a.hash = toLowerCase hash) :
    Tracks ((do
      let sent := recordSendOutcome r (.ok hash) false (← nowMs)
      setRecord step.id sent
      settleWrite deps polls step manifest r.chainId sent : Orchestrated Unit) run) w := by
  refine wait_tracking (A := fun w => Sending run step.id r w ∧
      ∀ a ∈ (w.ledger.attemptsOf step.id).head?, a.hash = toLowerCase hash) (by trivial) ?_
    (fun w h => h.1.tracking) ⟨h, hhash⟩ ?_
  · rintro w₁ w₂ ⟨h₁, hh₁⟩ hc
    refine ⟨h₁.chain hc, ?_⟩
    obtain ⟨l, hl, _, _, rfl⟩ := hc
    intro a ha
    obtain ⟨b, hb, hcore⟩ := exists_core_head hl ha
    have heq : b.hash = a.hash := (congrArg Attempt.hash hcore :)
    exact heq ▸ hh₁ b hb
  · rintro w₁ now ⟨h₁, hh₁⟩ _ _
    have hset : Steady (run.transactions.set step.id (recordSendOutcome r (.ok hash) false now))
        (w₁.after .nowMs) := by
      refine ⟨rfl, h₁.tracking.setRecord h₁.flight hkey ?_ h₁.anchored ?_⟩
      · rintro (hs | hs | hs) <;> cases hs
      · intro _ x hx a ha
        rw [hh₁ a ha]
        exact Option.some.inj (eq_of_truthy hx)
    exact settleWrite_tracks deps polls step manifest
      (r := recordSendOutcome r (.ok hash) false now)
      (show SteadyRun { run with transactions := _ } _ from hset) (Map.get?_set_self _ _ _) rfl

/-- **The request to the wallet.** -/
theorem send_tracks (deps : Deps) (polls : Nat) (manifest : DeploymentManifest) (signerId : String)
    {req : SendRequest} {w : World} (h : SteadyRun run w)
    (hanchor : ∀ a ∈ w.ledger.attemptsOf step.id, r.Anchors a)
    (hreq : r.nonce ≤ req.nonce ∧ req.chainId = r.chainId ∧ req.sender = r.sender)
    (hfresh : (∀ q ∈ run.transactions.get? step.id, q.hash = none) → r.hash = none) :
    Tracks ((do
      match ← Act.attempt (sendTransaction step req) with
      | .error e => sendFailed step signerId r e
      | .ok hash => do
        let sent := recordSendOutcome r (.ok hash) false (← nowMs)
        setRecord step.id sent
        settleWrite deps polls step manifest r.chainId sent : Orchestrated Unit) run) w := by
  refine Script.Safe.wait (A := Sending run step.id r) ?_ ?_ ⟨h.2, Or.inl h.1, hanchor⟩ ?_
  · rintro w₁ w₂ h₁ (hc | ⟨step', req', hash, he, hnone, rfl⟩)
    · exact h₁.chain hc
    · obtain ⟨rfl, rfl⟩ : step = step' ∧ req = req' := by
        injection he with h₁ h₂
        exact ⟨h₁, h₂⟩
      refine ⟨h₁.tracking.broadcast hnone (dead_of_off h₁.tracking hnone hoff), Or.inr rfl, ?_⟩
      intro a ha
      rw [attemptsOf_broadcast, if_pos rfl] at ha
      obtain rfl | hin := List.mem_cons.mp ha
      · exact hreq
      · exact h₁.anchored a hin
  · intro w₁ h₁
    refine ⟨h₁.tracking, ?_⟩
    rintro step' req' he hnone
    obtain rfl : step = step' := by
      injection he
    exact ⟨dead_of_off h₁.tracking hnone hoff, hoff⟩
  · rintro w₁ reply w₂ h₁ ⟨hadm, hmeets, he⟩
    obtain rfl : w₁ = w₂ := he.symm
    cases reply with
    | error e =>
      refine sendFailed_tracks hkey hoff signerId e h₁ ?_
      have hmeets' : if readsAsRejection e then w₁.inFlight = none
          else ∀ q ∈ run.transactions.get? step.id, q.hash = none := hmeets
      by_cases hrej : readsAsRejection e
      · simp only [hrej, if_true] at hmeets' ⊢
        exact hmeets'
      · simp only [hrej, if_false, Bool.false_eq_true] at hmeets' ⊢
        exact hfresh hmeets'
    | ok hash =>
      have hhead : (w₁.ledger.attemptsOf step.id).head?.map (·.hash) = some (toLowerCase hash) :=
        hadm.2
      refine sent_tracks hkey deps polls manifest hash h₁ fun a ha => ?_
      rw [Option.mem_def.mp ha] at hhead
      exact Option.some.inj hhead

end Sends

theorem off_of_retry (hsafe : q.state ≠ .UNKNOWN_SUBMISSION_STATE ∧
    q.state ≠ .MINED_SUCCESS) (hsub : q.state ≠ .SUBMITTED) : q.writtenOff := by
  unfold TransactionRecord.writtenOff
  cases hs : q.state <;> simp_all

theorem executeWrite_tracks (deps : Deps) (polls : Nat) (step : DeploymentStep)
    (manifest : DeploymentManifest) {run : DeploymentRun} {w : World} (h : SteadyRun run w)
    (hsafe : ∀ q ∈ run.transactions.get? step.id,
      q.state ≠ .UNKNOWN_SUBMISSION_STATE ∧ q.state ≠ .MINED_SUCCESS) :
    Tracks (executeWrite deps polls step manifest run) w := by
  unfold executeWrite
  cases htarget : writeTarget deps step manifest with
  | error e => exact h
  | ok target =>
  obtain ⟨chainId, signerId, sender⟩ := target
  refine wait_steady (by trivial) h fun w₁ reply h₁ _ hmeets => ?_
  cases reply with
  | error e => exact h₁
  | ok nonce =>
  -- a record from an earlier attempt is written off, and of this account and chain
  have hold : ∀ q ∈ run.transactions.get? step.id, q.writtenOff ∧ q.nonce ≤ nonce ∧
      chainId = q.chainId ∧ sender = q.sender := by
    intro q hq
    have hcond := hmeets q hq
    rw [if_neg (hsafe q hq).1] at hcond
    obtain ⟨hsub, hc, hs, hn⟩ := hcond
    exact ⟨off_of_retry (hsafe q hq) hsub, hn, hc.symm, hs.symm⟩
  let record := (run.transactions.get? step.id).getD
    (newTransactionRecord step.id chainId sender nonce (step.cost.map (·.totalNativeWei)))
  have hrecord : record.deploymentStepId = step.id ∧ record.nonce ≤ nonce ∧
      chainId = record.chainId ∧ sender = record.sender ∧
      ((∀ q ∈ run.transactions.get? step.id, q.hash = none) → record.hash = none) ∧
      ∀ w, SteadyRun run w → ∀ a ∈ w.ledger.attemptsOf step.id, record.Anchors a := by
    cases hget : run.transactions.get? step.id with
    | none =>
      have hr : record = newTransactionRecord step.id chainId sender nonce
          (step.cost.map (·.totalNativeWei)) := by simp only [record, hget, Option.getD_none]
      rw [hr]
      refine ⟨rfl, le_refl _, rfl, rfl, fun _ => rfl, fun w hw a ha => ?_⟩
      rw [hw.2.recorded step.id (by simp [hw.1]) hget] at ha
      cases ha
    | some q =>
      have hr : record = q := by simp only [record, hget, Option.getD_some]
      obtain ⟨_, hn, hc, hs⟩ := hold q hget
      rw [hr]
      exact ⟨h.2.keyed step.id q hget, hn, hc, hs, fun hq => hq q rfl,
        fun w hw => hw.2.anchored step.id q (by simp [hw.1]) hget⟩
  obtain ⟨hkey, hn, hchain, hsender, hfresh, hanchor⟩ := hrecord
  change Tracks ((resolveCalldata step manifest >>= _ : Orchestrated Unit) run) w₁
  refine wait_steady (by trivial) h₁ fun w₂ reply h₂ _ _ => ?_
  cases reply with
  | error e => exact h₂
  | ok prepared =>
  change Tracks ((Act.lift (checkPrepared step prepared) >>= _ : Orchestrated Unit) run) w₂
  cases hcheck : checkPrepared step prepared with
  | error e => exact h₂
  | ok u =>
  have hreq : record.nonce ≤ (sendRequest step prepared chainId sender nonce).nonce ∧
      (sendRequest step prepared chainId sender nonce).chainId = record.chainId ∧
      (sendRequest step prepared chainId sender nonce).sender = record.sender :=
    ⟨hn, hchain, hsender⟩
  let submitted : DeploymentRun := { run with plan := run.plan.withStatus step.id .SUBMITTED }
  have hoff : ∀ q ∈ submitted.transactions.get? step.id, q.writtenOff := fun q hq => (hold q hq).1
  have hsend := send_tracks hkey hoff deps polls manifest signerId h₂ (hanchor w₂ h₂) hreq hfresh
  rw [← hchain] at hsend
  exact hsend

/-! ## 5. Runs -/

theorem executeStep_tracks (deps : Deps) (polls : Nat) (step : DeploymentStep)
    (manifest : DeploymentManifest) {run : DeploymentRun} {w : World} (h : SteadyRun run w) :
    Tracks (executeStep deps polls step manifest run) w := by
  by_cases hact : step.type = .ACTIVATE
  · unfold executeStep
    rw [if_pos hact]
    exact h
  rw [executeStep_eq hact]
  refine tracks_bind (.lift _) h fun phase run₁ w₁ _ h₁ => ?_
  refine tracks_bind (moveTo_keeps_of_free (fun _ _ => rfl) _) h₁ fun _ run₂ w₂ _ h₂ => ?_
  by_cases hw : writes step.type
  · cases hget : run₂.transactions.get? step.id with
    | none =>
      rw [executeRecorded_of_none hget, handler_write hw]
      exact executeWrite_tracks deps polls step manifest h₂ fun q hq => by simp [hget] at hq
    | some existing =>
      rw [executeRecorded_of_some hget, handler_write hw]
      cases hretry : assertSafeToRetry existing with
      | error e => exact h₂
      | ok u =>
        refine executeWrite_tracks deps polls step manifest h₂ fun q hq => ?_
        obtain rfl : existing = q := Option.some.inj (hget.symm.trans hq)
        exact assertSafeToRetry_ok.mp hretry
  · have hquiet : Silent DeploymentRun.commitments (fun _ _ => True)
        (handler deps polls step manifest) := handler_keeps (commitments_status _) hw trivial
    cases hget : run₂.transactions.get? step.id with
    | none =>
      rw [executeRecorded_of_none hget]
      exact hquiet.tracks h₂
    | some existing =>
      rw [executeRecorded_of_some hget]
      exact Silent.tracks (.bind (.lift _) fun _ => hquiet) h₂

theorem runSteps_tracks (deps : Deps) (polls : Nat) (manifest : DeploymentManifest)
    (maxSteps : Nat) {run : DeploymentRun} {w : World} (h : SteadyRun run w) :
    Tracks (runSteps deps polls manifest maxSteps run) w := by
  induction maxSteps generalizing run w with
  | zero => exact h
  | succ n ih =>
    cases hn : nextStep run with
    | none =>
      rw [runSteps_of_none hn]
      exact h
    | some step =>
      rw [runSteps_of_some hn]
      exact Script.Safe.bind ((executeStep_tracks deps polls step manifest h).mono
        (fun _ _ _ h' => ih h') fun _ _ _ h' => h')

theorem resumeApproved_tracks (deps : Deps) (manifest : DeploymentManifest) {run : DeploymentRun}
    {w : World} (h : SteadyRun run w) : Tracks (resumeApproved deps manifest run) w := by
  change Tracks ((run.transactions.keys.forM (reconcileUnknown deps) >>= _ :
    Orchestrated Unit) run) w
  refine Script.Safe.bind (Script.Safe.mono (Script.Safe.forM (I := SteadyRun)
    (fun s _ run w h => reconcileUnknown_tracks deps s h) h) ?_ fun _ _ _ h' => h')
  intro _ run' w' h'
  exact Script.Safe.forM (I := SteadyRun)
    (fun step _ run w h =>
      Silent.tracks (observeStep_keeps (commitments_status _) trivial) h) h'

/-- **A call of the orchestrator.** -/
theorem runToCompletion_tracks (deps : Deps) (polls : Nat) (manifest : DeploymentManifest)
    (maxSteps : Nat) {run : DeploymentRun} {w : World} (h : SteadyRun run w) :
    Tracks (runToCompletion deps polls manifest maxSteps run) w := by
  by_cases ha : run.state ∈ RESUMABLE_STATES ∧ assertApprovedFor run.plan manifest = .ok ()
  · rw [runToCompletion_of_approved ha.1 ha.2]
    refine Script.Safe.bind ((resumeApproved_tracks deps manifest h).mono ?_ fun _ _ _ h' => h')
    intro _ run₁ w₁ h₁
    refine Script.Safe.bind ((runSteps_tracks deps polls manifest maxSteps h₁).mono ?_
      fun _ _ _ h' => h')
    intro _ run₂ w₂ h₂
    exact Silent.tracks (finish_keeps fun _ _ => rfl) h₂
  · obtain ⟨e, he⟩ := runToCompletion_of_refused deps polls maxSteps (not_and_or.mp ha)
    rw [he]
    exact h

/-- What holds of a deployment whose moves meet the conditions. -/
def Tracked (d : Deployment) : Prop := Tracks d.process d.world

theorem tracked_start (deploymentId : String) (plan : DeploymentPlan)
    (count : Nat → String → Nat) : Tracked (start (newRun deploymentId plan) count) := by
  refine ⟨rfl, ?_, ?_, fun _ _ _ => rfl, ?_, ?_⟩
  · intro s r hr
    cases hr
  · intro s a ha
    cases mem_superseded ha
  · intro s r _ hr
    cases hr
  · intro s r x _ hr
    cases hr

theorem Tracked.steady (h : Tracked d) (he : d.process.ended = true) :
    SteadyRun d.process.state d.world := by
  obtain ⟨p, w⟩ := d
  cases p with
  | ok a s => exact h
  | threw e s => exact h
  | call s e k => cases he

theorem Tracked.tracking (h : Tracked d) :
    Tracking d.process.state.transactions d.world := by
  obtain ⟨p, w⟩ := d
  cases p with
  | ok a s => exact h.2
  | threw e s => exact h.2
  | call s e k => exact (Script.Safe.holds h).1

theorem Tracked.chain (h : Tracked d) (hc : ChainMoves d.process.state.transactions d.world w') :
    Tracked { d with world := w' } := by
  obtain ⟨p, w⟩ := d
  cases p with
  | ok a s => exact Steady.chain h hc
  | threw e s => exact Steady.chain h hc
  | call s e k => exact Script.Safe.drift h (Or.inl hc)

theorem Tracked.reload (h : Tracked d) (hg : Guarded d (.reload run)) :
    Tracked ⟨.ok () run, { d.world with inFlight := none }⟩ := by
  obtain ⟨hflight, hsame, hkeys⟩ := hg
  have ht := h.tracking
  have hworld : ({ d.world with inFlight := none } : World) = d.world := by
    rw [← hflight]
  rw [hworld]
  -- a step with a transaction has the record it had, and the others have nothing to track
  have hget : ∀ s, d.world.ledger.attemptsOf s ≠ [] →
      run.transactions.get? s = d.process.state.transactions.get? s := by
    intro s hs
    refine hsame s ?_
    by_contra hnot
    exact hs (attemptsOf_eq_nil hnot)
  refine ⟨hflight, ?_, ?_, ?_, ?_, ?_⟩
  · intro s r hr
    obtain ⟨e, he, rfl, rfl⟩ := Map.mem_of_get? run.transactions hr
    exact hkeys e he
  · intro s a ha
    have hne : d.world.ledger.attemptsOf s ≠ [] := List.ne_nil_of_mem (mem_superseded ha)
    have hsup : superseded run.transactions d.world s =
        superseded d.process.state.transactions d.world s := by
      unfold superseded
      rw [hget s hne]
    exact ht.settled s a (hsup ▸ ha)
  · intro s hf hr
    by_contra hne
    exact hne (ht.recorded s hf (hget s hne ▸ hr))
  · intro s r hf hr a ha
    exact ht.anchored s r hf (hget s (List.ne_nil_of_mem ha) ▸ hr) a ha
  · intro s r x hf hr hw hx a ha
    have hmem : a ∈ d.world.ledger.attemptsOf s := List.mem_of_mem_head? ha
    exact ht.hashed s r x hf (hget s (List.ne_nil_of_mem hmem) ▸ hr) hw hx a ha

/-- **One move.** -/
theorem tracked_step {d' : Deployment} {a : Move} (h : Tracked d)
    (hs : guarded step Guarded d a = some d') : Tracked d' := by
  obtain ⟨hg, hs⟩ := guarded_eq_some.mp hs
  cases a with
  | begin deps polls manifest maxSteps =>
    simp only [step] at hs
    split at hs
    · rename_i he
      obtain rfl := Option.some.inj hs
      exact runToCompletion_tracks deps polls manifest maxSteps (h.steady he)
    · cases hs
  | answer reply =>
    obtain ⟨s, e, k, r, hp, hr, hadm, rfl⟩ := answered_eq_some hs
    obtain ⟨p, w⟩ := d
    obtain rfl : p = .call s e k := hp
    exact Script.Safe.answered h ⟨hadm, hg r hr, rfl⟩
  | broadcast hash =>
    obtain ⟨w', hw', rfl⟩ := Option.map_eq_some_iff.mp hs
    obtain ⟨s, step, req, k, hp, hnone, _, rfl⟩ := broadcasts_eq_some hw'
    obtain ⟨p, w⟩ := d
    obtain rfl : p = .call s (.sendTransaction step req) k := hp
    exact Script.Safe.drift h (Or.inr ⟨step, req, hash, rfl, hnone, rfl⟩)
  | chain ledger =>
    simp only [step] at hs
    split at hs
    · rename_i hm
      obtain rfl := Option.some.inj hs
      exact h.chain ⟨ledger, hm, hg.1, hg.2, rfl⟩
    · cases hs
  | reload run =>
    obtain rfl := Option.some.inj hs
    exact h.reload hg

/-! ## 6. Sending again -/

/-- **A step is sent again only when nothing it sent took effect**, and at most one of its
    transactions ever does. -/
theorem resend_only_without_effect {deploymentId : String} {plan : DeploymentPlan}
    {count : Nat → String → Nat} {d : Deployment}
    (h : Reaches (guarded step Guarded) (start (newRun deploymentId plan) count) d)
    (stepId : String) :
    (d.world.ledger.successes stepId).length ≤ 1 ∧
      (Requests d stepId → Cleared d.process.state.transactions d.world stepId) := by
  have ht : Tracked d := h.invariant (fun _ _ _ => tracked_step) (tracked_start _ _ _)
  refine ⟨ht.tracking.successes_le stepId, ?_⟩
  intro hreq
  obtain ⟨run, step, req, k, hp, rfl⟩ := hreq.process
  have hnone := hreq.1
  obtain ⟨p, w⟩ := d
  obtain rfl : p = .call run (.sendTransaction step req) k := hp
  exact (Script.Safe.holds ht).2 step req rfl hnone

def consumerSent (nonce : Nat) (hash : String) (fate : Fate) : Attempt :=
  ⟨"deploy-consumer", 11155111, deployerAddress, nonce, hash, fate⟩

def minedOnce : Ledger where
  attempts := [consumerSent 5 "0xaa" .succeeded]
  count := fun _ _ => 6
  mined_lt := by decide

/-- The user refuses the first request; the second is broadcast, mined and observed. -/
def refusedThenSent : List Move :=
  beginConsumer :: Answers.times { count := 5 } 7 ++ beginConsumer ::
    Answers.times { count := 5 } 4 ++ .broadcast "0xaa" :: Answers.times { sent := .ok "0xaa" } 5 ++
    .chain minedOnce ::
    Answers.times { receipt := .ok (some ⟨.success, 7, 21000, 1, none⟩), seen := true } 7

theorem resend_only_without_effect_refused :
    ∃ d, execute (guarded step Guarded) (consumerStart [consumerStep]) refusedThenSent = some d ∧
      (d.world.ledger.successes "deploy-consumer").length = 1 ∧
      ∀ s, (d.world.ledger.successes s).length ≤ 1 ∧
        (Requests d s → Cleared d.process.state.transactions d.world s) := by
  have hrun : ((execute (guarded stepApproved Guarded) (consumerStart [consumerStep])
      refusedThenSent).map fun d => (d.world.ledger.successes "deploy-consumer").length) =
      some 1 := by decide
  obtain ⟨d, hd, hlen⟩ := Option.map_eq_some_iff.mp hrun
  have hmoves : ∀ a ∈ refusedThenSent, a.approvedFor (planOf [consumerStep]).terms := by
    simp [refusedThenSent, beginConsumer, Answers.times, Move.approvedFor, planOf_approved,
      assertApprovedFor_terms]
  have hstep := execute_approved (fun _ _ _ h => h) (keptTerms_consumerStart _) hmoves hd
  exact ⟨d, hstep, hlen, fun s => resend_only_without_effect (reaches_of_execute hstep) s⟩

def minedTwice : Ledger where
  attempts := [consumerSent 6 "0xbb" .succeeded, consumerSent 5 "0xaa" .succeeded]
  count := fun _ _ => 7
  mined_lt := by decide

/-- A transaction is broadcast and recorded `SUBMITTED`, its receipt cannot be read, and the
    next call of `runToCompletion` sends again. -/
def sentTwice : List Move :=
  beginConsumer :: Answers.times { count := 5 } 4 ++ .broadcast "0xaa" ::
    Answers.times { sent := .ok "0xAA" } 6 ++ .chain minedOnce :: beginConsumer ::
    Answers.times { count := 6 } 3 ++ [.broadcast "0xbb", .chain minedTwice]

/-- **A step sent again after its transaction succeeded.** -/
theorem sent_again_after_success :
    ∃ d, execute step (consumerStart [consumerStep]) sentTwice = some d ∧
      (d.world.ledger.successes "deploy-consumer").length = 2 := by
  have hrun : ((execute (guarded stepApproved fun _ _ => True) (consumerStart [consumerStep])
      sentTwice).map fun d => (d.world.ledger.successes "deploy-consumer").length) =
      some 2 := by decide
  obtain ⟨d, hd, hlen⟩ := Option.map_eq_some_iff.mp hrun
  have hmoves : ∀ a ∈ sentTwice, a.approvedFor (planOf [consumerStep]).terms := by
    simp [sentTwice, beginConsumer, Answers.times, Move.approvedFor, planOf_approved,
      assertApprovedFor_terms]
  have hstep := execute_approved (fun _ _ _ h => h) (keptTerms_consumerStart _) hmoves hd
  exact ⟨d, hstep, hlen⟩

end ContextLock.Orchestrator
