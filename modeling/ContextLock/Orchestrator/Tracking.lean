/-
  Subject:   Records and broadcast transactions: the conditions on a run, and what they keep.

  The retry check lets a record pass that is `SUBMITTED`, and resuming reconciles only records
  of unknown fate; what the run has not recorded it cannot reconcile. The conditions under which
  nothing is sent twice are gathered in `Guarded`, about the moves of a run.
-/
import ContextLock.Orchestrator.Frames
import ContextLock.Orchestrator.System

namespace ContextLock.Orchestrator

open Js Deploy Machine

/-! ## 1. The conditions -/

def TransactionRecord.writtenOff (r : TransactionRecord) : Prop :=
  r.state = .NOT_SUBMITTED ∨ r.state = .CONFIRMED_ABSENT ∨ r.state = .MINED_REVERTED

instance (r : TransactionRecord) : Decidable r.writtenOff := inferInstanceAs (Decidable (_ ∨ _))

/-- The transactions of a step that the run takes to be without effect: all of them where the
    record says so, else all but the last. -/
def superseded (records : Map TransactionRecord) (w : World) (stepId : String) : List Attempt :=
  if w.inFlight ≠ some stepId ∧ ∀ r ∈ records.get? stepId, r.writtenOff then
    w.ledger.attemptsOf stepId
  else (w.ledger.attemptsOf stepId).tail

/-- Every transaction the run has written off is without effect. -/
def Settled (records : Map TransactionRecord) (w : World) : Prop :=
  ∀ s ∈ w.ledger.attempts.map (·.stepId), ∀ a ∈ superseded records w s, a.fate.dead

instance (records : Map TransactionRecord) (w : World) : Decidable (Settled records w) :=
  inferInstanceAs (Decidable (∀ s ∈ w.ledger.attempts.map (·.stepId),
    ∀ a ∈ superseded records w s, a.fate.dead))

def keepsReverted (l l' : Ledger) : Prop :=
  ∀ p ∈ l.attempts.zip l'.attempts, p.1.fate = .reverted → p.2.fate = .reverted

instance (l l' : Ledger) : Decidable (keepsReverted l l') :=
  inferInstanceAs (Decidable (∀ p ∈ l.attempts.zip l'.attempts,
    p.1.fate = .reverted → p.2.fate = .reverted))

/-- A record from an earlier attempt is of the account and chain used now, and of no later
    nonce; one still `SUBMITTED` is not executed on; a nonce reads as unused only when no
    transaction of the step is in the mempool. A wallet error reads as a refusal only when
    nothing was broadcast, and is of another kind only when the record has no hash yet. -/
def answerMeets (run : DeploymentRun) (w : World) : (e : Effect) → Reply e → Prop
  | .getTransactionCount chainId address stepId, .ok n =>
    ∀ r ∈ run.transactions.get? stepId,
      if r.state = .UNKNOWN_SUBMISSION_STATE then
        n ≤ r.nonce → ∀ a ∈ w.ledger.attemptsOf stepId, a.fate ≠ .pending
      else r.state ≠ .SUBMITTED ∧ r.chainId = chainId ∧ r.sender = address ∧ r.nonce ≤ n
  | .sendTransaction step _, .error e =>
    if readsAsRejection e then w.inFlight = none
    else ∀ r ∈ run.transactions.get? step.id, r.hash = none
  | _, _ => True

instance (run : DeploymentRun) (w : World) :
    (e : Effect) → (r : Reply e) → Decidable (answerMeets run w e r)
  | .getTransactionCount chainId address stepId, .ok n =>
    inferInstanceAs (Decidable (∀ r ∈ run.transactions.get? stepId,
      if r.state = .UNKNOWN_SUBMISSION_STATE then
        n ≤ r.nonce → ∀ a ∈ w.ledger.attemptsOf stepId, a.fate ≠ .pending
      else r.state ≠ .SUBMITTED ∧ r.chainId = chainId ∧ r.sender = address ∧ r.nonce ≤ n))
  | .sendTransaction step _, .error e =>
    inferInstanceAs (Decidable (if readsAsRejection e then w.inFlight = none
      else ∀ r ∈ run.transactions.get? step.id, r.hash = none))
  | .getTransactionCount _ _ _, .error _ | .sendTransaction _ _, .ok _ => instDecidableTrue
  | .nowMs, _ | .sleep _, _ | .waiting, _ | .getTransactionReceipt _ _, _
  | .getBlockNumber _, _ | .resolveCalldata _ _, _ | .observe _ _ _, _ | .creCurrentArtifact, _
  | .creDeploy _ _ _ _, _ | .creLifecycle _ _, _ | .creAuthValid, _ | .imageBuild _, _
  | .imageScan _, _ | .imagePublish _, _ | .imageCreateDisabled _ _, _ => instDecidableTrue

/-- The chain gives no effect back to a transaction written off or reverted. A process is lost
    only with every broadcast recorded, and the run loaded has the record of every step a
    transaction was broadcast for. -/
def Guarded (d : Deployment) : Move → Prop
  | .answer reply =>
    match d.process with
    | .call run e _ => ∀ r ∈ reply e, answerMeets run d.world e r
    | _ => True
  | .chain ledger =>
    Settled d.process.state.transactions { d.world with ledger := ledger } ∧
      keepsReverted d.world.ledger ledger
  | .reload run =>
    d.world.inFlight = none ∧
      (∀ s ∈ d.world.ledger.attempts.map (·.stepId),
        run.transactions.get? s = d.process.state.transactions.get? s) ∧
      ∀ e ∈ run.transactions.entries, e.2.deploymentStepId = e.1
  | _ => True

instance : (d : Deployment) → (a : Move) → Decidable (Guarded d a)
  | ⟨.call run e _, w⟩, .answer reply =>
    inferInstanceAs (Decidable (∀ r ∈ reply e, answerMeets run w e r))
  | ⟨.ok _ _, _⟩, .answer _ | ⟨.threw _ _, _⟩, .answer _ => instDecidableTrue
  | d, .chain ledger =>
    inferInstanceAs (Decidable (Settled d.process.state.transactions
      { d.world with ledger := ledger } ∧ keepsReverted d.world.ledger ledger))
  | d, .reload run =>
    inferInstanceAs (Decidable (d.world.inFlight = none ∧
      (∀ s ∈ d.world.ledger.attempts.map (·.stepId),
        run.transactions.get? s = d.process.state.transactions.get? s) ∧
      ∀ e ∈ run.transactions.entries, e.2.deploymentStepId = e.1))
  | _, .begin _ _ _ _ | _, .broadcast _ => instDecidableTrue

/-! ## 2. Records and transactions -/

/-- The transaction is of the record's account and chain, and of no earlier nonce. -/
def TransactionRecord.Anchors (r : TransactionRecord) (a : Attempt) : Prop :=
  r.nonce ≤ a.nonce ∧ a.chainId = r.chainId ∧ a.sender = r.sender

def TransactionRecord.awaited (r : TransactionRecord) : Prop :=
  r.state = .SUBMITTED ∨ r.state = .UNKNOWN_SUBMISSION_STATE

/-- What ties the records of a run to the transactions broadcast for it. The step whose
    transaction is not recorded yet is left out where its record is spoken of. -/
structure Tracking (records : Map TransactionRecord) (w : World) : Prop where
  keyed : ∀ s r, records.get? s = some r → r.deploymentStepId = s
  settled : ∀ s, ∀ a ∈ superseded records w s, a.fate.dead
  recorded : ∀ s, w.inFlight ≠ some s → records.get? s = none → w.ledger.attemptsOf s = []
  anchored : ∀ s r, w.inFlight ≠ some s → records.get? s = some r →
    ∀ a ∈ w.ledger.attemptsOf s, r.Anchors a
  hashed : ∀ s r h, w.inFlight ≠ some s → records.get? s = some r → r.awaited →
    r.hash = some h → ∀ a ∈ (w.ledger.attemptsOf s).head?, a.hash = h

/-- Tracking, with every broadcast recorded. -/
def Steady (records : Map TransactionRecord) (w : World) : Prop :=
  w.inFlight = none ∧ Tracking records w

theorem attemptsOf_movesTo {l l' : Ledger} (h : l.movesTo l') (s : String) :
    (l'.attemptsOf s).map Attempt.core = (l.attemptsOf s).map Attempt.core := by
  have hfilter : ∀ as : List Attempt, (as.filter (·.stepId = s)).map Attempt.core =
      (as.map Attempt.core).filter (·.stepId = s) := by
    intro as
    rw [List.filter_map]
    rfl
  unfold Ledger.attemptsOf
  rw [hfilter, hfilter, h]

theorem exists_core {l l' : Ledger} (h : l.movesTo l') {s : String} {a : Attempt}
    (ha : a ∈ l'.attemptsOf s) : ∃ b ∈ l.attemptsOf s, b.core = a.core := by
  have hmem : a.core ∈ (l.attemptsOf s).map Attempt.core :=
    attemptsOf_movesTo h s ▸ List.mem_map_of_mem ha
  exact List.mem_map.mp hmem

theorem exists_core_head {l l' : Ledger} (h : l.movesTo l') {s : String} {a : Attempt}
    (ha : a ∈ (l'.attemptsOf s).head?) : ∃ b ∈ (l.attemptsOf s).head?, b.core = a.core := by
  have hmem : a.core ∈ ((l.attemptsOf s).map Attempt.core).head? := by
    rw [← attemptsOf_movesTo h s, List.head?_map]
    exact Option.mem_map_of_mem _ ha
  rw [List.head?_map] at hmem
  exact Option.mem_map.mp hmem

theorem anchors_of_core {r : TransactionRecord} {a b : Attempt} (h : b.core = a.core)
    (hb : r.Anchors b) : r.Anchors a := by
  have hn : b.nonce = a.nonce := (congrArg Attempt.nonce h :)
  have hc : b.chainId = a.chainId := (congrArg Attempt.chainId h :)
  have hs : b.sender = a.sender := (congrArg Attempt.sender h :)
  exact ⟨hn ▸ hb.1, hc ▸ hb.2.1, hs ▸ hb.2.2⟩

variable {records : Map TransactionRecord} {s : String} {w : World}

theorem attemptsOf_eq_nil {l : Ledger} (h : s ∉ l.attempts.map (·.stepId)) :
    l.attemptsOf s = [] := by
  refine List.filter_eq_nil_iff.mpr fun a ha hs => h ?_
  exact List.mem_map.mpr ⟨a, ha, by simpa using hs⟩

theorem mem_superseded {a : Attempt} (h : a ∈ superseded records w s) :
    a ∈ w.ledger.attemptsOf s := by
  unfold superseded at h
  split at h
  · exact h
  · exact List.mem_of_mem_tail h

theorem tail_superseded {a : Attempt} (h : a ∈ (w.ledger.attemptsOf s).tail) :
    a ∈ superseded records w s := by
  unfold superseded
  split
  · exact List.mem_of_mem_tail h
  · exact h

theorem superseded_eq (hf : w.inFlight ≠ some s) (hr : ∀ r ∈ records.get? s, r.writtenOff) :
    superseded records w s = w.ledger.attemptsOf s := if_pos ⟨hf, hr⟩

theorem settled_all (h : Settled records w) (s : String) :
    ∀ a ∈ superseded records w s, a.fate.dead := by
  intro a ha
  by_cases hs : s ∈ w.ledger.attempts.map (·.stepId)
  · exact h s hs a ha
  · have hnil := attemptsOf_eq_nil hs
    have hmem := mem_superseded ha
    rw [hnil] at hmem
    cases hmem

theorem Tracking.chain {l : Ledger} (h : Tracking records w) (hl : w.ledger.movesTo l)
    (hs : Settled records { w with ledger := l }) : Tracking records { w with ledger := l } where
  keyed := h.keyed
  settled := settled_all hs
  recorded s hf hr := by
    have hnil := h.recorded s hf hr
    have hmap := attemptsOf_movesTo hl s
    rw [hnil] at hmap
    exact List.map_eq_nil_iff.mp hmap
  anchored s r hf hr a ha := by
    obtain ⟨b, hb, hcore⟩ := exists_core hl ha
    exact anchors_of_core hcore (h.anchored s r hf hr b hb)
  hashed s r x hf hr hw hx a ha := by
    obtain ⟨b, hb, hcore⟩ := exists_core_head hl ha
    have hhash : b.hash = a.hash := (congrArg Attempt.hash hcore :)
    exact hhash ▸ h.hashed s r x hf hr hw hx b hb

/-- A transaction of step `s` is broadcast. -/
theorem attemptsOf_broadcast (l : Ledger) (s t : String) (req : SendRequest) (hash : String) :
    (l.broadcast t req hash).attemptsOf s =
      if t = s then
        { stepId := t, chainId := req.chainId, sender := req.sender, nonce := req.nonce, hash,
          fate := .pending } :: l.attemptsOf s
      else l.attemptsOf s := by
  unfold Ledger.attemptsOf Ledger.broadcast
  rw [List.filter_cons]
  by_cases h : t = s <;> simp [h]

/-- **A transaction is broadcast** for a step all of whose transactions are written off. -/
theorem Tracking.broadcast {req : SendRequest} {hash : String} (h : Tracking records w)
    (hw : w.inFlight = none) (hdead : ∀ a ∈ w.ledger.attemptsOf s, a.fate.dead) :
    Tracking records ⟨w.ledger.broadcast s req hash, some s⟩ where
  keyed := h.keyed
  settled t a ha := by
    by_cases hts : s = t
    · subst hts
      have htail : superseded records ⟨w.ledger.broadcast s req hash, some s⟩ s =
          w.ledger.attemptsOf s := by
        unfold superseded
        rw [if_neg (fun hc => hc.1 rfl), attemptsOf_broadcast, if_pos rfl]
        rfl
      rw [htail] at ha
      exact hdead a ha
    · have hsame : superseded records ⟨w.ledger.broadcast s req hash, some s⟩ t =
          superseded records w t := by
        have hne : (some s : Option String) ≠ some t := fun he => hts (Option.some.inj he)
        unfold superseded
        rw [attemptsOf_broadcast, if_neg hts, hw]
        simp [hne]
      rw [hsame] at ha
      exact h.settled t a ha
  recorded t hf hr := by
    have hts : s ≠ t := fun he => hf (congrArg some he)
    rw [attemptsOf_broadcast, if_neg hts]
    exact h.recorded t (by simp [hw]) hr
  anchored t r hf hr := by
    have hts : s ≠ t := fun he => hf (congrArg some he)
    rw [attemptsOf_broadcast, if_neg hts]
    exact h.anchored t r (by simp [hw]) hr
  hashed t r x hf hr := by
    have hts : s ≠ t := fun he => hf (congrArg some he)
    rw [attemptsOf_broadcast, if_neg hts]
    exact h.hashed t r x (by simp [hw]) hr

/-- **A record is written** for the step whose request was open, or for any step with none
    open. -/
theorem Tracking.setRecord {r : TransactionRecord} (h : Tracking records w)
    (hw : w.inFlight = none ∨ w.inFlight = some s) (hkey : r.deploymentStepId = s)
    (hoff : r.writtenOff → ∀ a ∈ w.ledger.attemptsOf s, a.fate.dead)
    (hanchor : ∀ a ∈ w.ledger.attemptsOf s, r.Anchors a)
    (hhash : r.awaited → ∀ x, r.hash = some x → ∀ a ∈ (w.ledger.attemptsOf s).head?, a.hash = x) :
    Tracking (records.set s r) ⟨w.ledger, none⟩ := by
  have hother : ∀ t, t ≠ s → w.inFlight ≠ some t := by
    intro t ht
    obtain hn | hs := hw
    · simp [hn]
    · rw [hs]
      exact fun he => ht (Option.some.inj he).symm
  have hget : ∀ t, t ≠ s → (records.set s r).get? t = records.get? t :=
    fun t ht => Map.get?_set_ne records r ht
  refine ⟨fun t r' ht => ?_, fun t a ha => ?_, fun t _ ht => ?_, fun t r' _ ht => ?_,
    fun t r' x _ ht => ?_⟩
  · by_cases hts : t = s
    · subst hts
      rw [Map.get?_set_self] at ht
      exact Option.some.inj ht ▸ hkey
    · exact h.keyed t r' (hget t hts ▸ ht)
  · by_cases hts : t = s
    · subst hts
      unfold superseded at ha
      rw [Map.get?_set_self] at ha
      split at ha
      · rename_i hc
        exact hoff (hc.2 r rfl) a ha
      · exact h.settled t a (tail_superseded ha)
    · have hsame : superseded (records.set s r) ⟨w.ledger, none⟩ t = superseded records w t := by
        have hf := hother t hts
        unfold superseded
        rw [hget t hts]
        simp [hf]
      exact h.settled t a (hsame ▸ ha)
  · have hts : t ≠ s := by
      rintro rfl
      rw [Map.get?_set_self] at ht
      cases ht
    exact h.recorded t (hother t hts) (hget t hts ▸ ht)
  · by_cases hts : t = s
    · subst hts
      rw [Map.get?_set_self] at ht
      exact Option.some.inj ht ▸ hanchor
    · exact h.anchored t r' (hother t hts) (hget t hts ▸ ht)
  · by_cases hts : t = s
    · subst hts
      rw [Map.get?_set_self] at ht
      obtain rfl := Option.some.inj ht
      exact fun hw hx => hhash hw x hx
    · exact h.hashed t r' x (hother t hts) (hget t hts ▸ ht)

/-- **One transaction takes effect at most.** -/
theorem Tracking.successes_le (h : Tracking records w) (s : String) :
    (w.ledger.successes s).length ≤ 1 := by
  have htail : ∀ a ∈ (w.ledger.attemptsOf s).tail, a.fate ≠ .succeeded := by
    intro a ha hsucc
    have hdead := h.settled s a (tail_superseded ha)
    rw [hsucc] at hdead
    simp [Fate.dead] at hdead
  unfold Ledger.successes
  cases hl : w.ledger.attemptsOf s with
  | nil => simp
  | cons a as =>
    rw [hl] at htail
    have hnil : as.filter (·.fate = .succeeded) = [] :=
      List.filter_eq_nil_iff.mpr fun b hb => by simpa using htail b hb
    rw [List.filter_cons, hnil]
    split <;> simp

end ContextLock.Orchestrator
