/-
  Subject:   What a revocation stops, and what it does not.

  The session is looked at once, when a request is admitted. A request that waits for a verdict
  on its URL, for the digest of a file or for a person goes on when the answer lets it, whether
  or not its session was revoked meanwhile.
-/
import ContextLock.Bridge.Calls

namespace ContextLock.Bridge

open Js Evm Machine

/-! ## 1. Final revocations -/

def NoneAfterRevoke : List Event → Prop :=
  EachStarted fun before call => ∀ session signed r n,
    Event.admitted call session signed r n ∈ before → Event.revoked session ∉ before

def Daemon.isRevoked (d : Daemon) (session : Nat) : Bool :=
  match d.bridge.opened[session]? with
  | some s => s.revokedAtMs.isSome
  | none => false

/-- The answer lets the call that waits go on. -/
def Waiting.goesOn (deps : BridgeDeps) (w : Waiting) (reply : (e : Effect) → Reply e) : Prop :=
  match w.script with
  | .call _ e _ => GoesOn deps w.signed.payload e (reply e)
  | _ => False

/-- No answer lets a call go on whose session was revoked. -/
def InTime (deps : BridgeDeps) (d : Daemon) : Move → Prop
  | .answer call reply =>
    ∀ w ∈ d.waiting.find? (·.call = call), d.isRevoked w.session = true → ¬ w.goesOn deps reply
  | _ => True

instance (deps : BridgeDeps) (payload : Json) (e : Effect) (r : Reply e) :
    Decidable (GoesOn deps payload e r) := by
  unfold GoesOn
  split <;> infer_instance

instance (deps : BridgeDeps) (w : Waiting) (reply : (e : Effect) → Reply e) :
    Decidable (w.goesOn deps reply) := by
  unfold Waiting.goesOn
  split <;> infer_instance

instance (deps : BridgeDeps) (d : Daemon) (a : Move) : Decidable (InTime deps d a) := by
  unfold InTime
  split
  · rename_i call reply
    cases d.waiting.find? (·.call = call) with
    | none => exact isTrue (by simp)
    | some w =>
      exact decidable_of_iff (d.isRevoked w.session = true → ¬ w.goesOn deps reply) (by simp)
  · infer_instance

/-! ## 2. One step -/

variable {deps : BridgeDeps} {d : Daemon}

theorem isRevoked_iff (hl : Linked d.bridge d.history) {session : Nat}
    (hlt : session < d.bridge.opened.length) :
    d.isRevoked session = true ↔ .revoked session ∈ d.history := by
  have hget := List.getElem?_eq_getElem hlt
  have hrevoked := hl.revoked session _ hget
  unfold Daemon.isRevoked
  rw [hget]
  show d.bridge.opened[session].revokedAtMs.isSome = true ↔ _
  rw [Option.isSome_iff_ne_none, ne_eq, hrevoked, not_not]

/-- What a call that has run to its next `await` may start. -/
theorem noneAfterRevoke_settle {w : Waiting} (hw : w.script.ended = false → Held deps d.history w) :
    NoneAfterRevoke (d.settle w).history ↔
      (w.script.ended = false → .revoked w.session ∉ d.history) ∧ NoneAfterRevoke d.history := by
  unfold Daemon.settle
  cases hscript : w.script with
  | ok _ _ | threw _ _ => exact ⟨fun h => ⟨fun hw => (by cases hw), h⟩, fun h => h.2⟩
  | call _ e k =>
    have hheld := hw (by rw [hscript]; rfl)
    show NoneAfterRevoke (.started w.call e :: d.history) ↔ _
    unfold NoneAfterRevoke
    rw [eachStarted_cons]
    refine and_congr_left fun _ => ?_
    constructor
    · rintro h _
      obtain ⟨r, n, hin⟩ := hheld.admitted
      exact h w.call e rfl _ _ _ _ hin
    · intro h call e' heq session signed r n hin
      obtain ⟨rfl, rfl⟩ := Event.started.inj heq
      rw [hheld.own _ _ _ _ hin]
      exact h rfl

/-- **One step.** After a run in which no dependency was started for a revoked session, the next
    step starts none exactly when it is in time. -/
theorem noneAfterRevoke_step_iff (hi : Inv deps d) (hq : NoneAfterRevoke d.history) {a : Move}
    {d' : Daemon} (h : Stepped deps d a d') : NoneAfterRevoke d'.history ↔ InTime deps d a := by
  cases h with
  | issued | unpaired | unknown | refused => exact iff_of_true hq trivial
  | paired hp | revoked hr =>
    exact iff_of_true (eachStarted_cons.mpr ⟨fun _ _ heq => (by cases heq), hq⟩) trivial
  | @admitted signed clock b i session r operation ha hop =>
    refine iff_of_true ?_ trivial
    obtain ⟨_, _, hlawful, _⟩ := hi.linked.authenticate d.calls ha
    refine (noneAfterRevoke_settle (hi.held_enter ha hop)).mpr ⟨fun _ hrev => ?_,
      eachStarted_cons.mpr ⟨fun _ _ heq => (by cases heq), hq⟩⟩
    obtain heq | hin := List.mem_cons.mp hrev
    · cases heq
    · exact hlawful.unrevoked hin
  | @answered call reply w u e k hfind hscript =>
    have hmem := List.mem_of_find?_eq_some hfind
    have hheld := hi.held w hmem
    have hgated := hheld.gated
    rw [hscript] at hgated
    obtain ⟨hnext, hgated'⟩ := hgated (reply e)
    have hrest : (k (reply e)).ended = false →
        Held deps d.history { w with script := k (reply e) } := fun _ =>
      ⟨hheld.justified, hgated', hheld.admitted, hheld.own⟩
    have hsettle : NoneAfterRevoke (Daemon.settle
        { d with waiting := d.waiting.filter (·.call ≠ call) }
        { w with script := k (reply e) }).history ↔ _ := noneAfterRevoke_settle hrest
    refine hsettle.trans ?_
    have hgoes : w.goesOn deps reply ↔ (k (reply e)).ended = false := by
      unfold Waiting.goesOn
      rw [hscript]
      exact hnext.symm
    obtain ⟨r, n, hadmitted⟩ := hheld.admitted
    have hrevoked := isRevoked_iff hi.linked (hi.linked.known _ hadmitted _ rfl)
    constructor
    · rintro ⟨hnot, _⟩ w' hw' hrev hgo
      obtain rfl : w = w' := Option.some.inj (hfind.symm.trans hw')
      exact hnot (hgoes.mp hgo) (hrevoked.mp hrev)
    · intro hin
      refine ⟨fun hwaits hrev => ?_, hq⟩
      exact hin w hfind (hrevoked.mpr hrev) (hgoes.mpr hwaits)

/-! ## 3. Whole runs -/

/-- **When a revocation is final**: in every run in which no answer lets a call go on after its
    session was revoked; any other such answer starts a dependency for a revoked session. -/
theorem revocation_final_in_time (deps : BridgeDeps) :
    (∀ d, Reaches (guarded (step deps) (InTime deps)) .start d → NoneAfterRevoke d.history) ∧
    ∀ d a d', Reaches (step deps) .start d → NoneAfterRevoke d.history →
      step deps d a = some d' → (NoneAfterRevoke d'.history ↔ InTime deps d a) := by
  constructor
  · intro d h
    have hstart : NoneAfterRevoke Daemon.start.history := by
      intro later call e before heq
      cases later <;> cases heq
    have hrun : Inv deps d ∧ NoneAfterRevoke d.history := by
      refine h.invariant (P := fun d => Inv deps d ∧ NoneAfterRevoke d.history) ?_ ⟨.start, hstart⟩
      rintro d a d' ⟨hi, hq⟩ hstep
      obtain ⟨hin, hs⟩ := guarded_eq_some.mp hstep
      have hstepped := stepped_of_step hs
      exact ⟨inv_step hi hstepped, (noneAfterRevoke_step_iff hi hq hstepped).mpr hin⟩
    exact hrun.2
  · intro d a d' h hq hs
    have hi : Inv deps d := h.invariant (fun _ _ _ hi hs => inv_step hi (stepped_of_step hs)) .start
    exact noneAfterRevoke_step_iff hi hq (stepped_of_step hs)

def personSays (approved : Bool) : (e : Effect) → Reply e
  | .askHuman _ => .ok approved
  | _ => .error "no answer"

def answeredScript (approved : Bool) : Script Unit Effect Reply Thrown BridgeOutcome :=
  match transferScript with
  | .call _ e k => k (personSays approved e)
  | script => script

theorem step_answer_only {w : Waiting} {e : Effect}
    {k : Reply e → Script Unit Effect Reply Thrown BridgeOutcome} (h : w.script = .call () e k)
    (b : LocalBridge) (n : Nat) (history : List Event) (reply : (e : Effect) → Reply e) :
    step deps ⟨b, [w], n, history⟩ (.answer w.call reply) =
      some (Daemon.settle ⟨b, [], n, history⟩ { w with script := k (reply e) }) := by
  have hfind : [w].find? (·.call = w.call) = some w := by simp
  have hfilter : [w].filter (·.call ≠ w.call) = [] := by simp
  rw [step_of_answered hfind h]
  simp only [hfilter]

theorem revoked_while_asked {e : Effect}
    {k : Reply e → Script Unit Effect Reply Thrown BridgeOutcome}
    (h : transferScript = .call () e k) (approved : Bool) :
    ∃ b history, Event.revoked 0 ∈ history ∧
      Event.admitted 0 0 signedTransfer transferRequest 1 ∈ history ∧
      step walletDeps askedDaemon (.revoke "bridge_0" 2) =
        some ⟨b, [⟨0, 0, signedTransfer, transferScript⟩], 1, history⟩ ∧
      step walletDeps ⟨b, [⟨0, 0, signedTransfer, transferScript⟩], 1, history⟩
          (.answer 0 (personSays approved)) =
        some (Daemon.settle ⟨b, [], 1, history⟩
          ⟨0, 0, signedTransfer, k (personSays approved e)⟩) := by
  have hget : askedDaemon.bridge.sessions.get? "bridge_0" = some 0 := by
    rw [askedDaemon_eq h]
    exact Map.get?_set_self _ _ _
  obtain ⟨b, hrevoke⟩ : ∃ b, askedDaemon.bridge.revoke "bridge_0" 2 = (b, some 0) := by
    unfold LocalBridge.revoke
    rw [hget]
    exact ⟨_, rfl⟩
  have hstep : step walletDeps askedDaemon (.revoke "bridge_0" 2) = some _ :=
    step_of_revoked hrevoke
  rw [askedDaemon_eq h] at hstep ⊢
  exact ⟨_, _, List.mem_cons_self, by simp, hstep, step_answer_only h _ _ _ _⟩

theorem mem_settle {d : Daemon} {w : Waiting} {ev : Event} (h : ev ∈ d.history) :
    ev ∈ (d.settle w).history := by
  unfold Daemon.settle
  cases w.script with
  | ok _ _ => exact h
  | threw _ _ => exact h
  | call _ _ _ => exact List.mem_cons_of_mem _ h

theorem revocation_final_declined :
    ∃ d, Reaches (guarded (step walletDeps) (InTime walletDeps)) .start d ∧
      Event.revoked 0 ∈ d.history ∧ NoneAfterRevoke d.history := by
  obtain ⟨e, k, hscript⟩ := transferScript_waits
  obtain ⟨b, history, hrevoked, _, hrevoke, hanswer⟩ := revoked_while_asked hscript false
  have hasked : execute (guarded (step walletDeps) (InTime walletDeps)) .start transferMoves =
      some askedDaemon := by
    refine execute_of_agrees (I := fun _ => True)
      (A := fun a => ∀ call reply, a ≠ .answer call reply) ?_ trivial ?_ askedDaemon_reached
    · intro d a d' _ ha hstep
      refine ⟨guarded_eq_some.mpr ⟨?_, hstep⟩, trivial⟩
      cases a with
      | answer call reply => exact absurd rfl (ha call reply)
      | _ => trivial
    · simp [transferMoves, pairingMoves]
  have hdeclines : ∀ e, ¬ GoesOn walletDeps transferPayload e (personSays false e) := by
    intro e
    cases e <;> exact id
  have hintime : InTime walletDeps ⟨b, [⟨0, 0, signedTransfer, transferScript⟩], 1, history⟩
      (.answer 0 (personSays false)) := by
    intro w hw _ hgo
    obtain rfl : _ = w := Option.some.inj hw
    unfold Waiting.goesOn at hgo
    rw [hscript] at hgo
    exact hdeclines e hgo
  have hrevokes : guarded (step walletDeps) (InTime walletDeps) askedDaemon
      (.revoke "bridge_0" 2) = some _ := guarded_eq_some.mpr ⟨trivial, hrevoke⟩
  have hreach := ((reaches_of_execute hasked).tail ⟨_, hrevokes⟩).tail
    ⟨_, guarded_eq_some.mpr ⟨hintime, hanswer⟩⟩
  exact ⟨_, hreach, mem_settle hrevoked, (revocation_final_in_time walletDeps).1 _ hreach⟩

/-- **A device asked for a revoked session**: the person approves after the revocation. -/
theorem started_after_revoke :
    ∃ d, Reaches (step walletDeps) .start d ∧ ¬ NoneAfterRevoke d.history := by
  obtain ⟨e, k, hscript⟩ := transferScript_waits
  obtain ⟨b, history, hrevoked, hadmitted, hrevoke, hanswer⟩ := revoked_while_asked hscript true
  have hreach := ((reaches_of_execute askedDaemon_reached).tail ⟨_, hrevoke⟩).tail ⟨_, hanswer⟩
  refine ⟨_, hreach, fun hq => ?_⟩
  have hwaits : (answeredScript true).ended = false := by decide
  unfold answeredScript at hwaits
  rw [hscript] at hwaits
  dsimp only at hwaits
  cases hnext : k (personSays true e) with
  | ok _ _ | threw _ _ =>
    rw [hnext] at hwaits
    cases hwaits
  | call u e' k' =>
    rw [hnext] at hq
    exact hq [] 0 e' history rfl 0 _ _ _ hadmitted hrevoked

end ContextLock.Bridge
