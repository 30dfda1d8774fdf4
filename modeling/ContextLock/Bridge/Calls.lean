/-
  Subject:   The daemon under any calls, at once and in any order.

  A call of `handle` runs to its first `await` and waits; then other calls run, codes are made
  and used, sessions are revoked, and answers come in any order. The history has what happened,
  newest first; sessions and codes are meant by their places, so that an id drawn twice names
  two sessions.
-/
import ContextLock.Bridge.Operations
import ContextLock.Js.Digest
import ContextLock.Machine.Transition

namespace ContextLock.Bridge

open Js Evm Machine

/-! ## 1. The daemon and its calls -/

inductive Event where
  | paired (code session : Nat) (opened : BridgeSession)
  | revoked (session : Nat)
  | admitted (call session : Nat) (signed : SignedBridgeRequest) (request : BridgeRequest)
      (now : Nat)
  | started (call : Nat) (effect : Effect)

/-- A call of `handle` that was admitted, with what its closure holds. -/
structure Waiting where
  call : Nat
  session : Nat
  signed : SignedBridgeRequest
  script : Script Unit Effect Reply Thrown BridgeOutcome

structure Daemon where
  bridge : LocalBridge
  waiting : List Waiting
  calls : Nat
  history : List Event

def Daemon.start : Daemon := ⟨.new, [], 0, []⟩

/-- What the outside does. Codes, ids and keys are drawn and the clock is read by the daemon;
    here they may be anything. -/
inductive Move where
  | createPairingCode (userId projectId : String) (ttlMs : Int) (code : String) (now : Nat)
  | pair (code : String) (permissions : BridgePermissions) (sessionTtlMs : Int)
      (bridgeId : String) (key : Bytes) (clock : Nat → Nat)
  | revoke (bridgeId : String) (now : Nat)
  | handle (signed : SignedBridgeRequest) (clock : Nat → Nat)
  | answer (call : Nat) (reply : (e : Effect) → Reply e)

/-- A call has run up to its next `await`, or to its end. -/
def Daemon.settle (d : Daemon) (w : Waiting) : Daemon :=
  match w.script with
  | .call _ e _ => { d with waiting := w :: d.waiting, history := .started w.call e :: d.history }
  | _ => d

/-- A request was admitted. -/
def Daemon.enter (d : Daemon) (b : LocalBridge) (w : Waiting) (r : BridgeRequest) (now : Nat) :
    Daemon :=
  Daemon.settle { d with
    bridge := b, calls := d.calls + 1,
    history := .admitted w.call w.session w.signed r now :: d.history } w

def step (deps : BridgeDeps) (d : Daemon) : Move → Option Daemon
  | .createPairingCode userId projectId ttlMs code now =>
    some { d with bridge := d.bridge.createPairingCode userId projectId ttlMs code now }
  | .pair code permissions sessionTtlMs bridgeId key clock =>
    match d.bridge.pair code permissions sessionTtlMs bridgeId key clock with
    | .error _ => some d
    | .ok (b, i, session) =>
      some { d with bridge := b, history := .paired i d.bridge.opened.length session :: d.history }
  | .revoke bridgeId now =>
    match d.bridge.revoke bridgeId now with
    | (_, none) => some d
    | (b, some i) => some { d with bridge := b, history := .revoked i :: d.history }
  | .handle signed clock =>
    let entered := handle deps d.bridge signed clock
    match entered.admitted with
    | none => some { d with bridge := entered.bridge, calls := d.calls + 1 }
    | some (i, r) =>
      some (d.enter entered.bridge ⟨d.calls, i, signed, entered.script⟩ r (clock 0))
  | .answer call reply =>
    match d.waiting.find? (·.call = call) with
    | none => none
    | some w =>
      match w.script with
      | .call _ e k =>
        some (Daemon.settle { d with waiting := d.waiting.filter (·.call ≠ call) }
          { w with script := k (reply e) })
      | _ => none

/-! ## 2. What is claimed of a call of a dependency -/

/-- What held when a request was admitted: its session was paired, not revoked and not expired,
    signed it, and had admitted no request with its nonce. -/
structure LawfullyAdmitted (before : List Event) (session : Nat) (opened : BridgeSession)
    (signed : SignedBridgeRequest) (r : BridgeRequest) (now : Nat) : Prop where
  parsed : BridgeRequest.parse signed.request = .ok r
  paired : ∃ code, .paired code session opened ∈ before
  unrevoked : .revoked session ∉ before
  unexpired : now ≤ opened.expiresAtMs
  verified : SignedWith opened.key r signed.signature
  owner : r.bridgeId = opened.bridgeId ∧ r.userId = opened.userId ∧ r.projectId = opened.projectId
  payload : payloadHash signed.payload = r.payloadHash
  fresh : ∀ call s r' n, .admitted call session s r' n ∈ before → r'.nonce ≠ r.nonce

/-- The session permits the operation and the project of the request. -/
structure Permitted (opened : BridgeSession) (r : BridgeRequest) : Prop where
  operation : ∃ op ∈ opened.permissions.allowedOperations, op.text = r.operationType
  project : r.projectId ∈ opened.permissions.allowedProjects

/-- The call was admitted lawfully, with a request that its session permits. -/
def Justified (h : List Event) (call : Nat) : Prop :=
  ∃ later before session opened signed r now,
    h = later ++ .admitted call session signed r now :: before ∧
      LawfullyAdmitted before session opened signed r now ∧ Permitted opened r

/-- Whenever a call starts a dependency, `P` holds of the history before. -/
def EachStarted (P : List Event → Nat → Prop) (h : List Event) : Prop :=
  ∀ later call e before, h = later ++ .started call e :: before → P before call

def sessionsOf (h : List Event) (code : Nat) : List Nat :=
  h.filterMap fun
    | .paired c session _ => if c = code then some session else none
    | _ => none

theorem Justified.cons {h : List Event} {call : Nat} (hj : Justified h call) (ev : Event) :
    Justified (ev :: h) call := by
  obtain ⟨later, before, session, opened, signed, r, now, rfl, hl, hp⟩ := hj
  exact ⟨ev :: later, before, session, opened, signed, r, now, rfl, hl, hp⟩

theorem eachStarted_cons {P : List Event → Nat → Prop} {ev : Event} {h : List Event} :
    EachStarted P (ev :: h) ↔ (∀ call e, ev = .started call e → P h call) ∧ EachStarted P h := by
  constructor
  · intro hall
    refine ⟨fun call e heq => hall [] call e h (by rw [heq]; rfl), ?_⟩
    intro later call e before heq
    exact hall (ev :: later) call e before (by rw [heq]; rfl)
  · rintro ⟨hhead, htail⟩ later call e before heq
    cases later with
    | nil =>
      obtain ⟨rfl, rfl⟩ := List.cons.inj heq
      exact hhead call e rfl
    | cons _ later =>
      obtain ⟨_, rfl⟩ := List.cons.inj heq
      exact htail later call e before rfl

/-! ## 3. The daemon and its history -/

def Event.session? : Event → Option Nat
  | .paired _ session _ => some session
  | .revoked session => some session
  | .admitted _ session _ _ _ => some session
  | .started _ _ => none

/-- What the daemon keeps and what its history says. -/
structure Linked (b : LocalBridge) (h : List Event) : Prop where
  objects : ∀ id i, b.sessions.get? id = some i → ∃ s opened code, b.opened[i]? = some s ∧
    s.bridgeId = id ∧ .paired code i opened ∈ h ∧ s = { opened with revokedAtMs := s.revokedAtMs }
  revoked : ∀ i s, b.opened[i]? = some s → (s.revokedAtMs = none ↔ .revoked i ∉ h)
  seen : ∀ id i, b.sessions.get? id = some i → ∀ call signed r n,
    .admitted call i signed r n ∈ h → r.nonce ∈ b.seen id
  known : ∀ ev ∈ h, ∀ i, ev.session? = some i → i < b.opened.length
  used : ∀ code i opened, .paired code i opened ∈ h →
    ∃ p, b.codes[code]? = some p ∧ p.usedAtMs ≠ none
  once : ∀ code, (sessionsOf h code).length ≤ 1

theorem mem_sessionsOf {h : List Event} {code i : Nat} :
    i ∈ sessionsOf h code ↔ ∃ opened, Event.paired code i opened ∈ h := by
  unfold sessionsOf
  rw [List.mem_filterMap]
  constructor
  · rintro ⟨ev, hev, hsome⟩
    cases ev with
    | paired c session opened =>
      simp only [Option.ite_none_right_eq_some, Option.some.injEq] at hsome
      obtain ⟨rfl, rfl⟩ := hsome
      exact ⟨opened, hev⟩
    | revoked _ => cases hsome
    | admitted _ _ _ _ _ => cases hsome
    | started _ _ => cases hsome
  · rintro ⟨opened, hev⟩
    exact ⟨_, hev, by simp⟩

namespace Linked

variable {b : LocalBridge} {h : List Event}

theorem start : Linked .new [] where
  objects id i hi := by cases hi
  revoked i s hs := by simp [LocalBridge.new] at hs
  seen _ _ hi := by cases hi
  known _ hev := by cases hev
  used _ _ _ hev := by cases hev
  once _ := Nat.zero_le _

theorem started (hl : Linked b h) (call : Nat) (e : Effect) : Linked b (.started call e :: h) where
  objects id i hi := by
    obtain ⟨s, opened, code, hs, hid, hev, heq⟩ := hl.objects id i hi
    exact ⟨s, opened, code, hs, hid, List.mem_cons_of_mem _ hev, heq⟩
  revoked i s hs := by simpa using hl.revoked i s hs
  seen id i hi call signed r n hev := hl.seen id i hi call signed r n (by simpa using hev)
  known ev hev i hi := by
    obtain rfl | hin := List.mem_cons.mp hev
    · cases hi
    · exact hl.known ev hin i hi
  used code i opened hev := hl.used code i opened (by simpa using hev)
  once code := hl.once code

theorem createPairingCode (hl : Linked b h) (userId projectId : String) (ttlMs : Int)
    (code : String) (now : Nat) :
    Linked (b.createPairingCode userId projectId ttlMs code now) h where
  objects := hl.objects
  revoked := hl.revoked
  seen := hl.seen
  known := hl.known
  used c i opened hev := by
    obtain ⟨p, hp, hused⟩ := hl.used c i opened hev
    exact ⟨p, Machine.getElem?_concat_of_some hp, hused⟩
  once := hl.once

/-- **Pairing**: the code was not used, and the new session is the last. -/
theorem pair (hl : Linked b h) {code : String} {permissions : BridgePermissions}
    {sessionTtlMs : Int} {bridgeId : String} {key : Bytes} {clock : Nat → Nat} {b' : LocalBridge}
    {i : Nat} {session : BridgeSession}
    (hp : b.pair code permissions sessionTtlMs bridgeId key clock = .ok (b', i, session)) :
    Linked b' (.paired i b.opened.length session :: h) := by
  obtain ⟨p, hcode, hunused, hrevoked, hid, rfl⟩ := LocalBridge.pair_eq_ok hp
  have hfresh : ∀ j opened, Event.paired i j opened ∉ h := by
    intro j opened hev
    obtain ⟨q, hq, hused⟩ := hl.used i j opened hev
    obtain rfl : p = q := Option.some.inj (hcode.symm.trans hq)
    exact hused hunused
  have hnew : ∀ ev ∈ h, ev.session? ≠ some b.opened.length := by
    intro ev hev heq
    exact absurd (hl.known ev hev _ heq) (lt_irrefl _)
  refine ⟨?_, ?_, ?_, ?_, ?_, ?_⟩
  · intro id j hj
    rcases Map.cases_of_get?_set hj with hnew | hold
    · obtain ⟨rfl, rfl⟩ := hnew
      exact ⟨session, session, i, by simp, hid, List.mem_cons_self, rfl⟩
    · obtain ⟨s, opened, c, hs, hsid, hev, hopened⟩ := hl.objects id j hold.2
      exact ⟨s, opened, c, Machine.getElem?_concat_of_some hs, hsid, List.mem_cons_of_mem _ hev,
        hopened⟩
  · intro j s hs
    rcases Machine.cases_of_getElem?_concat hs with hold | hlast
    · simpa using hl.revoked j s hold
    · obtain ⟨rfl, rfl⟩ := hlast
      have hnot : Event.revoked b.opened.length ∉ h := fun hev => hnew _ hev rfl
      simp [hrevoked, hnot]
  · intro id j hj call signed r n hev
    have hin : Event.admitted call j signed r n ∈ h := by simpa using hev
    rw [Map.get?_set] at hj
    split_ifs at hj with heq
    · obtain rfl := Option.some.inj hj
      exact absurd rfl (hnew _ hin)
    · have hseen := hl.seen id j hj call signed r n hin
      show r.nonce ∈ ((b.nonces.set bridgeId []).get? id).getD []
      rw [Map.get?_set_ne _ _ heq]
      exact hseen
  · intro ev hev j hj
    rw [List.length_append, List.length_singleton]
    obtain rfl | hin := List.mem_cons.mp hev
    · obtain rfl := Option.some.inj hj
      omega
    · have := hl.known ev hin j hj
      omega
  · intro c j opened hev
    by_cases hc : c = i
    · subst hc
      refine ⟨{ p with usedAtMs := some (clock 1) }, ?_, by simp⟩
      have hlt : c < b.codes.length := (List.getElem?_eq_some_iff.mp hcode).1
      simp [hlt]
    · have hin : Event.paired c j opened ∈ h := by simpa [hc] using hev
      obtain ⟨q, hq, hused⟩ := hl.used c j opened hin
      exact ⟨q, by rw [List.getElem?_set_ne (Ne.symm hc), hq], hused⟩
  · intro c
    by_cases hc : c = i
    · subst hc
      have hnone : sessionsOf h c = [] := by
        refine List.eq_nil_iff_forall_not_mem.mpr fun j hj => ?_
        obtain ⟨opened, hev⟩ := mem_sessionsOf.mp hj
        exact hfresh j opened hev
      have hcons : sessionsOf (.paired c b.opened.length session :: h) c =
          b.opened.length :: sessionsOf h c := by simp [sessionsOf]
      rw [hcons, hnone]
      exact le_refl _
    · have hskip : sessionsOf (.paired i b.opened.length session :: h) c = sessionsOf h c :=
        List.filterMap_cons_none (if_neg (Ne.symm hc))
      rw [hskip]
      exact hl.once c

/-- **Revocation.** -/
theorem revoke (hl : Linked b h) {bridgeId : String} {now : Nat} {b' : LocalBridge} {i : Nat}
    (hr : b.revoke bridgeId now = (b', some i)) : Linked b' (.revoked i :: h) := by
  unfold LocalBridge.revoke at hr
  cases hget : b.sessions.get? bridgeId with
  | none => simp [hget] at hr
  | some j =>
  simp only [hget, Prod.mk.injEq, Option.some.injEq] at hr
  obtain ⟨rfl, rfl⟩ := hr
  obtain ⟨s₀, _, _, hs₀, _, hev₀, _⟩ := hl.objects bridgeId j hget
  refine ⟨?_, ?_, ?_, ?_, ?_, hl.once⟩
  · intro id k hk
    obtain ⟨s, opened, code, hs, hid, hev, hopened⟩ := hl.objects id k hk
    by_cases hjk : j = k
    · subst hjk
      refine ⟨{ s with revokedAtMs := some now }, opened, code, ?_, hid,
        List.mem_cons_of_mem _ hev, ?_⟩
      · simp [hs]
      · rw [hopened]
    · exact ⟨s, opened, code, by simp [hjk, hs], hid,
        List.mem_cons_of_mem _ hev, hopened⟩
  · intro k s hs
    by_cases hjk : j = k
    · subst hjk
      have hnow : { s₀ with revokedAtMs := some now } = s := by simpa [hs₀] using hs
      rw [← hnow]
      simp
    · have hold : b.opened[k]? = some s := by simpa [List.getElem?_modify, hjk] using hs
      have := hl.revoked k s hold
      simpa [Ne.symm hjk] using this
  · intro id k hk call signed r n hev
    exact hl.seen id k hk call signed r n (by simpa using hev)
  · intro ev hev k hk
    rw [List.length_modify]
    obtain rfl | hin := List.mem_cons.mp hev
    · obtain rfl := Option.some.inj hk
      exact (List.getElem?_eq_some_iff.mp hs₀).1
    · exact hl.known ev hin k hk
  · intro code k opened hev
    exact hl.used code k opened (by simpa using hev)

/-- **Admission**: the nonce is recorded, and what the request passed held in the history. -/
theorem authenticate (hl : Linked b h) (call : Nat) {signed : SignedBridgeRequest}
    {now i : Nat} {b' : LocalBridge} {session : BridgeSession} {r : BridgeRequest}
    (ha : b.authenticate signed now = .ok (b', i, session, r)) :
    Linked b' (.admitted call i signed r now :: h) ∧
      ∃ opened, LawfullyAdmitted h i opened signed r now ∧
        session = { opened with revokedAtMs := none } := by
  obtain ⟨hadm, rfl⟩ := LocalBridge.authenticate_eq_ok ha
  obtain ⟨s, opened, code, hs, hid, hev, hopened⟩ := hl.objects _ _ hadm.found
  obtain rfl : s = session := Option.some.inj (hs.symm.trans hadm.object)
  have hlt : i < b.opened.length := (List.getElem?_eq_some_iff.mp hs).1
  rw [hadm.unrevoked] at hopened
  constructor
  · refine ⟨?_, ?_, ?_, ?_, ?_, hl.once⟩
    · intro id j hj
      obtain ⟨s', o, c, hs', hid', hev', ho⟩ := hl.objects id j hj
      exact ⟨s', o, c, hs', hid', List.mem_cons_of_mem _ hev', ho⟩
    · intro j s' hs'
      simpa using hl.revoked j s' hs'
    · intro id j hj call' signed' r' n' hev'
      show r'.nonce ∈ ((b.nonces.set r.bridgeId _).get? id).getD []
      rw [Map.get?_set]
      obtain heq | hin := List.mem_cons.mp hev'
      · -- the session stands under one id only, that of the request
        obtain ⟨rfl, rfl, rfl, rfl, rfl⟩ := Event.admitted.inj heq
        obtain ⟨s', _, _, hs', hid', _⟩ := hl.objects id j hj
        obtain rfl : s' = s := Option.some.inj (hs'.symm.trans hs)
        rw [if_pos (hid'.symm.trans hid)]
        simp
      · have hseen := hl.seen id j hj call' signed' r' n' hin
        split_ifs with hsame
        · subst hsame
          exact List.mem_append_left _ hseen
        · exact hseen
    · intro ev hev' j hj
      obtain rfl | hin := List.mem_cons.mp hev'
      · obtain rfl := Option.some.inj hj
        exact hlt
      · exact hl.known ev hin j hj
    · intro c j o hev'
      exact hl.used c j o (by simpa using hev')
  · have hfields : s.bridgeId = opened.bridgeId ∧ s.userId = opened.userId ∧
        s.projectId = opened.projectId ∧ s.key = opened.key ∧
        s.expiresAtMs = opened.expiresAtMs := by
      rw [hopened]
      exact ⟨rfl, rfl, rfl, rfl, rfl⟩
    obtain ⟨hb, hu, hproject, hkey, hexp⟩ := hfields
    refine ⟨opened, ⟨hadm.parsed, ⟨code, hev⟩, (hl.revoked i s hs).mp hadm.unrevoked,
      hexp ▸ hadm.unexpired, hkey ▸ hadm.verified, ⟨hid.symm.trans hb, hadm.user.trans hu,
      hadm.project.trans hproject⟩, hadm.payload, ?_⟩, hopened⟩
    intro call' signed' r' n' hev' hnonce
    have hseen := hl.seen r.bridgeId i hadm.found call' signed' r' n' hev'
    rw [hnonce] at hseen
    exact hadm.unseen hseen

end Linked

/-! ## 4. Calls that wait -/

/-- What is known of a call that waits. -/
structure Held (deps : BridgeDeps) (h : List Event) (w : Waiting) : Prop where
  justified : Justified h w.call
  gated : Gated (GoesOn deps w.signed.payload) w.script
  admitted : ∃ r n, .admitted w.call w.session w.signed r n ∈ h
  own : ∀ session signed r n, .admitted w.call session signed r n ∈ h → session = w.session

theorem Held.cons {deps : BridgeDeps} {h : List Event} {w : Waiting} (hw : Held deps h w)
    {ev : Event} (hev : ∀ session signed r n, ev ≠ .admitted w.call session signed r n) :
    Held deps (ev :: h) w where
  justified := hw.justified.cons ev
  gated := hw.gated
  admitted := by
    obtain ⟨r, n, hin⟩ := hw.admitted
    exact ⟨r, n, List.mem_cons_of_mem _ hin⟩
  own session signed r n hin := by
    obtain heq | hin := List.mem_cons.mp hin
    · exact absurd heq.symm (hev _ _ _ _)
    · exact hw.own _ _ _ _ hin

/-- **The invariant of the daemon.** -/
structure Inv (deps : BridgeDeps) (d : Daemon) : Prop where
  linked : Linked d.bridge d.history
  justified : EachStarted Justified d.history
  numbered : ∀ call session signed r n, .admitted call session signed r n ∈ d.history →
    call < d.calls
  held : ∀ w ∈ d.waiting, Held deps d.history w

namespace Inv

variable {deps : BridgeDeps} {d : Daemon}

theorem start : Inv deps .start where
  linked := .start
  justified later call e before heq := by cases later <;> cases heq
  numbered _ _ _ _ _ hev := by cases hev
  held _ hw := by cases hw

/-- **A call that has run to its next `await`.** -/
theorem settle (hi : Inv deps d) {w : Waiting} (hw : w.script.ended = false → Held deps d.history w) :
    Inv deps (d.settle w) := by
  unfold Daemon.settle
  cases hscript : w.script with
  | ok _ _ => exact hi
  | threw _ _ => exact hi
  | call _ e k =>
    have hheld : Held deps d.history w := hw (by rw [hscript]; rfl)
    have hcons : ∀ w', Held deps d.history w' → Held deps (.started w.call e :: d.history) w' :=
      fun w' hw' => hw'.cons fun _ _ _ _ heq => by cases heq
    refine ⟨hi.linked.started _ _, eachStarted_cons.mpr ⟨?_, hi.justified⟩, ?_, ?_⟩
    · intro call e' heq
      obtain ⟨rfl, rfl⟩ := Event.started.inj heq
      exact hheld.justified
    · intro call session signed r n hev
      exact hi.numbered call session signed r n (by simpa using hev)
    · intro w' hw'
      obtain rfl | hin := List.mem_cons.mp hw'
      · exact hcons _ hheld
      · exact hcons w' (hi.held w' hin)

theorem held_cons (hi : Inv deps d) {ev : Event}
    (hev : ∀ call session signed r n, ev = .admitted call session signed r n → d.calls ≤ call) :
    ∀ w ∈ d.waiting, Held deps (ev :: d.history) w := by
  intro w hw
  have hheld := hi.held w hw
  refine hheld.cons fun session signed r n heq => ?_
  obtain ⟨r', n', hin⟩ := hheld.admitted
  have hlt := hi.numbered _ _ _ _ _ hin
  have hle := hev _ _ _ _ _ heq
  omega

section Admit

variable {signed : SignedBridgeRequest} {b' : LocalBridge} {i now now' : Nat}
  {session : BridgeSession} {r : BridgeRequest} {operation : BridgeOperation}

/-- What is known of a call that waits after its admission. -/
theorem held_enter (hi : Inv deps d)
    (ha : d.bridge.authenticate signed now = .ok (b', i, session, r))
    (hop : operation.text = r.operationType)
    (hwaits : (perform deps session operation signed.payload now' ()).ended = false) :
    Held deps (.admitted d.calls i signed r now :: d.history)
      ⟨d.calls, i, signed, perform deps session operation signed.payload now' ()⟩ := by
  obtain ⟨_, opened, hlawful, hsession⟩ := hi.linked.authenticate d.calls ha
  obtain ⟨hallowed, hproject⟩ := perform_permitted hwaits
  have hpermissions : session.permissions = opened.permissions ∧
      session.projectId = opened.projectId := by
    rw [hsession]
    exact ⟨rfl, rfl⟩
  rw [hpermissions.1] at hallowed hproject
  rw [hpermissions.2, ← hlawful.owner.2.2] at hproject
  refine ⟨⟨[], d.history, i, opened, signed, r, now, rfl, hlawful, ⟨operation, hallowed, hop⟩,
    hproject⟩, perform_gated operation now', ⟨r, now, List.mem_cons_self⟩, ?_⟩
  intro session' signed' r' n hev
  obtain heq | hin := List.mem_cons.mp hev
  · exact (Event.admitted.inj heq).2.1
  · exact absurd (hi.numbered _ _ _ _ _ hin) (lt_irrefl _)

/-- **An admission.** -/
theorem enter (hi : Inv deps d)
    (ha : d.bridge.authenticate signed now = .ok (b', i, session, r))
    (hop : operation.text = r.operationType) :
    Inv deps (d.enter b'
      ⟨d.calls, i, signed, perform deps session operation signed.payload now' ()⟩ r now) := by
  obtain ⟨hlinked, _⟩ := hi.linked.authenticate d.calls ha
  refine settle ⟨hlinked, eachStarted_cons.mpr ⟨fun _ _ heq => (by cases heq), hi.justified⟩,
    ?_, ?_⟩ (hi.held_enter ha hop)
  · intro call session' signed' r' n hev
    obtain heq | hin := List.mem_cons.mp hev
    · obtain ⟨rfl, _⟩ := Event.admitted.inj heq
      exact Nat.lt_succ_self _
    · exact (hi.numbered _ _ _ _ _ hin).trans (Nat.lt_succ_self _)
  · refine hi.held_cons ?_
    intro call session' signed' r' n heq
    obtain ⟨rfl, _⟩ := Event.admitted.inj heq
    exact le_refl _

end Admit

theorem answer (hi : Inv deps d) {w : Waiting} {e : Effect}
    {k : Reply e → Script Unit Effect Reply Thrown BridgeOutcome} {u : Unit} (hw : w ∈ d.waiting)
    (hscript : w.script = .call u e k) (r : Reply e) (p : Waiting → Bool) :
    Inv deps (Daemon.settle { d with waiting := d.waiting.filter p } { w with script := k r }) := by
  have hheld := hi.held w hw
  have hgated := hheld.gated
  rw [hscript] at hgated
  have hrest : Inv deps { d with waiting := d.waiting.filter p } :=
    ⟨hi.linked, hi.justified, hi.numbered, fun w' hw' => hi.held w' (List.mem_of_mem_filter hw')⟩
  refine hrest.settle fun _ => ?_
  exact ⟨hheld.justified, (hgated r).2, hheld.admitted, hheld.own⟩

end Inv

/-- All that a step can be. -/
inductive Stepped (deps : BridgeDeps) (d : Daemon) : Move → Daemon → Prop where
  | issued (userId projectId ttlMs code now) : Stepped deps d
      (.createPairingCode userId projectId ttlMs code now)
      { d with bridge := d.bridge.createPairingCode userId projectId ttlMs code now }
  | unpaired (code permissions sessionTtlMs bridgeId key clock) :
      Stepped deps d (.pair code permissions sessionTtlMs bridgeId key clock) d
  | paired {code permissions sessionTtlMs bridgeId key clock b i session}
      (hp : d.bridge.pair code permissions sessionTtlMs bridgeId key clock = .ok (b, i, session)) :
      Stepped deps d (.pair code permissions sessionTtlMs bridgeId key clock)
        { d with bridge := b, history := .paired i d.bridge.opened.length session :: d.history }
  | unknown (bridgeId now) : Stepped deps d (.revoke bridgeId now) d
  | revoked {bridgeId now b i} (hr : d.bridge.revoke bridgeId now = (b, some i)) :
      Stepped deps d (.revoke bridgeId now)
        { d with bridge := b, history := .revoked i :: d.history }
  | refused (signed clock) : Stepped deps d (.handle signed clock) { d with calls := d.calls + 1 }
  | admitted {signed : SignedBridgeRequest} {clock : Nat → Nat} {b i session}
      {r : BridgeRequest} {operation : BridgeOperation}
      (ha : d.bridge.authenticate signed (clock 0) = .ok (b, i, session, r))
      (hop : operation.text = r.operationType) : Stepped deps d (.handle signed clock)
        (d.enter b ⟨d.calls, i, signed,
          perform deps session operation signed.payload (clock 1) ()⟩ r (clock 0))
  | answered {call : Nat} {reply : (e : Effect) → Reply e} {w : Waiting} {u : Unit} {e : Effect}
      {k : Reply e → Script Unit Effect Reply Thrown BridgeOutcome}
      (hfind : d.waiting.find? (·.call = call) = some w) (hscript : w.script = .call u e k) :
      Stepped deps d (.answer call reply)
        (Daemon.settle { d with waiting := d.waiting.filter (·.call ≠ call) }
          { w with script := k (reply e) })

theorem stepped_of_step {deps : BridgeDeps} {d d' : Daemon} {a : Move}
    (h : step deps d a = some d') : Stepped deps d a d' := by
  cases a with
  | createPairingCode userId projectId ttlMs code now =>
    obtain rfl := Option.some.inj h
    exact .issued _ _ _ _ _
  | pair code permissions sessionTtlMs bridgeId key clock =>
    unfold step at h
    cases hp : d.bridge.pair code permissions sessionTtlMs bridgeId key clock with
    | error _ =>
      simp only [hp, Option.some.injEq] at h
      exact h ▸ .unpaired _ _ _ _ _ _
    | ok result =>
      obtain ⟨b, i, session⟩ := result
      simp only [hp, Option.some.injEq] at h
      exact h ▸ .paired hp
  | revoke bridgeId now =>
    unfold step at h
    rcases hr : d.bridge.revoke bridgeId now with ⟨b, _ | i⟩
    · simp only [hr, Option.some.injEq] at h
      exact h ▸ .unknown _ _
    · simp only [hr, Option.some.injEq] at h
      exact h ▸ .revoked hr
  | handle signed clock =>
    unfold step at h
    obtain ⟨script, hhandle⟩ | ⟨b', i, session, r, operation, ha, hop, hhandle⟩ :=
      handle_cases deps d.bridge signed clock
    · simp only [hhandle, Option.some.injEq] at h
      exact h ▸ .refused _ _
    · simp only [hhandle, Option.some.injEq] at h
      exact h ▸ .admitted ha hop
  | answer call reply =>
    unfold step at h
    cases hfind : d.waiting.find? (·.call = call) with
    | none => simp [hfind] at h
    | some w =>
      cases hscript : w.script with
      | ok _ _ | threw _ _ => simp [hfind, hscript] at h
      | call u e k =>
        simp only [hfind, hscript, Option.some.injEq] at h
        exact h ▸ .answered hfind hscript

theorem step_of_admitted {deps : BridgeDeps} {d : Daemon} {signed : SignedBridgeRequest}
    {clock : Nat → Nat} {b : LocalBridge} {i : Nat} {session : BridgeSession} {r : BridgeRequest}
    {operation : BridgeOperation}
    (ha : d.bridge.authenticate signed (clock 0) = .ok (b, i, session, r))
    (hop : BridgeOperation.ofText? r.operationType = some operation) :
    step deps d (.handle signed clock) = some (d.enter b
      ⟨d.calls, i, signed, perform deps session operation signed.payload (clock 1) ()⟩ r
        (clock 0)) := by
  unfold step
  simp only [handle_of_admitted ha hop]

theorem step_of_revoked {deps : BridgeDeps} {d : Daemon} {bridgeId : String} {now : Nat}
    {b : LocalBridge} {i : Nat} (hr : d.bridge.revoke bridgeId now = (b, some i)) :
    step deps d (.revoke bridgeId now) =
      some { d with bridge := b, history := .revoked i :: d.history } := by
  unfold step
  simp only [hr]

theorem step_of_answered {deps : BridgeDeps} {d : Daemon} {call : Nat}
    {reply : (e : Effect) → Reply e} {w : Waiting} {u : Unit} {e : Effect}
    {k : Reply e → Script Unit Effect Reply Thrown BridgeOutcome}
    (hfind : d.waiting.find? (·.call = call) = some w) (hscript : w.script = .call u e k) :
    step deps d (.answer call reply) =
      some (Daemon.settle { d with waiting := d.waiting.filter (·.call ≠ call) }
        { w with script := k (reply e) }) := by
  unfold step
  simp only [hfind, hscript]

/-- **The invariant is kept by every step.** -/
theorem inv_step {deps : BridgeDeps} {d d' : Daemon} {a : Move} (hi : Inv deps d)
    (h : Stepped deps d a d') : Inv deps d' := by
  cases h with
  | issued userId projectId ttlMs code now =>
    exact ⟨hi.linked.createPairingCode _ _ _ _ _, hi.justified, hi.numbered, hi.held⟩
  | unpaired => exact hi
  | paired hp =>
    refine ⟨hi.linked.pair hp, eachStarted_cons.mpr ⟨fun _ _ heq => (by cases heq),
      hi.justified⟩, ?_, hi.held_cons fun _ _ _ _ _ heq => (by cases heq)⟩
    intro call session' signed r n hev
    exact hi.numbered call session' signed r n (by simpa using hev)
  | unknown => exact hi
  | revoked hr =>
    refine ⟨hi.linked.revoke hr, eachStarted_cons.mpr ⟨fun _ _ heq => (by cases heq),
      hi.justified⟩, ?_, hi.held_cons fun _ _ _ _ _ heq => (by cases heq)⟩
    intro call session' signed r n hev
    exact hi.numbered call session' signed r n (by simpa using hev)
  | refused signed clock =>
    refine ⟨hi.linked, hi.justified, fun _ _ _ _ _ hev => ?_, hi.held⟩
    exact (hi.numbered _ _ _ _ _ hev).trans (Nat.lt_succ_self _)
  | admitted ha hop => exact hi.enter ha hop
  | answered hfind hscript =>
    exact hi.answer (List.mem_of_find?_eq_some hfind) hscript _ _

/-! ## 5. Whole runs -/

/-- **A dependency is only called for a lawfully admitted request**, and no code opens two
    sessions. -/
theorem started_only_admitted {deps : BridgeDeps} {d : Daemon}
    (h : Reaches (step deps) .start d) :
    EachStarted Justified d.history ∧ ∀ code, (sessionsOf d.history code).length ≤ 1 := by
  have hi : Inv deps d := h.invariant (fun _ _ _ hi hs => inv_step hi (stepped_of_step hs)) .start
  exact ⟨hi.justified, hi.linked.once⟩

/-- A session of one user that may ask the device, up to an amount without a person. -/
def walletPermissions : BridgePermissions :=
  { DENY_ALL with
    allowedProjects := ["prj_1"], allowedOperations := [.approveContextLockAction],
    allowedLedgerActionTypes := ["APPROVE_TRANSFER"], humanApprovalAboveUsdCents := .int 50000 }

/-- A daemon with a device and a person. -/
def walletDeps : BridgeDeps := ⟨false, false, false, true, true⟩

def transferPayload : Json :=
  .obj [("actionType", .str "APPROVE_TRANSFER"), ("amountUsdCents", .num (.int 60000))]

def transferRequest : BridgeRequest :=
  { protocolVersion := BRIDGE_PROTOCOL_VERSION, requestId := "request_0", bridgeId := "bridge_0",
    userId := "u1", projectId := "prj_1", operationType := "ledger.approveContextLockAction",
    payloadHash := payloadHash transferPayload, issuedAtMs := 1, expiresAtMs := 100,
    nonce := "0123456789abcdef" }

/-- The request as it is sent, signed with the key. -/
def BridgeRequest.signedBy (r : BridgeRequest) (key : Bytes) (payload : Json) :
    SignedBridgeRequest :=
  { request := .obj [("protocolVersion", .str r.protocolVersion), ("requestId", .str r.requestId),
      ("bridgeId", .str r.bridgeId), ("userId", .str r.userId), ("projectId", .str r.projectId),
      ("operationType", .str r.operationType), ("payloadHash", .str r.payloadHash),
      ("issuedAtMs", .num (.int r.issuedAtMs)), ("expiresAtMs", .num (.int r.expiresAtMs)),
      ("nonce", .str r.nonce)]
    payload, signature := sign r key }

def walletKey : Bytes := List.replicate 32 7

def walletSession : BridgeSession :=
  ⟨"bridge_0", "u1", "prj_1", walletKey, 1, 101, none, walletPermissions⟩

def signedTransfer : SignedBridgeRequest := transferRequest.signedBy walletKey transferPayload

def pairedDaemon : Daemon :=
  { bridge :=
      { codes := [⟨"C0DE", "u1", "prj_1", 101, some 1⟩]
        pairings := Map.empty.set "C0DE" 0
        opened := [walletSession]
        sessions := Map.empty.set "bridge_0" 0
        nonces := Map.empty.set "bridge_0" [] }
    waiting := [], calls := 0, history := [.paired 0 0 walletSession] }

/-- A code is made and used. -/
def pairingMoves : List Move :=
  [.createPairingCode "u1" "prj_1" 100 "C0DE" 1,
   .pair "C0DE" walletPermissions 100 "bridge_0" walletKey fun _ => 1]

theorem pairedDaemon_reached (deps : BridgeDeps) :
    execute (step deps) .start pairingMoves = some pairedDaemon := rfl

/-- The calls that lead to one waiting request. -/
def transferMoves : List Move := pairingMoves ++ [.handle signedTransfer fun _ => 1]

/-- **A request that is well formed** is read back from what is sent. -/
theorem BridgeRequest.parse_signedBy {r : BridgeRequest} (key : Bytes) (payload : Json)
    (hversion : r.protocolVersion = BRIDGE_PROTOCOL_VERSION)
    (hids : 8 ≤ textLength r.requestId ∧ 8 ≤ textLength r.bridgeId ∧ 1 ≤ textLength r.userId ∧
      1 ≤ textLength r.projectId ∧ 1 ≤ textLength r.operationType ∧ 16 ≤ textLength r.nonce)
    (hhash : digestText r.payloadHash = .ok r.payloadHash)
    (htimes : 0 < r.issuedAtMs ∧ r.issuedAtMs < 2 ^ 53 ∧ 0 < r.expiresAtMs ∧
      r.expiresAtMs < 2 ^ 53) :
    BridgeRequest.parse (r.signedBy key payload).request = .ok r := by
  obtain ⟨hq, hb, hu, hp, ho, hn⟩ := hids
  obtain ⟨hissued, hissued', hexpires, hexpires'⟩ := htimes
  have hmin : ∀ (fields : List (String × Json)) (name text : String) (n : Nat),
      textField fields name = .ok text → n ≤ textLength text →
      (textField fields name >>= minLength n) = .ok text := by
    intro fields name text n hfield hlength
    rw [hfield]
    exact if_neg (by omega)
  have htime : ∀ (fields : List (String × Json)) (name : String) (n : Int),
      fields.lookup name = some (.num (.int n)) → 0 < n → n < 2 ^ 53 →
      positiveInt fields name = .ok n := by
    intro fields name n hfield hpositive hsafe
    rw [positiveInt, hfield]
    dsimp only
    rw [if_neg (by omega), if_neg (by omega)]
  obtain ⟨fields, hfields, hv⟩ : ∃ fields, (r.signedBy key payload).request = .obj fields ∧
      literalVersion fields = .ok r.protocolVersion ∧
      textField fields "requestId" = .ok r.requestId ∧
      textField fields "bridgeId" = .ok r.bridgeId ∧ textField fields "userId" = .ok r.userId ∧
      textField fields "projectId" = .ok r.projectId ∧
      textField fields "operationType" = .ok r.operationType ∧
      textField fields "payloadHash" = .ok r.payloadHash ∧
      fields.lookup "issuedAtMs" = some (.num (.int r.issuedAtMs)) ∧
      fields.lookup "expiresAtMs" = some (.num (.int r.expiresAtMs)) ∧
      textField fields "nonce" = .ok r.nonce :=
    ⟨_, rfl, if_pos hversion, rfl, rfl, rfl, rfl, rfl, rfl, rfl, rfl, rfl⟩
  obtain ⟨hversion', hq', hb', hu', hp', ho', hh', hissued'', hexpires'', hn'⟩ := hv
  have hdigest : (textField fields "payloadHash" >>= digestText) = .ok r.payloadHash := by
    rw [hh']
    exact hhash
  rw [hfields]
  simp only [BridgeRequest.parse, hversion', hmin _ _ _ _ hq' hq, hmin _ _ _ _ hb' hb,
    hmin _ _ _ _ hu' hu, hmin _ _ _ _ hp' hp, hmin _ _ _ _ ho' ho, hdigest,
    htime _ _ _ hissued'' hissued hissued', htime _ _ _ hexpires'' hexpires hexpires',
    hmin _ _ _ _ hn' hn]

theorem transferRequest_parsed :
    BridgeRequest.parse signedTransfer.request = .ok transferRequest :=
  BridgeRequest.parse_signedBy walletKey transferPayload rfl (by decide)
    (digestText_sha256Hex _) (by decide)

theorem transfer_admitted :
    pairedDaemon.bridge.Admitted signedTransfer 1 0 walletSession transferRequest where
  parsed := transferRequest_parsed
  found := Map.get?_set_self _ _ _
  object := rfl
  unrevoked := rfl
  unexpired := by decide
  verified := signedWith_sign _ _
  user := rfl
  project := rfl
  current := by decide
  payload := rfl
  unseen := by
    have hnone : pairedDaemon.bridge.seen "bridge_0" = [] := by decide
    show transferRequest.nonce ∉ pairedDaemon.bridge.seen "bridge_0"
    rw [hnone]
    exact List.not_mem_nil

/-- What is left of the request once it is admitted. -/
def transferScript : Script Unit Effect Reply Thrown BridgeOutcome :=
  perform walletDeps walletSession .approveContextLockAction transferPayload 1 ()

/-- The daemon while the person is asked. -/
def askedDaemon : Daemon :=
  pairedDaemon.enter
    { pairedDaemon.bridge with
      nonces := pairedDaemon.bridge.nonces.set transferRequest.bridgeId
        (pairedDaemon.bridge.seen transferRequest.bridgeId ++ [transferRequest.nonce]) }
    ⟨pairedDaemon.calls, 0, signedTransfer, transferScript⟩ transferRequest 1

theorem askedDaemon_step :
    step walletDeps pairedDaemon (.handle signedTransfer fun _ => 1) = some askedDaemon := by
  have hop : BridgeOperation.ofText? transferRequest.operationType =
      some .approveContextLockAction := by decide
  exact step_of_admitted (LocalBridge.authenticate_of_admitted transfer_admitted) hop

theorem askedDaemon_reached : execute (step walletDeps) .start transferMoves = some askedDaemon := by
  rw [transferMoves, execute_append, pairedDaemon_reached, Option.bind_some, execute,
    askedDaemon_step]
  rfl

theorem transferScript_waits : ∃ e k, transferScript = .call () e k := by
  have hwaits : transferScript.ended = false := by decide
  cases hscript : transferScript with
  | ok _ _ | threw _ _ =>
    rw [hscript] at hwaits
    cases hwaits
  | call u e k => exact ⟨e, k, rfl⟩

theorem askedDaemon_eq {e : Effect} {k : Reply e → Script Unit Effect Reply Thrown BridgeOutcome}
    (h : transferScript = .call () e k) :
    askedDaemon =
      { bridge :=
          { pairedDaemon.bridge with
            nonces := pairedDaemon.bridge.nonces.set transferRequest.bridgeId
              (pairedDaemon.bridge.seen transferRequest.bridgeId ++ [transferRequest.nonce]) }
        waiting := [⟨0, 0, signedTransfer, transferScript⟩]
        calls := 1
        history := .started 0 e ::
          .admitted 0 0 signedTransfer transferRequest 1 :: pairedDaemon.history } := by
  unfold askedDaemon Daemon.enter Daemon.settle
  rw [h]
  rfl

theorem started_only_admitted_asked :
    ∃ e before, askedDaemon.history = .started 0 e :: before ∧ Justified before 0 := by
  obtain ⟨e, k, hscript⟩ := transferScript_waits
  have hhistory := congrArg Daemon.history (askedDaemon_eq hscript)
  refine ⟨e, _, hhistory, ?_⟩
  exact (started_only_admitted (reaches_of_execute askedDaemon_reached)).1 [] 0 e _ hhistory

/-! ## 6. A request that is signed -/

/-- What the sender of a request over `payload` sees to. -/
structure BridgeRequest.WellFormed (r : BridgeRequest) (payload : Json) : Prop where
  version : r.protocolVersion = BRIDGE_PROTOCOL_VERSION
  ids : 8 ≤ textLength r.requestId ∧ 8 ≤ textLength r.bridgeId ∧ 1 ≤ textLength r.userId ∧
    1 ≤ textLength r.projectId ∧ 1 ≤ textLength r.operationType ∧ 16 ≤ textLength r.nonce
  times : 0 < r.issuedAtMs ∧ r.issuedAtMs < 2 ^ 53 ∧ 0 < r.expiresAtMs ∧ r.expiresAtMs < 2 ^ 53
  hash : r.payloadHash = Bridge.payloadHash payload

/-- The move opens no session under the id. -/
def Move.spares (id : String) : Move → Bool
  | .pair _ _ _ bridgeId _ _ => bridgeId ≠ id
  | _ => true

/-- **A nonce that was seen stays seen**, while its session is not replaced. -/
theorem seen_step {deps : BridgeDeps} {d d' : Daemon} {m : Move} {id nonce : String}
    (hm : m.spares id) (h : Stepped deps d m d') (hseen : nonce ∈ d.bridge.seen id) :
    nonce ∈ d'.bridge.seen id := by
  have hsettle : ∀ (d : Daemon) w, (d.settle w).bridge = d.bridge := fun d w => by
    unfold Daemon.settle
    cases w.script <;> rfl
  cases h with
  | issued | unpaired | unknown | refused => exact hseen
  | paired hp =>
    obtain ⟨_, -, -, -, -, rfl⟩ := LocalBridge.pair_eq_ok hp
    rwa [LocalBridge.seen, Map.get?_set_ne _ _ (of_decide_eq_true hm).symm]
  | revoked hr =>
    unfold LocalBridge.revoke at hr
    split at hr <;> cases hr
    exact hseen
  | admitted ha hop =>
    obtain ⟨-, rfl⟩ := LocalBridge.authenticate_eq_ok ha
    rw [Daemon.enter, hsettle, LocalBridge.seen, Map.get?_set]
    split
    · next heq => exact List.mem_append_left _ (heq ▸ hseen)
    · exact hseen
  | answered => rwa [hsettle]

/-- **What the key's holder signs is admitted, once.** A well-formed request for a live session,
    sent signed with the session's key in its time, is admitted exactly where its nonce is new;
    and nothing with its nonce is in any later state, until a new session gets its id. -/
theorem signed_request_admitted {b : LocalBridge} {r : BridgeRequest} {payload : Json}
    {session : BridgeSession} {now i : Nat} (hr : r.WellFormed payload)
    (hfound : b.sessions.get? r.bridgeId = some i) (hobject : b.opened[i]? = some session)
    (hlive : session.revokedAtMs = none ∧ now ≤ session.expiresAtMs)
    (howner : r.userId = session.userId ∧ r.projectId = session.projectId)
    (hcurrent : now ≤ r.expiresAtMs ∧ r.issuedAtMs ≤ now + 30000) :
    ((∃ b', b.authenticate (r.signedBy session.key payload) now = .ok (b', i, session, r)) ↔
      r.nonce ∉ b.seen r.bridgeId) ∧
    ∀ b', b.authenticate (r.signedBy session.key payload) now = .ok (b', i, session, r) →
      ∀ deps d d', d.bridge = b' →
        Reaches (guarded (step deps) fun _ m => m.spares r.bridgeId) d d' →
        ∀ signed now' b'' i' session' r', r'.bridgeId = r.bridgeId → r'.nonce = r.nonce →
          d'.bridge.authenticate signed now' ≠ .ok (b'', i', session', r') := by
  have hparsed := BridgeRequest.parse_signedBy session.key payload hr.version hr.ids
    (hr.hash ▸ digestText_sha256Hex _) hr.times
  refine ⟨⟨fun ⟨b', h⟩ => (LocalBridge.authenticate_eq_ok h).1.unseen, fun hnew => ?_⟩, ?_⟩
  · exact ⟨_, LocalBridge.authenticate_of_admitted ⟨hparsed, hfound, hobject, hlive.1, hlive.2,
      signedWith_sign _ _, howner.1, howner.2, hcurrent, hr.hash.symm, hnew⟩⟩
  · intro b' h deps d d' hd hreach signed now' b'' i' session' r' hbridge hnonce h'
    obtain ⟨-, rfl⟩ := LocalBridge.authenticate_eq_ok h
    have hseen : r.nonce ∈ d.bridge.seen r.bridgeId := by
      rw [hd, LocalBridge.seen, Map.get?_set_self, Option.getD_some]
      exact List.mem_append_right _ List.mem_cons_self
    have hlater : r.nonce ∈ d'.bridge.seen r.bridgeId := hreach.invariant
      (P := fun d => r.nonce ∈ d.bridge.seen r.bridgeId) (fun _ _ _ hs hstep => by
        obtain ⟨hm, hstep⟩ := guarded_eq_some.mp hstep
        exact seen_step hm (stepped_of_step hstep) hs) hseen
    exact (LocalBridge.authenticate_eq_ok h').1.unseen (hbridge ▸ hnonce ▸ hlater)

theorem signed_request_admitted_transfer : ∃ b,
    pairedDaemon.bridge.authenticate signedTransfer 1
      = .ok (b, 0, walletSession, transferRequest) := by
  have hr : transferRequest.WellFormed transferPayload := ⟨rfl, by decide, by decide, rfl⟩
  have hfound := transfer_admitted.found
  have hobject := transfer_admitted.object
  exact (signed_request_admitted hr hfound hobject ⟨rfl, by decide⟩ ⟨rfl, rfl⟩ (by decide)).1.mpr
    transfer_admitted.unseen

end ContextLock.Bridge
