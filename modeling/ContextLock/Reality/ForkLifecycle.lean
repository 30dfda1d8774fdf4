/-
  Subject:   The fork provider: its calls, and the life of a fork.

  Every call runs up to an await and goes on with what the awaited RPC answers; other calls run in
  between, so what a call found in the descriptor of a fork may no longer be there when it goes on.
-/
import ContextLock.Js.Amount
import ContextLock.Machine.Transition
import ContextLock.Reality.Fork

namespace ContextLock.Reality.AnvilForkProvider

open Js Network Machine

/-! ## 1. Forks -/

inductive ForkReason where
  | NOT_LOCAL
  | ANCHOR_MISMATCH
  | NO_EXACT_BLOCK
  | NOT_READY
  | DESTROYED
  | LIMIT
  deriving DecidableEq

/-- What a call throws: a `ForkError`, or another error. -/
inductive Thrown where
  | fork (reason : ForkReason)
  | other
  deriving DecidableEq

/-- `FORK_LIMITS` -/
def maxConcurrentPerUser : Nat := 2
def maxLifetimeMs : Int := 30 * 60000

/-- The dependencies: the configured maximum, and whether there is a reader of upstream hashes. -/
structure AnvilDeps where
  maxConcurrentForks : Option Nat
  readUpstreamBlockHash : Bool

def AnvilDeps.maximum (deps : AnvilDeps) : Nat :=
  deps.maxConcurrentForks.getD maxConcurrentPerUser

structure ForkCreateRequest where
  sourceChainId : Int
  forkBlock : String
  sourceProviderId : String
  port : Option Nat
  lifetimeMs : Option Int

/-- A fork of the map, with the port of its endpoint. What happened to it is kept beside it:
    whether it was destroyed, the hashes read elsewhere that its block was compared with, and whether
    a transaction was sent to it once it was destroyed. -/
structure LiveFork where
  descriptor : ForkDescriptor
  port : Nat
  child : Bool
  destroyed : Bool
  independent : List String
  strayed : Bool

abbrev LiveFork.state (f : LiveFork) : ForkState := f.descriptor.state

/-- `assertLocalForkEndpoint` of `http://127.0.0.1:${port}`: a longer port makes it no URL. -/
def localEndpoint (port : Nat) : Bool := port ≤ 65535

def zeroHash : String := String.ofList ('0' :: 'x' :: List.replicate 64 '0')

/-- The fork that `create` puts into the map. -/
def LiveFork.created (req : ForkCreateRequest) (forkId : String) (port : Nat) (nowMs : Int) :
    LiveFork :=
  ⟨⟨forkId, req.sourceChainId, req.forkBlock, zeroHash, req.sourceProviderId, "unknown",
    "http://127.0.0.1:" ++ toString port, nowMs, nowMs + req.lifetimeMs.getD maxLifetimeMs,
    .CREATING⟩, port, true, false, [], false⟩

/-! ## 2. What a turn does to the forks -/

/-- A block that the fork answers; `number` is `BigInt` of its text, or throws. -/
structure Block where
  number : Option Int
  hash : String

inductive Effect where
  | nothing
  | create (f : LiveFork)
  | destroy (n : Nat)
  /-- The anchor of a fork is being verified. -/
  | verifying (n : Nat) (d : ForkDescriptor)
  /-- The handler of `verifyAnchor`: the state, and then the destruction. -/
  | fail (n : Nat) (d : ForkDescriptor) (reason : Thrown)
  /-- The fork is ready; its block was compared with the hash `expected`, unless that is empty. -/
  | ready (n : Nat) (d : ForkDescriptor) (expected : String)
  | sendTransaction (n : Nat)

/-- `destroy` -/
def LiveFork.destroy (f : LiveFork) : LiveFork :=
  { f with descriptor := { f.descriptor with state := .DESTROYED }, child := false, destroyed := true }

def LiveFork.fail (f : LiveFork) (d : ForkDescriptor) (reason : Thrown) : LiveFork :=
  { f with descriptor := { d with
      state := if reason = Thrown.fork .ANCHOR_MISMATCH then .ANCHOR_MISMATCH else .FAILED } }.destroy

/-- `f.descriptor = { ...mutable, state: "READY", .. }` -/
def LiveFork.ready (f : LiveFork) (d : ForkDescriptor) (expected : String) : LiveFork :=
  { f with
    descriptor := { d with state := .READY }
    independent := if expected = "" then f.independent
      else toLowerCase expected :: f.independent }

def LiveFork.sendTransaction (f : LiveFork) : LiveFork :=
  { f with strayed := f.strayed || f.destroyed }

def Effect.on (forks : List LiveFork) : Effect → List LiveFork
  | .nothing => forks
  | .create f => forks ++ [f]
  | .destroy n => forks.modify n .destroy
  | .verifying n d => forks.modify n fun f => { f with descriptor := d }
  | .fail n d reason => forks.modify n fun f => f.fail d reason
  | .ready n d expected => forks.modify n fun f => f.ready d expected
  | .sendTransaction n => forks.modify n .sendTransaction

/-! ## 3. The calls -/

inductive Reply where
  | fork (d : ForkDescriptor)
  | snapshot (snapshotId : String)
  | transaction (hash : String) (success : Bool)
  | reaped (forkIds : List String)
  | nothing

/-- What a call awaits; `n` is the fork that it found in the map, `d` the descriptor that it works
    with. -/
inductive Stage where
  | chainId (n : Nat) (d : ForkDescriptor) (expected : Option String)
  | block (n : Nat) (d : ForkDescriptor) (expected : Option String) (chainId : Option Int)
  | version (n : Nat) (d : ForkDescriptor) (expected : Option String) (chainId : Option Int)
      (block : Option Block)
  | upstream (n : Nat) (d : ForkDescriptor) (version : String) (block : Block)
  | snapshot
  | impersonating (n : Nat)
  | sending
  | receipt (hash : String)
  /-- The loop of `reapExpired`, at the await of a `destroy`. -/
  | reaping (nowMs : Int) (next : Nat) (reaped : List String)
  | ended (result : Except Thrown Reply)

/-- What an await comes to. A number is `BigInt` of its text, or throws. -/
inductive Answer where
  | thrown
  | number (value : Option Int)
  | block (block : Option Block)
  | text (s : String)
  | receipt (success : Option Bool)
  /-- The call's own await of something that has ended. -/
  | done

inductive Op where
  | create (req : ForkCreateRequest) (forkId : String) (nowMs : Int)
  | verifyAnchor (forkId : String) (expectedBlockHash : Option String)
  | snapshot (forkId : String)
  | execute (forkId : String) (impersonate : Bool)
  | destroy (forkId : String)
  | reapExpired (nowMs : Int)

section Calls

variable (deps : AnvilDeps) (forks : List LiveFork)

/-- `this.forks.get(forkId)` -/
def find (forkId : String) : Option Nat := forks.findIdx? (·.descriptor.forkId = forkId)

/-- `mustFind` -/
def mustFind (forkId : String) : Except Thrown (Nat × LiveFork) :=
  match (find forks forkId).bind fun n => (forks[n]?).map fun f => (n, f) with
  | none => .error (.fork .NOT_READY)
  | some (n, f) => if f.state = .DESTROYED then .error (.fork .DESTROYED) else .ok (n, f)

def withFound (forkId : String) (k : Nat → LiveFork → Effect × Stage) : Effect × Stage :=
  match mustFind forks forkId with
  | .error e => (.nothing, .ended (.error e))
  | .ok (n, f) => k n f

def create (req : ForkCreateRequest) (forkId : String) (nowMs : Int) : Effect × Stage :=
  let port := req.port.getD (8545 + forks.length)
  let f := LiveFork.created req forkId port nowMs
  if ¬ isDecimal req.forkBlock then (.nothing, .ended (.error (.fork .NO_EXACT_BLOCK)))
  -- `assertForkQuota`
  else if deps.maximum ≤ forks.countP (·.state = .READY) then
    (.nothing, .ended (.error (.fork .LIMIT)))
  else if ¬ localEndpoint port then (.nothing, .ended (.error (.fork .NOT_LOCAL)))
  else (.create f, .ended (.ok (.fork f.descriptor)))

def verifyAnchor (forkId : String) (expectedBlockHash : Option String) : Effect × Stage :=
  withFound forks forkId fun n f =>
    let mutable := { f.descriptor with state := .VERIFYING_ANCHOR }
    (.verifying n mutable, .chainId n mutable expectedBlockHash)

def snapshot (forkId : String) : Effect × Stage :=
  withFound forks forkId fun _ _ => (.nothing, .snapshot)

def execute (forkId : String) (impersonate : Bool) : Effect × Stage :=
  withFound forks forkId fun n f =>
    if f.state ≠ .READY then (.nothing, .ended (.error (.fork .NOT_READY)))
    else if ¬ localEndpoint f.port then (.nothing, .ended (.error (.fork .NOT_LOCAL)))
    else
      match assertExecutionAllowed (forkNetworkRef f.descriptor).chainId
          (forkNetworkRef f.descriptor).role .LOCAL_WRITE with
      | .error _ => (.nothing, .ended (.error .other))
      | .ok _ =>
        if impersonate then (.nothing, .impersonating n) else (.sendTransaction n, .sending)

def destroy (forkId : String) : Effect × Stage :=
  match find forks forkId with
  | none => (.nothing, .ended (.ok .nothing))
  | some n => (.destroy n, .ended (.ok .nothing))

/-- The loop of `reapExpired` from the `next`th fork, up to the await of a `destroy`. -/
def reapFrom (nowMs : Int) (next : Nat) (reaped : List String) : Effect × Stage :=
  match (forks.drop next).findIdx? fun f =>
      f.state ≠ .DESTROYED && nowMs > f.descriptor.expiresAtMs with
  | none => (.nothing, .ended (.ok (.reaped reaped)))
  | some k => (.destroy (next + k),
      .reaping nowMs (next + k + 1) (reaped ++ (forks[next + k]?.map (·.descriptor.forkId)).toList))

def begin : Op → Effect × Stage
  | .create req forkId nowMs => create deps forks req forkId nowMs
  | .verifyAnchor forkId expectedBlockHash => verifyAnchor forks forkId expectedBlockHash
  | .snapshot forkId => snapshot forks forkId
  | .execute forkId impersonate => execute forks forkId impersonate
  | .destroy forkId => destroy forks forkId
  | .reapExpired nowMs => reapFrom forks nowMs 0 []

/-- What `verifyAnchor` throws into its own handler. -/
def failed (n : Nat) (d : ForkDescriptor) (e : Thrown) : Effect × Stage :=
  (.fail n d e, .ended (.error e))

/-- The comparison; no hash, and an empty one, are not compared. -/
def compare (n : Nat) (d : ForkDescriptor) (version : String) (block : Block)
    (expected : String) : Effect × Stage :=
  if expected ≠ "" ∧ toLowerCase expected ≠ toLowerCase block.hash then
    failed n d (.fork .ANCHOR_MISMATCH)
  else
    let d := { d with
      state := .READY, forkBlockHash := toLowerCase block.hash, anvilVersion := version }
    (.ready n d expected, .ended (.ok (.fork d)))

/-- `verifyAnchor` once the fork has answered. -/
def answered (n : Nat) (d : ForkDescriptor) (expected : Option String) (chainId : Option Int)
    (block : Option Block) (version : String) : Effect × Stage :=
  match block, chainId with
  | none, _ => failed n d (.fork .ANCHOR_MISMATCH)
  | some _, none => failed n d .other
  | some block, some chainId =>
    if chainId ≠ 31337 then failed n d (.fork .ANCHOR_MISMATCH)
    else
      match block.number with
      | none => failed n d .other
      | some number =>
        if number ≠ decimalValue d.forkBlock then failed n d (.fork .ANCHOR_MISMATCH)
        else
          match expected with
          | some expected => compare n d version block expected
          | none =>
            if deps.readUpstreamBlockHash then (.nothing, .upstream n d version block)
            else compare n d version block ""

/-- A call goes on with an answer. -/
def resumed : Stage → Answer → Option (Effect × Stage)
  | .chainId n d expected, .number chainId => some (.nothing, .block n d expected chainId)
  | .chainId n d _, .thrown => some (failed n d .other)
  | .block n d expected chainId, .block block => some (.nothing, .version n d expected chainId block)
  | .block n d _ _, .thrown => some (failed n d .other)
  | .version n d expected chainId block, .text version =>
    some (answered deps n d expected chainId block version)
  | .version n d expected chainId block, .thrown =>
    some (answered deps n d expected chainId block "anvil/unknown")
  | .upstream n d version block, .text hash => some (compare n d version block hash)
  | .upstream n d _ _, .thrown => some (failed n d .other)
  | .snapshot, .text snapshotId => some (.nothing, .ended (.ok (.snapshot snapshotId)))
  | .impersonating n, .done => some (.sendTransaction n, .sending)
  | .sending, .text hash => some (.nothing, .receipt hash)
  | .receipt hash, .receipt (some success) =>
    some (.nothing, .ended (.ok (.transaction hash success)))
  | .receipt _, .receipt none => some (.nothing, .ended (.error (.fork .NOT_READY)))
  | .snapshot, .thrown | .impersonating _, .thrown | .sending, .thrown | .receipt _, .thrown =>
    some (.nothing, .ended (.error .other))
  | .reaping nowMs next reaped, .done => some (reapFrom forks nowMs next reaped)
  | _, _ => none

end Calls

/-! ## 4. Any order of calls and answers -/

structure Provider where
  forks : List LiveFork
  calls : List Stage

def Provider.start : Provider := ⟨[], []⟩

inductive Action where
  | call (op : Op)
  | goOn (i : Nat) (answer : Answer)

section Steps

variable (deps : AnvilDeps)

/-- The id of a new fork is random. -/
def Op.fresh (forks : List LiveFork) : Op → Bool
  | .create _ forkId _ => (find forks forkId).isNone
  | _ => true

/-- What an action does to the forks, and to the calls. -/
def effect (s : Provider) : Action → Option (Effect × List Stage)
  | .call op =>
    if op.fresh s.forks then
      some ((begin deps s.forks op).1, s.calls ++ [(begin deps s.forks op).2])
    else none
  | .goOn i answer =>
    ((s.calls[i]?).bind fun stage => resumed deps s.forks stage answer).map fun turn =>
      (turn.1, s.calls.set i turn.2)

def step (s : Provider) (a : Action) : Option Provider :=
  (effect deps s a).map fun turn => ⟨turn.1.on s.forks, turn.2⟩

end Steps

/-! ## 5. The law and the condition -/

/-- A destroyed fork stays destroyed and is sent no transaction, and the hash of a ready one's block
    is one that was read elsewhere. -/
structure LiveFork.Lawful (f : LiveFork) : Prop where
  terminal : f.destroyed = true → f.state = .DESTROYED
  silent : f.strayed = false
  compared : f.state = .READY → f.descriptor.forkBlockHash ∈ f.independent

/-- **The law of the provider**: of every fork, and no more than the maximum are created and not
    destroyed. -/
structure Lawful (deps : AnvilDeps) (s : Provider) : Prop where
  forks : ∀ f ∈ s.forks, f.Lawful
  bounded : s.forks.countP (!·.destroyed) ≤ deps.maximum

/-- A fork that is created comes while fewer than the maximum are not destroyed. One becomes ready
    only while it is not destroyed, and its hash is compared or was before. A transaction goes to a
    fork that is not destroyed. -/
def Effect.meets (deps : AnvilDeps) (forks : List LiveFork) : Effect → Bool
  | .create _ => forks.countP (!·.destroyed) < deps.maximum
  | .ready n d expected =>
    match forks[n]? with
    | some f => !f.destroyed && (expected ≠ "" || f.independent.contains d.forkBlockHash)
    | none => true
  | .sendTransaction n =>
    match forks[n]? with
    | some f => !f.destroyed
    | none => true
  | _ => true

/-- **The condition on a turn**, in the state before it. -/
def Meets (deps : AnvilDeps) (s : Provider) (a : Action) : Bool :=
  match effect deps s a with
  | some (effect, _) => effect.meets deps s.forks
  | none => true

/-- What runs that meet the condition keep beside the law. -/
structure LiveFork.Sound (f : LiveFork) : Prop extends f.Lawful where
  marked : f.state = .DESTROYED → f.destroyed = true

/-- What an effect is about: a new fork, an anchor that a fork alive is verified for, and a hash that
    compared equal. -/
def Effect.Fits (forks : List LiveFork) : Effect → Prop
  | .create f => ∃ req forkId port nowMs, f = .created req forkId port nowMs
  | .verifying n d => d.state = .VERIFYING_ANCHOR ∧ ∃ f, forks[n]? = some f ∧ f.state ≠ .DESTROYED
  | .ready _ d expected => expected ≠ "" → toLowerCase expected = d.forkBlockHash
  | _ => True

/-! ## 6. What the calls do -/

section Calls

variable {deps : AnvilDeps} {forks : List LiveFork} {n : Nat} {d : ForkDescriptor}

theorem mustFind_eq_ok {forkId : String} {f : LiveFork} (h : mustFind forks forkId = .ok (n, f)) :
    forks[n]? = some f ∧ f.state ≠ .DESTROYED := by
  unfold mustFind at h
  split at h
  · cases h
  · rename_i m g hfound
    split at h
    · cases h
    · rename_i halive
      obtain ⟨k, -, hk⟩ := Option.bind_eq_some_iff.mp hfound
      obtain ⟨e, he, hpair⟩ := Option.map_eq_some_iff.mp hk
      cases hpair
      cases h
      exact ⟨he, halive⟩

theorem fits_withFound {forkId : String} {k : Nat → LiveFork → Effect × Stage}
    (h : ∀ n f, forks[n]? = some f → f.state ≠ .DESTROYED → (k n f).1.Fits forks) :
    (withFound forks forkId k).1.Fits forks := by
  unfold withFound
  split
  · exact trivial
  · rename_i n f hfound
    obtain ⟨hn, halive⟩ := mustFind_eq_ok hfound
    exact h n f hn halive

theorem fits_reapFrom (nowMs : Int) (next : Nat) (reaped : List String) :
    (reapFrom forks nowMs next reaped).1.Fits forks := by
  unfold reapFrom
  split
  · exact trivial
  · exact trivial

theorem fits_begin (op : Op) : (begin deps forks op).1.Fits forks := by
  cases op with
  | create req forkId nowMs =>
    simp only [begin, create]
    split
    · exact trivial
    · split
      · exact trivial
      · split
        · exact trivial
        · exact ⟨req, forkId, _, nowMs, rfl⟩
  | verifyAnchor forkId expectedBlockHash =>
    exact fits_withFound fun n f hn halive => ⟨rfl, f, hn, halive⟩
  | snapshot forkId => exact fits_withFound fun n f hn halive => trivial
  | execute forkId impersonate =>
    refine fits_withFound fun n f hn halive => ?_
    split
    · exact trivial
    · split
      · exact trivial
      · split
        · exact trivial
        · split
          · exact trivial
          · exact trivial
  | destroy forkId =>
    simp only [begin, destroy]
    split
    · exact trivial
    · exact trivial
  | reapExpired nowMs => exact fits_reapFrom nowMs 0 []

theorem fits_compare {version : String} {block : Block} {expected : String} :
    (compare n d version block expected).1.Fits forks := by
  unfold compare
  split
  · exact trivial
  · rename_i hequal
    intro hexpected
    rw [not_and, not_not] at hequal
    exact hequal hexpected

theorem fits_answered {expected : Option String} {chainId : Option Int} {block : Option Block}
    {version : String} : (answered deps n d expected chainId block version).1.Fits forks := by
  unfold answered
  split
  · exact trivial
  · exact trivial
  · split
    · exact trivial
    · split
      · exact trivial
      · split
        · exact trivial
        · split
          · exact fits_compare
          · split
            · exact trivial
            · exact fits_compare

theorem fits_resumed {stage : Stage} {answer : Answer} {turn : Effect × Stage}
    (h : resumed deps forks stage answer = some turn) : turn.1.Fits forks := by
  unfold resumed at h
  split at h
  case h_5 | h_6 =>
    rw [← Option.some.inj h]
    exact fits_answered
  case h_7 =>
    rw [← Option.some.inj h]
    exact fits_compare
  case h_18 =>
    rw [← Option.some.inj h]
    exact fits_reapFrom _ _ _
  case h_19 => cases h
  all_goals
    rw [← Option.some.inj h]
    exact trivial

end Calls

/-! ## 7. One turn -/

section Turns

variable {deps : AnvilDeps} {forks : List LiveFork} {f : LiveFork} {n : Nat} {d : ForkDescriptor}

theorem forall_modify {P : LiveFork → Prop} {g : LiveFork → LiveFork} (h : ∀ f ∈ forks, P f)
    (hg : ∀ f, forks[n]? = some f → P (g f)) : ∀ f ∈ forks.modify n g, P f := by
  intro f hf
  obtain ⟨i, hi⟩ := List.mem_iff_getElem?.mp hf
  rw [List.getElem?_modify] at hi
  obtain ⟨e, he, hfe⟩ := Option.map_eq_some_iff.mp hi
  by_cases hni : n = i
  · rw [if_pos hni] at hfe
    rw [← hfe]
    exact hg e (hni ▸ he)
  · rw [if_neg hni] at hfe
    rw [← hfe]
    exact h e (List.mem_of_getElem? he)

theorem countP_modify_le {g : LiveFork → LiveFork}
    (hg : ∀ f, f.destroyed = true → (g f).destroyed = true) :
    (forks.modify n g).countP (!·.destroyed) ≤ forks.countP (!·.destroyed) := by
  induction forks generalizing n with
  | nil => simp
  | cons f fs ih =>
    cases n with
    | zero =>
      rw [List.modify_zero_cons, List.countP_cons, List.countP_cons]
      cases hf : f.destroyed with
      | true => simp [hg f hf]
      | false => split <;> simp
    | succ n =>
      rw [List.modify_succ_cons, List.countP_cons, List.countP_cons]
      exact Nat.add_le_add_right ih _

theorem sound_created (req : ForkCreateRequest) (forkId : String) (port : Nat) (nowMs : Int) :
    (LiveFork.created req forkId port nowMs).Sound := by
  refine ⟨⟨fun h => ?_, rfl, fun h => ?_⟩, fun h => ?_⟩ <;> cases h

theorem sound_destroy (h : f.Sound) : f.destroy.Sound :=
  ⟨⟨fun _ => rfl, h.silent, fun h => by cases h⟩, fun _ => rfl⟩

/-- **An effect that meets the condition** keeps the forks sound. -/
theorem sound_effect {e : Effect} (h : ∀ f ∈ forks, f.Sound) (hfits : e.Fits forks)
    (hmeets : e.meets deps forks = true) : ∀ f ∈ e.on forks, f.Sound := by
  cases e with
  | nothing => exact h
  | create f =>
    obtain ⟨req, forkId, port, nowMs, rfl⟩ := hfits
    intro g hg
    rcases List.mem_append.mp hg with hmem | hnew
    · exact h g hmem
    · rw [List.mem_singleton.mp hnew]
      exact sound_created req forkId port nowMs
  | destroy n =>
    exact forall_modify h fun f hf => sound_destroy (h f (List.mem_of_getElem? hf))
  | verifying n d =>
    obtain ⟨hstate, g, hg, halive⟩ := hfits
    refine forall_modify h fun f hf => ?_
    rw [hg, Option.some.injEq] at hf
    subst hf
    have hsound := h g (List.mem_of_getElem? hg)
    refine ⟨⟨fun hdestroyed => absurd (hsound.terminal hdestroyed) halive, hsound.silent,
      fun hready => ?_⟩, fun hend => ?_⟩
    · rw [LiveFork.state, hstate] at hready
      cases hready
    · rw [LiveFork.state, hstate] at hend
      cases hend
  | fail n d reason =>
    refine forall_modify h fun f hf => ?_
    have hsound := h f (List.mem_of_getElem? hf)
    exact ⟨⟨fun _ => rfl, hsound.silent, fun hready => by cases hready⟩, fun _ => rfl⟩
  | ready n d expected =>
    refine forall_modify h fun f hf => ?_
    have hsound := h f (List.mem_of_getElem? hf)
    rw [Effect.meets, hf] at hmeets
    rw [Bool.and_eq_true, Bool.not_eq_true', Bool.or_eq_true, decide_eq_true_eq,
      List.contains_iff_mem] at hmeets
    obtain ⟨halive, hcompared⟩ := hmeets
    refine ⟨⟨fun hdestroyed => ?_, hsound.silent, fun _ => ?_⟩, fun hend => by cases hend⟩
    · rw [LiveFork.ready, halive] at hdestroyed
      cases hdestroyed
    · show d.forkBlockHash ∈ if expected = "" then f.independent
        else toLowerCase expected :: f.independent
      by_cases hempty : expected = ""
      · rw [if_pos hempty]
        exact hcompared.resolve_left (not_not_intro hempty)
      · rw [if_neg hempty, hfits hempty]
        exact List.mem_cons_self
  | sendTransaction n =>
    refine forall_modify h fun f hf => ?_
    have hsound := h f (List.mem_of_getElem? hf)
    rw [Effect.meets, hf] at hmeets
    refine ⟨⟨hsound.terminal, ?_, hsound.compared⟩, hsound.marked⟩
    show (f.strayed || f.destroyed) = false
    rw [hsound.silent, (Bool.not_eq_true' _).mp hmeets]
    rfl

theorem bounded_effect {e : Effect} (h : forks.countP (!·.destroyed) ≤ deps.maximum)
    (hfits : e.Fits forks) (hmeets : e.meets deps forks = true) :
    (e.on forks).countP (!·.destroyed) ≤ deps.maximum := by
  cases e with
  | nothing => exact h
  | create f =>
    obtain ⟨req, forkId, port, nowMs, rfl⟩ := hfits
    have hroom : forks.countP (!·.destroyed) < deps.maximum := of_decide_eq_true hmeets
    show (forks ++ [LiveFork.created req forkId port nowMs]).countP (!·.destroyed) ≤ deps.maximum
    rw [List.countP_append]
    exact hroom
  | destroy n | fail n d reason => exact (countP_modify_le fun _ _ => rfl).trans h
  | verifying n d =>
    exact (countP_modify_le (g := fun f => { f with descriptor := d }) fun _ hf => hf).trans h
  | ready n d expected =>
    exact (countP_modify_le (g := fun f => f.ready d expected) fun _ hf => hf).trans h
  | sendTransaction n => exact (countP_modify_le (g := .sendTransaction) fun _ hf => hf).trans h

end Turns

/-! ## 8. Every run -/

section Runs

variable {deps : AnvilDeps} {s s' : Provider} {a : Action}

theorem step_eq_some (h : step deps s a = some s') : ∃ e calls, effect deps s a = some (e, calls) ∧
    e.Fits s.forks ∧ s'.forks = e.on s.forks := by
  obtain ⟨turn, hturn, hs'⟩ := Option.map_eq_some_iff.mp h
  refine ⟨turn.1, turn.2, hturn, ?_, congrArg Provider.forks hs'.symm⟩
  cases a with
  | call op =>
    rw [effect] at hturn
    split at hturn
    · rw [← Option.some.inj hturn]
      exact fits_begin op
    · cases hturn
  | goOn i answer =>
    obtain ⟨t, ht, htwo⟩ := Option.map_eq_some_iff.mp hturn
    obtain ⟨stage, -, hresumed⟩ := Option.bind_eq_some_iff.mp ht
    rw [← htwo]
    exact fits_resumed hresumed

/-- What runs that meet the condition keep. -/
structure Sound (deps : AnvilDeps) (s : Provider) : Prop where
  forks : ∀ f ∈ s.forks, f.Sound
  bounded : s.forks.countP (!·.destroyed) ≤ deps.maximum

theorem Sound.lawful (h : Sound deps s) : Lawful deps s :=
  ⟨fun f hf => (h.forks f hf).toLawful, h.bounded⟩

theorem sound_step (h : Sound deps s) (hmeets : Meets deps s a = true)
    (hstep : step deps s a = some s') : Sound deps s' := by
  obtain ⟨e, calls, heffect, hfits, hforks⟩ := step_eq_some hstep
  unfold Meets at hmeets
  rw [heffect] at hmeets
  constructor
  · rw [hforks]
    exact sound_effect h.forks hfits hmeets
  · rw [hforks]
    exact bounded_effect h.bounded hfits hmeets

end Runs

/-- The fork answers to the `i`th call, which verifies it. -/
def answers (i : Nat) : List Action :=
  [.goOn i (.number (some 31337)), .goOn i (.block (some ⟨some 100, "0xAA"⟩)),
    .goOn i (.text "anvil 1.2.3")]

/-- What the law is about. -/
def LiveFork.seen (f : LiveFork) : ForkState × Bool × Bool × List String :=
  (f.state, f.destroyed, f.strayed, f.independent)

end ContextLock.Reality.AnvilForkProvider
