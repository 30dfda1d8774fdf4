/-
  Subject:   The model budget of a build: reservations before the calls, usage after them.

  A call reserves one request, an estimate of its input and a fixed amount of output. When it is
  answered the reservation is settled, and the usage that is reported takes its place, whatever it
  is; when it fails the reservation is released, whatever the attempts have used up. So the budget
  holds where what is reported fits into what is left of it, and a failed attempt used nothing.
-/
import Mathlib.Algebra.BigOperators.Group.List.Basic
import Mathlib.Data.List.Infix
import ContextLock.Js.Sha256
import ContextLock.Machine.Owned
import ContextLock.Studio.Pipeline

namespace ContextLock.Studio.Budget

open Machine

/-! ## 1. Rows -/

/-- The limits on builds and on their model calls. -/
structure StudioQuotaPolicy where
  newBuildsPerRollingDay : Option Nat
  concurrentBuilds : Nat
  modelRequestsPerBuild : Nat
  inputTokensPerBuild : Nat
  outputTokensPerBuild : Nat
  reservedOutputTokensPerRequest : Nat

def STANDARD_QUOTA : StudioQuotaPolicy := ⟨none, 1, 60, 600000, 100000, 4000⟩

/-- What a run of the SDK reports. -/
structure Usage where
  requests : Nat
  inputTokens : Nat
  outputTokens : Nat
  totalTokens : Nat
  deriving DecidableEq

def Usage.zero : Usage := ⟨0, 0, 0, 0⟩

def Usage.add (u v : Usage) : Usage :=
  ⟨u.requests + v.requests, u.inputTokens + v.inputTokens, u.outputTokens + v.outputTokens,
    u.totalTokens + v.totalTokens⟩

def Usage.sum : List Usage → Usage
  | [] => .zero
  | u :: us => u.add (sum us)

inductive ReservationState where
  | HELD
  | SETTLED
  | RELEASED
  deriving DecidableEq

/-- A row of `studio_usage_reservations`. Its id is its place. -/
structure Reservation where
  role : ModelRole
  inputTokens : Nat
  outputTokens : Nat
  state : ReservationState

/-- A row of `studio_usage`. -/
structure UsageRow where
  role : ModelRole
  usage : Usage

/-- The rows of a build that its model calls touch, and the usage the provider was asked for. -/
structure Account where
  status : BuildStatus
  failureReason : Option String
  usage : List UsageRow
  reservations : List Reservation
  consumed : List Usage

def Account.new : Account := ⟨.RUNNING, none, [], [], []⟩

/-- What is limited. -/
inductive Resource where
  | requests
  | inputTokens
  | outputTokens
  deriving DecidableEq

def Resource.kind : Resource → QuotaKind
  | requests => .MODEL_REQUESTS
  | inputTokens => .INPUT_TOKENS
  | outputTokens => .OUTPUT_TOKENS

def Usage.of (u : Usage) : Resource → Nat
  | .requests => u.requests
  | .inputTokens => u.inputTokens
  | .outputTokens => u.outputTokens

def Reservation.of (r : Reservation) : Resource → Nat
  | .requests => 1
  | .inputTokens => r.inputTokens
  | .outputTokens => r.outputTokens

/-- What a reservation takes from the budget. -/
def Reservation.held (r : Reservation) (x : Resource) : Nat :=
  if r.state = .HELD then r.of x else 0

def StudioQuotaPolicy.limit (policy : StudioQuotaPolicy) : Resource → Nat
  | .requests => policy.modelRequestsPerBuild
  | .inputTokens => policy.inputTokensPerBuild
  | .outputTokens => policy.outputTokensPerBuild

def Account.settled (a : Account) (x : Resource) : Nat := (a.usage.map (·.usage.of x)).sum

def Account.held (a : Account) (x : Resource) : Nat := (a.reservations.map (·.held x)).sum

def totals (a : Account) (x : Resource) : Nat := a.settled x + a.held x

/-! ## 2. The calls -/

def reservation (policy : StudioQuotaPolicy) (role : ModelRole) (estimatedInputTokens : Nat) :
    Reservation :=
  ⟨role, estimatedInputTokens, policy.reservedOutputTokensPerRequest, .HELD⟩

/-- The first limit that a request would pass. -/
def exceeded (policy : StudioQuotaPolicy) (a : Account) (r : Reservation) : Option QuotaExceeded :=
  [Resource.requests, .inputTokens, .outputTokens].findSome? fun x =>
    if policy.limit x < totals a x + r.of x then some ⟨x.kind, totals a x, policy.limit x⟩ else none

inductive SdkAsk where
  /-- `run(agent, input)`. -/
  | run (role : ModelRole)
  | sleep (ms : Nat)

/-- A run that threw, and what it had used up. -/
structure SdkFailure where
  message : String
  consumed : Usage

/-- A run that ended, and the usage it reports. -/
structure AgentRunResult (Out : Type) where
  output : Out
  usage : Usage

def SdkAnswer (Out : Type) : SdkAsk → Type
  | .run _ => Except SdkFailure (AgentRunResult Out)
  | .sleep _ => Unit

inductive CallError where
  | quotaExceeded (e : QuotaExceeded)
  | upstreamRateLimit (attempts : Nat)
  | thrown (message : String)

variable {Out α : Type}

abbrev ModelJob (Out : Type) : Type → Type := Thread Account SdkAsk (SdkAnswer Out) CallError

/-- The budget of one request, or its refusal, in one transaction. -/
def reserve (policy : StudioQuotaPolicy) (role : ModelRole) (estimatedInputTokens : Nat) :
    ModelJob Out Nat := do
  let a ← Thread.read
  let r := reservation policy role estimatedInputTokens
  match exceeded policy a r with
  | some e => .threw (.quotaExceeded e)
  | none =>
    Thread.update fun a => { a with reservations := a.reservations ++ [r] }
    pure a.reservations.length

def Account.setReservation (a : Account) (id : Nat) (state : ReservationState) : Account :=
  { a with reservations := a.reservations.modify id fun r => { r with state := state } }

/-- The reservation, replaced by the usage of the SDK. -/
def settle (id : Nat) (role : ModelRole) (usage : Usage) : ModelJob Out Unit :=
  Thread.update fun a =>
    { a.setReservation id .SETTLED with usage := a.usage ++ [⟨role, usage⟩] }

def releaseReservation (id : Nat) : ModelJob Out Unit :=
  Thread.update fun a => a.setReservation id .RELEASED

def setStatus (status : BuildStatus) (reason : String) : ModelJob Out Unit :=
  Thread.update fun a => { a with status := status, failureReason := some reason }

/-- The usage of a run, as the provider counts it. -/
def note (usage : Usage) : ModelJob Out Unit :=
  Thread.update fun a => { a with consumed := a.consumed ++ [usage] }

/-- `/429|rate limit|too many requests/i`. -/
def isRateLimit (message : String) : Bool :=
  ["429", "rate limit", "too many requests"].any fun text =>
    decide (text.toList <:+: message.toLower.toList)

def maxRetries : Nat := 3

/-- What is thrown when no attempt is left. -/
def giveUp (e : SdkFailure) : ModelJob Out α :=
  if isRateLimit e.message then .threw (.upstreamRateLimit (maxRetries + 1))
  else .threw (.thrown e.message)

/-- The attempts of a run, of which `left` may still follow the next. -/
def attempts (role : ModelRole) : Nat → ModelJob Out (AgentRunResult Out)
  | 0 => do
    match ← (Thread.ask (SdkAsk.run role) : ModelJob Out (Except SdkFailure (AgentRunResult Out))) with
    | .ok r =>
      note r.usage
      pure r
    | .error e =>
      note e.consumed
      giveUp e
  | left + 1 => do
    match ← (Thread.ask (SdkAsk.run role) : ModelJob Out (Except SdkFailure (AgentRunResult Out))) with
    | .ok r =>
      note r.usage
      pure r
    | .error e =>
      note e.consumed
      if isRateLimit e.message then
        let _ ← (Thread.ask (SdkAsk.sleep (min (2 ^ (maxRetries - (left + 1)) * 500) 8000)) :
          ModelJob Out Unit)
        attempts role left
      else giveUp e

def runAgentInternal (role : ModelRole) : ModelJob Out (AgentRunResult Out) :=
  attempts role maxRetries

def estimatedInput (input : String) : Nat := ((Js.codeUnits input).length + 2) / 3

def underReservation (id : Nat) (role : ModelRole) (fn : ModelJob Out (AgentRunResult Out)) :
    ModelJob Out Out := do
  let result ← Thread.attempt (fn.bind fun r => (settle id role r.usage).bind fun _ => .ok r.output)
  match result with
  | .ok output => pure output
  | .error e =>
    releaseReservation id
    match e with
    | .upstreamRateLimit n =>
      setStatus .BUILD_PAUSED_UPSTREAM_LIMIT (upstreamMessage n)
      .threw (.upstreamRateLimit n)
    | e => .threw e

def callModel (policy : StudioQuotaPolicy) (role : ModelRole) (input : String)
    (fn : ModelJob Out (AgentRunResult Out)) : ModelJob Out Out := do
  match ← Thread.attempt (reserve policy role (estimatedInput input)) with
  | .ok id => underReservation id role fn
  | .error (.quotaExceeded e) =>
    setStatus .BUILD_LIMIT_REACHED e.message
    .threw (.quotaExceeded e)
  | .error e => .threw e

structure ModelCall where
  role : ModelRole
  input : String

abbrev ModelCalls (Out : Type) := Pool Account SdkAsk (SdkAnswer Out) CallError Out ModelCall

abbrev ModelTurn (Out : Type) := Turn (SdkAnswer Out) ModelCall

/-- Every call of the SDK is awaited. -/
def instant : SdkAsk → Bool := fun _ => false

def ModelCalls.step (policy : StudioQuotaPolicy) : ModelCalls Out → ModelTurn Out →
    Option (ModelCalls Out) :=
  Pool.step instant fun c => callModel policy c.role c.input (runAgentInternal c.role)

/-! ## 3. Sums of rows -/

theorem Usage.sum_concat (us : List Usage) (u : Usage) :
    Usage.sum (us ++ [u]) = (Usage.sum us).add u := by
  induction us with
  | nil => simp [Usage.sum, Usage.add, Usage.zero]
  | cons v us ih => simp [Usage.sum, Usage.add, ih, Nat.add_assoc]

theorem Usage.add_zero (u : Usage) : u.add .zero = u := rfl

theorem sum_map_modify {γ : Type} {f : γ → Nat} {g : γ → γ} {l : List γ} {i : Nat} {c : γ}
    (h : l[i]? = some c) :
    ((l.modify i g).map f).sum + f c = (l.map f).sum + f (g c) := by
  induction l generalizing i with
  | nil => cases h
  | cons d l ih =>
    cases i with
    | zero =>
      have hc : d = c := Option.some.inj h
      simp only [List.modify_zero_cons, List.map_cons, List.sum_cons, hc]
      omega
    | succ i =>
      have hrest := ih (i := i) h
      simp only [List.modify_succ_cons, List.map_cons, List.sum_cons]
      omega

theorem held_setReservation {a : Account} {id : Nat} {r : Reservation} (state : ReservationState)
    (h : a.reservations[id]? = some r) (hheld : r.state = .HELD) (hstate : state ≠ .HELD)
    (x : Resource) : (a.setReservation id state).held x + r.of x = a.held x := by
  have hsum := sum_map_modify (f := (·.held x)) (g := fun r => { r with state := state }) h
  have hbefore : r.held x = r.of x := if_pos hheld
  have hafter : Reservation.held { r with state := state } x = 0 := if_neg hstate
  rw [hbefore, hafter] at hsum
  exact hsum

theorem exceeded_eq_none {policy : StudioQuotaPolicy} {a : Account} {r : Reservation} :
    exceeded policy a r = none ↔ ∀ x, totals a x + r.of x ≤ policy.limit x := by
  unfold exceeded
  constructor
  · intro h x
    have hx : x ∈ [Resource.requests, .inputTokens, .outputTokens] := by cases x <;> decide
    have hnone := List.findSome?_eq_none_iff.mp h x hx
    by_cases hlt : policy.limit x < totals a x + r.of x
    · rw [if_pos hlt] at hnone
      cases hnone
    · omega
  · intro h
    refine List.findSome?_eq_none_iff.mpr fun x _ => if_neg ?_
    have := h x
    omega

/-! ## 4. The turns of a call -/

/-- What follows a failed attempt. -/
def afterFailure (role : ModelRole) (e : SdkFailure) : Nat → ModelJob Out (AgentRunResult Out)
  | 0 => giveUp e
  | left + 1 =>
    if isRateLimit e.message then
      (Thread.ask (SdkAsk.sleep (min (2 ^ (maxRetries - (left + 1)) * 500) 8000)) :
        ModelJob Out Unit).bind fun _ => attempts role left
    else giveUp e

def answeredRun (role : ModelRole) (left : Nat) :
    Except SdkFailure (AgentRunResult Out) → ModelJob Out (AgentRunResult Out)
  | .ok r => (note r.usage).bind fun _ => .ok r
  | .error e => (note e.consumed).bind fun _ => afterFailure role e left

/-- A thread that awaits a run of the SDK, or its next attempt. -/
inductive Waits (role : ModelRole) (id : Nat) : ModelJob Out Out → Prop where
  | running (left : Nat) : Waits role id
      (.call (.run role) fun r => underReservation id role (answeredRun role left r))
  | sleeping (ms left : Nat) : Waits role id
      (.call (.sleep ms) fun _ => underReservation id role (attempts role left))

section Turns

variable {role : ModelRole} {id left : Nat} {o : Thread.Oracle (SdkAnswer Out)} {n : Nat} {a : Account}

theorem attempts_eq : (attempts role left : ModelJob Out (AgentRunResult Out)) =
    .call (.run role) (answeredRun role left) := by
  cases left with
  | zero | succ left =>
    refine congrArg (Thread.call (SdkAsk.run role)) (funext fun r => ?_)
    cases r <;> rfl

theorem settle_attempts :
    (underReservation id role (attempts role left) : ModelJob Out Out).settle instant o n a =
      (.call (.run role) fun r => underReservation id role (answeredRun role left r), a) := by
  rw [attempts_eq]
  rfl

/-- The account after an answer that reports its usage. -/
def Account.charged (a : Account) (id : Nat) (role : ModelRole) (usage : Usage) : Account :=
  { a.setReservation id .SETTLED with
    usage := a.usage ++ [⟨role, usage⟩]
    consumed := a.consumed ++ [usage] }

theorem settle_ok (r : AgentRunResult Out) :
    (underReservation id role (answeredRun role left (.ok r))).settle instant o n a =
      (.ok r.output, a.charged id role r.usage) := by
  cases left <;> rfl

theorem afterFailure_cases (Out : Type) (role : ModelRole) (e : SdkFailure) (left : Nat) :
    (afterFailure role e left : ModelJob Out _) = giveUp e ∨
      ∃ ms left', (afterFailure role e left : ModelJob Out _) =
        .call (.sleep ms) fun _ => attempts role left' := by
  cases left with
  | zero => exact .inl rfl
  | succ left =>
    by_cases hlimit : isRateLimit e.message = true
    · exact .inr ⟨_, left, if_pos hlimit⟩
    · exact .inl (if_neg hlimit)

def Account.failed (a : Account) (usage : Usage) : Account :=
  { a with consumed := a.consumed ++ [usage] }

/-- **A failed attempt** is followed by another, or its reservation is released. -/
theorem settle_error (role : ModelRole) (id left : Nat) (o : Thread.Oracle (SdkAnswer Out)) (n : Nat)
    (a : Account) (e : SdkFailure) :
    (∃ ms left', (underReservation id role (answeredRun role left (.error e)) :
        ModelJob Out Out).settle instant o n a =
      (.call (.sleep ms) fun _ => underReservation id role (attempts role left'),
        a.failed e.consumed)) ∨
    ∃ thrown status reason, (underReservation id role (answeredRun role left (.error e)) :
        ModelJob Out Out).settle instant o n a =
      (.threw thrown, { (a.failed e.consumed).setReservation id .RELEASED with
        status := status, failureReason := reason }) := by
  unfold answeredRun
  rcases afterFailure_cases Out role e left with hlast | ⟨ms, left', hnext⟩
  · simp only [hlast, giveUp]
    by_cases hlimit : isRateLimit e.message = true
    · rw [if_pos hlimit]
      exact .inr ⟨_, _, _, rfl⟩
    · rw [if_neg hlimit]
      exact .inr ⟨_, _, _, rfl⟩
  · simp only [hnext]
    exact .inl ⟨ms, left', rfl⟩

def Account.reserved (a : Account) (r : Reservation) : Account :=
  { a with reservations := a.reservations ++ [r] }

def reserving (r : Reservation) (id : Nat) : Option QuotaExceeded → ModelJob Out Nat
  | some e => .threw (.quotaExceeded e)
  | none => (Thread.update fun a : Account => a.reserved r).bind fun _ => .ok id

/-- What a call does with its reservation, or the refusal. -/
def afterReserve (role : ModelRole) : Except CallError Nat → ModelJob Out Out
  | .ok id => underReservation id role (runAgentInternal role)
  | .error (.quotaExceeded e) =>
    (setStatus .BUILD_LIMIT_REACHED e.message).bind fun _ => .threw (.quotaExceeded e)
  | .error e => .threw e

theorem callModel_eq {policy : StudioQuotaPolicy} {input : String} :
    (callModel policy role input (runAgentInternal role) : ModelJob Out Out) =
      (Thread.read : ModelJob Out Account).bind fun a => ((reserving (reservation policy role (estimatedInput input))
        a.reservations.length (exceeded policy a
          (reservation policy role (estimatedInput input)))).attempt).bind (afterReserve role) := by
  refine congrArg (Thread.atom _) (funext fun a => ?_)
  cases hexceeded : exceeded policy a (reservation policy role (estimatedInput input)) with
  | some e | none =>
    simp only [Thread.bind_ok, Thread.pure_eq, hexceeded]
    rfl

/-- **A call that starts** is refused, or it holds a new reservation and awaits the SDK. -/
theorem settle_callModel (policy : StudioQuotaPolicy) (role : ModelRole) (input : String)
    (o : Thread.Oracle (SdkAnswer Out)) (n : Nat) (a : Account) :
    (∃ e, (callModel policy role input (runAgentInternal role) : ModelJob Out Out).settle instant o n
        a = (.threw (.quotaExceeded e),
          { a with status := .BUILD_LIMIT_REACHED, failureReason := some e.message })) ∨
    exceeded policy a (reservation policy role (estimatedInput input)) = none ∧
      (callModel policy role input (runAgentInternal role) : ModelJob Out Out).settle instant o n a =
        (.call (.run role) fun r => underReservation a.reservations.length role
            (answeredRun role maxRetries r),
          a.reserved (reservation policy role (estimatedInput input))) := by
  rw [callModel_eq]
  simp only [Thread.read, Thread.bind_atom, Thread.bind_ok, Thread.settle, id_eq]
  cases hexceeded : exceeded policy a (reservation policy role (estimatedInput input)) with
  | some e => exact .inl ⟨e, rfl⟩
  | none =>
    refine .inr ⟨rfl, ?_⟩
    show (underReservation a.reservations.length role (attempts role maxRetries)).settle instant o n
      (a.reserved (reservation policy role (estimatedInput input))) = _
    exact settle_attempts

end Turns

/-! ## 5. The budget over runs -/

/-- A thread ended, or it waits under the reservation of its call. -/
def Holds (policy : StudioQuotaPolicy) (a : Account) (entry : ModelCall × ModelJob Out Out) :
    Option Nat → Prop
  | none => entry.2.ended = true
  | some id => Waits entry.1.role id entry.2 ∧
      a.reservations[id]? = some (reservation policy entry.1.role (estimatedInput entry.1.input))

/-- The usage and the reservations are within the budget, and all usage is accounted for. -/
structure Kept (policy : StudioQuotaPolicy) (p : ModelCalls Out) : Prop where
  budget : ∀ x, totals p.shared x ≤ policy.limit x
  accounted : Usage.sum p.shared.consumed = Usage.sum (p.shared.usage.map (·.usage))
  owned : ∃ owner, Pool.Owned id (Holds policy) p owner

/-- What is reported fits into what is left of the budget beside the other calls, and a failed
    attempt has used nothing. -/
def fitsBudget (policy : StudioQuotaPolicy) (p : ModelCalls Out) : ModelTurn Out → Bool
  | .start _ _ => true
  | .resume i o =>
    match p.threads[i]? with
    | some (c, .call (.run role) _) =>
      match o 0 (.run role) with
      | .ok r => [Resource.requests, .inputTokens, .outputTokens].all fun x =>
          decide (totals p.shared x + r.usage.of x ≤
            policy.limit x + (reservation policy c.role (estimatedInput c.input)).of x)
      | .error e => decide (e.consumed = .zero)
    | _ => true

section Steps

variable {policy : StudioQuotaPolicy} {p p' : ModelCalls Out} {owner : Nat → Option Nat}

/-- What a turn of one thread leaves of the others' reservations, and of its own. -/
theorem owned_set {i : Nat} {entry : ModelCall × ModelJob Out Out} {a : Account}
    (h : Pool.Owned id (Holds policy) p owner) (hi : i < p.threads.length) (x : Option Nat)
    (hown : Holds policy a entry x) (hx : ∀ id, x = some id → owner i = some id)
    (hothers : ∀ id : Nat, owner i ≠ some id → ∀ r, p.shared.reservations[id]? = some r →
      a.reservations[id]? = some r) :
    Pool.Owned id (Holds policy) ⟨a, p.threads.set i entry⟩ (Function.update owner i x) := by
  refine h.set hi hown (fun k hk j hji hsame => ?_) fun other u hheld hapart => ?_
  · exact hji (h.apart j i k hsame (hx k hk))
  · cases u with
    | none => exact hheld
    | some id => exact ⟨hheld.1, hothers id (hapart id rfl).1 _ hheld.2⟩

/-- A thread that starts, with a new reservation or none. -/
theorem owned_start {entry : ModelCall × ModelJob Out Out} {a : Account}
    (h : Pool.Owned id (Holds policy) p owner) (x : Option Nat) (hown : Holds policy a entry x)
    (hx : ∀ id, x = some id → p.shared.reservations.length ≤ id)
    (hothers : ∀ (id : Nat) r, p.shared.reservations[id]? = some r →
      a.reservations[id]? = some r) :
    Pool.Owned id (Holds policy) ⟨a, p.threads ++ [entry]⟩
      (Function.update owner p.threads.length x) := by
  refine h.start hown (fun k hk => h.unowned fun other u hheld hsame => ?_) fun other u hheld _ => ?_
  · have hnone := List.getElem?_eq_none (hx k hk)
    cases hsame
    rw [hheld.2] at hnone
    cases hnone
  · cases u with
    | none => exact hheld
    | some id => exact ⟨hheld.1, hothers id _ hheld.2⟩

theorem getElem?_setReservation {a : Account} {id id' : Nat} {state : ReservationState}
    (h : id' ≠ id) : (a.setReservation id state).reservations[id']? = a.reservations[id']? :=
  List.getElem?_modify_ne _ _ h.symm

/-- **A reservation** within the budget. -/
theorem totals_reserved {a : Account} {r : Reservation} (hheld : r.state = .HELD) (x : Resource) :
    totals (a.reserved r) x = totals a x + r.of x := by
  have hr : r.held x = r.of x := if_pos hheld
  simp only [totals, Account.reserved, Account.settled, Account.held, List.map_append,
    List.sum_append, List.map_cons, List.map_nil, List.sum_cons, List.sum_nil, hr]
  omega

/-- **A settlement** puts the usage in the place of the reservation. -/
theorem totals_charged {a : Account} {id : Nat} {r : Reservation} (role : ModelRole) (u : Usage)
    (h : a.reservations[id]? = some r) (hheld : r.state = .HELD) (x : Resource) :
    totals (a.charged id role u) x + r.of x = totals a x + u.of x := by
  have hafter := held_setReservation .SETTLED h hheld (by decide) x
  have hheldEq : (a.charged id role u).held x = (a.setReservation id .SETTLED).held x := rfl
  have hsettled : (a.charged id role u).settled x = a.settled x + u.of x := by
    simp [Account.charged, Account.settled]
  simp only [totals]
  omega

theorem totals_released {a : Account} {id : Nat} {r : Reservation}
    (h : a.reservations[id]? = some r) (hheld : r.state = .HELD) (x : Resource) :
    totals (a.setReservation id .RELEASED) x + r.of x = totals a x := by
  have hafter := held_setReservation .RELEASED h hheld (by decide) x
  have hsettled : (a.setReservation id .RELEASED).settled x = a.settled x := rfl
  simp only [totals]
  omega

/-- **One turn** keeps the budget, where its answer fits. -/
theorem kept_step {turn : ModelTurn Out} (h : Kept policy p) (hfits : fitsBudget policy p turn = true)
    (hstep : ModelCalls.step policy p turn = some p') : Kept policy p' := by
  obtain ⟨owner, howned⟩ := h.owned
  rcases Pool.step_cases hstep with ⟨c, o, -, rfl⟩ | ⟨i, o, c, e, k, hturn, hi, rfl⟩
  · rcases settle_callModel policy c.role c.input o 0 p.shared with ⟨e, hrefused⟩ | ⟨hnone, hgranted⟩
    · simp only [hrefused]
      refine ⟨h.budget, h.accounted, _, owned_start howned none rfl (fun _ hid => by cases hid)
        fun _ _ hsome => hsome⟩
    · simp only [hgranted]
      refine ⟨fun x => ?_, h.accounted, _, owned_start howned (some p.shared.reservations.length)
        ⟨.running _, ?_⟩ (fun id hid => ?_) fun id r hsome => ?_⟩
      · rw [totals_reserved rfl]
        exact exceeded_eq_none.mp hnone x
      · exact List.getElem?_concat_length
      · cases hid
        exact Nat.le_refl _
      · exact getElem?_concat_of_some hsome
  · have hlt := (List.getElem?_eq_some_iff.mp hi).1
    have hheld := howned.holds i _ hi
    cases howner : owner i with
    | none =>
      rw [howner] at hheld
      cases hheld
    | some id =>
      rw [howner] at hheld
      have hwaits : Waits c.role id (.call e k) := hheld.1
      have hrow : p.shared.reservations[id]? =
          some (reservation policy c.role (estimatedInput c.input)) := hheld.2
      have hothers : ∀ state, ∀ id' : Nat, owner i ≠ some id' → ∀ r,
          p.shared.reservations[id']? = some r →
          (p.shared.setReservation id state).reservations[id']? = some r := by
        intro state id' hne r hsome
        have hid : id' ≠ id := fun hsame => hne (by rw [howner, hsame])
        rw [getElem?_setReservation hid]
        exact hsome
      subst hturn
      cases hwaits with
      | sleeping ms left =>
        simp only [settle_attempts]
        exact ⟨h.budget, h.accounted, _, owned_set howned hlt (some id) ⟨.running left, hrow⟩
          (fun id' hid => hid ▸ howner) fun _ _ _ hsome => hsome⟩
      | running left =>
        simp only [fitsBudget, hi] at hfits
        cases hanswer : o 0 (.run c.role) with
        | ok r =>
          simp only [hanswer, List.all_cons, List.all_nil, Bool.and_true, Bool.and_eq_true,
            decide_eq_true_eq] at hfits
          obtain ⟨hrequests, hinput, houtput⟩ := hfits
          rw [settle_ok]
          refine ⟨fun x => ?_, ?_, _, owned_set howned hlt none rfl (fun _ hid => by cases hid)
            (hothers .SETTLED)⟩
          · have hcharged := totals_charged c.role r.usage hrow rfl x
            show totals (p.shared.charged id c.role r.usage) x ≤ policy.limit x
            cases x with
            | requests => omega
            | inputTokens => omega
            | outputTokens => omega
          · simp only [Account.charged, List.map_append, List.map_cons, List.map_nil,
              Usage.sum_concat, h.accounted]
        | error e =>
          simp only [hanswer, decide_eq_true_eq] at hfits
          have hsum : Usage.sum (p.shared.consumed ++ [e.consumed]) =
              Usage.sum (p.shared.usage.map (·.usage)) := by
            rw [Usage.sum_concat, hfits, Usage.add_zero]
            exact h.accounted
          rcases settle_error c.role id left o 1 p.shared e
            with ⟨ms, left', hnext⟩ | ⟨thrown, status, reason, hlast⟩
          · rw [hnext]
            exact ⟨h.budget, hsum, _, owned_set howned hlt (some id) ⟨.sleeping ms left', hrow⟩
              (fun id' hid => hid ▸ howner) fun _ _ _ hsome => hsome⟩
          · rw [hlast]
            refine ⟨fun x => ?_, hsum, _, owned_set howned hlt none rfl (fun _ hid => by cases hid)
              (hothers .RELEASED)⟩
            have hreleased := totals_released hrow rfl x
            have hbudget := h.budget x
            show totals (p.shared.setReservation id .RELEASED) x ≤ policy.limit x
            omega

end Steps

/-- No call has been made yet. -/
def ModelCalls.new : ModelCalls Out := Pool.idle .new

def answering (usage : Usage) : Thread.Oracle (SdkAnswer Unit)
  | _, .run _ => .ok ⟨(), usage⟩
  | _, .sleep _ => ()

/-- An outside that fails every run after it has used something up. -/
def failing (e : SdkFailure) : Thread.Oracle (SdkAnswer Unit)
  | _, .run _ => .error e
  | _, .sleep _ => ()

end ContextLock.Studio.Budget
