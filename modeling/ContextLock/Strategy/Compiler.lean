/-
  Subject:   The strategy compiler: provenance of every node, and the problems of a strategy.

  Provenance is kept in an object literal, so that a name every object inherits is found in it
  too: a node without unit, trust or age. Transforms are placed in passes over those still
  pending; each pass places what has its operands.
-/
import ContextLock.Js.Map
import ContextLock.Js.Object
import ContextLock.Network.Fences
import ContextLock.Strategy.Ir

namespace ContextLock.Strategy

open Js

/-! ## 1. Problems and provenance -/

inductive Severity where
  | CRITICAL
  | HIGH
  | MEDIUM
  | LOW
  deriving DecidableEq

structure CompileProblem where
  code : String
  severity : Severity
  path : String
  message : String
  remediation : String

/-- What is known of a node; a function of the object literal has no unit and no trust, and its
    age is no number. -/
structure NodeProvenance where
  unit : Option ValueUnit
  trustClass : Option DataTrustClass
  maxAgeMs : Js.Num
  dependsOn : List String

abbrev Provenance := Js.Map NodeProvenance

/-- `provenance[id]`. -/
def nodeAt (provenance : Provenance) (id : String) : Option NodeProvenance :=
  match provenance.get? id with
  | some p => some p
  | none => if id ∈ inheritedKeys then some ⟨none, none, .nan, []⟩ else none

/-- `propagateTrust`: the weakest trust; what has none is never weaker. -/
def propagateTrust : List (Option DataTrustClass) → Option DataTrustClass
  | [] => some .USER_UNTRUSTED
  | c :: cs => cs.foldl weaker c
where
  weaker (weakest c : Option DataTrustClass) : Option DataTrustClass :=
    match weakest, c with
    | some w, some d => if trustRank d < trustRank w then some d else some w
    | weakest, _ => weakest

/-- `Math.max` of two numbers. -/
def numMax (a b : Js.Num) : Js.Num :=
  if a = .nan ∨ b = .nan then .nan else if Num.lt a b then b else a

def propagateFreshness : List Js.Num → Js.Num
  | [] => .int 0
  | a :: as => as.foldl numMax a

/-! ## 2. Units of transforms -/

def transformOutputUnit (op : TransformOp) (inputUnits : List (Option ValueUnit))
    (toDecimals : Option Nat) : Except UnitError (Option ValueUnit) :=
  match op with
  | .TOKEN_TO_USD =>
    match inputUnits with
    | [amount, price] => (tokenToUsd ⟨1, amount⟩ ⟨1, price⟩).map (·.unit)
    | _ => .error (.other "TOKEN_TO_USD takes exactly an amount and a price")
  | .RATIO_TO_BPS =>
    match inputUnits with
    | [part, whole] => (ratioToBps ⟨1, part⟩ ⟨1, whole⟩).map (·.unit)
    | _ => .error (.other "RATIO_TO_BPS takes exactly a part and a whole")
  | .PERCENT_TO_BPS =>
    if (inputUnits.head?.join.map (·.kind)) = some .PERCENT then .ok (some UNITS.bps)
    else .error (.other "PERCENT_TO_BPS expects a PERCENT")
  | .SUM => addUnits "SUM" inputUnits
  | .DIFFERENCE => addUnits "DIFFERENCE" inputUnits
  | .RESCALE =>
    match inputUnits.head?.join, toDecimals with
    | none, _ => .error (.other "RESCALE needs an operand")
    | some _, none => .error (.other "RESCALE requires toDecimals")
    | some u, some decimals => .ok (rescale 1 u decimals).unit
where
  /-- The operands of a sum or a difference, each against the first. -/
  addUnits (op : String) (inputUnits : List (Option ValueUnit)) :
      Except UnitError (Option ValueUnit) :=
    match inputUnits with
    | some first :: rest => addRest op first rest
    | _ => .error (.other s!"{op} needs at least one operand")
  addRest (op : String) (first : ValueUnit) :
      List (Option ValueUnit) → Except UnitError (Option ValueUnit)
    | [] => .ok (some first)
    | r :: rest =>
      match assertAddable (some first) r op with
      | .error e => .error e
      | .ok () => addRest op first rest

/-! ## 3. Placing the transforms -/

/-- What the placing keeps. -/
structure Placement where
  provenance : Provenance
  order : List String
  problems : List CompileProblem

/-- Every operand is there. -/
def ready (provenance : Provenance) (t : Transform) : Bool :=
  t.inputs.all fun dep => (nodeAt provenance dep).isSome

/-- The provenance of a transform whose operands are there, or the problem of its units. -/
def derive (provenance : Provenance) (t : Transform) : Except CompileProblem NodeProvenance :=
  let nodes := t.inputs.filterMap (nodeAt provenance)
  match transformOutputUnit t.op (nodes.map (·.unit)) t.toDecimals with
  | .error e =>
    .error ⟨e.code, .CRITICAL, s!"transforms.{t.id}", e.message,
      "Add an explicit conversion, or fix the operands so their units match."⟩
  | .ok unit =>
    .ok {
      unit
      trustClass := propagateTrust (nodes.map (·.trustClass))
      maxAgeMs := propagateFreshness (nodes.map (·.maxAgeMs))
      dependsOn := t.inputs }

/-- A transform is placed; one with a problem gets a placeholder. -/
def place (p : Placement) (t : Transform) : Placement :=
  match derive p.provenance t with
  | .error problem =>
    { provenance :=
        p.provenance.set t.id ⟨some UNITS.count, some .USER_UNTRUSTED, .int 0, t.inputs⟩
      order := p.order ++ [t.id]
      problems := p.problems ++ [problem] }
  | .ok node =>
    { p with provenance := p.provenance.set t.id node, order := p.order ++ [t.id] }

def placePass (p : Placement) : List Transform → Placement × List Transform
  | [] => (p, [])
  | t :: ts =>
    if ready p.provenance t then placePass (place p t) ts
    else ((placePass p ts).1, t :: (placePass p ts).2)

/-- Passes until none is pending or a pass places nothing. -/
def placeAll : Nat → Placement → List Transform → Placement × List Transform
  | 0, p, ts => (p, ts)
  | n + 1, p, ts =>
    if (placePass p ts).2.length = ts.length then placePass p ts
    else placeAll n (placePass p ts).1 (placePass p ts).2

theorem length_placePass (p : Placement) (ts : List Transform) :
    (placePass p ts).2.length ≤ ts.length := by
  induction ts generalizing p with
  | nil => exact le_refl _
  | cons t ts ih =>
    unfold placePass
    split
    · have hrest := ih (place p t)
      rw [List.length_cons]
      omega
    · have hrest := ih p
      rw [List.length_cons, List.length_cons]
      omega

theorem placePass_of_length {p : Placement} {ts : List Transform}
    (h : (placePass p ts).2.length = ts.length) : placePass p ts = (p, ts) := by
  induction ts with
  | nil => rfl
  | cons t ts ih =>
    unfold placePass at h ⊢
    by_cases hready : ready p.provenance t = true
    · rw [if_pos hready, List.length_cons] at h
      have hle := length_placePass (place p t) ts
      omega
    · rw [if_neg hready, List.length_cons, List.length_cons] at h
      rw [if_neg hready, ih (by omega)]

/-- **As many passes as there are transforms are enough**: one more would place nothing. -/
theorem placeAll_fixed {n : Nat} {p : Placement} {ts : List Transform} (h : ts.length ≤ n) :
    placePass (placeAll n p ts).1 (placeAll n p ts).2 = placeAll n p ts := by
  induction n generalizing p ts with
  | zero =>
    have hnil : ts = [] := List.length_eq_zero_iff.mp (by omega)
    subst hnil
    rfl
  | succ n ih =>
    unfold placeAll
    by_cases heq : (placePass p ts).2.length = ts.length
    · rw [if_pos heq, placePass_of_length heq]
      exact placePass_of_length heq
    · have hle := length_placePass p ts
      rw [if_neg heq]
      exact ih (by omega)

/-- The provenance of the inputs, and a problem for each id that is there already. -/
def declareInputs : List StrategyInput → Provenance → Provenance × List CompileProblem
  | [], provenance => (provenance, [])
  | i :: rest, provenance =>
    if (nodeAt provenance i.id).isSome then
      let later := declareInputs rest provenance
      (later.1, ⟨"STRAT-DUP-ID", .CRITICAL, s!"inputs.{i.id}", s!"duplicate node id \"{i.id}\"",
        "Give every node a unique id."⟩ :: later.2)
    else
      declareInputs rest
        (provenance.set i.id ⟨some i.unit, some i.minimumTrustClass, .int i.maxAgeMs, []⟩)

/-- `new Map(s.transforms.map((t) => [t.id, t]))`: of transforms of one id the last is kept. -/
def pendingTransforms (transforms : List Transform) : List Transform :=
  (Js.Map.ofEntries (transforms.map fun t => (t.id, t))).entries.map (·.2)

def stuckProblems (provenance : Provenance) (stuck : List Transform) : List CompileProblem :=
  let missing := fun t : Transform =>
    t.inputs.filter fun dep => (nodeAt provenance dep).isNone && !stuck.any (·.id = dep)
  let unresolvable := stuck.filter fun t => missing t ≠ []
  let cyclic := stuck.filter fun t => missing t = []
  unresolvable.map (fun t => ⟨"STRAT-UNKNOWN-REF", .CRITICAL, s!"transforms.{t.id}",
    "references unknown node(s): " ++ ", ".intercalate (missing t),
    "Declare the input, or correct the reference."⟩)
  ++ (if cyclic = [] then []
      else [⟨"STRAT-CYCLE", .CRITICAL, "transforms",
        "cyclic dependency among: " ++ ", ".intercalate (cyclic.map (·.id)),
        "A strategy graph must be acyclic; a value cannot depend on itself."⟩])

/-! ## 4. Networks -/

/-- What the write fence says of a chain a strategy names, claimed to be a testnet. -/
def fenceMessage (chainId : Nat) : Option String :=
  match Network.assertExecutionAllowed chainId .TESTNET_EXECUTION .PUBLIC_WRITE with
  | .ok _ => none
  | .error .PRODUCTION_NETWORK_WRITE_PROHIBITED =>
    some (s!"PRODUCTION_NETWORK_WRITE_PROHIBITED: STRATEGY_COMPILER: chain {chainId} is a "
      ++ "production network. ContextLock is a testnet laboratory; production-chain execution is "
      ++ "outside this product and there is no flag that enables it.")
  | .error .EXECUTION_NETWORK_NOT_APPROVED =>
    some (s!"EXECUTION_NETWORK_NOT_APPROVED: STRATEGY_COMPILER: chain {chainId} is not in "
      ++ "ApprovedExecutionNetworks. Add it to the registry only after verifying its current official "
      ++ "chain metadata.")
  | .error .NETWORK_ROLE_MISMATCH =>
    let role := match Network.lookupNetwork chainId with
      | some ⟨_, .LOCAL_FORK⟩ => "LOCAL_FORK"
      | some ⟨_, .READ_ONLY_SOURCE⟩ => "READ_ONLY_SOURCE"
      | _ => "TESTNET_EXECUTION"
    some (s!"NETWORK_ROLE_MISMATCH: STRATEGY_COMPILER: chain {chainId} is registered as {role}, "
      ++ "and this reference claims TESTNET_EXECUTION")
  | .error .READ_ONLY_SOURCE_CANNOT_EXECUTE =>
    some (s!"READ_ONLY_SOURCE_CANNOT_EXECUTE: STRATEGY_COMPILER: chain {chainId} is a "
      ++ "READ_ONLY_SOURCE. Data from it may inform a decision; it may never authorize execution.")
  | .error .LOCAL_FORK_CANNOT_PUBLICLY_WRITE =>
    some (s!"LOCAL_FORK_CANNOT_PUBLICLY_WRITE: STRATEGY_COMPILER: chain {chainId} is a "
      ++ "TESTNET_EXECUTION and cannot produce a public transaction. Its writes exist only on this "
      ++ "machine.")

def networkProblems (actions : List StrategyAction) : List CompileProblem :=
  actions.filterMap fun a =>
    (a.chainId.bind fenceMessage).map fun message =>
      ⟨"STRAT-NETWORK", .CRITICAL, s!"actions.{a.id}.chainId", message,
        "ContextLock executes on approved testnets only. Mainnet is readable as market data and "
          ++ "is never an execution target."⟩

/-! ## 5. Conditions and decisions -/

def operandProvenance (provenance : Provenance) (path : String) :
    OperandNode → Except CompileProblem NodeProvenance
  | .literal _ unit =>
    .ok ⟨some unit, some .CONFIDENTIAL_VERIFIED_COMPUTE, .int (2 ^ 53 - 1), []⟩
  | .ref id =>
    match nodeAt provenance id with
    | some p => .ok p
    | none =>
      .error ⟨"STRAT-UNKNOWN-REF", .CRITICAL, path, s!"condition references unknown node \"{id}\"",
        "Declare it as an input or a transform."⟩

def compareProblems (provenance : Provenance) (path : String) (left right : OperandNode) :
    List CompileProblem :=
  match operandProvenance provenance s!"{path}.left" left,
      operandProvenance provenance s!"{path}.right" right with
  | .error l, .error r => [l, r]
  | .error l, .ok _ => [l]
  | .ok _, .error r => [r]
  | .ok l, .ok r =>
    match assertComparable l.unit r.unit path with
    | .ok () => []
    | .error e =>
      [⟨e.code, .CRITICAL, path, e.message,
        "Convert one side explicitly. Comparing unlike units produces a well-formed and "
          ++ "meaningless answer."⟩]

def checkCondition (provenance : Provenance) (path : String) : ConditionNode → List CompileProblem
  | .compare _ left right => compareProblems provenance path left right
  | .and children => checkChildren provenance s!"{path}.and" 0 children
  | .or children => checkChildren provenance s!"{path}.or" 0 children
  | .not child => checkCondition provenance s!"{path}.not" child
where
  checkChildren (provenance : Provenance) (path : String) (i : Nat) :
      List ConditionNode → List CompileProblem
    | [] => []
    | c :: cs =>
      checkCondition provenance s!"{path}[{i}]" c ++ checkChildren provenance path (i + 1) cs

def bandProblems (d : Decision) : List CompileProblem :=
  (if d.autonomousMaxUsdCents = none ∧ d.escalationMaxUsdCents = none then
    [⟨"STRAT-UNBOUNDED-AMOUNT", .CRITICAL, s!"decisions.{d.id}",
      "neither an autonomous limit nor an escalation ceiling is set; the action would have no "
        ++ "upper bound",
      "Set both, or record them as unknowns so the build stops until they are."⟩]
  else [])
  ++ (match d.autonomousMaxUsdCents, d.escalationMaxUsdCents with
      | some autonomous, some escalation =>
        if escalation < autonomous then
          [⟨"STRAT-BAND-INVERTED", .HIGH, s!"decisions.{d.id}",
            s!"escalation ceiling {escalation} is below the autonomous limit {autonomous}",
            "The escalation band must sit above the autonomous band."⟩]
        else []
      | _, _ => [])

/-- The problem of one node a decision reads, if its trust is below the floor. -/
def trustProblem (provenance : Provenance) (d : Decision) (ref : String) : Option CompileProblem :=
  match nodeAt provenance ref with
  | none => none
  | some p =>
    if satisfiesTrust p.trustClass .DIRECT_CHAIN_DATA then none
    else some ⟨"STRAT-TRUST-FLOOR", .CRITICAL, s!"decisions.{d.id}",
      s!"decision reads \"{ref}\" which is " ++ p.trustClass.elim "undefined" (·.text)
        ++ "; a financial decision may not rest on data weaker than DIRECT_CHAIN_DATA",
      "Raise the input's trust requirement, or route the decision through a confidential "
        ++ "evaluation."⟩

def decisionProblems (provenance : Provenance) (actions : List StrategyAction) (d : Decision) :
    List CompileProblem :=
  checkCondition provenance s!"decisions.{d.id}.when" d.condition
  ++ (if actions.any (·.id = d.actionRef) then []
      else [⟨"STRAT-UNKNOWN-ACTION", .CRITICAL, s!"decisions.{d.id}.actionRef",
        s!"references unknown action \"{d.actionRef}\"", "Declare the action."⟩])
  ++ bandProblems d
  ++ (if actions.any (·.id = d.actionRef) then
        (conditionRefs d.condition).filterMap (trustProblem provenance d)
      else [])

/-! ## 6. Actions, unused nodes, unknowns -/

/-- The problem of an action that no decision routes; its recipients are bounded by the schema. -/
def actionProblems (decisions : List Decision) (a : StrategyAction) : List CompileProblem :=
  if decisions.any (·.actionRef = a.id) then []
  else [⟨"STRAT-ACTION-NO-DECISION", .CRITICAL, s!"actions.{a.id}",
    s!"action \"{a.id}\" has no decision routing it; it would execute without a policy disposition",
    "Add a decision, or remove the action. There is no implicit ALLOW."⟩]

/-- The problems of nodes that nothing reads. -/
def unusedProblems (s : StrategyIR) : List CompileProblem :=
  let referenced := (s.decisions.flatMap fun d => conditionRefs d.condition)
    ++ s.transforms.flatMap (·.inputs)
  (s.inputs.filter fun i => i.id ∉ referenced).map (fun i =>
    ⟨"STRAT-UNUSED-INPUT", .MEDIUM, s!"inputs.{i.id}",
      s!"input \"{i.id}\" is fetched but never used; it costs a call and may mislead a reader "
        ++ "into thinking it informs the decision",
      "Use it or remove it."⟩)
  ++ (s.transforms.filter fun t => t.id ∉ referenced).map fun t =>
    ⟨"STRAT-UNUSED-TRANSFORM", .MEDIUM, s!"transforms.{t.id}",
      s!"transform \"{t.id}\" is computed but never used", "Use it or remove it."⟩

def unknownProblems (unknowns : List UnknownRequirement) : List CompileProblem :=
  (unknowns.filter (·.requiredBefore = .BUILD)).map fun u =>
    ⟨"STRAT-UNKNOWN-LIMIT", .CRITICAL, u.field, s!"\"{u.field}\" is unresolved: {u.reason}",
      "Supply the value. A financial boundary that was never stated must not be invented."⟩

/-! ## 7. The compiler -/

structure CompileResult where
  ok : Bool
  buildable : Bool
  problems : List CompileProblem
  provenance : Provenance
  order : List String
  unknowns : List UnknownRequirement
  requiresCapability : List String

def inputPlacement (s : StrategyIR) : Placement where
  provenance := (declareInputs s.inputs .empty).1
  order := s.inputs.map (·.id)
  problems := networkProblems s.actions ++ (declareInputs s.inputs .empty).2

def placement (s : StrategyIR) : Placement × List Transform :=
  let pending := pendingTransforms s.transforms
  placeAll pending.length (inputPlacement s) pending

/-- The problems of a strategy, in the order in which they are found. -/
def problemsOf (s : StrategyIR) : List CompileProblem :=
  let provenance := (placement s).1.provenance
  (placement s).1.problems ++ stuckProblems provenance (placement s).2
  ++ s.decisions.flatMap (decisionProblems provenance s.actions)
  ++ s.actions.flatMap (actionProblems s.decisions)
  ++ unusedProblems s ++ unknownProblems s.unknowns

/-- `compileStrategy`, on what the schema makes of the input: its issues, each a path and a
    message, or the strategy. -/
def compileStrategy (parsed : Except (List (String × String)) StrategyIR) : CompileResult :=
  match parsed with
  | .error issues =>
    { ok := false, buildable := false
      problems := issues.map fun i =>
        ⟨"STRAT-SCHEMA", .CRITICAL, i.1, i.2, "Emit a strategy matching contextlock.strategy/v1."⟩
      provenance := .empty, order := [], unknowns := [], requiresCapability := [] }
  | .ok s =>
    let problems := problemsOf s
    { ok := !problems.any (·.severity = .CRITICAL)
      buildable := !problems.any fun p => p.severity = .CRITICAL ∨ p.severity = .HIGH
      problems
      provenance := (placement s).1.provenance
      order := (placement s).1.order
      unknowns := s.unknowns
      requiresCapability := s.requiresCapability }

end ContextLock.Strategy
