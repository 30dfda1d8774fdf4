/-
  Subject:   The Strategy IR: inputs, transforms, conditions, decisions and actions.

  A condition is a syntax tree over references and literals. A reference names a node: an input
  or a transform.
-/
import ContextLock.Strategy.Units

namespace ContextLock.Strategy

/-! ## 1. Trust -/

inductive DataTrustClass where
  | CONFIDENTIAL_VERIFIED_COMPUTE
  | VERIFIED_ORACLE
  | INDEXED_CHAIN_DATA
  | DIRECT_CHAIN_DATA
  | EXTERNAL_API
  | USER_UNTRUSTED

def DataTrustClass.text : DataTrustClass → String
  | CONFIDENTIAL_VERIFIED_COMPUTE => "CONFIDENTIAL_VERIFIED_COMPUTE"
  | VERIFIED_ORACLE => "VERIFIED_ORACLE"
  | INDEXED_CHAIN_DATA => "INDEXED_CHAIN_DATA"
  | DIRECT_CHAIN_DATA => "DIRECT_CHAIN_DATA"
  | EXTERNAL_API => "EXTERNAL_API"
  | USER_UNTRUSTED => "USER_UNTRUSTED"

def trustRank : DataTrustClass → Nat
  | .CONFIDENTIAL_VERIFIED_COMPUTE => 5
  | .VERIFIED_ORACLE => 4
  | .INDEXED_CHAIN_DATA => 3
  | .DIRECT_CHAIN_DATA => 2
  | .EXTERNAL_API => 1
  | .USER_UNTRUSTED => 0

/-- `satisfiesTrust`; what has no trust class satisfies none. -/
def satisfiesTrust (offered : Option DataTrustClass) (required : DataTrustClass) : Bool :=
  offered.any fun c => trustRank required ≤ trustRank c

/-! ## 2. Nodes -/

structure StrategyInput where
  id : String
  unit : ValueUnit
  minimumTrustClass : DataTrustClass
  maxAgeMs : Nat

inductive TransformOp where
  | TOKEN_TO_USD
  | RATIO_TO_BPS
  | SUM
  | DIFFERENCE
  | PERCENT_TO_BPS
  | RESCALE
  deriving DecidableEq

structure Transform where
  id : String
  op : TransformOp
  inputs : List String
  toDecimals : Option Nat
  deriving DecidableEq

/-! ## 3. Conditions -/

inductive CompareOp where
  | LT
  | LTE
  | GT
  | GTE
  | EQ
  | NEQ

inductive OperandNode where
  | ref (id : String)
  | literal (value : String) (unit : ValueUnit)

inductive ConditionNode where
  | compare (op : CompareOp) (left right : OperandNode)
  | and (children : List ConditionNode)
  | or (children : List ConditionNode)
  | not (child : ConditionNode)

def OperandNode.refs : OperandNode → List String
  | ref id => [id]
  | literal _ _ => []

/-- `collect`: the nodes a condition names, in their order. -/
def conditionRefs : ConditionNode → List String
  | .compare _ left right => left.refs ++ right.refs
  | .and children => childrenRefs children
  | .or children => childrenRefs children
  | .not child => conditionRefs child
where
  childrenRefs : List ConditionNode → List String
    | [] => []
    | c :: cs => conditionRefs c ++ childrenRefs cs

/-! ## 4. The strategy -/

structure Decision where
  id : String
  condition : ConditionNode
  actionRef : String
  autonomousMaxUsdCents : Option Nat
  escalationMaxUsdCents : Option Nat

inductive RecipientPolicy where
  | selfOnly
  | allowList

structure StrategyAction where
  id : String
  recipientPolicy : RecipientPolicy
  chainId : Option Nat

inductive RequiredBefore where
  | BUILD
  | DEPLOY
  deriving DecidableEq

structure UnknownRequirement where
  field : String
  reason : String
  requiredBefore : RequiredBefore

/-- A strategy, as the schema admits it. -/
structure StrategyIR where
  inputs : List StrategyInput
  transforms : List Transform
  decisions : List Decision
  actions : List StrategyAction
  unknowns : List UnknownRequirement
  requiresCapability : List String

/-- **A node reads an input**: it is the input, or a transform one of whose operands does. -/
inductive Reads (s : StrategyIR) : String → StrategyInput → Prop where
  | input {i : StrategyInput} (h : i ∈ s.inputs) : Reads s i.id i
  | transform {t : Transform} {dep : String} {i : StrategyInput} (h : t ∈ s.transforms)
      (hdep : dep ∈ t.inputs) (hi : Reads s dep i) : Reads s t.id i

def TransformReads (s : StrategyIR) (t : Transform) (i : StrategyInput) : Prop :=
  ∃ dep ∈ t.inputs, Reads s dep i

end ContextLock.Strategy
