/-
  Subject:   The security diff of two revisions of a Blueprint.

  The diff compares the three global limits, the stated permissions, the adapters, and of each
  context source its required trust and its fallback. Actions, references, recipients, targets,
  per-action limits, the capability lifetime and the age of context are not compared.
-/
import ContextLock.Lab.Enforced

namespace ContextLock.Lab

open Js
open Adapters (DataTrustClass)

/-! ## 1. Changes -/

inductive ChangeImpact where
  | AUTHORITY_EXPANDED
  | AUTHORITY_REDUCED
  | AUTHORITY_UNCHANGED
  | SOURCE_CHANGED
  | SCOPE_CHANGED
  deriving DecidableEq

/-- A limit of an action's own. -/
inductive OwnLimit where
  | autonomousMaxUsdCents
  | escalationMinUsdCents
  | escalationMaxUsdCents

/-- A part of a Blueprint that carries authority. -/
inductive Field where
  | autonomousLimit
  | hardCap
  | escalationFloor
  | allowed
  | denied
  | adapter (configRef : String)
  | trust (id : String)
  | fallback (id : String)
  | action (id : String)
  | allowedActionRefs
  | recipientPolicy (id : String)
  | targetPolicy (id : String)
  | perActionLimit (actionRef : String) (limit : OwnLimit)
  | ttlSeconds
  | maxAge (id : String)

def Field.compared : Field → Bool
  | autonomousLimit | hardCap | escalationFloor | allowed | denied => true
  | adapter _ | trust _ | fallback _ => true
  | _ => false

structure SecurityChange where
  field : Field
  label : String
  before : String
  after : String
  impact : ChangeImpact
  consequence : String

/-- Digits, last first, with a comma after each third one. -/
def grouped : List Char → List Char
  | a :: b :: c :: d :: rest => a :: b :: c :: ',' :: grouped (d :: rest)
  | cs => cs

/-- `usd(cents)`: dollars with commas, and cents without a zero at the end. -/
def usd (cents : Nat) : String :=
  let whole := (grouped (Nat.toDigits 10 (cents / 100)).reverse).reverse
  let fraction := cents % 100
  let rest := if fraction = 0 then []
    else if fraction % 10 = 0 then '.' :: Nat.toDigits 10 (fraction / 10)
    else '.' :: decimals 2 fraction
  "$" ++ String.ofList (whole ++ rest)

example : usd 123456780 = "$1,234,567.8" := by decide

/-! ## 2. The diff -/

/-- `compareLimit`, where a higher limit is more. -/
def compareLimit (field : Field) (label : String) (b a : Maybe Nat) : List SecurityChange :=
  match b.value?, a.value? with
  | none, none => []
  | some bv, none =>
    [⟨field, label, usd bv, "UNKNOWN", .AUTHORITY_EXPANDED,
      label ++ " is no longer established. An unestablished limit is not a limit."⟩]
  | none, some av =>
    [⟨field, label, "UNKNOWN", usd av, .SCOPE_CHANGED,
      label ++ " is now established at " ++ usd av ++ "."⟩]
  | some bv, some av =>
    if bv = av then []
    else if bv < av then
      [⟨field, label, usd bv, usd av, .AUTHORITY_EXPANDED,
        "The agent can autonomously move an additional " ++ usd (av - bv) ++ " per action."⟩]
    else
      [⟨field, label, usd bv, usd av, .AUTHORITY_REDUCED,
        "The agent can move " ++ usd (bv - av) ++ " less per action than before."⟩]

def statements (permissions : List Permission) : List String :=
  (permissions.map Permission.statement).eraseDups

def newStatements (old new : List Permission) : List String :=
  (statements new).filter (· ∉ statements old)

def permissionAdded (s : String) : SecurityChange :=
  ⟨.allowed, "Permission added", "—", s, .AUTHORITY_EXPANDED, "The agent can now: " ++ s⟩

def permissionRemoved (s : String) : SecurityChange :=
  ⟨.allowed, "Permission removed", s, "—", .AUTHORITY_REDUCED, "The agent can no longer: " ++ s⟩

def denialRemoved (s : String) : SecurityChange :=
  ⟨.denied, "Denial removed", s, "—", .AUTHORITY_EXPANDED,
    "\"" ++ s ++ "\" is no longer explicitly forbidden. Removing a denial is not the same as " ++
      "never having had one — it widens what this agent may do."⟩

def denialAdded (s : String) : SecurityChange :=
  ⟨.denied, "Denial added", "—", s, .AUTHORITY_REDUCED, "Now explicitly forbidden: " ++ s⟩

def permissionChanges (before after : Permissions) : List SecurityChange :=
  (newStatements before.allowed after.allowed).map permissionAdded
  ++ (newStatements after.allowed before.allowed).map permissionRemoved
  ++ (newStatements after.denied before.denied).map denialRemoved
  ++ (newStatements before.denied after.denied).map denialAdded

/-- The change of one adapter; the last binding of a name is the one it replaces. -/
def adapterChange (before : List AdapterBinding) (a : AdapterBinding) : List SecurityChange :=
  let shown (b : AdapterBinding) := b.adapterId ++ "@" ++ b.adapterVersion
  match before.reverse.find? fun b => b.configRef = a.configRef with
  | none =>
    [⟨.adapter a.configRef, "Adapter added", "—", shown a, .SOURCE_CHANGED,
      a.configRef ++ " is now served by " ++ a.adapterId ++ "."⟩]
  | some b =>
    if b.adapterId ≠ a.adapterId ∨ b.adapterVersion ≠ a.adapterVersion then
      [⟨.adapter a.configRef, "Adapter changed", shown b, shown a, .SOURCE_CHANGED,
        a.configRef ++ " now comes from a different source. A source change alters the trust " ++
          "and freshness this deployment was approved against, and needs a new review."⟩]
    else []

def sourceOf (bp : Blueprint) (id : String) : Option ContextSource :=
  bp.contextSources.find? fun s => s.id = id

def trustChange (b s : ContextSource) : List SecurityChange :=
  if b.minimumTrustClass ≠ s.minimumTrustClass then
    [⟨.trust s.id, "Required trust changed", b.minimumTrustClass.text, s.minimumTrustClass.text,
      .AUTHORITY_EXPANDED, s.dataKind ++ " now accepts " ++ s.minimumTrustClass.text ++
        " where it required " ++ b.minimumTrustClass.text ++
        ". A weaker trust requirement admits weaker data."⟩]
  else []

def fallbackChange (b s : ContextSource) : List SecurityChange :=
  if s.fallbackAllowed && !b.fallbackAllowed then
    [⟨.fallback s.id, "Fallback enabled", "false", "true", .AUTHORITY_EXPANDED,
      s.dataKind ++ " may now silently fall back to a lower-trust source."⟩]
  else []

def sourceChanges (before : Blueprint) (s : ContextSource) : List SecurityChange :=
  match sourceOf before s.id with
  | none => []
  | some b => trustChange b s ++ fallbackChange b s

def securityDiff (before after : Blueprint) : List SecurityChange :=
  compareLimit .autonomousLimit "Autonomous limit" before.autonomousPolicy.maxValueUsdCents
    after.autonomousPolicy.maxValueUsdCents
  ++ compareLimit .hardCap "Hard cap" before.escalationPolicy.maxValueUsdCents
    after.escalationPolicy.maxValueUsdCents
  ++ compareLimit .escalationFloor "Escalation floor" before.escalationPolicy.minValueUsdCents
    after.escalationPolicy.minValueUsdCents
  ++ permissionChanges before.permissions after.permissions
  ++ after.adapters.flatMap (adapterChange before.adapters)
  ++ after.contextSources.flatMap (sourceChanges before)

/-- `authorityExpansions(changes)`. -/
def authorityExpansions (changes : List SecurityChange) : List SecurityChange :=
  changes.filter fun c => c.impact = .AUTHORITY_EXPANDED

/-! ## 3. What a later revision grants -/

/-- The limit is raised, or dropped. -/
def Widened (b a : Option Nat) : Prop := ∃ v, b = some v ∧ ∀ w, a = some w → v < w

/-- The policy lets value go to this address; `none` is the account it came from. -/
def RecipientPolicy.Grants : RecipientPolicy → Option String → Prop
  | selfOnly, recipient => recipient = none
  | fixedAllowlist allowed, recipient => ∀ a, recipient = some a →
      ∃ m ∈ allowed, m.value?.map toLowerCase = some (toLowerCase a)
  | arbitrary _, _ => True

/-- The policy lets this address be called. -/
def TargetPolicy.Grants (bp : Blueprint) : TargetPolicy → String → Prop
  | fixedAllowlist allowed, target =>
    ∃ m ∈ allowed, m.value?.map toLowerCase = some (toLowerCase target)
  | protocolResolved protocolRef contractRole, target =>
    ∃ p ∈ bp.protocols, p.id = protocolRef ∧ ∃ c ∈ p.contracts, c.role = contractRole ∧
      c.address.value?.map toLowerCase = some (toLowerCase target)
  | arbitrary _, _ => True

def OwnLimit.of (limit : OwnLimit) (bp : Blueprint) (actionRef : String) : Option Nat :=
  (bp.perActionLimits.find? fun l => l.actionRef = actionRef).bind fun l =>
    match limit with
    | autonomousMaxUsdCents => l.autonomousMaxUsdCents.value?
    | escalationMinUsdCents => l.escalationMinUsdCents.value?
    | escalationMaxUsdCents => l.escalationMaxUsdCents.value?

/-- Something a revision may grant. -/
inductive Grant where
  | action (id : String)
  | actionRef (ref : String)
  | recipient (id : String)
  | target (id : String)
  | autonomousLimit
  | hardCap
  | escalationFloor
  | perActionLimit (ref : String) (limit : OwnLimit)
  | permission (statement : String)
  | denialRemoved (statement : String)
  | lifetime
  | trust (id : String)
  | maxAge (id : String)
  | fallback (id : String)

def SourceChange (before after : Blueprint) (id : String)
    (changed : ContextSource → ContextSource → Prop) : Prop :=
  ∃ s ∈ after.contextSources, s.id = id ∧ ∃ b, sourceOf before id = some b ∧ changed b s

/-- The later Blueprint grants it and the earlier one did not. -/
def Granted (before after : Blueprint) : Grant → Prop
  | .action id => id ∈ after.actions.map Action.id ∧ id ∉ before.actions.map Action.id
  | .actionRef ref => ref ∈ after.autonomousPolicy.allowedActionRefs ∧
      ref ∉ before.autonomousPolicy.allowedActionRefs
  | .recipient id => ∃ a ∈ before.actions, ∃ a' ∈ after.actions, a.id = id ∧ a'.id = id ∧
      ∃ recipient, a'.recipientPolicy.Grants recipient ∧ ¬ a.recipientPolicy.Grants recipient
  | .target id => ∃ a ∈ before.actions, ∃ a' ∈ after.actions, a.id = id ∧ a'.id = id ∧
      ∃ target, a'.targetPolicy.Grants after target ∧ ¬ a.targetPolicy.Grants before target
  | .autonomousLimit => Widened before.autonomousPolicy.maxValueUsdCents.value?
      after.autonomousPolicy.maxValueUsdCents.value?
  | .hardCap => Widened before.escalationPolicy.maxValueUsdCents.value?
      after.escalationPolicy.maxValueUsdCents.value?
  | .escalationFloor => Widened before.escalationPolicy.minValueUsdCents.value?
      after.escalationPolicy.minValueUsdCents.value?
  | .perActionLimit ref limit => ref ∈ after.actions.map Action.id ∧
      Widened (limit.of before ref) (limit.of after ref)
  | .permission statement => statement ∈ after.permissions.allowed.map Permission.statement ∧
      statement ∉ before.permissions.allowed.map Permission.statement
  | .denialRemoved statement => statement ∈ before.permissions.denied.map Permission.statement ∧
      statement ∉ after.permissions.denied.map Permission.statement
  | .lifetime => before.capabilityPolicy.ttlSeconds < after.capabilityPolicy.ttlSeconds
  | .trust id => SourceChange before after id fun b s =>
      s.minimumTrustClass.rank < b.minimumTrustClass.rank
  | .maxAge id => SourceChange before after id fun b s => b.maxAgeMs < s.maxAgeMs
  | .fallback id => SourceChange before after id fun b s =>
      b.fallbackAllowed = false ∧ s.fallbackAllowed = true

/-- The part of the Blueprint that grants it. -/
def Grant.field : Grant → Field
  | action id => .action id
  | actionRef _ => .allowedActionRefs
  | recipient id => .recipientPolicy id
  | target id => .targetPolicy id
  | autonomousLimit => .autonomousLimit
  | hardCap => .hardCap
  | escalationFloor => .escalationFloor
  | perActionLimit ref limit => .perActionLimit ref limit
  | permission _ => .allowed
  | denialRemoved _ => .denied
  | lifetime => .ttlSeconds
  | trust id => .trust id
  | maxAge id => .maxAge id
  | fallback id => .fallback id

def Grant.statement : Grant → Option String
  | permission s => some s
  | denialRemoved s => some s
  | _ => none

def About (g : Grant) (c : SecurityChange) : Prop :=
  c.field = g.field ∧ (∀ s, g = .permission s → c.after = s) ∧ ∀ s, g = .denialRemoved s → c.before = s

/-- The diff hides no expansion and marks only expansions. -/
structure Faithful (before after : Blueprint) : Prop where
  complete : ∀ g, Granted before after g →
    ∃ c ∈ authorityExpansions (securityDiff before after), About g c
  sound : ∀ c ∈ authorityExpansions (securityDiff before after),
    ∃ g, Granted before after g ∧ About g c

variable {before after : Blueprint} {c : SecurityChange}

end ContextLock.Lab
