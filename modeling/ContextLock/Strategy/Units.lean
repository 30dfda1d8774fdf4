/-
  Subject:   The typed units of a strategy: comparing, adding and converting values.

  A unit read from what is no value is `undefined`, here `none`; looking into it throws as in the
  language.
-/
import ContextLock.Evm.Host

namespace ContextLock.Strategy

/-! ## 1. Units -/

inductive UnitKind where
  | TOKEN_AMOUNT
  | USD_VALUE
  | PRICE
  | PERCENT
  | BASIS_POINTS
  | HEALTH_FACTOR
  | TIMESTAMP
  | BLOCK_NUMBER
  | COUNT
  | BOOLEAN
  deriving DecidableEq

def UnitKind.text : UnitKind → String
  | TOKEN_AMOUNT => "TOKEN_AMOUNT"
  | USD_VALUE => "USD_VALUE"
  | PRICE => "PRICE"
  | PERCENT => "PERCENT"
  | BASIS_POINTS => "BASIS_POINTS"
  | HEALTH_FACTOR => "HEALTH_FACTOR"
  | TIMESTAMP => "TIMESTAMP"
  | BLOCK_NUMBER => "BLOCK_NUMBER"
  | COUNT => "COUNT"
  | BOOLEAN => "BOOLEAN"

/-- A kind, its scale, and its subject where it has one. -/
structure ValueUnit where
  kind : UnitKind
  decimals : Nat
  subject : Option String

namespace UNITS

def usd : ValueUnit := ⟨.USD_VALUE, 8, some "USD"⟩

def bps : ValueUnit := ⟨.BASIS_POINTS, 4, none⟩

def count : ValueUnit := ⟨.COUNT, 0, none⟩

def token (symbol : String) (decimals : Nat) : ValueUnit := ⟨.TOKEN_AMOUNT, decimals, some symbol⟩

def price (quoteCurrency : String) (decimals : Nat) : ValueUnit :=
  ⟨.PRICE, decimals, some quoteCurrency⟩

end UNITS

/-- `describeUnit`; an empty subject is none. -/
def describeUnit (u : ValueUnit) : String :=
  if u.subject.getD "" = "" then s!"{u.kind.text}@{u.decimals}dp"
  else u.kind.text ++ "<" ++ u.subject.getD "" ++ s!">@{u.decimals}dp"

/-- What a check throws: a mismatch with its code, or another error. -/
inductive UnitError where
  | mismatch (code message : String)
  | other (message : String)

def UnitError.code : UnitError → String
  | mismatch code _ => code
  | other _ => "STRAT-UNIT-INVALID"

def UnitError.message : UnitError → String
  | mismatch _ message => message
  | other message => message

/-- The `TypeError` of reading a property of `undefined`. -/
def undefinedRead (name : String) : UnitError :=
  .other s!"Cannot read properties of undefined (reading '{name}')"

/-- `new UnitMismatchError`; describing a unit that is none throws by itself. -/
def unitMismatch (code : String) (left right : Option ValueUnit) (detail : String) : UnitError :=
  match left, right with
  | some l, some r => .mismatch code s!"{code}: {detail} ({describeUnit l} vs {describeUnit r})"
  | _, _ => undefinedRead "subject"

/-! ## 2. Comparing and adding -/

def assertComparable (a b : Option ValueUnit) (context : String) : Except UnitError PUnit :=
  match a, b with
  | some l, some r =>
    if l.kind ≠ r.kind then
      .error (unitMismatch "STRAT-UNIT-KIND" a b s!"{context}: cannot compare different unit kinds")
    else if l.subject.getD "" ≠ r.subject.getD "" then
      .error (unitMismatch "STRAT-UNIT-SUBJECT" a b s!"{context}: same kind, different subject")
    else if l.decimals ≠ r.decimals then
      .error (unitMismatch "STRAT-UNIT-SCALE" a b
        s!"{context}: same unit at different scales; convert explicitly")
    else .ok ()
  | _, _ => .error (undefinedRead "kind")

def assertAddable (a b : Option ValueUnit) (context : String) : Except UnitError PUnit :=
  match assertComparable a b context with
  | .error e => .error e
  | .ok () =>
    match a with
    | some l =>
      if l.kind = .HEALTH_FACTOR ∨ l.kind = .BLOCK_NUMBER ∨ l.kind = .BOOLEAN then
        .error (unitMismatch "STRAT-UNIT-ADD" a b s!"{context}: {l.kind.text} values are not additive")
      else .ok ()
    | none => .ok ()

/-! ## 3. Conversions -/

structure TypedValue where
  value : Int
  unit : Option ValueUnit

/-- `rescale` of a value that has a unit. -/
def rescale (value : Int) (u : ValueUnit) (decimals : Nat) : TypedValue :=
  if u.decimals < decimals then
    ⟨value * 10 ^ (decimals - u.decimals), some { u with decimals := decimals }⟩
  else if decimals < u.decimals then
    ⟨value.tdiv (10 ^ (u.decimals - decimals)), some { u with decimals := decimals }⟩
  else ⟨value, some u⟩

/-- `tokenToUsd`, to 8 decimals where nothing else is said. -/
def tokenToUsd (amount price : TypedValue) (outDecimals : Nat := 8) : Except UnitError TypedValue :=
  match amount.unit with
  | none => .error (undefinedRead "kind")
  | some a =>
    if a.kind ≠ .TOKEN_AMOUNT then
      .error (unitMismatch "STRAT-UNIT-CONVERT" amount.unit price.unit
        "tokenToUsd expects a TOKEN_AMOUNT")
    else
      match price.unit with
      | none => .error (undefinedRead "kind")
      | some p =>
        if p.kind ≠ .PRICE then
          .error (unitMismatch "STRAT-UNIT-CONVERT" amount.unit price.unit "tokenToUsd expects a PRICE")
        else
          .ok (rescale ((amount.value * price.value).tdiv (10 ^ a.decimals))
            ⟨.USD_VALUE, p.decimals, some (p.subject.getD "USD")⟩ outDecimals)

def ratioToBps (part whole : TypedValue) : Except UnitError TypedValue :=
  match assertComparable part.unit whole.unit "ratioToBps" with
  | .error e => .error e
  | .ok () =>
    if whole.value = 0 then
      .error (unitMismatch "STRAT-UNIT-DIVZERO" part.unit whole.unit "ratioToBps: denominator is zero")
    else .ok ⟨(part.value * 10000).tdiv whole.value, some UNITS.bps⟩

/-! ## 4. Operands that are accepted -/

section Accepted

variable {a b : Option ValueUnit} {context : String}

theorem assertComparable_eq_ok (h : assertComparable a b context = .ok ()) : a ≠ none ∧ b ≠ none := by
  unfold assertComparable at h
  cases a with
  | none => cases h
  | some l =>
    cases b with
    | none => cases h
    | some r => exact ⟨Option.some_ne_none l, Option.some_ne_none r⟩

end Accepted

end ContextLock.Strategy
