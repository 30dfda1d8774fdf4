/-
  Subject:   JSON values, records looked up by key, texts that spell bytes, dates.

  A lookup `record[key]` on an object literal also finds what the object inherits: a key such
  as `constructor` is neither absent nor an entry of the record.
-/
import ContextLock.Evm.Keccak
import ContextLock.Js.Value

namespace ContextLock.Js

/-! ## 1. JSON values -/

inductive Json where
  | null
  | bool (b : Bool)
  | num (n : Num)
  | str (s : String)
  | arr (items : List Json)
  | obj (fields : List (String × Json))

/-- The name a schema reports for the kind of a value; `none` is `undefined`. -/
def Json.typeName : Option Json → String
  | none => "undefined"
  | some .null => "null"
  | some (.bool _) => "boolean"
  | some (.num .nan) => "NaN"
  | some (.num _) => "number"
  | some (.str _) => "string"
  | some (.arr _) => "array"
  | some (.obj _) => "object"

def jsonChar (c : Char) : String :=
  if c = '"' then "\\\"" else if c = '\\' then "\\\\"
  else if c = '\n' then "\\n" else if c = '\r' then "\\r" else if c = '\t' then "\\t"
  else if c = '\x08' then "\\b" else if c = '\x0c' then "\\f"
  else if c.toNat < 0x20 then "\\u" ++ String.ofList (hexDigits 4 c.toNat)
  else String.singleton c

/-- `JSON.stringify` of a text. -/
def jsonText (s : String) : String := "\"" ++ String.join (s.toList.map jsonChar) ++ "\""

/-- `JSON.stringify` of a record of texts. -/
def stringifyTexts (fields : List (String × String)) : String :=
  "\x7b" ++ ",".intercalate (fields.map fun f => jsonText f.1 ++ ":" ++ jsonText f.2) ++ "\x7d"

/-! ## 2. Records -/

/-- The keys an object literal inherits. -/
def inheritedKeys : List String :=
  ["constructor", "__defineGetter__", "__defineSetter__", "hasOwnProperty", "__lookupGetter__",
   "__lookupSetter__", "isPrototypeOf", "propertyIsEnumerable", "toString", "valueOf", "__proto__",
   "toLocaleString"]

/-- What `record[key]` finds. -/
inductive Lookup (α : Type) where
  | own (a : α)
  | inherited
  | absent

/-- `record[key]`. -/
def lookup {α : Type} (record : List (String × α)) (key : String) : Lookup α :=
  match record.lookup key with
  | some a => .own a
  | none => if key ∈ inheritedKeys then .inherited else .absent

/-! ## 3. Texts that spell bytes -/

def digitValue (c : Char) : Option Nat :=
  if '0' ≤ c ∧ c ≤ '9' then some (c.toNat - 48)
  else if 'a' ≤ c ∧ c ≤ 'f' then some (c.toNat - 87)
  else if 'A' ≤ c ∧ c ≤ 'F' then some (c.toNat - 55)
  else none

def digitsValue (cs : List Char) : Option Nat :=
  cs.foldlM (fun n c => (digitValue c).map (16 * n + ·)) 0

/-- The value of `0x…` with exactly `2 * n` digits. -/
def hexValue (n : Nat) (s : String) : Option Nat :=
  match s.toList with
  | '0' :: 'x' :: cs => if cs.length = 2 * n then digitsValue cs else none
  | _ => none

/-- `isAddress(s, { strict: false })`. -/
def isAddress (s : String) : Bool := (hexValue 20 s).isSome

/-- `getAddress`: the checksummed spelling of an address. -/
def getAddress (a : Evm.Address) : String :=
  let plain := hexDigits 40 a.toNat
  let hash := hexDigits 64 (Evm.keccakText (String.ofList plain)).toNat
  "0x" ++ String.ofList (plain.zipWith
    (fun c h => if (digitValue h).any (8 ≤ ·) then c.toUpper else c) hash)

/-! ## 4. Dates -/

/-- The last `k` decimal digits of a number. -/
def decimals : Nat → Nat → List Char
  | 0, _ => []
  | k + 1, n => decimals k (n / 10) ++ [hexDigit (n % 10)]

/-- Year, month and day of the `days`-th day after 1970-01-01. -/
def civilDate (days : Nat) : Nat × Nat × Nat :=
  let z := days + 719468
  let doe := z % 146097
  let yoe := (doe - doe / 1460 + doe / 36524 - doe / 146096) / 365
  let doy := doe - (365 * yoe + yoe / 4 - yoe / 100)
  let mp := (5 * doy + 2) / 153
  let month := if mp < 10 then mp + 3 else mp - 9
  (yoe + z / 146097 * 400 + (if month ≤ 2 then 1 else 0), month, doy - (153 * mp + 2) / 5 + 1)

/-- `new Date(ms).toISOString()`, up to the year 9999. -/
def toISOString (ms : Nat) : String :=
  let date := civilDate (ms / 86400000)
  let time := ms % 86400000
  String.ofList (decimals 4 date.1 ++ '-' :: decimals 2 date.2.1 ++ '-' :: decimals 2 date.2.2
    ++ 'T' :: decimals 2 (time / 3600000) ++ ':' :: decimals 2 (time / 60000 % 60)
    ++ ':' :: decimals 2 (time / 1000 % 60) ++ '.' :: decimals 3 (time % 1000) ++ ['Z'])

example : toISOString 951827696789 = "2000-02-29T12:34:56.789Z" := by decide

end ContextLock.Js
