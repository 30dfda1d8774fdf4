/-
  Subject:   JSON values as texts, and properties of JSON values.

  The fields of an object stand in the order in which the language lists its properties:
  array indices first, by their number, and then the other keys as they were added.
-/
import ContextLock.Js.Sha256

namespace ContextLock.Js

/-! ## 1. `JSON.stringify` -/

/-- `JSON.stringify(value)`. -/
def stringify : Json → String
  | .null => "null"
  | .bool b => boolText b
  | .num (.int n) => (Num.int n).text
  | .num _ => "null"
  | .str s => jsonText s
  | .arr items => "[" ++ ",".intercalate (stringifyItems items) ++ "]"
  | .obj fields => "\x7b" ++ ",".intercalate (stringifyFields fields) ++ "\x7d"
where
  stringifyItems : List Json → List String
    | [] => []
    | j :: js => stringify j :: stringifyItems js
  stringifyFields : List (String × Json) → List String
    | [] => []
    | (k, j) :: fs => (jsonText k ++ ":" ++ stringify j) :: stringifyFields fs

/-- The array index that a key spells: decimal digits without a leading zero, below
    `2 ^ 32 - 1`. -/
def arrayIndex (key : String) : Option Nat :=
  let digits := key.toList
  let n := digits.foldl (fun n c => 10 * n + (c.toNat - 48)) 0
  if digits ≠ [] ∧ digits.all Char.isDigit ∧ (digits.head? = some '0' → digits = ['0'])
    ∧ n < 2 ^ 32 - 1 then some n
  else none

/-- `a` stands before `b`, or is `b`, among the properties of an object whose keys were added
    in the order of `Array.prototype.sort`. -/
def propertyLe (a b : String) : Bool :=
  match arrayIndex a, arrayIndex b with
  | some m, some n => m ≤ n
  | some _, none => true
  | none, some _ => false
  | none, none => textLe a b

def insertProperty (f : String × Json) : List (String × Json) → List (String × Json)
  | [] => [f]
  | g :: gs => if propertyLe f.1 g.1 then f :: g :: gs else g :: insertProperty f gs

def sortKeys : Json → Json
  | .arr items => .arr (sortItems items)
  | .obj fields => .obj (sortFields fields)
  | value => value
where
  sortItems : List Json → List Json
    | [] => []
    | j :: js => sortKeys j :: sortItems js
  sortFields : List (String × Json) → List (String × Json)
    | [] => []
    | (k, j) :: fs => insertProperty (k, sortKeys j) (sortFields fs)

/-! ## 2. `String(value)` and properties -/

/-- `String(value)`; an object with its own `toString`, which is no function, has none. -/
def stringOf : Json → Option String
  | .null => some "null"
  | .bool b => some (boolText b)
  | .num n => some n.text
  | .str s => some s
  | .arr items => (itemTexts items).map (",".intercalate ·)
  | .obj fields => if fields.any (·.1 = "toString") then none else some "[object Object]"
where
  itemTexts : List Json → Option (List String)
    | [] => some []
    | .null :: js => (itemTexts js).map ("" :: ·)
    | j :: js =>
      match stringOf j, itemTexts js with
      | some s, some ss => some (s :: ss)
      | _, _ => none

/-- `value.name`, for a name that nothing inherits; an error is a `TypeError`. -/
def property (value : Json) (name : String) : Except Unit (Option Json) :=
  match value with
  | .null => .error ()
  | .obj fields => .ok (fields.lookup name)
  | _ => .ok none

/-- `String(value.name ?? fallback)`. -/
def textProperty (value : Json) (name fallback : String) : Except Unit String :=
  match property value name with
  | .error e => .error e
  | .ok none => .ok fallback
  | .ok (some .null) => .ok fallback
  | .ok (some v) =>
    match stringOf v with
    | some s => .ok s
    | none => .error ()

end ContextLock.Js
