/-
  Subject:   Checks of fields as the schemas of the sources make them, with their issues.

  A check gives the value it accepts, or the text of the issue it raises. The issues of a
  record are those of its fields, in the order of the schema.
-/
import ContextLock.Js.Sha256

namespace ContextLock.Js

def textField (fields : List (String × Json)) (name : String) : Except String String :=
  match fields.lookup name with
  | some (.str s) => .ok s
  | value => .error ("Invalid input: expected string, received " ++ Json.typeName value)

def issueOf {α : Type} : Except String α → List String
  | .ok _ => []
  | .error issue => [issue]

/-- The issue a strict schema raises for the keys it does not know. -/
def unrecognized (keys : List String) : List String :=
  match keys with
  | [] => []
  | [key] => ["Unrecognized key: \"" ++ key ++ "\""]
  | keys => ["Unrecognized keys: " ++ ", ".intercalate (keys.map fun k => "\"" ++ k ++ "\"")]

/-- `s.length`: the number of code units. -/
def textLength (s : String) : Nat := (codeUnits s).length

/-- White space, as `trim` knows it. -/
def isSpace (c : Char) : Bool :=
  (0x9 ≤ c.toNat ∧ c.toNat ≤ 0xd) ∨ c.toNat = 0x20 ∨ c.toNat = 0xa0 ∨ c.toNat = 0x1680 ∨
    (0x2000 ≤ c.toNat ∧ c.toNat ≤ 0x200a) ∨ c.toNat = 0x2028 ∨ c.toNat = 0x2029 ∨
    c.toNat = 0x202f ∨ c.toNat = 0x205f ∨ c.toNat = 0x3000 ∨ c.toNat = 0xfeff

/-- `s.trim()`. -/
def trim (s : String) : String :=
  String.ofList ((s.toList.dropWhile isSpace).rdropWhile isSpace)

/-- `z.string().min(n)`. -/
def minLength (n : Nat) (s : String) : Except String String :=
  if textLength s < n then
    .error ("Too small: expected string to have >=" ++ toString n ++ " characters")
  else .ok s

/-- `/^[0-9a-f]{n}$/`. -/
def lowerHex (n : Nat) (cs : List Char) : Bool :=
  cs.length = n && cs.all fun c => ('0' ≤ c ∧ c ≤ '9') ∨ ('a' ≤ c ∧ c ≤ 'f')

/-- `z.string().regex(/^sha256:[0-9a-f]{64}$/)`. -/
def digestText (s : String) : Except String String :=
  if s.toList.take 7 = "sha256:".toList ∧ lowerHex 64 (s.toList.drop 7) then .ok s
  else .error "Invalid string: must match pattern /^sha256:[0-9a-f]\x7b64\x7d$/"

/-- `z.number().int().positive()`. -/
def positiveInt (fields : List (String × Json)) (name : String) : Except String Int :=
  match fields.lookup name with
  | some (.num (.int n)) =>
    if 2 ^ 53 ≤ n then .error "Too big: expected int to be <9007199254740991"
    else if n ≤ 0 then .error "Too small: expected number to be >0"
    else .ok n
  | value => .error ("Invalid input: expected number, received " ++ Json.typeName value)

end ContextLock.Js
