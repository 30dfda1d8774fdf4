/-
  Subject:   The URL parser of the language, for `https` URLs.

  A text is trimmed, split into scheme, authority and path; the path is split into segments,
  dot segments are resolved, and what may not stand in a path is percent-encoded. How a host is
  read (`Platform.parseHost`) belongs to the platform.
-/
import ContextLock.Js.Value
import Mathlib.Data.List.DropRight

namespace ContextLock.Js

/-! ## 1. Percent-encoding -/

def utf8Bytes (c : Char) : List Nat :=
  let n := c.toNat
  if n < 0x80 then [n]
  else if n < 0x800 then [0xc0 + n / 0x40, 0x80 + n % 0x40]
  else if n < 0x10000 then [0xe0 + n / 0x1000, 0x80 + n / 0x40 % 0x40, 0x80 + n % 0x40]
  else [0xf0 + n / 0x40000, 0x80 + n / 0x1000 % 0x40, 0x80 + n / 0x40 % 0x40, 0x80 + n % 0x40]

def upperDigit (n : Nat) : Char := "0123456789ABCDEF".toList.getD n '0'

def percentByte (n : Nat) : List Char := ['%', upperDigit (n / 16), upperDigit (n % 16)]

def encodeChar (set : Char → Bool) (c : Char) : List Char :=
  if set c then (utf8Bytes c).flatMap percentByte else [c]

def encodeText (set : Char → Bool) (cs : List Char) : List Char := cs.flatMap (encodeChar set)

def pathSet (c : Char) : Bool :=
  c.toNat ≤ 0x1f || 0x7e < c.toNat || c ∈ [' ', '"', '#', '<', '>', '?', '^', '\x60', '\x7b', '\x7d']

/-! ## 2. Paths -/

/-- The number of dots a segment is, a dot being spelled `.`, `%2e` or `%2E`. -/
def dots : List Char → Option Nat
  | [] => some 0
  | '.' :: cs => (dots cs).map (· + 1)
  | '%' :: '2' :: 'e' :: cs => (dots cs).map (· + 1)
  | '%' :: '2' :: 'E' :: cs => (dots cs).map (· + 1)
  | _ => none

def splitPath : List Char → List (List Char)
  | [] => [[]]
  | c :: cs =>
    if c = '/' ∨ c = '\\' then [] :: splitPath cs
    else
      match splitPath cs with
      | [] => [[c]]
      | s :: ss => (c :: s) :: ss

/-- The segments after dots are resolved: `done` stands before those still to come. -/
def resolveDots (done : List (List Char)) : List (List Char) → List (List Char)
  | [] => done
  | s :: rest =>
    if dots s = some 2 then
      resolveDots (if rest = [] then done.dropLast ++ [[]] else done.dropLast) rest
    else if dots s = some 1 then resolveDots (if rest = [] then done ++ [[]] else done) rest
    else resolveDots (done ++ [encodeText pathSet s]) rest

/-- Segments, a slash before each. -/
def joinPath (segments : List (List Char)) : List Char := segments.flatMap ('/' :: ·)

/-- `url.pathname` of the text between the authority and the query. -/
def pathname (text : List Char) : List Char :=
  match text with
  | '/' :: rest => joinPath (resolveDots [] (splitPath rest))
  | '\\' :: rest => joinPath (resolveDots [] (splitPath rest))
  | rest => joinPath (resolveDots [] (splitPath rest))

/-! ## 3. Whole URLs -/

/-- What the platform reads. -/
structure Platform where
  /-- A host as it is written in a URL; `none` is a failure. -/
  parseHost : String → Option String
  /-- The protocol of a URL in a scheme other than `https`; `none` is a failure. -/
  otherProtocol : String → Option String
  /-- `isIP` of `node:net`. -/
  isIP : String → Nat

/-- A URL in the scheme `https`. -/
structure Url where
  username : String
  password : String
  hostname : String
  port : String
  pathname : String
  deriving DecidableEq

/-- What `new URL` gives. -/
inductive ParsedUrl where
  | https (url : Url)
  | other (protocol : String)
  deriving DecidableEq

/-- A C0 control or a space. -/
def blank (c : Char) : Bool := c.toNat ≤ 0x20

def tabOrNewline (c : Char) : Bool := c = '\t' || c = '\n' || c = '\r'

/-- The text without blanks at its ends and without tabs and newlines. -/
def trimUrl (cs : List Char) : List Char :=
  ((cs.dropWhile blank).rdropWhile blank).filter (!tabOrNewline ·)

/-- The scheme, and what follows its colon. -/
def splitScheme (cs : List Char) : Option (List Char × List Char) :=
  let scheme := cs.takeWhile fun c => c.isAlphanum || c ∈ ['+', '-', '.']
  match cs.drop scheme.length with
  | ':' :: rest => if scheme.head?.any Char.isAlpha then some (scheme, rest) else none
  | _ => none

/-- The end of an authority. -/
def delimiter (c : Char) : Bool := c = '/' || c = '\\' || c = '?' || c = '#'

/-- A host, and a port after a colon that is not inside brackets. -/
def splitPort (inside : Bool) : List Char → List Char × Option (List Char)
  | [] => ([], none)
  | c :: cs =>
    if c = ':' ∧ inside = false then ([], some cs)
    else
      let rest := splitPort (if c = '[' then true else if c = ']' then false else inside) cs
      (c :: rest.1, rest.2)

/-- `url.port`: empty for none and for the port of the scheme. -/
def parsePort : Option (List Char) → Option String
  | none => some ""
  | some [] => some ""
  | some digits =>
    if digits.all Char.isDigit then
      let n := digits.foldl (fun n c => 10 * n + (c.toNat - 48)) 0
      if 65535 < n then none else if n = 443 then some "" else some (toString n)
    else none

/-- What follows `https:`. -/
def parseHttps (p : Platform) (rest : List Char) : Option Url :=
  let body := rest.dropWhile fun c => c = '/' || c = '\\'
  let authority := body.takeWhile (!delimiter ·)
  let path := (body.dropWhile (!delimiter ·)).takeWhile fun c => c ≠ '?' && c ≠ '#'
  let hostPort := authority.rtakeWhile (· ≠ '@')
  let user := (authority.take (authority.length - hostPort.length)).dropLast
  let host := (splitPort false hostPort).1
  if host = [] then none
  else
    match p.parseHost (String.ofList host), parsePort (splitPort false hostPort).2 with
    | some hostname, some port =>
      some {
        username := String.ofList (user.takeWhile (· ≠ ':'))
        password := String.ofList ((user.dropWhile (· ≠ ':')).drop 1)
        hostname, port, pathname := String.ofList (Js.pathname path) }
    | _, _ => none

/-- `new URL(s)`; `none` is thrown. -/
def parseUrl (p : Platform) (s : String) : Option ParsedUrl :=
  match splitScheme (trimUrl s.toList) with
  | none => none
  | some (scheme, rest) =>
    if scheme.map Char.toLower = "https".toList then (parseHttps p rest).map .https
    else (p.otherProtocol s).map .other

end ContextLock.Js
