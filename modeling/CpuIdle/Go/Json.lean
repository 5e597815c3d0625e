/-
# Go.Json — the part of `encoding/json` that reads an annotation

`Json.parse` accepts what `json.Unmarshal` accepts as syntax: one value, optional
white space around it, nesting of at most 10000. Object members keep their order
and their duplicates, because decoding into a struct depends on both. A number is
kept as its literal: whether it fits an `int` is decided by the field it goes to.
`foldName` is the case folding struct fields are matched with when no name matches
exactly. `quoteJson` is the string form `json.Marshal` writes.
-/
import CpuIdle.Go.Text

namespace CpuIdle.Go

set_option autoImplicit false

/-- A decoded JSON value. -/
inductive Json where
  | null
  | bool (value : Bool)
  | num (literal : List Char)
  | str (value : List Char)
  | arr (elements : List Json)
  | obj (members : List (List Char × Json))

namespace Json

def maxNestingDepth : Nat := 10000

def isWhite (c : Char) : Bool := c = ' ' || c = '\t' || c = '\r' || c = '\n'

def skipWhite (cs : List Char) : List Char := cs.dropWhile isWhite

def hexValue (c : Char) : Option Nat :=
  if '0' ≤ c ∧ c ≤ '9' then some (c.toNat - '0'.toNat)
  else if 'a' ≤ c ∧ c ≤ 'f' then some (c.toNat - 'a'.toNat + 10)
  else if 'A' ≤ c ∧ c ≤ 'F' then some (c.toNat - 'A'.toNat + 10)
  else none

def hex4 : List Char → Option (Nat × List Char)
  | a :: b :: c :: d :: rest => do
      let a ← hexValue a
      let b ← hexValue b
      let c ← hexValue c
      let d ← hexValue d
      some (a * 0x1000 + b * 0x100 + c * 0x10 + d, rest)
  | _ => none

def isHighSurrogate (n : Nat) : Bool := 0xD800 ≤ n && n ≤ 0xDBFF

def isLowSurrogate (n : Nat) : Bool := 0xDC00 ≤ n && n ≤ 0xDFFF

def replacementChar : Char := Char.ofNat 0xFFFD

/-- What follows `\u`: a lone surrogate decodes to the replacement character and
leaves the escape after it for the next step. -/
def unicodeEscape (cs : List Char) : Option (Char × List Char) := do
  let (n, rest) ← hex4 cs
  if isHighSurrogate n then
    match rest with
    | '\\' :: 'u' :: tail =>
        match hex4 tail with
        | some (m, rest') =>
            if isLowSurrogate m then
              some (Char.ofNat (0x10000 + (n - 0xD800) * 0x400 + (m - 0xDC00)), rest')
            else some (replacementChar, rest)
        | none => none
    | _ => some (replacementChar, rest)
  else if isLowSurrogate n then some (replacementChar, rest)
  else some (Char.ofNat n, rest)

/-- The rest of a string literal, its opening quote already read. -/
def stringBody : Nat → List Char → Option (List Char × List Char)
  | 0, _ => none
  | fuel + 1, cs =>
      match cs with
      | [] => none
      | '"' :: rest => some ([], rest)
      | '\\' :: 'u' :: rest => do
          let (c, rest) ← unicodeEscape rest
          let (tail, rest) ← stringBody fuel rest
          some (c :: tail, rest)
      | '\\' :: e :: rest => do
          let c ← match e with
            | '"' => some '"'
            | '\\' => some '\\'
            | '/' => some '/'
            | 'b' => some (Char.ofNat 0x08)
            | 'f' => some (Char.ofNat 0x0C)
            | 'n' => some '\n'
            | 'r' => some '\r'
            | 't' => some '\t'
            | _ => none
          let (tail, rest) ← stringBody fuel rest
          some (c :: tail, rest)
      | c :: rest =>
          if c.toNat < 0x20 ∨ c = '\\' then none
          else do
            let (tail, rest) ← stringBody fuel rest
            some (c :: tail, rest)

def digitRun (cs : List Char) : List Char × List Char := cs.span Char.isDigit

/-- A number literal and what follows it. -/
def number (cs : List Char) : Option (List Char × List Char) := do
  let (sign, cs) := match cs with
    | '-' :: rest => (['-'], rest)
    | _ => ([], cs)
  let (whole, cs) ← match cs with
    | '0' :: rest => some (['0'], rest)
    | c :: _ => if c.isDigit then some (digitRun cs) else none
    | [] => none
  let (fraction, cs) ← match cs with
    | '.' :: rest =>
        let (run, rest) := digitRun rest
        if run = [] then none else some ('.' :: run, rest)
    | _ => some ([], cs)
  let (exponent, cs) ← match cs with
    | e :: rest =>
        if e = 'e' ∨ e = 'E' then
          let (mark, rest) := match rest with
            | '+' :: tail => ([e, '+'], tail)
            | '-' :: tail => ([e, '-'], tail)
            | _ => ([e], rest)
          let (run, rest) := digitRun rest
          if run = [] then none else some (mark ++ run, rest)
        else some ([], cs)
    | [] => some ([], cs)
  some (sign ++ whole ++ fraction ++ exponent, cs)

mutual

/-- One value. `fuel` bounds the calls; `depth` counts the enclosing brackets. -/
def value : Nat → Nat → List Char → Option (Json × List Char)
  | 0, _, _ => none
  | fuel + 1, depth, cs =>
      match skipWhite cs with
      | 'n' :: 'u' :: 'l' :: 'l' :: rest => some (.null, rest)
      | 't' :: 'r' :: 'u' :: 'e' :: rest => some (.bool true, rest)
      | 'f' :: 'a' :: 'l' :: 's' :: 'e' :: rest => some (.bool false, rest)
      | '"' :: rest => (stringBody (rest.length + 1) rest).map fun (s, rest) => (.str s, rest)
      | '[' :: rest =>
          if depth < maxNestingDepth then
            match skipWhite rest with
            | ']' :: rest => some (.arr [], rest)
            | _ => (elements fuel (depth + 1) rest).map fun (xs, rest) => (.arr xs, rest)
          else none
      | '\x7b' :: rest =>
          if depth < maxNestingDepth then
            match skipWhite rest with
            | '\x7d' :: rest => some (.obj [], rest)
            | _ => (members fuel (depth + 1) rest).map fun (ms, rest) => (.obj ms, rest)
          else none
      | cs => (number cs).map fun (literal, rest) => (.num literal, rest)

def elements : Nat → Nat → List Char → Option (List Json × List Char)
  | 0, _, _ => none
  | fuel + 1, depth, cs => do
      let (x, rest) ← value fuel depth cs
      match skipWhite rest with
      | ',' :: rest =>
          let (xs, rest) ← elements fuel depth rest
          some (x :: xs, rest)
      | ']' :: rest => some ([x], rest)
      | _ => none

def members : Nat → Nat → List Char → Option (List (List Char × Json) × List Char)
  | 0, _, _ => none
  | fuel + 1, depth, cs =>
      match skipWhite cs with
      | '"' :: rest => do
          let (key, rest) ← stringBody (rest.length + 1) rest
          match skipWhite rest with
          | ':' :: rest =>
              let (x, rest) ← value fuel depth rest
              match skipWhite rest with
              | ',' :: rest =>
                  let (ms, rest) ← members fuel depth rest
                  some ((key, x) :: ms, rest)
              | '\x7d' :: rest => some ([(key, x)], rest)
              | _ => none
          | _ => none
      | _ => none

end

/-- The value a whole text denotes. Every call of `value`, `elements` or `members`
but the first consumes a character or follows one that did, so twice the length is
fuel enough. -/
def parse (text : String) : Option Json :=
  match value (2 * text.toList.length + 2) 0 text.toList with
  | some (json, rest) => if skipWhite rest = [] then some json else none
  | none => none

/-- The smallest rune of a fold orbit, for the orbits that meet ASCII: the letters,
the long s and the Kelvin sign. -/
def foldRune (c : Char) : Char :=
  if c.toNat = 0x17F then 'S'
  else if c.toNat = 0x212A then 'K'
  else c.toUpper

def foldName (name : List Char) : List Char := name.map foldRune

/-- `strconv.ParseInt(literal, 10, 64)` on a JSON number literal. -/
def int64 (literal : List Char) : Option Int :=
  match literal with
  | '-' :: digits =>
      match parseDigits digits 0 with
      | .ok n => if digits ≠ [] ∧ n ≤ 9223372036854775808 then some (-(n : Int)) else none
      | .error _ => none
  | digits =>
      match parseDigits digits 0 with
      | .ok n => if digits ≠ [] ∧ n < 9223372036854775808 then some n else none
      | .error _ => none

/-- One rune of a string as `json.Marshal` writes it, HTML-safe. -/
def quoteJsonRune (c : Char) : List Char :=
  match c with
  | '"' => ['\\', '"']
  | '\\' => ['\\', '\\']
  | '\n' => ['\\', 'n']
  | '\r' => ['\\', 'r']
  | '\t' => ['\\', 't']
  | c =>
      if c.toNat = 0x08 then ['\\', 'b']
      else if c.toNat = 0x0C then ['\\', 'f']
      else if c.toNat < 0x20 ∨ c = '<' ∨ c = '>' ∨ c = '&' ∨ c.toNat = 0x2028 ∨ c.toNat = 0x2029 then
        ['\\', 'u'] ++ hex 4 c.toNat
      else [c]

def quoteJson (s : String) : String := .ofList ('"' :: s.toList.flatMap quoteJsonRune ++ ['"'])

end Json

end CpuIdle.Go
