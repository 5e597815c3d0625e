/-
# Go.Text — the parts of `strings`, `strconv`, `fmt` and `errors` the agent uses

Go strings are `String`s here: annotation values, file contents and API fields
reach the agent as valid UTF-8. Searching and cutting go through the list of
runes. `unicode.IsPrint` is a table this development does not carry; `%q` takes it
from the class `PrintTable`, which keeps the one fact the agent relies on.

* `hasPrefix` … `fields`, `trimSpace`: the `strings` functions;
* `parseUint`, `formatUint`: base 10, 64 bits, with the errors of `strconv`;
* `quote`: the `%q` verb;
* `GoError`: an error is its text and the sentinels `errors.Is` finds in its chain.
-/
import Mathlib.Data.List.Basic

namespace CpuIdle.Go

set_option autoImplicit false

/-! ## `strings` -/

def hasPrefix (s pre : String) : Bool := pre.toList.isPrefixOf s.toList

def hasSuffix (s suf : String) : Bool := suf.toList.isSuffixOf s.toList

def trimPrefix (s pre : String) : String :=
  if hasPrefix s pre then .ofList (s.toList.drop pre.toList.length) else s

def trimSuffix (s suf : String) : String :=
  if hasSuffix s suf then .ofList (s.toList.take (s.toList.length - suf.toList.length)) else s

/-- `strings.ReplaceAll` with one-rune arguments. -/
def replaceAll (s : String) (old new : Char) : String :=
  .ofList (s.toList.map fun c => if c = old then new else c)

/-- `strings.Contains` with a one-rune argument. -/
def contains (s : String) (c : Char) : Bool := s.toList.contains c

/-- `strings.Split` with a one-rune separator. -/
def split (s : String) (separator : Char) : List String :=
  (s.toList.splitOn separator).map .ofList

/-- `unicode.IsSpace`. -/
def isSpace (c : Char) : Bool :=
  let n := c.toNat
  (0x09 ≤ n && n ≤ 0x0D) || n == 0x20 || n == 0x85 || n == 0xA0 || n == 0x1680 ||
    (0x2000 ≤ n && n ≤ 0x200A) || n == 0x2028 || n == 0x2029 || n == 0x202F || n == 0x205F ||
    n == 0x3000

/-- `strings.Fields`. -/
def fields (s : String) : List String :=
  ((s.toList.splitOnP isSpace).filter (· ≠ [])).map .ofList

/-- `strings.TrimSpace`. -/
def trimSpace (s : String) : String :=
  .ofList (((s.toList.dropWhile isSpace).reverse.dropWhile isSpace).reverse)

@[simp] theorem hasPrefix_append (p r : String) : hasPrefix (p ++ r) p = true := by
  simp [hasPrefix]

@[simp] theorem hasSuffix_append (p r : String) : hasSuffix (p ++ r) r = true := by
  simp [hasSuffix]

@[simp] theorem trimPrefix_append (p r : String) : trimPrefix (p ++ r) p = r := by
  simp [trimPrefix]

@[simp] theorem trimSuffix_append (p r : String) : trimSuffix (p ++ r) r = p := by
  simp [trimSuffix]

theorem contains_iff {s : String} {c : Char} : contains s c = true ↔ c ∈ s.toList := by
  simp [contains]

theorem split_append (s t : String) {separator : String} {c : Char} (one : separator.toList = [c]) :
    split (s ++ separator ++ t) c = split s c ++ split t c := by
  have chars : (s ++ separator ++ t).toList = s.toList ++ c :: t.toList := by simp [one]
  rw [split, chars, List.splitOn_append_cons_self, List.map_append, split, split]

theorem split_atomic {s : String} {separator : Char} (absent : separator ∉ s.toList) :
    split s separator = [s] := by
  rw [split, List.splitOn_eq_singleton absent]
  simp

theorem split_ne_nil (s : String) (separator : Char) : split s separator ≠ [] := by
  simp [split, List.splitOn_ne_nil]

theorem join_eq_foldr (strings : List String) : String.join strings = strings.foldr (· ++ ·) "" := by
  induction strings with
  | nil => rfl
  | cons head tail ih => rw [String.join_cons, ih, List.foldr_cons]

/-- The pieces, each followed by the separator, spell the string and a separator. -/
theorem join_split (s : String) {separator : String} {c : Char} (one : separator.toList = [c]) :
    String.join ((split s c).map (· ++ separator)) = s ++ separator := by
  have pieces : ∀ parts : List (List Char), parts ≠ [] →
      ((parts.map String.ofList).map (· ++ separator)).foldr (· ++ ·) "" =
        .ofList ([c].intercalate parts) ++ separator := by
    intro parts nonempty
    induction parts with
    | nil => exact absurd rfl nonempty
    | cons part rest ih =>
        cases rest with
        | nil => simp
        | cons part' rest =>
            rw [List.map_cons, List.map_cons, List.foldr_cons, ih (by simp)]
            apply String.toList_inj.mp
            simp [List.intercalate, one]
  rw [join_eq_foldr, split, pieces _ (List.splitOn_ne_nil _ _), List.intercalate_splitOn,
    String.ofList_toList]

theorem toList_replaceAll (s : String) (old new : Char) :
    (replaceAll s old new).toList = s.toList.map fun c => if c = old then new else c := by
  simp [replaceAll]

/-! ## `strconv` -/

def maxUint64 : Nat := 18446744073709551615

inductive NumError where
  | badSyntax
  | range
  deriving DecidableEq, Repr

def NumError.text : NumError → String
  | .badSyntax => "invalid syntax"
  | .range => "value out of range"

def parseDigits : List Char → Nat → Except NumError Nat
  | [], n => .ok n
  | c :: rest, n =>
      if c.isDigit then
        let next := n * 10 + (c.toNat - '0'.toNat)
        if next ≤ maxUint64 then parseDigits rest next else .error .range
      else .error .badSyntax

/-- `strconv.ParseUint(s, 10, 64)`. -/
def parseUint (s : String) : Except NumError Nat :=
  match s.toList with
  | [] => .error .badSyntax
  | digits => parseDigits digits 0

/-- `strconv.FormatUint(n, 10)`. -/
def formatUint (n : Nat) : String := n.repr

theorem parseDigits_append (xs ys : List Char) (n : Nat) :
    parseDigits (xs ++ ys) n = (parseDigits xs n).bind (parseDigits ys) := by
  induction xs generalizing n with
  | nil => rfl
  | cons c rest ih =>
      simp only [List.cons_append, parseDigits]
      split
      · split
        · exact ih _
        · rfl
      · rfl

theorem digitChar_value : ∀ d < 10, d.digitChar.isDigit = true ∧ d.digitChar.toNat - '0'.toNat = d := by
  decide

theorem parseDigits_digitChar (d n : Nat) (digit : d < 10) (fits : n * 10 + d ≤ maxUint64) :
    parseDigits [d.digitChar] n = .ok (n * 10 + d) := by
  obtain ⟨isDigit, value⟩ := digitChar_value d digit
  simp only [parseDigits, isDigit, if_true, value, if_pos fits]

theorem parseDigits_toDigits (n : Nat) (fits : n ≤ maxUint64) :
    parseDigits (Nat.toDigits 10 n) 0 = .ok n := by
  induction n using Nat.strongRecOn with
  | ind n ih =>
      by_cases small : n < 10
      · rw [Nat.toDigits_of_lt_base small]
        simpa using parseDigits_digitChar n 0 small (by simpa using fits)
      · have split : Nat.toDigits 10 n = Nat.toDigits 10 (n / 10) ++ [(n % 10).digitChar] := by
          rw [Nat.toDigits_eq_if (by decide), if_neg (by omega)]
        rw [split, parseDigits_append, ih (n / 10) (by omega) (by omega)]
        have back : n / 10 * 10 + n % 10 = n := by omega
        have last := parseDigits_digitChar (n % 10) (n / 10) (by omega) (by omega)
        rw [back] at last
        exact last

theorem toList_formatUint (n : Nat) : (formatUint n).toList = Nat.toDigits 10 n := by
  simp [formatUint, Nat.repr]

/-- What `FormatUint` prints, `ParseUint` reads back. -/
theorem parseUint_formatUint {n : Nat} (fits : n ≤ maxUint64) :
    parseUint (formatUint n) = .ok n := by
  unfold parseUint
  rw [toList_formatUint]
  have nonempty : Nat.toDigits 10 n ≠ [] := Nat.toDigits_ne_nil
  split
  · rename_i empty
    exact absurd empty nonempty
  · exact parseDigits_toDigits n fits

theorem parseDigits_le {cs : List Char} {n m : Nat} (parsed : parseDigits cs n = .ok m)
    (fits : n ≤ maxUint64) : m ≤ maxUint64 := by
  induction cs generalizing n with
  | nil =>
      simp only [parseDigits, Except.ok.injEq] at parsed
      omega
  | cons c rest ih =>
      simp only [parseDigits] at parsed
      split at parsed
      · split at parsed
        · exact ih parsed (by assumption)
        · simp at parsed
      · simp at parsed

theorem formatUint_injective {n m : Nat} (hn : n ≤ maxUint64) (hm : m ≤ maxUint64)
    (same : formatUint n = formatUint m) : n = m := by
  have := parseUint_formatUint hn
  rw [same, parseUint_formatUint hm] at this
  exact (Except.ok.inj this).symm

/-! ## Lines and fields -/

/-- No white space in it, and not empty. -/
def Solid (s : String) : Prop := s ≠ "" ∧ ∀ c ∈ s.toList, isSpace c = false

theorem dropWhile_isSpace {cs : List Char} (solid : ∀ c ∈ cs.head?, isSpace c = false) :
    cs.dropWhile isSpace = cs := by
  cases cs with
  | nil => rfl
  | cons c rest => rw [List.dropWhile_cons, if_neg (by simp [solid c (by simp)])]

/-- Trimming a line of a control file removes its newline and nothing else. -/
theorem trimSpace_line {s : String} (nonempty : s ≠ "")
    (first : ∀ c ∈ s.toList.head?, isSpace c = false)
    (last : ∀ c ∈ s.toList.getLast?, isSpace c = false) : trimSpace (s ++ "\n") = s := by
  have filled : s.toList ≠ [] := by simpa using nonempty
  have front : (s.toList ++ ['\n']).dropWhile isSpace = s.toList ++ ['\n'] := by
    refine dropWhile_isSpace ?_
    rw [List.head?_append_of_ne_nil _ filled]
    exact first
  have back : (s.toList ++ ['\n']).reverse.dropWhile isSpace = s.toList.reverse := by
    rw [List.reverse_append, List.reverse_singleton, List.singleton_append, List.dropWhile_cons,
      if_pos (by decide)]
    refine dropWhile_isSpace ?_
    rw [List.head?_reverse]
    exact last
  have whole : (s ++ "\n").toList = s.toList ++ ['\n'] := by simp
  rw [trimSpace, whole, front, back, List.reverse_reverse, String.ofList_toList]

theorem trimSpace_solid_line {s : String} (solid : Solid s) : trimSpace (s ++ "\n") = s := by
  refine trimSpace_line solid.1 (fun c member => solid.2 c ?_) (fun c member => solid.2 c ?_)
  · exact List.mem_of_mem_head? member
  · exact List.mem_of_getLast? member

theorem splitOnP_solid {cs : List Char} (solid : ∀ c ∈ cs, isSpace c = false) :
    cs.splitOnP isSpace = [cs] :=
  List.splitOnP_eq_singleton (by simpa using solid)

/-- Two fields and the blank between them. -/
theorem fields_pair {a b : String} (ha : Solid a) (hb : Solid b) : fields (a ++ " " ++ b) = [a, b] := by
  have whole : (a ++ " " ++ b).toList = a.toList ++ ' ' :: b.toList := by simp
  have na : a ≠ "" := ha.1
  have nb : b ≠ "" := hb.1
  rw [fields, whole, List.splitOnP_append_cons _ _ (by decide), splitOnP_solid ha.2,
    splitOnP_solid hb.2]
  simp [na, nb]

theorem formatUint_digits (n : Nat) : ∀ c ∈ (formatUint n).toList, ∃ d < 10, c = d.digitChar := by
  intro c member
  rw [toList_formatUint] at member
  induction n using Nat.strongRecOn with
  | ind n ih =>
      by_cases small : n < 10
      · rw [Nat.toDigits_of_lt_base small, List.mem_singleton] at member
        exact ⟨n, small, member⟩
      · have split : Nat.toDigits 10 n = Nat.toDigits 10 (n / 10) ++ [(n % 10).digitChar] := by
          rw [Nat.toDigits_eq_if (by decide), if_neg (by omega)]
        rw [split, List.mem_append, List.mem_singleton] at member
        rcases member with member | rfl
        · exact ih (n / 10) (by omega) member
        · exact ⟨n % 10, by omega, rfl⟩

theorem digitChar_solid : ∀ d < 10, isSpace d.digitChar = false := by decide

theorem formatUint_ne_empty (n : Nat) : formatUint n ≠ "" := by
  rw [Ne, ← String.toList_inj, toList_formatUint]
  exact Nat.toDigits_ne_nil

theorem formatUint_solid (n : Nat) : Solid (formatUint n) := by
  refine ⟨formatUint_ne_empty n, fun c member => ?_⟩
  obtain ⟨d, small, rfl⟩ := formatUint_digits n c member
  exact digitChar_solid d small

theorem formatUint_ne_max (n : Nat) : formatUint n ≠ "max" := by
  intro same
  obtain ⟨d, small, letter⟩ := formatUint_digits n 'm' (by rw [same]; decide)
  revert letter
  revert d
  decide

/-! ## `fmt` -/

/-- `unicode.IsPrint`, with the fact that NUL is not printable. -/
class PrintTable where
  isPrint : Char → Bool
  nul : isPrint '\x00' = false

/-- A table that prints ASCII alone. -/
@[reducible] def asciiTable : PrintTable := ⟨fun c => ' ' ≤ c && c ≤ '~', by decide⟩

def hexDigit (n : Nat) : Char := (n % 16).digitChar

/-- The last `width` hexadecimal digits of `n`, lower case. -/
def hex : Nat → Nat → List Char
  | 0, _ => []
  | width + 1, n => hex width (n / 16) ++ [hexDigit n]

section Quote

variable [PrintTable]

/-- One rune of a `%q` string. -/
def quoteRune (c : Char) : List Char :=
  if c = '"' ∨ c = '\\' then ['\\', c]
  else if PrintTable.isPrint c then [c]
  else match c.toNat with
    | 0x07 => ['\\', 'a']
    | 0x08 => ['\\', 'b']
    | 0x0C => ['\\', 'f']
    | 0x0A => ['\\', 'n']
    | 0x0D => ['\\', 'r']
    | 0x09 => ['\\', 't']
    | 0x0B => ['\\', 'v']
    | n =>
        if n < 0x20 ∨ n = 0x7F then ['\\', 'x'] ++ hex 2 n
        else if n < 0x10000 then ['\\', 'u'] ++ hex 4 n
        else ['\\', 'U'] ++ hex 8 n

/-- The `%q` verb on a string. -/
def quote (s : String) : String := .ofList ('"' :: s.toList.flatMap quoteRune ++ ['"'])

end Quote

/-! ## `errors` -/

/-- The values `errors.Is` is asked about, and the API machinery's error classes. -/
inductive Sentinel where
  | canceled
  | cgroupGone
  | knobUnavailable
  | knobNotAllowed
  | notPodCgroup
  | einval
  | ownershipMarkerChanged
  deriving DecidableEq, Repr

/-- An error: what it prints, and the sentinels in its chain. -/
structure GoError where
  text : String
  chain : List Sentinel
  deriving DecidableEq, Repr

namespace GoError

/-- `errors.New`, or `fmt.Errorf` without `%w`. -/
def new (text : String) : GoError := ⟨text, []⟩

/-- `fmt.Errorf` ending in `: %w`. -/
def wrap (context : String) (err : GoError) : GoError := ⟨context ++ ": " ++ err.text, err.chain⟩

/-- `errors.Is`. -/
def is (err : GoError) (s : Sentinel) : Bool := err.chain.contains s

@[simp] theorem is_wrap (context : String) (err : GoError) (s : Sentinel) :
    (wrap context err).is s = err.is s := rfl

@[simp] theorem is_new (text : String) (s : Sentinel) : (new text).is s = false := rfl

/-- `errors.Join`: nil when there is nothing to join. -/
def join : List GoError → Option GoError
  | [] => none
  | err :: rest =>
      some ⟨"\n".intercalate (err.text :: rest.map text), err.chain ++ rest.flatMap chain⟩

@[simp] theorem join_eq_none {errs : List GoError} : join errs = none ↔ errs = [] := by
  cases errs <;> simp [join]

end GoError

def numError [PrintTable] (s : String) (err : NumError) : GoError :=
  .new s!"strconv.ParseUint: parsing {quote s}: {err.text}"

end CpuIdle.Go
