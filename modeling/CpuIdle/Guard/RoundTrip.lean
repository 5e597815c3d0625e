/-
# Guard.RoundTrip — what the guard writes on a Pod it reads back

`setMarker` writes a record as `json.Marshal` does, HTML-safe and with every control character escaped;
`readMarker` takes it apart again. The two meet at every record: whatever the runes of its strings, and
for every version an `int` holds.

* `stringBody_quoted` — a quoted string, behind any text;
* `number_digits`, `int64_toString` — the version;
* `decode_encode` — the record; `marker_round_trip` — a record is valid iff its text reads back.
-/
import CpuIdle.Guard.Marker
import Mathlib.Data.List.TakeDrop

namespace CpuIdle.Guard

open CpuIdle.Go

set_option autoImplicit false

/-! ## Strings -/

theorem hexValue_hexDigit (n : Nat) : Json.hexValue (hexDigit n) = some (n % 16) := by
  have bounded : n % 16 < 16 := Nat.mod_lt _ (by decide)
  have all : ∀ d < 16, Json.hexValue d.digitChar = some d := by decide
  exact all _ bounded

theorem hex4_hex {n : Nat} (fits : n < 0x10000) (rest : List Char) :
    Json.hex4 (hex 4 n ++ rest) = some (n, rest) := by
  simp only [hex, List.nil_append, List.cons_append, Json.hex4, hexValue_hexDigit, Option.bind_eq_bind,
    Option.bind_some]
  congr 2
  omega

theorem unicodeEscape_hex {c : Char} (fits : c.toNat < 0x10000) (rest : List Char) :
    Json.unicodeEscape (hex 4 c.toNat ++ rest) = some (c, rest) := by
  have scalar : Json.isHighSurrogate c.toNat = false ∧ Json.isLowSurrogate c.toNat = false := by
    have range : c.toNat < 0xD800 ∨ 0xDFFF < c.toNat ∧ c.toNat < 0x110000 := c.valid
    simp only [Json.isHighSurrogate, Json.isLowSurrogate, Bool.and_eq_false_iff, decide_eq_false_iff_not]
    omega
  simp only [Json.unicodeEscape, hex4_hex fits, Option.bind_eq_bind, Option.bind_some, scalar.1, scalar.2,
    Bool.false_eq_true, if_false, Char.ofNat_toNat]

theorem stringBody_escape {fuel : Nat} {c : Char} (fits : c.toNat < 0x10000) (rest : List Char) :
    Json.stringBody (fuel + 1) ('\\' :: 'u' :: (hex 4 c.toNat ++ rest)) =
      (Json.stringBody fuel rest).map fun p => (c :: p.1, p.2) := by
  simp only [Json.stringBody, unicodeEscape_hex fits, Option.bind_eq_bind, Option.bind_some]
  cases Json.stringBody fuel rest <;> rfl

theorem stringBody_named {e c : Char} (listed : e ∈ ['"', '\\', 'b', 'f', 'n', 'r', 't'])
    (shown : Json.stringBody 2 ['\\', e, '"'] = some ([c], [])) (fuel : Nat) (rest : List Char) :
    Json.stringBody (fuel + 1) ('\\' :: e :: rest) =
      (Json.stringBody fuel rest).map fun p => (c :: p.1, p.2) := by
  simp only [List.mem_cons, List.not_mem_nil, or_false] at listed
  rcases listed with rfl | rfl | rfl | rfl | rfl | rfl | rfl <;> cases shown <;>
    rw [Option.map_eq_bind] <;> rfl

theorem stringBody_rune (fuel : Nat) (c : Char) (rest : List Char) :
    Json.stringBody (fuel + 1) (Json.quoteJsonRune c ++ rest) =
      (Json.stringBody fuel rest).map fun p => (c :: p.1, p.2) := by
  unfold Json.quoteJsonRune
  split
  · exact stringBody_named (by decide) rfl fuel rest
  · exact stringBody_named (by decide) rfl fuel rest
  · exact stringBody_named (by decide) rfl fuel rest
  · exact stringBody_named (by decide) rfl fuel rest
  · exact stringBody_named (by decide) rfl fuel rest
  · rename_i quote slash newline ret tab
    split
    · rename_i same
      obtain rfl : c = Char.ofNat 0x08 := by rw [← same, Char.ofNat_toNat]
      exact stringBody_named (by decide) rfl fuel rest
    split
    · rename_i same
      obtain rfl : c = Char.ofNat 0x0C := by rw [← same, Char.ofNat_toNat]
      exact stringBody_named (by decide) rfl fuel rest
    split
    · rename_i escaped
      refine stringBody_escape ?_ rest
      rcases escaped with low | rfl | rfl | rfl | same | same
      · omega
      · decide
      · decide
      · decide
      · omega
      · omega
    · rename_i plain
      have printable : ¬(c.toNat < 0x20 ∨ c = '\\') := by
        rintro (low | rfl)
        · exact plain (.inl low)
        · exact slash rfl
      simp only [List.cons_append, List.nil_append]
      rw [Json.stringBody]
      · rw [if_neg printable]
        cases Json.stringBody fuel rest <;> rfl
      · exact quote
      · exact fun _ same _ => slash same
      · exact fun _ _ same _ => slash same

theorem quoteJsonRune_length (c : Char) : 1 ≤ (Json.quoteJsonRune c).length := by
  unfold Json.quoteJsonRune
  split
  case h_6 =>
    split
    · exact Nat.le_add_left 1 1
    split
    · exact Nat.le_add_left 1 1
    split
    · simp
    · exact Nat.le_refl 1
  all_goals exact Nat.le_add_left 1 1

theorem quoted_length (s : List Char) : s.length ≤ (s.flatMap Json.quoteJsonRune).length := by
  induction s with
  | nil => exact Nat.le_refl 0
  | cons c s ih =>
      have one := quoteJsonRune_length c
      simp only [List.flatMap_cons, List.length_append, List.length_cons]
      omega

/-- **A quoted string is read back**, whatever its runes. -/
theorem stringBody_quoted (rest : List Char) :
    ∀ (s : List Char) (fuel : Nat), s.length < fuel →
      Json.stringBody fuel (s.flatMap Json.quoteJsonRune ++ '"' :: rest) = some (s, rest) := by
  intro s
  induction s with
  | nil =>
      intro fuel enough
      obtain ⟨fuel, rfl⟩ := Nat.exists_eq_add_of_lt enough
      rfl
  | cons c s ih =>
      intro fuel enough
      obtain ⟨fuel, rfl⟩ : ∃ n, fuel = n + 1 := ⟨fuel - 1, by omega⟩
      rw [List.flatMap_cons, List.append_assoc, stringBody_rune, ih fuel (by simpa using enough)]
      rfl

theorem quoteJson_append (s : String) (rest : List Char) :
    (Json.quoteJson s).toList ++ rest = '"' :: (s.toList.flatMap Json.quoteJsonRune ++ '"' :: rest) := by
  simp [Json.quoteJson]

theorem stringBody_quoteJson (s : String) (rest : List Char) :
    Json.stringBody ((s.toList.flatMap Json.quoteJsonRune ++ '"' :: rest).length + 1)
      (s.toList.flatMap Json.quoteJsonRune ++ '"' :: rest) = some (s.toList, rest) := by
  refine stringBody_quoted rest _ _ ?_
  have enough := quoted_length s.toList
  rw [List.length_append]
  omega

theorem value_quoteJson (fuel depth : Nat) (s : String) (rest : List Char) :
    Json.value (fuel + 1) depth ((Json.quoteJson s).toList ++ rest) = some (.str s.toList, rest) := by
  rw [quoteJson_append]
  have read : Json.value (fuel + 1) depth ('"' :: (s.toList.flatMap Json.quoteJsonRune ++ '"' :: rest)) =
    (Json.stringBody ((s.toList.flatMap Json.quoteJsonRune ++ '"' :: rest).length + 1)
      (s.toList.flatMap Json.quoteJsonRune ++ '"' :: rest)).map fun p => (.str p.1, p.2) := by
    rw [Json.value]
    rfl
  rw [read, stringBody_quoteJson]
  rfl

theorem value_number (fuel depth : Nat) (tail : List Char) :
    ∀ c ∈ "-0123456789".toList, Json.value (fuel + 1) depth (c :: tail) =
      (Json.number (c :: tail)).map fun p => (.num p.1, p.2) := by
  intro c member
  have cases : c ∈ ['-', '0', '1', '2', '3', '4', '5', '6', '7', '8', '9'] := member
  simp only [List.mem_cons, List.not_mem_nil, or_false] at cases
  rcases cases with rfl | rfl | rfl | rfl | rfl | rfl | rfl | rfl | rfl | rfl | rfl <;> rw [Json.value] <;> rfl

/-! ## Members -/

theorem skipWhite_solid {c : Char} (solid : Json.isWhite c = false) (rest : List Char) :
    Json.skipWhite (c :: rest) = c :: rest := by
  simp [Json.skipWhite, solid]

theorem members_next {fuel depth : Nat} {name : String} {rest rest' : List Char} {x : Json}
    (read : Json.value fuel depth rest = some (x, ',' :: rest')) :
    Json.members (fuel + 1) depth ((Json.quoteJson name).toList ++ ':' :: rest) =
      (Json.members fuel depth rest').map fun p => ((name.toList, x) :: p.1, p.2) := by
  rw [quoteJson_append, Json.members, skipWhite_solid (by decide)]
  simp only [stringBody_quoteJson, Option.bind_eq_bind, Option.bind_some,
    skipWhite_solid (c := ':') (by decide),
    skipWhite_solid (c := ',') (by decide), read]
  cases Json.members fuel depth rest' <;> rfl

theorem members_last {fuel depth : Nat} {name : String} {rest rest' : List Char} {x : Json}
    (read : Json.value fuel depth rest = some (x, '\x7d' :: rest')) :
    Json.members (fuel + 1) depth ((Json.quoteJson name).toList ++ ':' :: rest) =
      some ([(name.toList, x)], rest') := by
  rw [quoteJson_append, Json.members, skipWhite_solid (by decide)]
  simp only [stringBody_quoteJson, Option.bind_eq_bind, Option.bind_some,
    skipWhite_solid (c := ':') (by decide),
    skipWhite_solid (c := '\x7d') (by decide), read]

theorem value_object {fuel depth : Nat} {name : String} {rest rest' : List Char} {ms : List (List Char × Json)}
    (below : depth < Json.maxNestingDepth)
    (read : Json.members fuel (depth + 1) ((Json.quoteJson name).toList ++ rest) = some (ms, rest')) :
    Json.value (fuel + 1) depth ('\x7b' :: ((Json.quoteJson name).toList ++ rest)) = some (.obj ms, rest') := by
  rw [quoteJson_append] at read ⊢
  rw [Json.value, skipWhite_solid (by decide)]
  simp only [below, if_true, skipWhite_solid (c := '"') (by decide), read]
  rfl

/-! ## Numbers -/

/-- What a number looks like in decimal: digits only, and no leading zero but in `0` itself. -/
structure Decimal (n : Nat) (digits : List Char) : Prop where
  all : ∀ c ∈ digits, c.isDigit = true
  lead : n = 0 ∧ digits = ['0'] ∨ ∃ c rest, digits = c :: rest ∧ c ∈ "123456789".toList

theorem toDigits_lead {n : Nat} (pos : 0 < n) :
    ∃ c rest, Nat.toDigits 10 n = c :: rest ∧ c ∈ "123456789".toList := by
  induction n using Nat.strongRecOn with
  | ind n ih =>
      by_cases small : n < 10
      · rw [Nat.toDigits_of_lt_base small]
        refine ⟨_, _, rfl, ?_⟩
        have all : ∀ d < 10, 0 < d → d.digitChar ∈ "123456789".toList := by decide
        exact all n small pos
      · obtain ⟨c, rest, split, lead⟩ := ih (n / 10) (by omega) (by omega)
        rw [Nat.toDigits_of_base_le (by decide) (by omega), split]
        exact ⟨c, _, rfl, lead⟩

theorem decimal (n : Nat) : Decimal n (Nat.toDigits 10 n) := by
  refine ⟨fun c member => Nat.isDigit_of_mem_toDigits (by decide) (by decide) member, ?_⟩
  rcases Nat.eq_zero_or_pos n with rfl | pos
  · exact .inl ⟨rfl, rfl⟩
  · exact .inr (toDigits_lead pos)

theorem digitRun_digits {digits : List Char} (all : ∀ c ∈ digits, c.isDigit = true) (rest : List Char) :
    Json.digitRun (digits ++ ',' :: rest) = (digits, ',' :: rest) := by
  unfold Json.digitRun
  rw [List.span_eq_takeWhile_dropWhile, List.takeWhile_append_of_pos all, List.dropWhile_append_of_pos all]
  simp

theorem number_digits {n : Nat} {digits : List Char} (decimal : Decimal n digits) (rest : List Char) :
    Json.number (digits ++ ',' :: rest) = some (digits, ',' :: rest) ∧
      Json.number ('-' :: digits ++ ',' :: rest) = some ('-' :: digits, ',' :: rest) := by
  rcases decimal.lead with ⟨-, rfl⟩ | ⟨c, more, rfl, lead⟩
  · exact ⟨rfl, rfl⟩
  · have run : Json.digitRun (c :: (more ++ ',' :: rest)) = (c :: more, ',' :: rest) :=
      digitRun_digits decimal.all rest
    have cases : c ∈ ['1', '2', '3', '4', '5', '6', '7', '8', '9'] := lead
    simp only [List.mem_cons, List.not_mem_nil, or_false] at cases
    rcases cases with rfl | rfl | rfl | rfl | rfl | rfl | rfl | rfl | rfl <;>
      simp [Json.number, run]

/-- A version an `int` holds. -/
def FitsInt (version : Int) : Prop := -9223372036854775808 ≤ version ∧ version < 9223372036854775808

theorem toList_ofNat (n : Nat) : (toString (Int.ofNat n)).toList = Nat.toDigits 10 n := by
  simp [toString, Int.repr, Nat.repr]

theorem toList_negSucc (n : Nat) : (toString (Int.negSucc n)).toList = '-' :: Nat.toDigits 10 (n + 1) := by
  simp [toString, Int.repr, Nat.repr]

theorem int64_toString {version : Int} (fits : FitsInt version) :
    Json.int64 (toString version).toList = some version := by
  obtain ⟨low, high⟩ := fits
  cases version with
  | ofNat n =>
      have high : (n : Int) < 9223372036854775808 := high
      have parsed : parseDigits (Nat.toDigits 10 n) 0 = .ok n := by
        refine parseDigits_toDigits n ?_
        unfold maxUint64
        omega
      rw [toList_ofNat, Json.int64]
      · simp only [parsed]
        rw [if_pos ⟨Nat.toDigits_ne_nil, by omega⟩]
        rfl
      · intro digits signed
        have digit := (decimal n).all '-' (signed ▸ List.mem_cons_self)
        cases digit
  | negSucc n =>
      have parsed : parseDigits (Nat.toDigits 10 (n + 1)) 0 = .ok (n + 1) := by
        refine parseDigits_toDigits (n + 1) ?_
        unfold maxUint64
        omega
      rw [toList_negSucc]
      simp only [Json.int64, parsed]
      rw [if_pos ⟨Nat.toDigits_ne_nil, by omega⟩]
      rfl

theorem value_version (fuel depth : Nat) (version : Int) (rest : List Char) :
    Json.value (fuel + 1) depth ((toString version).toList ++ ',' :: rest) =
      some (.num (toString version).toList, ',' :: rest) := by
  cases version with
  | ofNat n =>
      have read := (number_digits (decimal n) rest).1
      rw [toList_ofNat]
      obtain ⟨c, more, split, lead⟩ : ∃ c more, Nat.toDigits 10 n = c :: more ∧
          c ∈ "-0123456789".toList := by
        rcases (decimal n).lead with ⟨-, zero⟩ | ⟨c, more, split, lead⟩
        · exact ⟨'0', [], zero, by decide⟩
        · have wider : "-0123456789".toList = '-' :: '0' :: "123456789".toList := rfl
          exact ⟨c, more, split, wider ▸ .tail _ (.tail _ lead)⟩
      rw [split, List.cons_append] at read ⊢
      rw [value_number fuel depth _ c lead, read]
      rfl
  | negSucc n =>
      rw [toList_negSucc, List.cons_append, value_number fuel depth _ '-' (by decide)]
      have read := (number_digits (decimal (n + 1)) rest).2
      rw [List.cons_append] at read
      rw [read]
      rfl

/-! ## The record -/

/-- The text of a record behind its brace. -/
def recordText (state : PersistedState) : List Char :=
  (Json.quoteJson "version").toList ++ ':' :: ((toString state.version).toList ++ ',' ::
    ((Json.quoteJson "knob").toList ++ ':' :: ((Json.quoteJson state.knob).toList ++ ',' ::
      ((Json.quoteJson "restore").toList ++ ':' :: ((Json.quoteJson state.restore).toList ++ ',' ::
        ((Json.quoteJson "suppressed").toList ++ ':' :: ((Json.quoteJson state.suppressed).toList ++
          ['\x7d'])))))))

def recordMembers (state : PersistedState) : List (List Char × Json) :=
  [("version".toList, .num (toString state.version).toList), ("knob".toList, .str state.knob.toList),
    ("restore".toList, .str state.restore.toList), ("suppressed".toList, .str state.suppressed.toList)]

theorem toList_encode (state : PersistedState) : (encode state).toList = '\x7b' :: recordText state := by
  have version : "\x7b\"version\":".toList = '\x7b' :: ((Json.quoteJson "version").toList ++ [':']) := by
    decide +kernel
  have knob : ",\"knob\":".toList = ',' :: ((Json.quoteJson "knob").toList ++ [':']) := by
    decide +kernel
  have restore : ",\"restore\":".toList = ',' :: ((Json.quoteJson "restore").toList ++ [':']) := by
    decide +kernel
  have suppressed : ",\"suppressed\":".toList = ',' :: ((Json.quoteJson "suppressed").toList ++ [':']) := by
    decide +kernel
  have ending : "\x7d".toList = ['\x7d'] := rfl
  unfold encode recordText
  rw [String.toList_append, String.toList_append, String.toList_append, String.toList_append,
    String.toList_append, String.toList_append, String.toList_append, String.toList_append, version, knob,
    restore, suppressed, ending]
  simp only [List.append_assoc, List.cons_append, List.nil_append]

theorem members_record (fuel : Nat) (state : PersistedState) :
    Json.members (fuel + 1 + 1 + 1 + 1 + 1) 1 (recordText state) = some (recordMembers state, []) := by
  unfold recordText
  rw [members_next (value_version (fuel + 1 + 1 + 1) 1 state.version _),
    members_next (value_quoteJson (fuel + 1 + 1) 1 state.knob _),
    members_next (value_quoteJson (fuel + 1) 1 state.restore _),
    members_last (value_quoteJson fuel 1 state.suppressed _)]
  rfl

theorem parse_encode (state : PersistedState) :
    Json.parse (encode state) = some (.obj (recordMembers state)) := by
  have room : 4 ≤ 2 * (recordText state).length := by
    unfold recordText
    simp only [List.length_cons, List.length_append]
    omega
  obtain ⟨fuel, enough⟩ : ∃ fuel, 2 * (encode state).toList.length + 2 = fuel + 1 + 1 + 1 + 1 + 1 + 1 := by
    refine ⟨2 * (recordText state).length - 2, ?_⟩
    rw [toList_encode, List.length_cons]
    omega
  unfold Json.parse
  rw [enough, toList_encode]
  have read := value_object (by decide) (members_record fuel state)
  unfold recordText at read ⊢
  rw [read]
  rfl

/-- **What the guard writes it reads back.** -/
theorem decode_encode (state : PersistedState) (fits : FitsInt state.version) :
    decode (encode state) = some state := by
  have keys : fieldOf "version".toList = some .version ∧ fieldOf "knob".toList = some .knob ∧
      fieldOf "restore".toList = some .restore ∧ fieldOf "suppressed".toList = some .suppressed := by
    decide
  obtain ⟨isVersion, isKnob, isRestore, isSuppressed⟩ := keys
  simp only [decode, parse_encode, recordMembers, setMembers, isVersion, isKnob, isRestore,
    isSuppressed, setField, int64_toString fits, Option.map_some, Option.bind_some, String.ofList_toList]

section

variable [PrintTable]

theorem fitsInt_of_valid {state : PersistedState} (valid : validateState state = none) :
    FitsInt state.version := by
  unfold validateState at valid
  split at valid
  · rename_i current
    rw [current]
    exact ⟨by decide, by decide⟩
  · split at valid
    · rename_i legacy
      rw [legacy]
      exact ⟨by decide, by decide⟩
    · cases valid

/-- **Every record reads back as itself, and a valid one is taken for one.** -/
theorem marker_round_trip (state : PersistedState) :
    (FitsInt state.version → decode (encode state) = some state) ∧
      (readMarker (encode state) = some state ↔ validateState state = none) := by
  refine ⟨decode_encode state, ?_⟩
  rw [readMarker_eq_some]
  constructor
  · intro read
    exact read.2
  · intro valid
    exact ⟨decode_encode state (fitsInt_of_valid valid), valid⟩

end

/-- A quote, a backslash, HTML, a control character, a line separator and a rune beyond the first plane. -/
theorem marker_round_trip_escapes :
    decode (encode ⟨-3, "a\"\\b", "<&>\x01\n", "\u2028𝔤"⟩) =
      some ⟨-3, "a\"\\b", "<&>\x01\n", "\u2028𝔤"⟩ :=
  haveI : PrintTable := asciiTable
  (marker_round_trip ⟨-3, "a\"\\b", "<&>\x01\n", "\u2028𝔤"⟩).1 ⟨by decide, by decide⟩

end CpuIdle.Guard
