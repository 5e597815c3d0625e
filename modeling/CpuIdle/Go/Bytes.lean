/-
# Go.Bytes — strings of any bytes

A Go string is any sequence of bytes. Where it is not UTF-8, a conversion to runes
reads U+FFFD for each byte that begins no rune, and `%q` prints such a byte in
hexadecimal.

* `utf8`, `decodeRunes`: the bytes of a text, and the runes of any bytes;
* `quoteBytes`: `%q`;
* `decodeRunes_utf8`, `quoteBytes_utf8`: on a text these are what `Go.Text` says;
* `nul_not_mem_quoteBytes`: no NUL gets through `%q`.
-/
import CpuIdle.Go.Text

namespace CpuIdle.Go

set_option autoImplicit false

/-- The bytes of a text. -/
def utf8 (s : String) : List UInt8 := s.toList.flatMap String.utf8EncodeChar

/-- What `range` and `[]rune` read off a string, rune by rune. A byte that begins no rune is
read alone. -/
def decodeRunes : List UInt8 → List (Except UInt8 Char)
  | [] => []
  | b :: rest =>
      match (b :: rest).toByteArray.utf8DecodeChar? 0 with
      | some c => .ok c :: decodeRunes (rest.drop (c.utf8Size - 1))
      | none => .error b :: decodeRunes rest
  termination_by bytes => bytes.length

/-- The rune a conversion to `[]rune` makes of it. -/
def replacedRune : Except UInt8 Char → Char
  | .ok c => c
  | .error _ => '\uFFFD'

section Quote

variable [PrintTable]

/-- A rune of a `%q` string, or a byte that is none. -/
def quoteDecoded : Except UInt8 Char → List Char
  | .ok c => quoteRune c
  | .error b => ['\\', 'x'] ++ hex 2 b.toNat

/-- The `%q` verb on a string of any bytes. -/
def quoteBytes (s : List UInt8) : String := .ofList ('"' :: (decodeRunes s).flatMap quoteDecoded ++ ['"'])

end Quote

/-! ## On a text -/

theorem decodeRunes_utf8EncodeChar (c : Char) (rest : List UInt8) :
    decodeRunes (String.utf8EncodeChar c ++ rest) = .ok c :: decodeRunes rest := by
  have decoded : (String.utf8EncodeChar c ++ rest).toByteArray.utf8DecodeChar? 0 = some c := by
    rw [List.toByteArray_append]
    exact ByteArray.utf8DecodeChar?_utf8EncodeChar_append
  have size := String.length_utf8EncodeChar c
  cases encoded : String.utf8EncodeChar c with
  | nil =>
      rw [encoded] at size
      exact absurd size (Nat.ne_of_lt c.utf8Size_pos)
  | cons b more =>
      rw [encoded, List.cons_append] at decoded
      rw [encoded, List.length_cons] at size
      have cut : (more ++ rest).drop (c.utf8Size - 1) = rest := by
        rw [← size, Nat.add_sub_cancel, List.drop_left]
      rw [List.cons_append, decodeRunes, decoded]
      dsimp only
      rw [cut]

theorem decodeRunes_flatMap (runes : List Char) :
    decodeRunes (runes.flatMap String.utf8EncodeChar) = runes.map .ok := by
  induction runes with
  | nil => rw [List.flatMap_nil, decodeRunes, List.map_nil]
  | cons c rest ih => rw [List.flatMap_cons, decodeRunes_utf8EncodeChar, ih, List.map_cons]

/-- The runes of a text are its own. -/
theorem decodeRunes_utf8 (s : String) : decodeRunes (utf8 s) = s.toList.map .ok :=
  decodeRunes_flatMap s.toList

theorem utf8_injective : Function.Injective utf8 := by
  intro s t same
  have runes := congrArg decodeRunes same
  rw [decodeRunes_utf8, decodeRunes_utf8] at runes
  exact String.toList_inj.mp (List.map_injective_iff.mpr (fun _ _ => Except.ok.inj) runes)

section

variable [PrintTable]

/-- On a text `%q` is `quote`. -/
theorem quoteBytes_utf8 (s : String) : quoteBytes (utf8 s) = quote s := by
  rw [quoteBytes, quote, decodeRunes_utf8, List.flatMap_map]
  rfl

/-! ## No NUL gets through `%q` -/

omit [PrintTable] in
theorem nul_not_mem_hex (width n : Nat) : '\x00' ∉ hex width n := by
  induction width generalizing n with
  | zero => simp [hex]
  | succ width ih =>
      have digit : ∀ d < 16, '\x00' ≠ d.digitChar := by decide
      rw [hex, List.mem_append, List.mem_singleton]
      rintro (earlier | last)
      · exact ih _ earlier
      · exact digit (n % 16) (Nat.mod_lt n (by decide)) last

theorem nul_not_mem_quoteRune (c : Char) : '\x00' ∉ quoteRune c := by
  unfold quoteRune
  split
  · rename_i escaped
    rcases escaped with rfl | rfl <;> decide
  · split
    · rename_i printed
      -- A printed rune stands for itself, and NUL is not printed.
      intro member
      obtain rfl := List.mem_singleton.mp member
      rw [PrintTable.nul] at printed
      cases printed
    · split
      all_goals first | decide | skip
      split_ifs
      · simpa using nul_not_mem_hex 2 _
      · simpa using nul_not_mem_hex 4 _
      · simpa using nul_not_mem_hex 8 _

theorem nul_not_mem_quoteDecoded (r : Except UInt8 Char) : '\x00' ∉ quoteDecoded r := by
  cases r with
  | ok c => exact nul_not_mem_quoteRune c
  | error b => simpa [quoteDecoded] using nul_not_mem_hex 2 b.toNat

/-- `%q` prints no NUL, whatever the bytes. -/
theorem nul_not_mem_quoteBytes (s : List UInt8) : '\x00' ∉ (quoteBytes s).toList := by
  rw [quoteBytes, String.toList_ofList]
  simp only [List.cons_append, List.mem_cons, List.mem_append, List.mem_flatMap, List.not_mem_nil, or_false]
  rintro (quoted | ⟨r, -, member⟩ | quoted)
  · cases quoted
  · exact nul_not_mem_quoteDecoded r member
  · cases quoted

end

end CpuIdle.Go
