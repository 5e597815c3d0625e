/-
# Theory.Delimited — words closed by a terminator

`spell stop words` writes every word with `stop` after it. Words in which `stop` does
not occur are read back from the spelling, so equal spellings are of equal words.

`listed records extra` puts the two fields of every record in a row, and perhaps one
word after them. The row is read back by its parity.

* `spell_injective`, `spell_eq_nil` — over clean words;
* `listed_injective` — over any fields;
* `spell_listed_injective` — both at once.
-/
import Mathlib.Data.List.Basic

namespace CpuIdle.Theory.Delimited

set_option autoImplicit false

universe u

variable {α : Type u}

/-- Every word, each followed by the terminator. -/
def spell (stop : α) (words : List (List α)) : List α := words.flatMap (· ++ [stop])

/-- The terminator occurs in none of the words. -/
def Clean (stop : α) (words : List (List α)) : Prop := ∀ word ∈ words, stop ∉ word

variable {stop : α}

@[simp] theorem spell_nil : spell stop [] = [] := rfl

@[simp] theorem spell_cons (word : List α) (words : List (List α)) :
    spell stop (word :: words) = word ++ stop :: spell stop words := by
  simp [spell]

@[simp] theorem spell_append (words words' : List (List α)) :
    spell stop (words ++ words') = spell stop words ++ spell stop words' := by
  simp [spell]

@[simp] theorem clean_cons {word : List α} {words : List (List α)} :
    Clean stop (word :: words) ↔ stop ∉ word ∧ Clean stop words := by
  simp [Clean]

theorem spell_eq_nil {words : List (List α)} : spell stop words = [] ↔ words = [] := by
  cases words <;> simp

/-- Two words end where the first terminator stands. -/
theorem first_word {word word' rest rest' : List α} (clean : stop ∉ word) (clean' : stop ∉ word')
    (same : word ++ stop :: rest = word' ++ stop :: rest') : word = word' ∧ rest = rest' := by
  induction word generalizing word' with
  | nil =>
      cases word' with
      | nil => exact ⟨rfl, by simpa using same⟩
      | cons letter tail =>
          obtain ⟨rfl, -⟩ := List.cons.inj same
          exact absurd List.mem_cons_self clean'
  | cons letter tail ih =>
      cases word' with
      | nil =>
          obtain ⟨rfl, -⟩ := List.cons.inj same
          exact absurd List.mem_cons_self clean
      | cons letter' tail' =>
          obtain ⟨rfl, tails⟩ := List.cons.inj same
          obtain ⟨rfl, rests⟩ := ih (fun member => clean (.tail _ member))
            (fun member => clean' (.tail _ member)) tails
          exact ⟨rfl, rests⟩

/-- Equal spellings are of equal words. -/
theorem spell_injective {words words' : List (List α)} (clean : Clean stop words)
    (clean' : Clean stop words') (same : spell stop words = spell stop words') : words = words' := by
  induction words generalizing words' with
  | nil => exact (spell_eq_nil.mp same.symm).symm
  | cons word rest ih =>
      cases words' with
      | nil => exact spell_eq_nil.mp same
      | cons word' rest' =>
          rw [clean_cons] at clean clean'
          rw [spell_cons, spell_cons] at same
          obtain ⟨rfl, rests⟩ := first_word clean.1 clean'.1 same
          rw [ih clean.2 clean'.2 rests]

/-! ## Records and one word more -/

/-- The fields of the records in a row, and the word after them. -/
def listed (records : List (List α × List α)) (extra : Option (List α)) : List (List α) :=
  records.flatMap (fun record => [record.1, record.2]) ++ extra.toList

@[simp] theorem listed_nil (extra : Option (List α)) : listed [] extra = extra.toList := rfl

@[simp] theorem listed_cons (record : List α × List α) (records : List (List α × List α))
    (extra : Option (List α)) :
    listed (record :: records) extra = record.1 :: record.2 :: listed records extra := rfl

theorem listed_eq_nil {records : List (List α × List α)} {extra : Option (List α)} :
    listed records extra = [] ↔ records = [] ∧ extra = none := by
  cases records <;> simp

theorem clean_listed {records : List (List α × List α)} {extra : Option (List α)}
    (fields : ∀ record ∈ records, stop ∉ record.1 ∧ stop ∉ record.2) (last : ∀ word ∈ extra, stop ∉ word) :
    Clean stop (listed records extra) := by
  induction records with
  | nil => simpa [Clean] using last
  | cons record rest ih =>
      obtain ⟨here, later⟩ := List.forall_mem_cons.mp fields
      rw [listed_cons, clean_cons, clean_cons]
      exact ⟨here.1, here.2, ih later⟩

/-- The word after the records is there exactly when the row is odd. -/
theorem listed_injective {records records' : List (List α × List α)} {extra extra' : Option (List α)}
    (same : listed records extra = listed records' extra') : records = records' ∧ extra = extra' := by
  induction records generalizing records' with
  | nil =>
      cases records' with
      | nil =>
          refine ⟨rfl, ?_⟩
          cases extra <;> cases extra' <;> simp_all
      | cons record rest => cases extra <;> simp at same
  | cons record rest ih =>
      cases records' with
      | nil => cases extra' <;> simp at same
      | cons record' rest' =>
          simp only [listed_cons, List.cons.injEq] at same
          obtain ⟨first, second, rests⟩ := same
          obtain ⟨rfl, extras⟩ := ih rests
          rw [Prod.ext first second]
          exact ⟨rfl, extras⟩

/-- A spelling of records, and perhaps one word more, is of those records and that word. -/
theorem spell_listed_injective {records records' : List (List α × List α)} {extra extra' : Option (List α)}
    (fields : ∀ record ∈ records, stop ∉ record.1 ∧ stop ∉ record.2) (last : ∀ word ∈ extra, stop ∉ word)
    (fields' : ∀ record ∈ records', stop ∉ record.1 ∧ stop ∉ record.2) (last' : ∀ word ∈ extra', stop ∉ word)
    (same : spell stop (listed records extra) = spell stop (listed records' extra')) :
    records = records' ∧ extra = extra' :=
  listed_injective (spell_injective (clean_listed fields last) (clean_listed fields' last') same)

end CpuIdle.Theory.Delimited
