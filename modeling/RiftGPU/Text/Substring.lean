import Mathlib.Data.List.Infix

/-!
# Substrings

The test whether a string occurs in another, as a search that tries one position after the other.

## Main definitions

* `Text.contains`: the test.

## Main results

* `Text.contains_iff`: what the test decides.
-/

namespace Text

/-- The search for `needle`, from the front. -/
def containsChars (needle : List Char) : List Char → Bool
  | [] => needle.isEmpty
  | c :: rest => needle.isPrefixOf (c :: rest) || containsChars needle rest

/-- `str::contains`. -/
def contains (s needle : String) : Bool := containsChars needle.toList s.toList

theorem containsChars_iff {needle s : List Char} : containsChars needle s ↔ needle <:+: s := by
  induction s with
  | nil => rw [containsChars, List.isEmpty_iff, List.infix_nil]
  | cons c rest ih =>
    rw [containsChars, Bool.or_eq_true, List.isPrefixOf_iff_prefix, ih, List.infix_cons_iff]

theorem contains_iff {s needle : String} : contains s needle ↔ needle.toList <:+: s.toList :=
  containsChars_iff

/-- The empty string occurs in every string. -/
theorem contains_empty (s : String) : contains s "" := contains_iff.2 (List.nil_infix)

end Text
