import Mathlib.Data.List.DropRight

/-!
# Trimming white space

Names and keys are trimmed before they are stored. White space is the Unicode property
`White_Space`.

## Main definitions

* `Text.isWhitespace`: the characters with the property.
* `Text.trim`: a string without leading and trailing white space.

## Main results

* `Text.trim_trim`: trimming twice is trimming once.
* `Text.trim_append_trim`: a trimmed text after another one.
-/

namespace Text

/-- A character with the Unicode property `White_Space`. -/
def isWhitespace (c : Char) : Bool :=
  let n := c.toNat
  (0x9 ≤ n && n ≤ 0xD) || n == 0x20 || n == 0x85 || n == 0xA0 || n == 0x1680 ||
    (0x2000 ≤ n && n ≤ 0x200A) || n == 0x2028 || n == 0x2029 || n == 0x202F || n == 0x205F ||
    n == 0x3000

/-- The string without leading and trailing white space. -/
def trim (s : String) : String :=
  String.ofList ((s.toList.dropWhile isWhitespace).rdropWhile isWhitespace)

/-- Dropping a suffix keeps the first character, when any is left. -/
private theorem dropWhile_rdropWhile_dropWhile {α : Type*} (p : α → Bool) (l : List α) :
    ((l.dropWhile p).rdropWhile p).dropWhile p = (l.dropWhile p).rdropWhile p := by
  rw [List.dropWhile_eq_self_iff]
  intro hl
  have hstart := List.rdropWhile_prefix p (l := l.dropWhile p)
  rw [hstart.getElem hl]
  exact List.dropWhile_get_zero_not p l (hl.trans_le hstart.length_le)

/-- Trimming twice is trimming once. -/
theorem trim_trim (s : String) : trim (trim s) = trim s := by
  unfold trim
  rw [String.toList_ofList, dropWhile_rdropWhile_dropWhile, List.rdropWhile_idempotent]

/-- A string that neither starts nor ends with white space. -/
theorem trim_eq_self {s : String} (hs : s.toList ≠ [])
    (hhead : isWhitespace (s.toList.head hs) = false)
    (hlast : isWhitespace (s.toList.getLast hs) = false) : trim s = s := by
  have hdrop : s.toList.dropWhile isWhitespace = s.toList := by
    rw [List.dropWhile_eq_self_iff]
    intro hlength
    rw [List.getElem_zero_eq_head, hhead]
    exact Bool.false_ne_true
  have hrdrop : s.toList.rdropWhile isWhitespace = s.toList := by
    rw [List.rdropWhile_eq_self_iff]
    intro _
    rw [hlast]
    exact Bool.false_ne_true
  rw [trim, hdrop, hrdrop, String.ofList_toList]

/-- A trimmed text ends with what is no white space. -/
theorem isWhitespace_getLast_trim {t : String} (ht : (trim t).toList ≠ []) :
    isWhitespace ((trim t).toList.getLast ht) = false := by
  have heq : (trim t).toList = (t.toList.dropWhile isWhitespace).rdropWhile isWhitespace :=
    String.toList_ofList
  have hlast := List.rdropWhile_last_not isWhitespace (t.toList.dropWhile isWhitespace)
    (heq ▸ ht)
  simpa only [heq, Bool.not_eq_true] using hlast

/-- A trimmed text after one that does not start with white space. -/
theorem trim_append_trim {s t : String} (hs : s.toList ≠ [])
    (hhead : isWhitespace (s.toList.head hs) = false) (ht : trim t ≠ "") :
    trim (s ++ trim t) = s ++ trim t := by
  have hlist : (trim t).toList ≠ [] := fun h => ht (String.toList_eq_nil_iff.1 h)
  have hne : (s ++ trim t).toList ≠ [] := by
    rw [String.toList_append]
    exact List.append_ne_nil_of_left_ne_nil hs _
  refine trim_eq_self hne ?_ ?_
  · simpa only [String.toList_append, List.head_append_of_ne_nil hs] using hhead
  · simpa only [String.toList_append, List.getLast_append_of_ne_nil _ hlist] using
      isWhitespace_getLast_trim hlist
example : trim " \u3000weights\n" = "weights" := by decide

end Text
