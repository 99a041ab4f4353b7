/-!
# Character properties

A character property is given as inclusive ranges of code points, sorted and
disjoint, and looked up by bisection; the case tables are kept that way.

The Unicode `White_Space` property is the set of characters that separate words
in any script. Tickers are trimmed by it and may not contain it. The set is
small and fixed: the ASCII controls tab to carriage return, space, next line,
no-break space, Ogham space mark, the spaces from en quad to hair space, the
line and paragraph separators, narrow no-break space, medium mathematical space
and ideographic space. Zero-width space and the Mongolian vowel separator are
not in it.

## Main definitions

* `Text.inRanges` : whether a code point lies in one of the ranges.
* `Text.isBlank` : membership in `White_Space`.
* `Text.trimBlank` : a string without its leading and trailing blanks.
-/

namespace RobotTrading

namespace Text

/-- Whether `n` lies in one of the sorted, disjoint ranges `rs[lo], …, rs[hi - 1]`: halve the
    candidates at each step, so the search takes at most `fuel` steps. -/
def inRangesBetween (rs : Array (Nat × Nat)) (n : Nat) : Nat → Nat → Nat → Bool
  | 0, _, _ => false
  | fuel + 1, lo, hi =>
    if hi ≤ lo then false
    else
      let mid := (lo + hi) / 2
      match rs[mid]? with
      | none => false
      | some (a, b) =>
        if n < a then inRangesBetween rs n fuel lo mid
        else if b < n then inRangesBetween rs n fuel (mid + 1) hi
        else true

/-- Whether `n` lies in one of the sorted, disjoint ranges `rs`. -/
def inRanges (rs : Array (Nat × Nat)) (n : Nat) : Bool :=
  inRangesBetween rs n (rs.size + 1) 0 rs.size

/-- No code point lies in an empty table. -/
theorem inRanges_empty (n : Nat) : inRanges #[] n = false := rfl

/-- The Unicode `White_Space` property. -/
def isBlank (c : Char) : Bool :=
  let n := c.toNat
  (0x9 ≤ n && n ≤ 0xD) || n == 0x20 || n == 0x85 || n == 0xA0 || n == 0x1680 ||
  (0x2000 ≤ n && n ≤ 0x200A) || n == 0x2028 || n == 0x2029 || n == 0x202F ||
  n == 0x205F || n == 0x3000

/-- The characters of a list without its leading and trailing blanks. -/
def trimBlankList (cs : List Char) : List Char :=
  ((cs.dropWhile isBlank).reverse.dropWhile isBlank).reverse

/-- A string without its leading and trailing blanks. -/
def trimBlank (s : String) : String := String.ofList (trimBlankList s.toList)

/-- Every character that core counts as whitespace is blank. -/
theorem isBlank_of_isWhitespace (c : Char) (h : c.isWhitespace = true) : isBlank c = true := by
  simp only [Char.isWhitespace, Bool.or_eq_true, decide_eq_true_eq] at h
  simp only [isBlank, Bool.or_eq_true, Bool.and_eq_true, decide_eq_true_eq, beq_iff_eq]
  rcases h with ((h | h) | h) | h <;> rw [h] <;> decide

end Text

end RobotTrading
