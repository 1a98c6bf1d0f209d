import Mathlib.Data.Nat.Notation

/-!
The part of Python's `str` that the code relies on. Texts are lists of
characters here, so that slicing and stripping are the list operations.
-/

namespace SitBank.Python

/-- `str.isspace` for one character. -/
def isSpace (c : Char) : Bool :=
  let n := c.toNat
  (9 ≤ n && n ≤ 13) || (28 ≤ n && n ≤ 32) || n = 0x85 || n = 0xA0 || n = 0x1680 ||
    (0x2000 ≤ n && n ≤ 0x200A) || n = 0x2028 || n = 0x2029 || n = 0x202F || n = 0x205F ||
    n = 0x3000

/-- `str.strip()`. -/
def strip (s : List Char) : List Char :=
  ((s.dropWhile isSpace).reverse.dropWhile isSpace).reverse

/-- `s[:n]`. -/
def truncate (n : ℕ) (s : String) : String := String.ofList (s.toList.take n)

theorem truncate_of_length_le {n : ℕ} {s : String} (h : s.length ≤ n) : truncate n s = s := by
  unfold truncate
  rw [List.take_of_length_le (by rwa [String.length_toList]), String.ofList_toList]

/-- `s.partition(sep)` for a separator of one character: `none` when the
separator does not occur. -/
def partition (sep : Char) (s : String) : Option (String × String) :=
  match s.toList.span (· ≠ sep) with
  | (_, []) => none
  | (before, _ :: after) => some (String.ofList before, String.ofList after)

end SitBank.Python
