/-!
# Blank space

A character is **blank** when it has the Unicode property White_Space; a text is trimmed by
dropping the blanks at its ends.

* `isBlank`, `trimStart`, `trimEnd`, `trim` on lists of characters, `trimmed` on strings;
* `dropEnd`: drops characters at the end;
* `dropEnd_append_of_all`, `trimStart_append_of_all`: what is dropped at an end makes no difference.
-/

namespace TagCatalog.Text

/-- The characters with the Unicode property White_Space. -/
def isBlank (c : Char) : Bool :=
  let n := c.toNat
  (9 ≤ n && n ≤ 13) || n == 0x20 || n == 0x85 || n == 0xA0 || n == 0x1680 ||
    (0x2000 ≤ n && n ≤ 0x200A) || n == 0x2028 || n == 0x2029 || n == 0x202F || n == 0x205F ||
    n == 0x3000

/-- Drops every character at the end that `p` holds of. -/
def dropEnd (p : Char → Bool) (s : List Char) : List Char := (s.reverse.dropWhile p).reverse

/-- Drops the blanks at the start. -/
def trimStart (s : List Char) : List Char := s.dropWhile isBlank

/-- Drops the blanks at the end. -/
def trimEnd (s : List Char) : List Char := dropEnd isBlank s

/-- Drops the blanks at both ends. -/
def trim (s : List Char) : List Char := trimEnd (trimStart s)

/-- A string without the blanks at its ends. -/
def trimmed (s : String) : String := String.ofList (trim s.toList)

@[simp] theorem dropEnd_nil (p : Char → Bool) : dropEnd p [] = [] := rfl

theorem dropEnd_append_of_all {p : Char → Bool} {t : List Char} (h : t.all p = true)
    (s : List Char) : dropEnd p (s ++ t) = dropEnd p s := by
  have hr : ∀ c ∈ t.reverse, p c = true := fun c hc =>
    List.all_eq_true.1 h c (List.mem_reverse.1 hc)
  rw [dropEnd, List.reverse_append, List.dropWhile_append_of_pos hr, dropEnd]

theorem dropEnd_concat_of_neg {p : Char → Bool} {c : Char} (h : p c = false) (s : List Char) :
    dropEnd p (s ++ [c]) = s ++ [c] := by
  simp [dropEnd, h]

theorem trimStart_append_of_all {t : List Char} (h : t.all isBlank = true) (s : List Char) :
    trimStart (t ++ s) = trimStart s :=
  List.dropWhile_append_of_pos fun c hc => List.all_eq_true.1 h c hc

end TagCatalog.Text
