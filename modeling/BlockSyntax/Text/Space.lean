import BlockSyntax.Text.RangeTable

/-!
# White space

The characters that trimming removes: tab, line feed, line and form feed (`U+000B`, `U+000C`),
carriage return, the four information separators `U+001C` to `U+001F`, space, next line
`U+0085`, no-break space `U+00A0`, and the Unicode space separators, line separator and
paragraph separator.  `trimEnd` drops them from the end of a text.
-/

namespace BlockSyntax.Text

/-- The white-space code points, as ascending closed ranges. -/
def spaceTable : RangeTable :=
  #[(0x9, 0xD), (0x1C, 0x20), (0x85, 0x85), (0xA0, 0xA0), (0x1680, 0x1680), (0x2000, 0x200A),
    (0x2028, 0x2029), (0x202F, 0x202F), (0x205F, 0x205F), (0x3000, 0x3000)]

/-- Whether a character is white space. -/
def isSpace (c : Char) : Bool :=
  spaceTable.contains c.toNat

/-- Every character that core counts as white space is white space here. -/
theorem isSpace_of_isWhitespace {c : Char} (h : c.isWhitespace = true) : isSpace c = true := by
  simp only [Char.isWhitespace, Bool.or_eq_true, decide_eq_true_eq] at h
  rcases h with ((h | h) | h) | h <;> subst h <;> decide +kernel

/-- A text without the white space at its end. -/
def trimEnd (s : String) : String :=
  String.ofList (s.toList.reverse.dropWhile isSpace).reverse

example : trimEnd "ab \n\x0b　" = "ab" := by decide +kernel

end BlockSyntax.Text
