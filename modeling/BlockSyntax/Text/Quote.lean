import BlockSyntax.Text.Printable

/-!
# Quoted text

Messages and traces show a text between quotes, so that blanks and control characters stay
visible.  The quote is the apostrophe, unless the text holds an apostrophe and no double quote;
then it is the double quote.  Inside, the backslash and the chosen quote are escaped by a
backslash, line feed, carriage return and tab by their letters `n`, `r`, `t`, and any other
character that is not printable by its code point in lowercase hexadecimal: `\x` with two digits
below `0x100`, `\u` with four below `0x10000`, `\U` with eight above.
-/

namespace BlockSyntax.Text

/-- The apostrophe, the usual quote. -/
def apostrophe : Char := '\''

/-- The quote a text is written between. -/
def quoteFor (s : List Char) : Char :=
  if apostrophe ∈ s ∧ '"' ∉ s then '"' else apostrophe

/-- The lowercase hexadecimal digits of `n`, padded with zeros to at least `width` digits. -/
def hexDigits (width n : Nat) : List Char :=
  let ds := Nat.toDigits 16 n
  List.replicate (width - ds.length) '0' ++ ds

/-- How the character `c` is written between quotes `q`. -/
def escape (q c : Char) : List Char :=
  if c = '\\' then ['\\', '\\']
  else if c = q then ['\\', q]
  else if c = '\n' then ['\\', 'n']
  else if c = '\r' then ['\\', 'r']
  else if c = '\t' then ['\\', 't']
  else if isPrintable c then [c]
  else if c.toNat < 0x100 then '\\' :: 'x' :: hexDigits 2 c.toNat
  else if c.toNat < 0x10000 then '\\' :: 'u' :: hexDigits 4 c.toNat
  else '\\' :: 'U' :: hexDigits 8 c.toNat

/-- The quoted form of a list of characters. -/
def quoteChars (s : List Char) : List Char :=
  let q := quoteFor s
  q :: s.flatMap (escape q) ++ [q]

/-- The quoted form of a text. -/
def quote (s : String) : String :=
  String.ofList (quoteChars s.toList)

/-- A printable character other than a quote or backslash stands for itself. -/
theorem escape_of_isPrintable {q c : Char} (hb : c ≠ '\\') (hq : c ≠ q) (hn : c ≠ '\n')
    (hr : c ≠ '\r') (ht : c ≠ '\t') (hp : isPrintable c = true) : escape q c = [c] := by
  simp [escape, hb, hq, hn, hr, ht, hp]

example : quote "it's" = "\"it's\"" := by decide +kernel

example : quote "a\tb\\" = "'a\\tb\\\\'" := by decide +kernel

example : quote "\x00" = "'\\x00'" := by decide +kernel

end BlockSyntax.Text
