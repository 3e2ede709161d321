import BlockSyntax.Source.Utf8

/-!
# Character feeds

A `Feed` is what the scanner reads from, one character per read: a list of characters, and then
either the end of input or a failure with a reason.  A feed comes from a text as it is, or from
the bytes of a file read as UTF-8 text, or is cut short by `failAfter`.

Reading a file as text decodes all of its bytes at once, and then
* any byte that is not UTF-8 makes the first read fail;
* a character cut off at the end of the file is held back: every complete character is read, and
  the read after them fails, with the cut-off bytes counted from offset 0.  So are the first two
  bytes of a surrogate at the very end, which a decoder reading in pieces cannot yet reject;
* newlines are unified: `CR LF` and a lone `CR` become `LF`.  A `CR` that ends the decoded
  characters waits for the next character to decide, so it is lost when the file ends in a
  cut-off character.
-/

namespace BlockSyntax

/-- How a feed ends once its characters are read. -/
inductive Ending where
  /-- Every further read gives the end of input. -/
  | finished
  /-- The next read fails, for the given reason. -/
  | fails (reason : String)
  deriving DecidableEq, Repr

/-- Characters to read, then an ending. -/
structure Feed where
  chars : List Char
  ending : Ending
  deriving DecidableEq, Repr

namespace Feed

/-- A text, read as it is. -/
def ofString (s : String) : Feed :=
  ⟨s.toList, .finished⟩

/-- Unified newlines: `CR LF` and a lone `CR` each become `LF`. -/
def unifyNewlines : List Char → List Char
  | '\r' :: '\n' :: rest => '\n' :: unifyNewlines rest
  | '\r' :: rest => '\n' :: unifyNewlines rest
  | c :: rest => c :: unifyNewlines rest
  | [] => []

/-- The characters without a final `CR`, which still waits for its successor. -/
def dropFinalReturn (cs : List Char) : List Char :=
  if cs.getLast? = some '\r' then cs.dropLast else cs

/-- Whether a decoding error of `bytes` is a surrogate's first two bytes, `ED A0-BF`, at their
very end.  A decoder that may still see more bytes holds such a tail back like a cut-off
character, and only the final decoding rejects it. -/
def heldSurrogate (bytes : List UInt8) (e : Utf8.DecodeError) : Bool :=
  e.fault == .invalidContinuation && e.first == 0xED && e.width == 1 &&
    e.offset + 2 == bytes.length &&
    (0xA0 ≤ bytes.getD (e.offset + 1) 0 && bytes.getD (e.offset + 1) 0 ≤ 0xBF)

/-- The bytes of a file, read as UTF-8 text with unified newlines. -/
def ofBytes (bytes : List UInt8) : Feed :=
  match Utf8.decodeFrom 0 none bytes with
  | .error e =>
    if heldSurrogate bytes e then
      match Utf8.decodeFrom 0 none (bytes.take e.offset) with
      | .ok (cs, _) => ⟨unifyNewlines (dropFinalReturn cs), .fails { e with offset := 0 }.message⟩
      | .error e => ⟨[], .fails e.message⟩
    else ⟨[], .fails e.message⟩
  | .ok (cs, none) => ⟨unifyNewlines cs, .finished⟩
  | .ok (cs, some p) => ⟨unifyNewlines (dropFinalReturn cs), .fails { p.cutOff with offset := 0 }.message⟩

/-- The reason a feed cut short by `failAfter` gives. -/
def simulatedReason : String := "simulated read failure"

/-- The feed whose reads succeed `n` times and then fail.  A read that gives the end of input
counts, so a feed with at least `n` characters keeps its first `n` and then fails; a shorter one
ends before its `n + 1`-th read and stays as it is. -/
def failAfter (n : Nat) (f : Feed) : Feed :=
  if n ≤ f.chars.length then ⟨f.chars.take n, .fails simulatedReason⟩ else f

example : (ofBytes [0x61, 0x0D, 0x0A, 0x62, 0x0D]).chars = ['a', '\n', 'b', '\n'] := by
  decide +kernel

end Feed

end BlockSyntax
