import BlockSyntax.Text.Quote

/-!
# UTF-8

Decoding bytes as UTF-8, with the errors a strict decoder reports.  A character takes one to four
bytes: a lead byte `00-7F`, `C2-DF`, `E0-EF` or `F0-F4`, then one, two or three continuation
bytes `80-BF`.  The byte after the lead is narrower after `E0` (`A0-BF`: no overlong forms), `ED`
(`80-9F`: no surrogates), `F0` (`90-BF`) and `F4` (`80-8F`: nothing above `U+10FFFF`).

An error names the bad sequence by its first byte, its offset and its width, the number of bytes
that began a character validly.  A byte that starts no character is an *invalid start byte*
(width 1); a byte that cannot continue the sequence is an *invalid continuation byte*, and the
sequence is the valid beginning before it; a valid beginning cut off by the end of the bytes is
*unexpected end of data*.

The decoder reads one byte at a time, so `decodeFrom` is structural recursion on the bytes.
-/

namespace BlockSyntax.Utf8

/-- Why bytes are not UTF-8. -/
inductive Fault where
  | invalidStart
  | invalidContinuation
  | unexpectedEnd
  deriving DecidableEq, Repr

/-- The words an error message gives for a fault. -/
def Fault.reason : Fault → String
  | .invalidStart => "invalid start byte"
  | .invalidContinuation => "invalid continuation byte"
  | .unexpectedEnd => "unexpected end of data"

/-- A decoding error: the fault, and the first byte, offset and width of the bad sequence. -/
structure DecodeError where
  fault : Fault
  first : UInt8
  offset : Nat
  width : Nat
  deriving DecidableEq, Repr

/-- The message of a decoding error.  A bad sequence of one byte is named by the byte, a longer one
by its range of offsets. -/
def DecodeError.message (e : DecodeError) : String :=
  let head := "'utf-8' codec can't decode "
  let place :=
    if e.width ≤ 1 then
      "byte 0x" ++ String.ofList (Text.hexDigits 2 e.first.toNat) ++ " in position " ++
        toString e.offset
    else
      "bytes in position " ++ toString e.offset ++ "-" ++ toString (e.offset + e.width - 1)
  head ++ place ++ ": " ++ e.fault.reason

/-- A character begun and not finished: its lead byte and offset, the value of the bits read so
far, the bytes taken and the bytes still needed, and the range the next byte must lie in. -/
structure Pending where
  first : UInt8
  offset : Nat
  value : Nat
  taken : Nat
  needed : Nat
  lo : UInt8
  hi : UInt8
  deriving DecidableEq, Repr

/-- The error for a character that the end of the bytes cuts off. -/
def Pending.cutOff (p : Pending) : DecodeError :=
  ⟨.unexpectedEnd, p.first, p.offset, p.taken⟩

/-- What the decoder does with one byte. -/
inductive Step where
  | emit (c : Char)
  | wait (p : Pending)
  | fail (e : DecodeError)

/-- The byte `b`, at `offset`, as the first byte of a character. -/
def lead (offset : Nat) (b : UInt8) : Step :=
  if b < 0x80 then .emit (Char.ofNat b.toNat)
  else if b < 0xC2 then .fail ⟨.invalidStart, b, offset, 1⟩
  else if b < 0xE0 then .wait ⟨b, offset, b.toNat % 0x20, 1, 1, 0x80, 0xBF⟩
  else if b < 0xF0 then
    .wait ⟨b, offset, b.toNat % 0x10, 1, 2, if b = 0xE0 then 0xA0 else 0x80,
      if b = 0xED then 0x9F else 0xBF⟩
  else if b < 0xF5 then
    .wait ⟨b, offset, b.toNat % 0x08, 1, 3, if b = 0xF0 then 0x90 else 0x80,
      if b = 0xF4 then 0x8F else 0xBF⟩
  else .fail ⟨.invalidStart, b, offset, 1⟩

/-- The byte `b` as the next byte of the pending character `p`. -/
def Pending.next (p : Pending) (b : UInt8) : Step :=
  if p.lo ≤ b ∧ b ≤ p.hi then
    let v := p.value * 0x40 + b.toNat % 0x40
    if p.needed ≤ 1 then .emit (Char.ofNat v)
    else .wait ⟨p.first, p.offset, v, p.taken + 1, p.needed - 1, 0x80, 0xBF⟩
  else .fail ⟨.invalidContinuation, p.first, p.offset, p.taken⟩

/-- Decodes `bytes`, the first of which is at `offset`, after the unfinished character `p`.  The
result is the characters and the character left unfinished at the end, or the first error. -/
def decodeFrom (offset : Nat) (p : Option Pending) :
    List UInt8 → Except DecodeError (List Char × Option Pending)
  | [] => .ok ([], p)
  | b :: bs =>
    let step := match p with
      | none => lead offset b
      | some q => q.next b
    match step with
    | .emit c => (decodeFrom (offset + 1) none bs).map fun r => (c :: r.1, r.2)
    | .wait q => decodeFrom (offset + 1) (some q) bs
    | .fail e => .error e

/-- Decodes a whole byte sequence; a character cut off at the end is an error. -/
def decode (bytes : List UInt8) : Except DecodeError (List Char) :=
  match decodeFrom 0 none bytes with
  | .error e => .error e
  | .ok (cs, none) => .ok cs
  | .ok (_, some p) => .error p.cutOff

example : (decode [0x41, 0xC3, 0xA9]).toOption = some ['A', 'é'] := by decide +kernel

example : (decode [0x41, 0x80]).toOption = none := by decide +kernel

end BlockSyntax.Utf8
