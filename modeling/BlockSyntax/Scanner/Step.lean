import BlockSyntax.Scanner.Mode
import BlockSyntax.Scanner.Reader

/-!
# One call of the scanner

`Reader.nextToken` reads one token: it skips blanks, runs the machine of `Mode.onChar` over the
characters of the lexeme, and gives back the character that ends it.  Besides the token it tells,
as `Note`s in order, what it did: each character seen for the first time (`echo`), the start of
the call, each character taken in a mode, each character given back, and the token it gives.

A token starts where its first character was read; blanks before it move that start on.  At the
end of input the call gives an end token, at the position of the next character, and every later
call does the same without reading the feed.

`weight_nextToken_lt` says that a call that gives anything but the end token leaves a lighter
reader, which bounds the number of calls before the end.
-/

namespace BlockSyntax

/-- What a call of the scanner tells as it goes. -/
inductive Note where
  /-- A character read from the feed, seen for the first time. -/
  | echo (c : Char)
  /-- A call starts. -/
  | begin
  /-- The machine takes a character, or the end of input (`none`), in a mode. -/
  | enter (m : Mode) (x : Option Char)
  /-- A character is given back, to be read again. -/
  | pushBack (c : Char)
  /-- The machine has taken a character, or the end of input, in a mode. -/
  | leave (m : Mode) (x : Option Char)
  /-- The call gives a token. -/
  | finish (t : Token)
  deriving DecidableEq, Repr

/-- A call that gave a token: the token, the notes of the call, and the reader after it. -/
structure Step where
  token : Token
  notes : Array Note
  reader : Reader
  deriving Repr

/-- How a call ends: with a token, or with a failed read after the notes told so far. -/
inductive Outcome where
  | token (s : Step)
  | failure (notes : Array Note) (f : ReadFailure)
  deriving Repr

namespace Reader

/-- The notes of reading `x` in mode `m`: the echo of a character seen for the first time, then
the machine taking it. -/
def readNotes (m : Mode) (x : Option Char) (fresh : Bool) (notes : Array Note) : Array Note :=
  let notes := match x, fresh with
    | some c, true => notes.push (.echo c)
    | _, _ => notes
  notes.push (.enter m x)

/-- Runs the machine in mode `m` on reader `r`.  The lexeme so far is `text`, begun at `start`;
`notes` are the notes of the call so far.  In the start mode the lexeme begins at the next read. -/
def scan (m : Mode) (text : String) (start : Position) (notes : Array Note) (r : Reader) :
    Outcome :=
  let start := if m = .start then r.pos else start
  match h : r.read with
  | .failed reason => .failure notes ⟨reason, r.pos⟩
  | .ok none fresh r' =>
    let t : Token := ⟨m.closeKind text, text, start⟩
    let notes := (readNotes m none fresh notes).push (.leave m none)
    .token ⟨t, notes.push (.finish t), r'⟩
  | .ok (some c) fresh r' =>
    let notes := readNotes m (some c) fresh notes
    match m.onChar c with
    | .skip => scan .start text start (notes.push (.leave m (some c))) r'
    | .keep m' => scan m' (text.push c) start (notes.push (.leave m (some c))) r'
    | .single k =>
      let t : Token := ⟨k, text.push c, start⟩
      .token ⟨t, (notes.push (.leave m (some c))).push (.finish t), r'⟩
    | .close =>
      let t : Token := ⟨m.closeKind text, text, start⟩
      let notes := (notes.push (.pushBack c)).push (.leave m (some c))
      .token ⟨t, notes.push (.finish t), r'.pushBack c r.pos⟩
termination_by r.weight
decreasing_by all_goals exact weight_read_lt h

/-- One call of the scanner. -/
def nextToken (r : Reader) : Outcome :=
  scan .start "" r.pos #[.begin] r

/-- A run of the machine that starts no heavier than `w`, and lighter than `w` unless in the start
mode, gives the end token or a reader lighter than `w`. -/
theorem weight_scan_lt {m : Mode} {text : String} {start : Position} {notes : Array Note}
    {r : Reader} {s : Step} (w : Nat) (hm : m = .start → r.weight ≤ w)
    (hw : m ≠ .start → r.weight < w) (h : r.scan m text start notes = .token s)
    (hk : s.token.kind ≠ .eof) : s.reader.weight < w := by
  fun_induction scan m text start notes r with
  | case1 => cases h
  | case2 m text start notes r start' fresh r' hr t notes' =>
    cases h
    rw [weight_read_none hr]
    by_cases hs : m = .start
    · subst hs; exact absurd rfl hk
    · exact hw hs
  | case3 m text start notes r start' c fresh r' hr notes' hmove ih =>
    apply ih _ _ h
    · intro _
      have := weight_read_lt hr
      by_cases hs : m = .start
      · have := hm hs; omega
      · have := hw hs; omega
    · intro h'; exact absurd rfl h'
  | case4 m text start notes r start' c fresh r' hr notes' m' hmove ih =>
    apply ih _ _ h
    · intro _
      have := weight_read_lt hr
      by_cases hs : m = .start
      · have := hm hs; omega
      · have := hw hs; omega
    · intro _
      have := weight_read_lt hr
      by_cases hs : m = .start
      · have := hm hs; omega
      · have := hw hs; omega
  | case5 m text start notes r start' c fresh r' hr notes' k hmove t =>
    cases h
    have := weight_read_lt hr
    by_cases hs : m = .start
    · have := hm hs; simp only; omega
    · have := hw hs; simp only; omega
  | case6 m text start notes r start' c fresh r' hr notes' hmove t notes'' =>
    cases h
    have hs : m ≠ .start := by
      rintro rfl; exact Mode.onChar_start_ne_close c hmove
    have := weight_read_lt hr
    have := hw hs
    simp only [weight_pushBack (held_read hr)]
    omega

/-- A call that gives anything but the end token leaves a lighter reader. -/
theorem weight_nextToken_lt {r : Reader} {s : Step} (h : r.nextToken = .token s)
    (hk : s.token.kind ≠ .eof) : s.reader.weight < r.weight :=
  weight_scan_lt r.weight (fun _ => Nat.le_refl _) (fun h' => absurd rfl h') h hk

end Reader

end BlockSyntax
