import BlockSyntax.Source.Feed
import BlockSyntax.Token.Basic

/-!
# The reader

A `Reader` hands the scanner one character per read.  It holds the feed, a slot for one character
given back (`pushBack`), whether the end of input has been read, the position of the next
character, and how many times it has read from the feed.

A read takes the character in the slot if there is one, without touching the feed.  Otherwise,
once the end of input has been read, it gives the end of input again without reading; else it
reads the feed, which gives a character, the end of input, or a failure.  Giving a character back
restores the position from before the read.

`Reader.weight` falls with every character read and rises by one when a character is given back:
`weight_read_lt` and `weight_pushBack` are what make the scanner's loops end.
-/

namespace BlockSyntax

/-- A read that failed: the feed's reason, and the position of the character it was to give. -/
structure ReadFailure where
  reason : String
  pos : Position
  deriving DecidableEq, Repr

namespace ReadFailure

/-- The message of a read failure. -/
def message (f : ReadFailure) : String :=
  "Could not read input: " ++ f.reason

/-- The text form of a failure with `message` at `line`, `column`: the position comes first when
the line is positive. -/
def describe (message : String) (line column : Int) : String :=
  if 0 < line then "Line " ++ toString line ++ ", col " ++ toString column ++ ": " ++ message
  else message

/-- How a read failure is shown. -/
def render (f : ReadFailure) : String :=
  describe f.message f.pos.line f.pos.column

end ReadFailure

/-- The state of reading a feed. -/
structure Reader where
  /-- What the feed has not given yet. -/
  feed : Feed
  /-- The character given back, to be read again. -/
  held : Option Char
  /-- Whether the feed has given the end of input. -/
  exhausted : Bool
  /-- The position of the next character. -/
  pos : Position
  /-- How many times the feed was read. -/
  reads : Nat
  deriving DecidableEq, Repr

/-- The outcome of one read. -/
inductive Read where
  /-- A character, or the end of input (`none`); `fresh` when the feed gave it, so that it is seen
  for the first time. -/
  | ok (x : Option Char) (fresh : Bool) (next : Reader)
  /-- The feed failed. -/
  | failed (reason : String)

namespace Reader

/-- A reader at the start of a feed. -/
def ofFeed (f : Feed) : Reader :=
  ⟨f, none, false, .start, 0⟩

/-- One read. -/
def read (r : Reader) : Read :=
  match r.held with
  | some c => .ok (some c) false { r with held := none, pos := r.pos.advance c }
  | none =>
    if r.exhausted then .ok none false r
    else
      match r.feed.chars with
      | c :: cs =>
        .ok (some c) true
          { r with feed := ⟨cs, r.feed.ending⟩, pos := r.pos.advance c, reads := r.reads + 1 }
      | [] =>
        match r.feed.ending with
        | .finished => .ok none false { r with exhausted := true, reads := r.reads + 1 }
        | .fails reason => .failed reason

/-- Gives the character `c` back, and returns to the position `before` it was read. -/
def pushBack (r : Reader) (c : Char) (before : Position) : Reader :=
  { r with held := some c, pos := before }

/-- Two for each character the feed has yet to give, one for a character given back. -/
def weight (r : Reader) : Nat :=
  2 * r.feed.chars.length + if r.held.isSome then 1 else 0

/-- Reading a character lowers the weight. -/
theorem weight_read_lt {r r' : Reader} {c : Char} {fresh : Bool}
    (h : r.read = .ok (some c) fresh r') : r'.weight < r.weight := by
  unfold read at h
  split at h
  · cases h; simp [weight, *]
  · split at h
    · cases h
    · split at h
      · cases h; simp [weight, *]
      · split at h <;> cases h

/-- Reading the end of input keeps the weight. -/
theorem weight_read_none {r r' : Reader} {fresh : Bool}
    (h : r.read = .ok none fresh r') : r'.weight = r.weight := by
  unfold read at h
  split at h
  · cases h
  · split at h
    · cases h; rfl
    · split at h
      · cases h
      · split at h
        · cases h; simp [weight]
        · cases h

/-- A read that gives a character leaves the slot empty. -/
theorem held_read {r r' : Reader} {c : Char} {fresh : Bool}
    (h : r.read = .ok (some c) fresh r') : r'.held = none := by
  unfold read at h
  split at h
  · cases h; rfl
  · split at h
    · cases h
    · split at h
      · cases h; simpa using ‹r.held = none›
      · split at h <;> cases h

/-- Giving a character back into an empty slot raises the weight by one. -/
theorem weight_pushBack {r : Reader} (h : r.held = none) (c : Char) (p : Position) :
    (r.pushBack c p).weight = r.weight + 1 := by
  simp [pushBack, weight, h]

end Reader

end BlockSyntax
