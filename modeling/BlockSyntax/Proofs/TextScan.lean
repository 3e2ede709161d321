import BlockSyntax.Scanner.Tape

/-! # Scanning a text as a list

A reader over a text holds its input in two places: the slot for a character given back, and the
feed.  `Reader.pending` puts them together; once the end of input has been read the feed is empty,
so `pending` is exactly what the next reads give (`read_cons`, `read_nil`).  Giving a character
back puts it in front of `pending` again, and the position back to where it was read.

So the scanner is the machine of `Mode.onChar` run over a list: `Mode.lex` runs it over the
pending characters from a position, and gives the token, the position after it and the
characters left.  `scan_lex` says that a call of the scanner on a reader of a text is this run,
and `tape_lexAll` that scanning a text to its end gives the tokens of `lexAll`, one run of the
machine after another, and never fails.

`lex_start_split` says what one run from the start mode reads: blanks, which it drops, then the
lexeme of the token, which starts where the blanks end.
-/
namespace BlockSyntax

namespace Reader

/-- The characters a reader has yet to give: the one held back, then the feed's. -/
def pending (r : Reader) : List Char :=
  r.held.toList ++ r.feed.chars

/-- A reader of a text: its feed ends without failing, and the end of input has been read only
once the feed was empty. -/
structure Plain (r : Reader) : Prop where
  finished : r.feed.ending = .finished
  drained : r.exhausted = true → r.feed.chars = []

/-- A reader at the start of a text. -/
theorem plain_ofString (s : String) : (ofFeed (Feed.ofString s)).Plain :=
  ⟨rfl, fun h => by cases h⟩

@[simp] theorem pending_ofString (s : String) : (ofFeed (Feed.ofString s)).pending = s.toList := rfl

@[simp] theorem pos_ofString (s : String) : (ofFeed (Feed.ofString s)).pos = .start := rfl

/-- A read from a reader of a text with characters pending gives the first of them. -/
theorem read_cons {r : Reader} {c : Char} {cs : List Char} (h : r.Plain)
    (hp : r.pending = c :: cs) :
    ∃ fresh r', r.read = .ok (some c) fresh r' ∧ r'.Plain ∧ r'.pending = cs ∧
      r'.pos = r.pos.advance c ∧ r'.held = none := by
  obtain ⟨⟨chars, ending⟩, held, exhausted, pos, reads⟩ := r
  obtain ⟨hf, hd⟩ := h
  cases held with
  | some d =>
    simp only [pending, Option.toList_some, List.cons_append, List.cons.injEq] at hp
    obtain ⟨rfl, rfl⟩ := hp
    exact ⟨false, _, rfl, ⟨hf, hd⟩, rfl, rfl, rfl⟩
  | none =>
    simp only [pending, Option.toList_none, List.nil_append] at hp
    subst hp
    cases exhausted with
    | true => exact absurd (hd rfl) (List.cons_ne_nil c cs)
    | false => exact ⟨true, _, rfl, ⟨hf, fun h => by cases h⟩, rfl, rfl, rfl⟩

/-- A read from a reader of a text with nothing pending gives the end of input, and moves
nothing. -/
theorem read_nil {r : Reader} (h : r.Plain) (hp : r.pending = []) :
    ∃ fresh r', r.read = .ok none fresh r' ∧ r'.Plain ∧ r'.pending = [] ∧
      r'.pos = r.pos := by
  obtain ⟨⟨chars, ending⟩, held, exhausted, pos, reads⟩ := r
  obtain ⟨hf, hd⟩ := h
  simp only [pending, List.append_eq_nil_iff, Option.toList_eq_nil_iff] at hp
  obtain ⟨rfl, rfl⟩ := hp
  change ending = .finished at hf
  subst hf
  cases exhausted with
  | true => exact ⟨false, _, rfl, ⟨rfl, hd⟩, rfl, rfl⟩
  | false => exact ⟨false, _, rfl, ⟨rfl, fun _ => rfl⟩, rfl, rfl⟩

theorem pending_pushBack {r : Reader} (h : r.held = none) (c : Char) (p : Position) :
    (r.pushBack c p).pending = c :: r.pending := by
  simp [pushBack, pending, h]

theorem Plain.pushBack {r : Reader} (h : r.Plain) (c : Char) (p : Position) :
    (r.pushBack c p).Plain :=
  ⟨h.finished, h.drained⟩

end Reader

/-- What one run of the machine gives: the token, the position after it, and the characters
left. -/
structure Lexed where
  token : Token
  pos : Position
  rest : List Char

namespace Mode

/-- The machine of `onChar` run over the characters `cs` from position `pos`, in mode `m`, with
the lexeme `text` begun at `start`.  As in the scanner, the start mode moves the token's start
to each character it reads, and a lexeme closed before a character leaves that character. -/
def lex (m : Mode) (text : String) (start pos : Position) : List Char → Lexed
  | [] => ⟨⟨m.closeKind text, text, if m = .start then pos else start⟩, pos, []⟩
  | c :: cs =>
    let start := if m = .start then pos else start
    match m.onChar c with
    | .skip => lex .start text start (pos.advance c) cs
    | .keep m' => lex m' (text.push c) start (pos.advance c) cs
    | .single k => ⟨⟨k, text.push c, start⟩, pos.advance c, cs⟩
    | .close => ⟨⟨m.closeKind text, text, start⟩, pos, c :: cs⟩

theorem lex_skip {m : Mode} {c : Char} (h : m.onChar c = .skip) (text : String)
    (start pos : Position) (cs : List Char) :
    m.lex text start pos (c :: cs) =
      Mode.start.lex text (if m = .start then pos else start) (pos.advance c) cs := by
  simp only [lex, h]

theorem lex_keep {m m' : Mode} {c : Char} (h : m.onChar c = .keep m') (text : String)
    (start pos : Position) (cs : List Char) :
    m.lex text start pos (c :: cs) =
      m'.lex (text.push c) (if m = .start then pos else start) (pos.advance c) cs := by
  simp only [lex, h]

theorem lex_single {m : Mode} {k : Kind} {c : Char} (h : m.onChar c = .single k) (text : String)
    (start pos : Position) (cs : List Char) :
    m.lex text start pos (c :: cs) =
      ⟨⟨k, text.push c, if m = .start then pos else start⟩, pos.advance c, cs⟩ := by
  simp only [lex, h]

theorem lex_close {m : Mode} {c : Char} (h : m.onChar c = .close) (text : String)
    (start pos : Position) (cs : List Char) :
    m.lex text start pos (c :: cs) =
      ⟨⟨m.closeKind text, text, if m = .start then pos else start⟩, pos, c :: cs⟩ := by
  simp only [lex, h]

/-- Only the start mode closes a lexeme as the end token. -/
theorem closeKind_ne_eof {m : Mode} (hm : m ≠ .start) (text : String) :
    m.closeKind text ≠ .eof := by
  cases m <;> simp only [closeKind, ne_eq, reduceCtorEq, not_false_eq_true]
  · exact absurd rfl hm
  · split <;> simp

/-- In the start mode the token's start is set by the run itself. -/
theorem lex_start_congr (text : String) (begun begun' pos : Position) (cs : List Char) :
    Mode.start.lex text begun pos cs = Mode.start.lex text begun' pos cs := by
  cases cs <;> rfl

theorem lex_rest_length_le (m : Mode) (text : String) (start pos : Position) (cs : List Char) :
    (m.lex text start pos cs).rest.length ≤ cs.length := by
  induction cs generalizing m text start pos with
  | nil => exact Nat.le_refl 0
  | cons c cs ih =>
    simp only [lex]
    split
    · exact Nat.le_succ_of_le (ih _ _ _ _)
    · exact Nat.le_succ_of_le (ih _ _ _ _)
    · exact Nat.le_succ _
    · exact Nat.le_refl _

/-- In the start mode, a token other than the end token takes at least one character. -/
theorem lex_start_rest_lt {text : String} {start pos : Position} {cs : List Char}
    (h : (Mode.start.lex text start pos cs).token.kind ≠ .eof) :
    (Mode.start.lex text start pos cs).rest.length < cs.length := by
  cases cs with
  | nil => exact absurd rfl h
  | cons c cs =>
    simp only [lex] at h ⊢
    split
    · exact Nat.lt_succ_of_le (lex_rest_length_le _ _ _ _ _)
    · exact Nat.lt_succ_of_le (lex_rest_length_le _ _ _ _ _)
    · exact Nat.lt_succ_self _
    · rename_i hc; exact absurd hc (onChar_start_ne_close c)

/-- A character kept in a lexeme is never a blank. -/
theorem isBlank_of_onChar_keep {m m' : Mode} {c : Char} (h : m.onChar c = .keep m') :
    isBlank c = false := by
  cases hb : isBlank c
  · rfl
  · simp only [isBlank, Bool.or_eq_true, decide_eq_true_eq] at hb
    rcases hb with ((rfl | rfl) | rfl) | rfl <;> cases m <;> simp [onChar] at h <;> cases h

/-- A character that is a lexeme alone is never a blank. -/
theorem isBlank_of_onChar_single {m : Mode} {k : Kind} {c : Char} (h : m.onChar c = .single k) :
    isBlank c = false := by
  cases m <;> simp only [onChar] at h
  case start =>
    split at h
    · cases h
    · exact Bool.eq_false_iff.mpr ‹_›
  all_goals repeat' split at h
  all_goals cases h

/-- A character that is a lexeme alone is never the end of input. -/
theorem onChar_single_ne_eof {m : Mode} {k : Kind} {c : Char} (h : m.onChar c = .single k) :
    k ≠ .eof := by
  cases m <;> simp only [onChar] at h <;> repeat' split at h
  all_goals cases h
  unfold punctuation?
  split <;> simp

/-- Only the start mode skips a character. -/
theorem onChar_ne_skip {m : Mode} (hm : m ≠ .start) (c : Char) : m.onChar c ≠ .skip := by
  cases m <;> simp only [onChar] <;> repeat' split
  all_goals first | exact absurd rfl hm | simp

/-- No character leads back to the start mode. -/
theorem onChar_keep_ne_start {m m' : Mode} {c : Char} (h : m.onChar c = .keep m') :
    m' ≠ .start := by
  rintro rfl
  cases m <;> simp only [onChar] at h <;> repeat' split at h
  all_goals cases h

/-- A run in a mode other than the start mode never gives the end token. -/
theorem lex_kind_ne_eof {m : Mode} (hm : m ≠ .start) (text : String) (start pos : Position)
    (cs : List Char) : (m.lex text start pos cs).token.kind ≠ .eof := by
  induction cs generalizing m text start pos with
  | nil => exact closeKind_ne_eof hm text
  | cons c cs ih =>
    cases hc : m.onChar c with
    | skip => exact absurd hc (onChar_ne_skip hm c)
    | keep m' => simpa only [lex, hc] using ih (onChar_keep_ne_start hc) (text.push c) _ _
    | single k => simpa only [lex, hc] using onChar_single_ne_eof hc
    | close => simpa only [lex, hc] using closeKind_ne_eof hm text

/-- A run in a mode other than the start mode keeps all it reads in the lexeme, and none of it
is a blank. -/
theorem lex_split {m : Mode} (hm : m ≠ .start) (text : String) (start pos : Position)
    (cs : List Char) :
    ∃ u, cs = u ++ (m.lex text start pos cs).rest ∧
      (m.lex text start pos cs).token.text.toList = text.toList ++ u ∧
      (m.lex text start pos cs).token.start = start ∧
      (m.lex text start pos cs).pos = pos.advanceAll u ∧ ∀ c ∈ u, isBlank c = false := by
  induction cs generalizing m text pos with
  | nil => exact ⟨[], rfl, by simp [lex], by simp [lex, hm], rfl, by simp⟩
  | cons c cs ih =>
    cases hc : m.onChar c with
    | skip => exact absurd hc (onChar_ne_skip hm c)
    | keep m' =>
      obtain ⟨u, hcs, htext, hstart, hpos, hblank⟩ :=
        ih (onChar_keep_ne_start hc) (text.push c) (pos.advance c)
      simp only [lex, hc, if_neg hm] at hcs htext hstart hpos ⊢
      refine ⟨c :: u, by rw [List.cons_append, ← hcs], ?_, hstart, hpos, ?_⟩
      · rw [htext, String.toList_push, List.append_assoc, List.singleton_append]
      · intro d hd
        rcases List.mem_cons.mp hd with rfl | hd
        · exact isBlank_of_onChar_keep hc
        · exact hblank d hd
    | single k =>
      refine ⟨[c], by simp only [lex, hc]; rfl, ?_, ?_, ?_, ?_⟩
      · simp only [lex, hc, String.toList_push]
      · simp only [lex, hc, if_neg hm]
      · simp only [lex, hc]; rfl
      · simpa using isBlank_of_onChar_single hc
    | close =>
      refine ⟨[], by simp only [lex, hc]; rfl, ?_, ?_, ?_, by simp⟩
      · simp only [lex, hc, List.append_nil]
      · simp only [lex, hc, if_neg hm]
      · simp only [lex, hc]; rfl

/-- **What one run from the start mode reads**: blanks `b`, which it drops, then the lexeme `u`
of its token, which starts where the blanks end and holds no blank.  The lexeme is empty, and
nothing is left, just when the token is the end token. -/
theorem lex_start_split (start pos : Position) (cs : List Char) :
    ∃ b u, cs = b ++ u ++ (Mode.start.lex "" start pos cs).rest ∧
      (∀ c ∈ b, isBlank c = true) ∧
      (Mode.start.lex "" start pos cs).token.text.toList = u ∧
      (Mode.start.lex "" start pos cs).token.start = pos.advanceAll b ∧
      (Mode.start.lex "" start pos cs).pos = pos.advanceAll (b ++ u) ∧
      (∀ c ∈ u, isBlank c = false) ∧
      ((Mode.start.lex "" start pos cs).token.kind = .eof ↔ u = []) ∧
      ((Mode.start.lex "" start pos cs).token.kind = .eof →
        (Mode.start.lex "" start pos cs).rest = []) := by
  induction cs generalizing start pos with
  | nil =>
    exact ⟨[], [], rfl, by simp, rfl, rfl, rfl, by simp, by simp [lex, closeKind], fun _ => rfl⟩
  | cons c cs ih =>
    cases hc : Mode.start.onChar c with
    | skip =>
      obtain ⟨b, u, hcs, hb, htext, hstart, hpos, hu, heof, hrest⟩ := ih pos (pos.advance c)
      simp only [lex, hc, ↓reduceIte] at hcs htext hstart hpos heof hrest ⊢
      have hcb : isBlank c = true := by
        simp only [onChar] at hc
        split at hc
        · assumption
        · repeat' split at hc
          all_goals cases hc
      refine ⟨c :: b, u, by simp only [List.cons_append]; exact congrArg (c :: ·) hcs, ?_, htext,
        hstart, hpos, hu, heof, hrest⟩
      intro d hd
      rcases List.mem_cons.mp hd with rfl | hd
      · exact hcb
      · exact hb d hd
    | keep m' =>
      have hm' := onChar_keep_ne_start hc
      obtain ⟨u, hcs, htext, hstart, hpos, hu⟩ :=
        lex_split hm' ("".push c) pos (pos.advance c) cs
      have hk := lex_kind_ne_eof hm' ("".push c) pos (pos.advance c) cs
      simp only [lex, hc, ↓reduceIte] at hcs htext hstart hpos hk ⊢
      refine ⟨[], c :: u, by rw [List.nil_append, List.cons_append, ← hcs], by simp, ?_, ?_, ?_,
        ?_, ?_, fun h => absurd h hk⟩
      · rw [htext, String.toList_push, String.toList_empty, List.nil_append, List.singleton_append]
      · rw [hstart]; rfl
      · rw [hpos]; rfl
      · intro d hd
        rcases List.mem_cons.mp hd with rfl | hd
        · exact isBlank_of_onChar_keep hc
        · exact hu d hd
      · simp only [hk, List.cons_ne_nil]
    | single k =>
      have hk := onChar_single_ne_eof hc
      refine ⟨[], [c], by simp [lex, hc], by simp, by simp [lex, hc], by simp [lex, hc],
        by simp only [lex, hc]; rfl, by simpa using isBlank_of_onChar_single hc, ?_, ?_⟩
      · simp only [lex, hc, hk, List.cons_ne_nil]
      · simp only [lex, hc]; exact fun h => absurd h hk
    | close => exact absurd hc (onChar_start_ne_close c)

end Mode

/-- The tokens the machine reads from `cs`, from position `pos`, up to the end token. -/
def lexAll (pos : Position) (cs : List Char) : List Token :=
  let l := Mode.start.lex "" pos pos cs
  if l.token.kind = .eof then [l.token] else l.token :: lexAll l.pos l.rest
termination_by cs.length
decreasing_by exact Mode.lex_start_rest_lt ‹_›

theorem lexAll_eq (pos : Position) (cs : List Char) :
    lexAll pos cs =
      let l := Mode.start.lex "" pos pos cs
      if l.token.kind = .eof then [l.token] else l.token :: lexAll l.pos l.rest := by
  rw [lexAll]

namespace Reader

/-- A scan whose read gives the end of input closes the lexeme. -/
theorem scan_read_none {r r' : Reader} {fresh : Bool} (hr : r.read = .ok none fresh r')
    (m : Mode) (text : String) (start : Position) (notes : Array Note) :
    r.scan m text start notes =
      let t : Token := ⟨m.closeKind text, text, if m = .start then r.pos else start⟩
      .token
        ⟨t, ((readNotes m none fresh notes).push (.leave m none)).push (.finish t), r'⟩ := by
  rw [scan]
  split <;> rename_i h' <;> rw [hr] at h' <;> cases h'
  rfl

/-- A scan whose read gives a character does what its mode does with it. -/
theorem scan_read_some {r r' : Reader} {c : Char} {fresh : Bool}
    (hr : r.read = .ok (some c) fresh r') (m : Mode) (text : String) (start : Position)
    (notes : Array Note) :
    r.scan m text start notes =
      let start := if m = .start then r.pos else start
      let notes := readNotes m (some c) fresh notes
      match m.onChar c with
      | .skip => scan .start text start (notes.push (.leave m (some c))) r'
      | .keep m' => scan m' (text.push c) start (notes.push (.leave m (some c))) r'
      | .single k =>
        let t : Token := ⟨k, text.push c, start⟩
        .token ⟨t, (notes.push (.leave m (some c))).push (.finish t), r'⟩
      | .close =>
        let t : Token := ⟨m.closeKind text, text, start⟩
        let notes := (notes.push (.pushBack c)).push (.leave m (some c))
        .token ⟨t, notes.push (.finish t), r'.pushBack c r.pos⟩ := by
  rw [scan]
  split <;> rename_i h' <;> rw [hr] at h' <;> cases h'
  rfl

/-- **One call is one run of the machine.**  On a reader of a text, the scanner gives the token
of `Mode.lex` over the pending characters, and leaves a reader of a text at the position after
it, with the characters left pending. -/
theorem scan_lex {r : Reader} (h : r.Plain) (m : Mode) (text : String) (start : Position)
    (notes : Array Note) :
    ∃ st, r.scan m text start notes = .token st ∧
      st.token = (m.lex text start r.pos r.pending).token ∧ st.reader.Plain ∧
      st.reader.pending = (m.lex text start r.pos r.pending).rest ∧
      st.reader.pos = (m.lex text start r.pos r.pending).pos := by
  generalize hp : r.pending = cs
  induction cs generalizing r m text start notes with
  | nil =>
    obtain ⟨fresh, r', hr, hr', hp', hpos⟩ := read_nil h hp
    rw [scan_read_none hr]
    exact ⟨_, rfl, rfl, hr', hp', hpos⟩
  | cons c cs ih =>
    obtain ⟨fresh, r', hr, hr', hp', hpos, hheld⟩ := read_cons h hp
    rw [scan_read_some hr]
    cases hm : m.onChar c with
    | skip => simpa only [Mode.lex, hm, hpos] using ih hr' .start text _ _ hp'
    | keep m' => simpa only [Mode.lex, hm, hpos] using ih hr' m' (text.push c) _ _ hp'
    | single k =>
      exact ⟨_, rfl, by simp only [Mode.lex, hm], hr', by simp only [Mode.lex, hm, hp'],
        by simp only [Mode.lex, hm, hpos]⟩
    | close =>
      refine ⟨_, rfl, by simp only [Mode.lex, hm], hr'.pushBack c r.pos, ?_, ?_⟩
      · simp only [Mode.lex, hm, pending_pushBack hheld, hp']
      · simp only [Mode.lex, hm]; rfl

theorem nextToken_lex {r : Reader} (h : r.Plain) :
    ∃ st, r.nextToken = .token st ∧
      st.token = (Mode.start.lex "" r.pos r.pos r.pending).token ∧ st.reader.Plain ∧
      st.reader.pending = (Mode.start.lex "" r.pos r.pos r.pending).rest ∧
      st.reader.pos = (Mode.start.lex "" r.pos r.pos r.pending).pos :=
  scan_lex h .start "" r.pos #[.begin]

/-- The tape after a call that gave a token. -/
theorem tape_of_nextToken {r : Reader} {st : Step} (hr : r.nextToken = .token st) :
    r.tape = if st.token.kind = .eof then ⟨[st], none⟩
      else ⟨st :: st.reader.tape.steps, st.reader.tape.failure⟩ := by
  rw [tape]
  split <;> rename_i h' <;> rw [hr] at h' <;> cases h'
  rfl

/-- **Scanning a text is running the machine to the end token.**  The tape of a reader of a text
has the tokens of `lexAll` and no failure. -/
theorem tape_lexAll {r : Reader} (h : r.Plain) :
    r.tape.tokens = lexAll r.pos r.pending ∧ r.tape.failure = none := by
  -- on the number of characters pending, which each call other than the last one lowers
  generalize hn : r.pending.length = n
  induction n using Nat.strongRecOn generalizing r with
  | ind n ih =>
    obtain ⟨st, hst, htok, hplain, hpend, hpos⟩ := nextToken_lex h
    rw [tape_of_nextToken hst, lexAll_eq]
    by_cases hk : st.token.kind = .eof
    · rw [if_pos hk, if_pos (htok ▸ hk)]
      exact ⟨by simp [Tape.tokens, htok], rfl⟩
    · rw [if_neg hk, if_neg (htok ▸ hk)]
      have hlt : st.reader.pending.length < n := by
        rw [hpend, ← hn]; exact Mode.lex_start_rest_lt (htok ▸ hk)
      obtain ⟨ht, hf⟩ := ih _ hlt hplain rfl
      refine ⟨?_, hf⟩
      simp only [Tape.tokens, List.map_cons] at ht ⊢
      rw [ht, htok, hpos, hpend]

end Reader

/-- The tokens of a text: the scanner run to the end token on it. -/
theorem tokens_ofString (s : String) :
    (Reader.ofFeed (Feed.ofString s)).tape.tokens = lexAll .start s.toList :=
  (Reader.tape_lexAll (Reader.plain_ofString s)).1

end BlockSyntax
