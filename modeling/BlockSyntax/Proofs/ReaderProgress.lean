import BlockSyntax.Proofs.LexemeLayout
import BlockSyntax.Scanner.Narration

/-! # How far a reader of a text has read

A call of the scanner reads the characters of a text one at a time, gives back at most one, and
counts its reads of the feed.  `Reader.Tracks s k r` says where such a reader stands: it has
handed the first `k` characters of the text `s` to the machine; the characters it has yet to give
are the rest of `s`; its position is the line and column of offset `k`; and it has read its feed
once for each of the `k` characters, once more for a character it holds back, and once more once
it has read the end of input, after which nothing is left.  Every read keeps this
(`Tracks.read_cons`, `Tracks.read_nil`), and so does giving back the character just read.

So a call leaves the reader at the end of the lexeme it gave (`Tracks.nextToken`, `Step.EndsAt`).
It has read the feed once more than the lexeme's end offset, unless the lexeme was one
punctuation character or one character that starts no lexeme: those are taken without a look at
the next character (`Token.Standalone`).  The echo of the reads is the text read from the feed, in
order.  A read that gives a character always empties the slot for a character given back, which
is why giving one back never finds it full.  Once the end token is given, every later call gives
it again and moves nothing (`calls_after_eof`).  `reader_after_calls` puts these together for
the calls on a text.
-/

namespace BlockSyntax

/-- The characters of a text between offsets `a` and `b`, then between `b` and `c`, are those
between `a` and `c`. -/
theorem take_drop_append {s : List Char} {a b c : Nat} (h₁ : a ≤ b) (h₂ : b ≤ c)
    (h₃ : c ≤ s.length) : (s.take b).drop a ++ (s.take c).drop b = (s.take c).drop a := by
  have hc : s.take c = s.take b ++ (s.take c).drop b := by
    rw [List.drop_take, ← List.take_add, Nat.add_sub_cancel' h₂]
  conv_rhs => rw [hc]
  rw [List.drop_append_of_le_length (by simp; omega)]

/-- A text whose part from offset `k` on starts with `c` has `c` at offset `k`. -/
theorem drop_succ_of_drop_eq_cons {s cs : List Char} {k : Nat} {c : Char}
    (h : s.drop k = c :: cs) :
    s.drop (k + 1) = cs ∧ s.take (k + 1) = s.take k ++ [c] ∧ k < s.length := by
  have hget : s[k]? = some c := by rw [← List.head?_drop, h]; rfl
  refine ⟨?_, ?_, (List.getElem?_eq_some_iff.mp hget).1⟩
  · rw [← List.drop_drop, h]; rfl
  · rw [List.take_add_one, hget]; rfl

/-! ### Positions in reading order -/

namespace Position

/-- `p` comes before `q` in reading order. -/
def Before (p q : Position) : Prop :=
  p.line < q.line ∨ (p.line = q.line ∧ p.column < q.column)

theorem Before.trans {p q r : Position} (h₁ : p.Before q) (h₂ : q.Before r) : p.Before r := by
  unfold Before at *
  omega

theorem before_irrefl (p : Position) : ¬ p.Before p := by
  unfold Before
  omega

theorem before_advance (p : Position) (c : Char) : p.Before (p.advance c) := by
  unfold advance Before
  split <;> simp

/-- Reading at least one character moves on in reading order. -/
theorem before_advanceAll (p : Position) {w : List Char} (hw : w ≠ []) :
    p.Before (p.advanceAll w) := by
  induction w generalizing p with
  | nil => exact absurd rfl hw
  | cons c w ih =>
    rw [advanceAll_cons]
    cases w with
    | nil => exact before_advance p c
    | cons d w => exact (before_advance p c).trans (ih _ (List.cons_ne_nil d w))

end Position

/-- The line and column of an offset are those reached by reading the text up to it. -/
theorem lineCol_eq_advanceAll {s : List Char} {o : Nat} (h : o ≤ s.length) :
    lineCol s o = Position.start.advanceAll (s.take o) := by
  have := advanceAll_start_prefix (s.take o) (s.drop o)
  rw [List.take_append_drop, List.length_take, Nat.min_eq_left h] at this
  exact this.symm

/-- **Offsets are told apart by their lines and columns.** -/
theorem lineCol_injective {s : List Char} {o₁ o₂ : Nat} (h₁ : o₁ ≤ s.length) (h₂ : o₂ ≤ s.length)
    (h : lineCol s o₁ = lineCol s o₂) : o₁ = o₂ := by
  -- a later offset is reached from an earlier one by reading at least one more character
  have later : ∀ {a b : Nat}, a < b → b ≤ s.length → (lineCol s a).Before (lineCol s b) := by
    intro a b hab hb
    have hsplit : s.take b = s.take a ++ (s.drop a).take (b - a) := by
      rw [← List.take_add, Nat.add_sub_cancel' (Nat.le_of_lt hab)]
    have hne : (s.drop a).take (b - a) ≠ [] := by
      rw [← List.length_pos_iff, List.length_take, List.length_drop]
      omega
    rw [lineCol_eq_advanceAll (Nat.le_of_lt (Nat.lt_of_lt_of_le hab hb)), lineCol_eq_advanceAll hb,
      hsplit, Position.advanceAll_append]
    exact Position.before_advanceAll _ hne
  rcases Nat.lt_trichotomy o₁ o₂ with hlt | heq | hgt
  · exact absurd (h ▸ later hlt h₂) (Position.before_irrefl _)
  · exact heq
  · exact absurd (h ▸ later hgt h₁) (Position.before_irrefl _)

/-! ### Tokens read alone -/

/-- A token of one punctuation character, or of one character that starts no lexeme: the
scanner gives it without looking at the character after it. -/
def Token.Standalone (t : Token) : Prop :=
  t.kind ∈ [Kind.comma, .assign, .lbrace, .rbrace, .lparen, .rparen, .add, .sub, .mul, .div,
    .mod] ∨ (t.kind = .error ∧ t.text.length = 1)

namespace Mode

/-- The fewest characters a lexeme has once the machine is in a mode. -/
def least : Mode → Nat
  | start => 0
  | word | zero | whole => 1
  | point | badWhole => 2
  | fraction | badFraction => 3

theorem least_keep {m m' : Mode} {c : Char} (h : m.onChar c = .keep m') : m'.least ≤ m.least + 1 := by
  cases m <;> simp only [onChar] at h <;> repeat' split at h
  all_goals cases h
  all_goals simp [least]

/-- Only the start mode takes a character as a lexeme of its own, of the kind of the character. -/
theorem single_kind {m : Mode} {c : Char} {k : Kind} (h : m.onChar c = .single k) :
    m = .start ∧ k = (punctuation? c).getD .error := by
  cases m <;> simp only [onChar] at h <;> repeat' split at h
  all_goals cases h
  exact ⟨rfl, rfl⟩

theorem punctuation_mem {c : Char} {k : Kind} (h : punctuation? c = some k) :
    k ∈ [Kind.comma, .assign, .lbrace, .rbrace, .lparen, .rparen, .add, .sub, .mul, .div, .mod] := by
  unfold punctuation? at h
  split at h <;> cases h <;> simp

/-- A character taken alone makes a standalone token. -/
theorem standalone_single {m : Mode} {c : Char} {k : Kind} (h : m.onChar c = .single k)
    (p : Position) : Token.Standalone ⟨k, "".push c, p⟩ := by
  obtain ⟨-, rfl⟩ := single_kind h
  cases hp : punctuation? c with
  | some k => exact .inl (by simpa using punctuation_mem hp)
  | none => exact .inr ⟨rfl, by simp⟩

/-- A lexeme closed in a mode other than the start mode, as long as the mode needs, is not
standalone. -/
theorem not_standalone_close {m : Mode} (hm : m ≠ .start) {text : String}
    (hleast : m.least ≤ text.length) (p : Position) :
    ¬ Token.Standalone ⟨m.closeKind text, text, p⟩ := by
  cases m <;> simp only [closeKind, least] at hleast ⊢
  · exact absurd rfl hm
  · split <;> simp [Token.Standalone]
  all_goals simp [Token.Standalone]
  all_goals omega

theorem not_standalone_eof (text : String) (p : Position) : ¬ Token.Standalone ⟨.eof, text, p⟩ := by
  simp [Token.Standalone]

end Mode

/-! ### The reader of a text -/

namespace Reader

/-- How many characters the feed has given: its reads, less the one that gave the end of
input. -/
def given (r : Reader) : Nat :=
  r.reads - if r.exhausted then 1 else 0

/-- `r` reads the text `s` and has handed its first `k` characters to the machine. -/
structure Tracks (s : List Char) (k : Nat) (r : Reader) : Prop where
  finished : r.feed.ending = .finished
  le_length : k ≤ s.length
  /-- What is yet to be read is the rest of the text. -/
  pending : r.pending = s.drop k
  /-- The position is that of offset `k`. -/
  pos : r.pos = Position.start.advanceAll (s.take k)
  /-- One read for each character handed over, one for a character held back, and one for the
  end of input. -/
  reads : r.reads = k + (if r.held.isSome then 1 else 0) + (if r.exhausted then 1 else 0)
  drained : r.exhausted = true → r.pending = []

theorem tracks_ofString (s : String) : (ofFeed (Feed.ofString s)).Tracks s.toList 0 :=
  ⟨rfl, Nat.zero_le _, rfl, rfl, rfl, fun h => by cases h⟩

namespace Tracks

variable {s : List Char} {k : Nat} {r : Reader}

theorem plain (h : r.Tracks s k) : r.Plain :=
  ⟨h.finished, fun he => (List.append_eq_nil_iff.mp (h.drained he)).2⟩

/-- The feed has given the characters handed over and the one held back. -/
theorem given_eq (h : r.Tracks s k) : r.given = k + if r.held.isSome then 1 else 0 := by
  unfold given
  rw [h.reads]
  split <;> simp

theorem given_le (h : r.Tracks s k) : r.given ≤ s.length := by
  rw [h.given_eq]
  cases hh : r.held with
  | none => simpa using h.le_length
  | some c =>
    -- the character held back is the one at offset `k`
    have hp := h.pending
    simp only [Reader.pending, hh, Option.toList_some, List.cons_append] at hp
    have := (drop_succ_of_drop_eq_cons hp.symm).2.2
    simp only [Option.isSome_some, if_true]
    omega

/-- **A read with characters pending** gives the character at offset `k` and hands it over; it
empties the slot, and it reads the feed just when the slot was empty. -/
theorem read_cons (h : r.Tracks s k) {c : Char} {cs : List Char} (hp : r.pending = c :: cs) :
    ∃ fresh r', r.read = .ok (some c) fresh r' ∧ r'.Tracks s (k + 1) ∧ r'.pending = cs ∧
      r'.held = none ∧ r'.exhausted = false ∧ r'.given = k + 1 ∧
      r.given = (if fresh then k else k + 1) := by
  have hdrop : s.drop k = c :: cs := h.pending.symm.trans hp
  obtain ⟨hcs, htake, hlt⟩ := drop_succ_of_drop_eq_cons hdrop
  have hex : r.exhausted = false := by
    cases he : r.exhausted
    · rfl
    · have := h.drained he
      rw [hp] at this
      cases this
  have hgiven := h.given_eq
  obtain ⟨hf, -, hpend, hpos, hreads, -⟩ := h
  obtain ⟨⟨chars, ending⟩, held, exhausted, pos, reads⟩ := r
  simp only at hex hf hpos hreads hgiven
  subst hex
  have hpos' : pos.advance c = Position.start.advanceAll (s.take (k + 1)) := by
    rw [htake, Position.advanceAll_append, ← hpos]; rfl
  cases held with
  | some d =>
    simp only [Reader.pending, Option.toList_some, List.cons_append, List.cons.injEq] at hp
    obtain ⟨rfl, rfl⟩ := hp
    refine ⟨false, _, rfl, ⟨hf, hlt, by simp [Reader.pending, hcs], hpos', ?_, fun h => by cases h⟩,
      by simp [Reader.pending], rfl, rfl, ?_, ?_⟩
    · simpa using hreads
    · simp [given, hreads]
    · simpa using hgiven
  | none =>
    simp only [Reader.pending, Option.toList_none, List.nil_append] at hp
    subst hp
    refine ⟨true, _, rfl, ⟨hf, hlt, by simp [Reader.pending, hcs], hpos', ?_, fun h => by cases h⟩,
      rfl, rfl, rfl, ?_, ?_⟩
    · simp [hreads]
    · simp [given, hreads]
    · simpa using hgiven

/-- **A read with nothing pending** gives the end of input at the end of the text, and reads the
feed only the first time. -/
theorem read_nil (h : r.Tracks s k) (hp : r.pending = []) :
    ∃ r', r.read = .ok none false r' ∧ r'.Tracks s k ∧ r'.exhausted = true ∧ r'.held = none ∧
      r'.given = r.given ∧ k = s.length ∧ r'.pos = r.pos := by
  have hk : k = s.length :=
    Nat.le_antisymm h.le_length (List.drop_eq_nil_iff.mp (h.pending.symm.trans hp))
  obtain ⟨hf, hle, hpend, hpos, hreads, -⟩ := h
  obtain ⟨⟨chars, ending⟩, held, exhausted, pos, reads⟩ := r
  simp only [Reader.pending, List.append_eq_nil_iff, Option.toList_eq_nil_iff] at hp
  obtain ⟨rfl, rfl⟩ := hp
  change ending = .finished at hf
  subst hf
  cases exhausted with
  | true =>
    exact ⟨_, rfl, ⟨rfl, hle, hpend, hpos, hreads, fun _ => rfl⟩, rfl, rfl, rfl, hk, rfl⟩
  | false =>
    refine ⟨_, rfl, ⟨rfl, hle, hpend, hpos, ?_, fun _ => rfl⟩, rfl, rfl, ?_, hk, rfl⟩
    · simp only at hreads ⊢
      simp [hreads]
    · simp [given]

/-- Giving back the character just read, at offset `k`, returns the reader to offset `k`. -/
theorem pushBack {r' : Reader} (h : r.Tracks s k) (h' : r'.Tracks s (k + 1))
    (hheld : r'.held = none) (hex : r'.exhausted = false) {c : Char} {cs : List Char}
    (hp : r.pending = c :: cs) : (r'.pushBack c r.pos).Tracks s k ∧
      (r'.pushBack c r.pos).given = r'.given := by
  have hdrop : s.drop k = c :: cs := h.pending.symm.trans hp
  obtain ⟨hcs, -, -⟩ := drop_succ_of_drop_eq_cons hdrop
  refine ⟨⟨h'.finished, h.le_length, ?_, h.pos, ?_, fun he => by simp [Reader.pushBack, hex] at he⟩, rfl⟩
  · rw [pending_pushBack hheld, h'.pending, hdrop, hcs]
  · have := h'.reads
    simp only [hheld, hex, Option.isSome_none] at this
    simp [Reader.pushBack, hex, this]

/-- What one read echoes: the character it read, if it read the feed. -/
theorem echoed_read {r' : Reader} {c : Char} {fresh : Bool} (h : r.Tracks s k)
    (hdrop : s.drop k = c :: List.drop (k + 1) s) (hg' : r'.given = k + 1)
    (hg : r.given = if fresh then k else k + 1) :
    (s.take r'.given).drop r.given = if fresh then [c] else [] := by
  obtain ⟨-, htake, -⟩ := drop_succ_of_drop_eq_cons hdrop
  rw [hg', hg, htake]
  cases fresh
  · simp only [Bool.false_eq_true, if_false]
    refine List.drop_eq_nil_of_le ?_
    simp only [List.length_append, List.length_take, List.length_singleton]
    omega
  · simp [List.drop_left' (List.length_take_of_le h.le_length)]

/-- Once the end of input is read, the text is read to its end and nothing is held back. -/
theorem exhausted_end (h : r.Tracks s k) (hex : r.exhausted = true) :
    k = s.length ∧ r.held = none := by
  have hp := h.drained hex
  have hk : k = s.length := by
    rw [h.pending, List.drop_eq_nil_iff] at hp
    exact Nat.le_antisymm h.le_length hp
  simp only [Reader.pending, List.append_eq_nil_iff, Option.toList_eq_nil_iff] at hp
  exact ⟨hk, hp.1⟩

/-- The feed has given a character for every read, up to the length of the text. -/
theorem given_eq_min (h : r.Tracks s k) : r.given = min r.reads s.length := by
  have hle := h.given_le
  cases hex : r.exhausted
  · simp only [given, hex, Bool.false_eq_true, if_false, Nat.sub_zero] at hle ⊢
    omega
  · obtain ⟨hk, hheld⟩ := h.exhausted_end hex
    simp [given, h.reads, hex, hheld, hk]

end Tracks

theorem echoes_readNotes_some (m : Mode) (c : Char) (fresh : Bool) (notes : Array Note) :
    (readNotes m (some c) fresh notes).toList.filterMap Note.echoed? =
      notes.toList.filterMap Note.echoed? ++ if fresh then [c] else [] := by
  cases fresh <;> simp [readNotes, Note.echoed?]

theorem echoes_readNotes_none (m : Mode) (notes : Array Note) :
    (readNotes m none false notes).toList.filterMap Note.echoed? =
      notes.toList.filterMap Note.echoed? := by
  simp [readNotes, Note.echoed?]

variable {s : List Char} {k : Nat} {r : Reader}

/-- **One run of the machine** on a reader of the text `s`, in a mode whose lexeme so far is as
long as the mode needs: it gives a token and leaves a reader of the text further on.  The token
is standalone just when the run stopped with nothing held back and the end of input not read,
and it is the end token only after the end of input was read.  The run echoes the characters it
read from the feed, in order. -/
theorem Tracks.scan (h : r.Tracks s k) {m : Mode} {text : String}
    (hstart : m = .start → text = "") (hleast : m.least ≤ text.length) (start : Position)
    (notes : Array Note) :
    ∃ st k', r.scan m text start notes = .token st ∧ st.reader.Tracks s k' ∧
      (st.token.Standalone ↔ st.reader.held = none ∧ st.reader.exhausted = false) ∧
      (st.token.kind = .eof → st.reader.exhausted = true ∧ st.token.text = "") ∧
      r.given ≤ st.reader.given ∧ st.notes.toList.filterMap Note.echoed? =
        notes.toList.filterMap Note.echoed? ++ (s.take st.reader.given).drop r.given := by
  -- on the characters pending, one read at a time
  generalize hp : r.pending = cs
  induction cs generalizing r k m text start notes with
  | nil =>
    obtain ⟨r', hr, hr', hex, hheld, hgiven, -, -⟩ := h.read_nil hp
    rw [scan_read_none hr]
    refine ⟨_, k, rfl, hr', ?_, fun hk => ⟨hex, ?_⟩, Nat.le_of_eq hgiven.symm, ?_⟩
    · -- the lexeme closes at the end of input, so it is no standalone token
      simp only [hex, Bool.true_eq_false, and_false, iff_false]
      by_cases hm : m = .start
      · subst hm; exact Mode.not_standalone_eof _ _
      · exact Mode.not_standalone_close hm hleast _
    · -- only the start mode closes on the end token, and its lexeme is empty
      by_cases hm : m = .start
      · exact hstart hm
      · exact absurd hk (Mode.closeKind_ne_eof hm text)
    · simp [echoes_readNotes_none, Note.echoed?, hgiven]
  | cons c cs ih =>
    obtain ⟨fresh, r', hr, hr', hcs, hheld, hex, hg', hg⟩ := h.read_cons hp
    have hdrop : s.drop k = c :: s.drop (k + 1) := by rw [← h.pending, hp, ← hcs, hr'.pending]
    have hechoed := h.echoed_read hdrop hg' hg
    have hgle : r.given ≤ r'.given := by rw [hg', hg]; split <;> omega
    have hread : ∀ notes', (readNotes m (some c) fresh notes).toList.filterMap Note.echoed? ++
        notes' = notes.toList.filterMap Note.echoed? ++ ((s.take r'.given).drop r.given ++ notes') := by
      intro notes'
      rw [echoes_readNotes_some, hechoed, List.append_assoc]
    rw [scan_read_some hr]
    cases hm : m.onChar c with
    | skip =>
      have hms : m = .start := Classical.byContradiction fun hne => Mode.onChar_ne_skip hne c hm
      obtain ⟨st, k', hst, hst', hsa, heof, hle, hecho⟩ :=
        ih (m := .start) hr' (fun _ => hstart hms) (Nat.zero_le _) _ _ hcs
      refine ⟨st, k', hst, hst', hsa, heof, Nat.le_trans hgle hle, ?_⟩
      rw [hecho]
      simp only [Array.toList_push, List.filterMap_append, List.filterMap_cons, Note.echoed?,
        List.filterMap_nil, List.append_nil]
      rw [hread, take_drop_append hgle hle hst'.given_le]
    | keep m' =>
      have hne := Mode.onChar_keep_ne_start hm
      have hleast' : m'.least ≤ (text.push c).length := by
        rw [String.length_push]; have := Mode.least_keep hm; omega
      obtain ⟨st, k', hst, hst', hsa, heof, hle, hecho⟩ :=
        ih hr' (fun h' => absurd h' hne) hleast' _ _ hcs
      refine ⟨st, k', hst, hst', hsa, heof, Nat.le_trans hgle hle, ?_⟩
      rw [hecho]
      simp only [Array.toList_push, List.filterMap_append, List.filterMap_cons, Note.echoed?,
        List.filterMap_nil, List.append_nil]
      rw [hread, take_drop_append hgle hle hst'.given_le]
    | single kk =>
      obtain ⟨hms, -⟩ := Mode.single_kind hm
      have htext := hstart hms
      subst htext
      refine ⟨_, k + 1, rfl, hr', ?_, fun hk => absurd hk (Mode.onChar_single_ne_eof hm), hgle, ?_⟩
      · exact iff_of_true (Mode.standalone_single hm _) ⟨hheld, hex⟩
      · simp only [Array.toList_push, List.filterMap_append, List.filterMap_cons, Note.echoed?,
          List.filterMap_nil, List.append_nil]
        rw [echoes_readNotes_some, hechoed]
    | close =>
      have hms : m ≠ .start := fun h' => Mode.onChar_start_ne_close c (h' ▸ hm)
      obtain ⟨hback, hgback⟩ := h.pushBack hr' hheld hex hp
      refine ⟨_, k, rfl, hback, ?_, fun hk => absurd hk (Mode.closeKind_ne_eof hms text), ?_, ?_⟩
      · exact iff_of_false (Mode.not_standalone_close hms hleast _)
          (by simp [Reader.pushBack])
      · rw [hgback]; exact hgle
      · simp only [Array.toList_push, List.filterMap_append, List.filterMap_cons, Note.echoed?,
          List.filterMap_nil, List.append_nil]
        rw [hgback, echoes_readNotes_some, hechoed]

end Reader

/-- A call of the scanner on the text `s` that gave a token whose lexeme ends at offset `e`, and
left the reader there. -/
structure Step.EndsAt (s : List Char) (st : Step) (e : Nat) : Prop where
  tracks : st.reader.Tracks s e
  text_le : st.token.text.length ≤ e
  /-- The token starts at the offset of its lexeme. -/
  start : st.token.start = lineCol s (e - st.token.text.length)
  /-- The lexeme is the text just before `e`. -/
  lexeme : st.token.text.toList = (s.drop (e - st.token.text.length)).take st.token.text.length
  /-- Nothing after a standalone token was looked at. -/
  standalone : st.token.Standalone ↔ st.reader.held = none ∧ st.reader.exhausted = false
  eof : st.token.kind = .eof → st.reader.exhausted = true ∧ st.token.text = ""

namespace Reader

variable {s : List Char} {k : Nat} {r : Reader}

/-- **One call** on a reader of a text at offset `k` gives the token of the next lexeme, leaves
the reader at the lexeme's end, and echoes what it read from the feed. -/
theorem Tracks.nextToken (h : r.Tracks s k) :
    ∃ st e, r.nextToken = .token st ∧ st.EndsAt s e ∧ r.given ≤ st.reader.given ∧
      st.notes.toList.filterMap Note.echoed? = (s.take st.reader.given).drop r.given := by
  obtain ⟨st, e, hst, hst', hsa, heof, hle, hecho⟩ :=
    h.scan (m := .start) (fun _ => rfl) (Nat.zero_le _) r.pos #[.begin]
  obtain ⟨st₂, hst₂, htok, -, hpend, -⟩ := nextToken_lex h.plain
  obtain rfl : st₂ = st := by
    have h₁ : r.nextToken = .token st := hst
    rw [hst₂] at h₁
    cases h₁
    rfl
  -- the call skipped blanks `b` and read the lexeme `u`, up to what is left at `e`
  obtain ⟨b, u, hcs, -, htext, hstart, -, -, -, -⟩ :=
    Mode.lex_start_split r.pos r.pos r.pending
  rw [← htok] at htext hstart
  rw [← hpend, hst'.pending, h.pending] at hcs
  have hlen := congrArg List.length hcs
  have hk := h.le_length
  have he := hst'.le_length
  simp only [List.length_drop, List.length_append] at hlen
  have hu : st₂.token.text.length = u.length := by rw [← String.length_toList, htext]
  have heo : e - st₂.token.text.length = k + b.length := by omega
  -- the part of the text from `k` on starts with the blanks, then the lexeme
  have hdropb : s.drop (k + b.length) = u ++ s.drop e := by
    rw [← List.drop_drop, hcs, List.append_assoc, List.drop_left]
  have htakeb : s.take (k + b.length) = s.take k ++ b := by
    rw [List.take_add, hcs, List.append_assoc, List.take_left]
  refine ⟨st₂, e, hst, ⟨hst', by omega, ?_, ?_, hsa, heof⟩, hle, by rw [hecho]; rfl⟩
  · rw [heo, hstart, h.pos, ← Position.advanceAll_append, ← htakeb,
      lineCol_eq_advanceAll (by omega)]
  · rw [heo, htext, hdropb, hu, List.take_left]

theorem calls_succ {st : Step} (h : r.nextToken = .token st) (n : Nat) :
    r.calls (n + 1) = ⟨st :: (st.reader.calls n).steps, (st.reader.calls n).failure⟩ := by
  simp only [calls, h]

theorem Tape.notes_cons (st : Step) (steps : List Step) (failure : Option (Array Note × ReadFailure)) :
    Tape.notes ⟨st :: steps, failure⟩ = st.notes.toList ++ Tape.notes ⟨steps, failure⟩ := by
  simp [Tape.notes]

/-- **The calls on a reader of a text** never fail.  Each leaves the reader at the end of the
lexeme it gave, and together they echo what they read from the feed, in order. -/
theorem Tracks.calls (h : r.Tracks s k) (n : Nat) :
    (r.calls n).failure = none ∧ (r.calls n).steps.length = n ∧
      (∀ st ∈ (r.calls n).steps, ∃ e, st.EndsAt s e) ∧
      ∀ st, (r.calls n).steps.getLast? = some st → r.given ≤ st.reader.given ∧
        (r.calls n).notes.filterMap Note.echoed? = (s.take st.reader.given).drop r.given := by
  induction n generalizing r k with
  | zero => simp [Reader.calls]
  | succ n ih =>
    obtain ⟨st, e, hst, hends, hle, hecho⟩ := h.nextToken
    obtain ⟨hf, hlen, hall, hlast⟩ := ih hends.tracks
    rw [calls_succ hst]
    refine ⟨hf, by simp [hlen], fun st' hmem => ?_, fun st' hst' => ?_⟩
    · rcases List.mem_cons.mp hmem with rfl | hmem
      · exact ⟨e, hends⟩
      · exact hall st' hmem
    · rw [Tape.notes_cons, List.filterMap_append, hecho]
      rw [List.getLast?_cons, Option.some.injEq] at hst'
      cases hl : (st.reader.calls n).steps.getLast? with
      | none =>
        rw [hl] at hst'
        subst hst'
        rw [List.getLast?_eq_none_iff] at hl
        have hnotes : (st.reader.calls n).notes = [] := by
          rw [Tape.notes, hl, hf]; rfl
        simp [hle, hnotes]
      | some x =>
        rw [hl, Option.getD_some] at hst'
        subst hst'
        obtain ⟨hle', hecho'⟩ := hlast x hl
        refine ⟨Nat.le_trans hle hle', ?_⟩
        rw [hecho', take_drop_append hle hle' (hall x (List.mem_of_getLast? hl)).choose_spec.tracks.given_le]

/-- Once the end of input is read, a call gives the end token at the reader's position and
leaves the reader as it is. -/
theorem Tracks.nextToken_exhausted (h : r.Tracks s k) (hex : r.exhausted = true) :
    r.nextToken = .token ⟨⟨.eof, "", r.pos⟩,
      #[.begin, .enter .start none, .leave .start none, .finish ⟨.eof, "", r.pos⟩], r⟩ := by
  have hp := h.drained hex
  simp only [Reader.pending, List.append_eq_nil_iff, Option.toList_eq_nil_iff] at hp
  have hread : r.read = .ok none false r := by
    unfold read
    simp [hp.1, hex]
  unfold Reader.nextToken
  rw [scan_read_none hread]
  rfl

theorem Tracks.calls_exhausted (h : r.Tracks s k) (hex : r.exhausted = true) (n : Nat) :
    (r.calls n).steps = List.replicate n ⟨⟨.eof, "", r.pos⟩,
      #[.begin, .enter .start none, .leave .start none, .finish ⟨.eof, "", r.pos⟩], r⟩ := by
  induction n with
  | zero => rfl
  | succ n ih => rw [calls_succ (h.nextToken_exhausted hex), ih]; rfl

/-- **After the end token** every call gives it again, at the end of the text, and moves
nothing: the position stays that of the end of the text, the feed stays read once per character
and once more, and nothing is echoed. -/
theorem Tracks.calls_after_eof (h : r.Tracks s k) (n : Nat) :
    ∀ a b, (r.calls n).steps = a ++ b → (∃ st ∈ a, st.token.kind = .eof) →
      ∀ st ∈ b, st.token = ⟨.eof, "", lineCol s s.length⟩ ∧ st.reader.pos = lineCol s s.length ∧
        st.reader.reads = s.length + 1 ∧ st.notes.toList.filterMap Note.echoed? = [] := by
  induction n generalizing r k with
  | zero =>
    intro a b hab heof
    obtain ⟨st, hst, -⟩ := heof
    simp only [Reader.calls, List.nil_eq_append_iff] at hab
    rw [hab.1] at hst
    cases hst
  | succ n ih =>
    obtain ⟨x, e, hx, hends, -⟩ := h.nextToken
    rw [calls_succ hx]
    intro a b hab heof
    cases a with
    | nil => obtain ⟨st, hst, -⟩ := heof; cases hst
    | cons y a =>
      simp only [List.cons_append, List.cons.injEq] at hab
      obtain ⟨rfl, hab⟩ := hab
      by_cases hk : x.token.kind = .eof
      · -- the call read the end of input, so every later call repeats the end token
        have hex := (hends.eof hk).1
        obtain ⟨rfl, hheld⟩ := hends.tracks.exhausted_end hex
        rw [hends.tracks.calls_exhausted hex] at hab
        intro st hst
        obtain ⟨-, rfl⟩ := List.mem_replicate.mp (hab ▸ List.mem_append_right a hst)
        refine ⟨?_, ?_, ?_, by simp [Note.echoed?]⟩
        · rw [hends.tracks.pos, ← lineCol_eq_advanceAll (Nat.le_refl _)]
        · rw [hends.tracks.pos, ← lineCol_eq_advanceAll (Nat.le_refl _)]
        · rw [hends.tracks.reads, hheld, hex]; rfl
      · obtain ⟨st, hst, hk'⟩ := heof
        rcases List.mem_cons.mp hst with rfl | hst
        · exact absurd hk' hk
        · exact ih hends.tracks a b hab ⟨st, hst, hk'⟩

end Reader

namespace Step.EndsAt

variable {s : List Char} {st : Step} {e : Nat}

/-- The reader stands at the line and column of the lexeme's end. -/
theorem pos_eq (h : st.EndsAt s e) : st.reader.pos = lineCol s e := by
  rw [h.tracks.pos, lineCol_eq_advanceAll h.tracks.le_length]

theorem eof_end (h : st.EndsAt s e) (hk : st.token.kind = .eof) : e = s.length :=
  (h.tracks.exhausted_end (h.eof hk).1).1

/-- After a standalone token the feed was read once per character up to the lexeme's end. -/
theorem reads_of_standalone (h : st.EndsAt s e) (hs : st.token.Standalone) :
    st.reader.reads = e := by
  obtain ⟨hheld, hex⟩ := h.standalone.mp hs
  rw [h.tracks.reads, hheld, hex]
  rfl

/-- After any other token it was read once more: for the character held back, or for the end of
input. -/
theorem reads_of_not_standalone (h : st.EndsAt s e) (hs : ¬ st.token.Standalone) :
    st.reader.reads = e + 1 := by
  rw [h.tracks.reads]
  cases hex : st.reader.exhausted with
  | false =>
    cases hheld : st.reader.held with
    | none => exact absurd (h.standalone.mpr ⟨hheld, hex⟩) hs
    | some c => simp
  | true => simp [(h.tracks.exhausted_end hex).2]

end Step.EndsAt

/-- **The reader after `n` calls** of the scanner on a text `s`.  The calls never fail.  The last
token's lexeme starts at the one offset `o` of the text with the token's line and column, and ends
at `o + ℓ`, the end of the text for the end token.  The reader stands at the line and column of
that end.  It has read the feed once per character up to there after a standalone token, and once
more after any other.  What it echoed is the text up to its reads, each character once.  A read
of a character leaves the slot for a character given back empty, so that giving back the
character just read never finds the slot full.  Once the end token is given, every later call
gives it again at the end of the text, keeps the position and the reads, and echoes nothing. -/
theorem reader_after_calls (s : String) (n : Nat) :
    ((Reader.ofFeed (Feed.ofString s)).calls n).failure = none ∧
    ((Reader.ofFeed (Feed.ofString s)).calls n).steps.length = n ∧
    (∀ st, ((Reader.ofFeed (Feed.ofString s)).calls n).steps.getLast? = some st →
      ∃ o, o + st.token.text.length ≤ s.length ∧
      st.token.start = lineCol s.toList o ∧
      (∀ o' ≤ s.length, lineCol s.toList o' = st.token.start → o' = o) ∧
      st.token.text.toList = (s.toList.drop o).take st.token.text.length ∧
      (st.token.kind = .eof → o + st.token.text.length = s.length) ∧
      st.reader.pos = lineCol s.toList (o + st.token.text.length) ∧
      (st.token.Standalone → st.reader.reads = o + st.token.text.length) ∧
      (¬ st.token.Standalone → st.reader.reads = o + st.token.text.length + 1) ∧
      echoText ((Reader.ofFeed (Feed.ofString s)).calls n).notes =
        String.ofList (s.toList.take (min st.reader.reads s.length))) ∧
    (∀ (r r' : Reader) (c : Char) (fresh : Bool), r.read = .ok (some c) fresh r' → r'.held = none) ∧
    (∀ st ∈ ((Reader.ofFeed (Feed.ofString s)).calls n).steps, st.token.kind = .eof →
      st.reader.pos = lineCol s.toList s.length ∧ st.reader.reads = s.length + 1) ∧
    (∀ a b, ((Reader.ofFeed (Feed.ofString s)).calls n).steps = a ++ b →
      (∃ st ∈ a, st.token.kind = .eof) →
      ∀ st ∈ b, st.token = ⟨.eof, "", lineCol s.toList s.length⟩ ∧
        st.reader.pos = lineCol s.toList s.length ∧ st.reader.reads = s.length + 1 ∧
        echoText st.notes.toList = "") := by
  have h₀ := Reader.tracks_ofString s
  obtain ⟨hf, hlen, hall, hlast⟩ := h₀.calls n
  refine ⟨hf, hlen, fun st hst => ?_, fun _ _ _ _ => Reader.held_read, fun st hmem hk => ?_,
    fun a b hab heof st hst => ?_⟩
  · obtain ⟨e, hends⟩ := hall st (List.mem_of_getLast? hst)
    obtain ⟨-, hecho⟩ := hlast st hst
    have hle := hends.text_le
    have he := hends.tracks.le_length
    rw [String.length_toList] at he
    -- the lexeme starts at `o` and ends at `e`
    refine ⟨e - st.token.text.length, by omega, hends.start, fun o' ho' h' => ?_,
      hends.lexeme, fun hk => ?_, ?_, fun hs => ?_, fun hs => ?_, ?_⟩
    · rw [← String.length_toList] at ho'
      exact lineCol_injective ho' (by rw [String.length_toList]; omega) (h'.trans hends.start)
    · have := hends.eof_end hk
      rw [String.length_toList] at this
      omega
    · rw [Nat.sub_add_cancel hle]; exact hends.pos_eq
    · rw [Nat.sub_add_cancel hle]; exact hends.reads_of_standalone hs
    · rw [Nat.sub_add_cancel hle]; exact hends.reads_of_not_standalone hs
    · rw [echoText, hecho, hends.tracks.given_eq_min, String.length_toList]
      rfl
  · obtain ⟨e, hends⟩ := hall st hmem
    have he := hends.eof_end hk
    subst he
    refine ⟨hends.pos_eq, ?_⟩
    rw [hends.reads_of_not_standalone (fun hs => by simp [Token.Standalone, hk] at hs),
      String.length_toList]
  · obtain ⟨htok, hpos, hreads, hecho⟩ := h₀.calls_after_eof n a b hab heof st hst
    exact ⟨htok, hpos, hreads, by rw [echoText, hecho]⟩

/-- The word `ab` is closed by the comma, read once more and held back; the comma is then taken
from the slot, with no read; `c` is closed by the end of input, read once more. -/
example : ((Reader.ofFeed (Feed.ofString "ab,c")).calls 4).steps.map (·.reader.reads) =
    [3, 3, 5, 5] := by
  decide +kernel

end BlockSyntax
