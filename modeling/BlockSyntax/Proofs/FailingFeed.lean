import BlockSyntax.Proofs.ReaderProgress

/-! # Reading a feed that fails

A feed that gives the first `n` characters of a text and then fails is read, call by call, as the
text itself is, up to the read that the text's run makes after its `n`-th: that read fails
instead.  The reader on the failing feed is the reader on the text with its feed cut there
(`Reader.failAt`), so the two runs agree in every token, note, position and read count before.
The failure is reported at the position of offset `n`, after the notes made before the read.

`Tracks.read_failAt` is the one step: a read of the text's run is matched by the same read, or is
the failing one.  The scans, the calls and the tape follow by induction on the characters pending
and on the calls.
-/

namespace BlockSyntax

namespace Reader

/-- The reader `r` on a feed that gives what `r`'s gives up to the `n`-th read of all, and fails
with `reason` on the read after. -/
def failAt (n : Nat) (reason : String) (r : Reader) : Reader :=
  { r with feed := ⟨r.feed.chars.take (n - r.reads), .fails reason⟩ }

end Reader

/-- The step `st` of a text's run, its reader on the failing feed. -/
def Step.failAt (n : Nat) (reason : String) (st : Step) : Step :=
  { st with reader := st.reader.failAt n reason }

namespace Reader

variable {n : Nat} {reason : String}

@[simp] theorem pos_failAt (r : Reader) : (r.failAt n reason).pos = r.pos := rfl

@[simp] theorem reads_failAt (r : Reader) : (r.failAt n reason).reads = r.reads := rfl

theorem pushBack_failAt (r : Reader) (c : Char) (p : Position) :
    (r.failAt n reason).pushBack c p = (r.pushBack c p).failAt n reason := rfl

/-- The failing feed of a text read from its start. -/
theorem ofFeed_failAt (s : String) :
    ofFeed ⟨s.toList.take n, .fails reason⟩ = (ofFeed (Feed.ofString s)).failAt n reason := rfl

theorem reads_le_read {r r' : Reader} {x : Option Char} {fresh : Bool}
    (h : r.read = .ok x fresh r') : r.reads ≤ r'.reads := by
  unfold read at h
  split at h
  · cases h; exact Nat.le_refl _
  · split at h
    · cases h; exact Nat.le_refl _
    · split at h
      · cases h; exact Nat.le_succ _
      · split at h
        · cases h; exact Nat.le_succ _
        · cases h

variable {s : List Char} {k : Nat} {r : Reader}

/-- **One read of a text against the failing feed.**  A read of the text's run that leaves at
most `n` reads is made alike on the failing feed; the read after the `n`-th fails there, and it
is made at the position of offset `n`, where the text's run reads the character at `n`, or the
end of input, from the feed. -/
theorem Tracks.read_failAt (h : r.Tracks s k) (reason : String) (hr : r.reads ≤ n)
    (hn : n ≤ s.length)
    {x : Option Char} {fresh : Bool} {r' : Reader} (hread : r.read = .ok x fresh r') :
    (r'.reads ≤ n → (r.failAt n reason).read = .ok x fresh (r'.failAt n reason)) ∧
    (n < r'.reads → (r.failAt n reason).read = .failed reason ∧ r.pos = lineCol s n ∧
      x = s[n]? ∧ fresh = decide (n < s.length)) := by
  obtain ⟨hf, hle, hpend, hpos, hreads, -⟩ := h
  obtain ⟨⟨chars, ending⟩, held, exhausted, pos, reads⟩ := r
  simp only at hf hpos hreads hr
  subst hf
  cases held with
  | some c =>
    -- the character given back: no read of the feed
    simp only [read] at hread
    cases hread
    exact ⟨fun _ => rfl, fun hlt => absurd hlt (Nat.not_lt.mpr hr)⟩
  | none =>
    cases exhausted with
    | true =>
      simp only [read] at hread
      cases hread
      exact ⟨fun _ => rfl, fun hlt => absurd hlt (Nat.not_lt.mpr hr)⟩
    | false =>
      simp only [Option.isSome_none, Bool.false_eq_true, if_false, Nat.add_zero] at hreads
      subst reads
      simp only [Reader.pending, Option.toList_none, List.nil_append] at hpend
      have hstart : pos = lineCol s k := by rw [hpos, lineCol_eq_advanceAll hle]
      cases chars with
      | cons c cs =>
        simp only [read] at hread
        cases hread
        -- the character at offset `k` is `c`
        have hc : s[k]? = some c := by rw [← List.head?_drop, ← hpend]; rfl
        have hlt : k < s.length := by
          by_contra hge
          rw [List.drop_eq_nil_of_le (Nat.le_of_not_lt hge)] at hpend
          cases hpend
        refine ⟨fun hle' => ?_, fun hlt' => ?_⟩
        · simp only at hle'
          have hsub : n - k = (n - (k + 1)) + 1 := by omega
          simp [read, failAt, hsub]
        · have hk : k = n := by simp only at hlt'; omega
          subst hk
          exact ⟨by simp [read, failAt], hstart, hc.symm, by simp [hlt]⟩
      | nil =>
        simp only [read] at hread
        cases hread
        -- the text is read to its end
        have hk : s.length ≤ k := List.drop_eq_nil_iff.mp hpend.symm
        refine ⟨fun hle' => absurd hle' (by simp only; omega), fun _ => ?_⟩
        have hkn : k = n := by omega
        subst hkn
        have hks : k = s.length := by omega
        refine ⟨by simp [read, failAt], hstart, ?_, by simp [hks]⟩
        simp [hks]

/-! ### One call -/

theorem readNotes_toList (m : Mode) (x : Option Char) (fresh : Bool) (notes : Array Note) :
    (readNotes m x fresh notes).toList = notes.toList ++ (readNotes m x fresh #[]).toList := by
  cases x <;> cases fresh <;> simp [readNotes]

theorem prefix_push (notes : Array Note) (x : Note) : notes.toList <+: (notes.push x).toList := by
  simp

theorem prefix_readNotes (m : Mode) (x : Option Char) (fresh : Bool) (notes : Array Note) :
    notes.toList <+: (readNotes m x fresh notes).toList := by
  rw [readNotes_toList]
  exact List.prefix_append _ _

/-- The notes of a read and one note after it go on from the notes before. -/
theorem prefix_readNotes_push (m : Mode) (x : Option Char) (fresh : Bool) (notes : Array Note)
    (a : Note) : notes.toList <+: ((readNotes m x fresh notes).push a).toList :=
  (prefix_readNotes _ _ _ _).trans (prefix_push _ _)

/-- A scan whose read fails ends there, with the notes so far, at the reader's position. -/
theorem scan_read_failed {r : Reader} {reason : String} (hr : r.read = .failed reason)
    (m : Mode) (text : String) (start : Position) (notes : Array Note) :
    r.scan m text start notes = .failure notes ⟨reason, r.pos⟩ := by
  rw [scan]
  split <;> rename_i h' <;> rw [hr] at h' <;> cases h'
  rfl

/-- A scan that gives a token only reads on and only adds notes. -/
theorem scan_extends {r : Reader} {m : Mode} {text : String} {start : Position}
    {notes : Array Note} {st : Step} (hs : r.scan m text start notes = .token st) :
    r.reads ≤ st.reader.reads ∧ notes.toList <+: st.notes.toList := by
  fun_induction scan m text start notes r with
  | case1 => cases hs
  | case2 m text start notes r start' fresh r' hr t notes' =>
    cases hs
    exact ⟨reads_le_read hr, (prefix_readNotes_push _ _ _ _ _).trans (prefix_push _ _)⟩
  | case3 m text start notes r start' c fresh r' hr notes' hmove ih =>
    obtain ⟨hle, hpre⟩ := ih hs
    exact ⟨Nat.le_trans (reads_le_read hr) hle, (prefix_readNotes_push _ _ _ _ _).trans hpre⟩
  | case4 m text start notes r start' c fresh r' hr notes' m' hmove ih =>
    obtain ⟨hle, hpre⟩ := ih hs
    exact ⟨Nat.le_trans (reads_le_read hr) hle, (prefix_readNotes_push _ _ _ _ _).trans hpre⟩
  | case5 m text start notes r start' c fresh r' hr notes' k hmove t =>
    cases hs
    exact ⟨reads_le_read hr, (prefix_readNotes_push _ _ _ _ _).trans (prefix_push _ _)⟩
  | case6 m text start notes r start' c fresh r' hr notes' hmove t notes'' =>
    cases hs
    -- the character is given back, which leaves the count of reads
    have hle := reads_le_read hr
    exact ⟨hle, ((prefix_readNotes_push _ _ _ _ _).trans (prefix_push _ _)).trans (prefix_push _ _)⟩

/-- After its first read, a scan that gives a token only reads on, and its notes go on from those
of that read. -/
theorem scan_after_read {r r' : Reader} {x : Option Char} {fresh : Bool}
    (hr : r.read = .ok x fresh r') {m : Mode} {text : String} {start : Position}
    {notes : Array Note} {st : Step} (hs : r.scan m text start notes = .token st) :
    r'.reads ≤ st.reader.reads ∧ (readNotes m x fresh notes).toList <+: st.notes.toList := by
  cases x with
  | none =>
    rw [scan_read_none hr] at hs
    cases hs
    exact ⟨Nat.le_refl _, (prefix_push _ _).trans (prefix_push _ _)⟩
  | some c =>
    rw [scan_read_some hr] at hs
    cases hm : m.onChar c with
    | skip =>
      simp only [hm] at hs
      obtain ⟨hle, hpre⟩ := scan_extends hs
      exact ⟨hle, (prefix_push _ _).trans hpre⟩
    | keep m' =>
      simp only [hm] at hs
      obtain ⟨hle, hpre⟩ := scan_extends hs
      exact ⟨hle, (prefix_push _ _).trans hpre⟩
    | single kk =>
      simp only [hm] at hs
      cases hs
      exact ⟨Nat.le_refl _, (prefix_push _ _).trans (prefix_push _ _)⟩
    | close =>
      simp only [hm] at hs
      cases hs
      exact ⟨Nat.le_refl _, (((prefix_push _ _).trans (prefix_push _ _)).trans (prefix_push _ _))⟩

variable {s : List Char} {k : Nat} {r : Reader}

/-- The scan whose first read is the one that fails on the failing feed: the run on the failing
feed stops there, and the text's run goes on from the same notes with those of that read. -/
theorem Tracks.scan_failAt_first (h : r.Tracks s k) (reason : String) (hr : r.reads ≤ n)
    (hn : n ≤ s.length)
    {x : Option Char} {fresh : Bool} {r' : Reader} (hread : r.read = .ok x fresh r')
    (hlt : n < r'.reads) {m : Mode} {text : String} {start : Position} {notes : Array Note}
    {st : Step} (hs : r.scan m text start notes = .token st) :
    ¬ st.reader.reads ≤ n ∧
    ∃ rest, (r.failAt n reason).scan m text start notes = .failure notes ⟨reason, lineCol s n⟩ ∧
      st.notes.toList = notes.toList ++ (readNotes m s[n]? (decide (n < s.length)) #[]).toList ++
        rest := by
  obtain ⟨hfail, hpos, rfl, rfl⟩ := (h.read_failAt reason hr hn hread).2 hlt
  obtain ⟨hle, rest, hrest⟩ := scan_after_read hread hs
  refine ⟨Nat.not_le.mpr (Nat.lt_of_lt_of_le hlt hle), rest, ?_, ?_⟩
  · rw [scan_read_failed hfail, pos_failAt, hpos]
  · rw [← hrest, readNotes_toList]

/-- **One run of the machine against the failing feed.**  On a reader of a text with at most
`n` reads, a scan that ends with at most `n` reads gives the same step on the failing feed, its
reader on the failing feed; one that reads more fails there, after the notes it made before the
read that fails, at the position of offset `n`. -/
theorem Tracks.scan_failAt (h : r.Tracks s k) (reason : String) (hr : r.reads ≤ n)
    (hn : n ≤ s.length)
    {m : Mode} {text : String} {start : Position} {notes : Array Note} {st : Step}
    (hs : r.scan m text start notes = .token st) :
    (st.reader.reads ≤ n →
      (r.failAt n reason).scan m text start notes = .token (st.failAt n reason)) ∧
    (¬ st.reader.reads ≤ n → ∃ ns m' rest,
      (r.failAt n reason).scan m text start notes = .failure ns ⟨reason, lineCol s n⟩ ∧
      st.notes.toList = ns.toList ++ (readNotes m' s[n]? (decide (n < s.length)) #[]).toList ++
        rest) := by
  -- on the characters pending, one read at a time, as long as the read is made alike
  generalize hp : r.pending = cs
  induction cs generalizing r k m text start notes with
  | nil =>
    obtain ⟨r', hread, -⟩ := h.read_nil hp
    by_cases hle : r'.reads ≤ n
    · have hbad := (h.read_failAt reason hr hn hread).1 hle
      rw [scan_read_none hread] at hs
      cases hs
      refine ⟨fun _ => ?_, fun hgt => absurd hle hgt⟩
      rw [scan_read_none hbad]
      rfl
    · obtain ⟨hnot, rest, hfail, hnotes⟩ :=
        h.scan_failAt_first reason hr hn hread (Nat.lt_of_not_le hle) hs
      exact ⟨fun h' => absurd h' hnot, fun _ => ⟨notes, m, rest, hfail, hnotes⟩⟩
  | cons c cs ih =>
    obtain ⟨fresh, r', hread, hr', hcs, -⟩ := h.read_cons hp
    by_cases hle : r'.reads ≤ n
    · have hbad := (h.read_failAt reason hr hn hread).1 hle
      rw [scan_read_some hread] at hs
      rw [scan_read_some hbad]
      cases hm : m.onChar c with
      | skip =>
        simp only [hm] at hs ⊢
        exact ih hr' hle hs hcs
      | keep m' =>
        simp only [hm] at hs ⊢
        exact ih hr' hle hs hcs
      | single kk =>
        simp only [hm] at hs ⊢
        cases hs
        exact ⟨fun _ => rfl, fun hgt => absurd hle hgt⟩
      | close =>
        simp only [hm] at hs ⊢
        cases hs
        exact ⟨fun _ => rfl, fun hgt => absurd hle hgt⟩
    · obtain ⟨hnot, rest, hfail, hnotes⟩ :=
        h.scan_failAt_first reason hr hn hread (Nat.lt_of_not_le hle) hs
      exact ⟨fun h' => absurd h' hnot, fun _ => ⟨notes, m, rest, hfail, hnotes⟩⟩

/-- One call of the scanner against the failing feed. -/
theorem Tracks.nextToken_failAt (h : r.Tracks s k) (reason : String) (hr : r.reads ≤ n)
    (hn : n ≤ s.length)
    {st : Step} (hst : r.nextToken = .token st) :
    (st.reader.reads ≤ n → (r.failAt n reason).nextToken = .token (st.failAt n reason)) ∧
    (¬ st.reader.reads ≤ n → ∃ ns m rest,
      (r.failAt n reason).nextToken = .failure ns ⟨reason, lineCol s n⟩ ∧
      st.notes.toList = ns.toList ++ (readNotes m s[n]? (decide (n < s.length)) #[]).toList ++
        rest) :=
  h.scan_failAt reason hr hn hst

theorem calls_failure {ns : Array Note} {f : ReadFailure} (h : r.nextToken = .failure ns f)
    (m : Nat) : r.calls (m + 1) = ⟨[], some (ns, f)⟩ := by
  simp only [calls, h]

theorem tape_of_failure {ns : Array Note} {f : ReadFailure} (h : r.nextToken = .failure ns f) :
    r.tape = ⟨[], some (ns, f)⟩ := by
  rw [tape]
  split <;> rename_i h' <;> rw [h] at h' <;> cases h'
  rfl

end Reader

/-! ### Runs of calls -/

/-- The calls `bad` on the feed that fails at read `n + 1` stop at the call `st` of the calls
`good` on the text `s`, the first to read more than `n` times: before it the calls agree, readers
on the failing feed; at it the failing run fails, at the position of offset `n`, with the notes
that `st` made before its read `n + 1`, which reads the character at `n` or the end of input. -/
def StopsAtRead (s : List Char) (n : Nat) (reason : String) (good : List Step) (bad : Tape) :
    Prop :=
  ∃ a st c ns m rest, good = a ++ st :: c ∧ (∀ x ∈ a, x.reader.reads ≤ n) ∧ n < st.reader.reads ∧
    bad = ⟨a.map (Step.failAt n reason), some (ns, ⟨reason, lineCol s n⟩)⟩ ∧
    st.notes.toList = ns.toList ++ (Reader.readNotes m s[n]? (decide (n < s.length)) #[]).toList ++
      rest

/-- The calls `bad` on the feed that fails at read `n + 1` against the calls `good` on the text
`s`: they agree, readers on the failing feed, when no call of `good` reads more than `n` times;
otherwise they stop at the first that does. -/
def FailsAtRead (s : List Char) (n : Nat) (reason : String) (good : List Step) (bad : Tape) :
    Prop :=
  ((∀ st ∈ good, st.reader.reads ≤ n) ∧ bad = ⟨good.map (Step.failAt n reason), none⟩) ∨
    StopsAtRead s n reason good bad

variable {s : List Char} {n : Nat} {reason : String}

theorem StopsAtRead.cons {st : Step} {good : List Step} {bad : Tape}
    (hst : st.reader.reads ≤ n) (h : StopsAtRead s n reason good bad) :
    StopsAtRead s n reason (st :: good) ⟨st.failAt n reason :: bad.steps, bad.failure⟩ := by
  obtain ⟨a, x, c, ns, m, rest, rfl, ha, hx, rfl, hnotes⟩ := h
  refine ⟨st :: a, x, c, ns, m, rest, rfl, fun y hy => ?_, hx, rfl, hnotes⟩
  rcases List.mem_cons.mp hy with rfl | hy
  · exact hst
  · exact ha y hy

theorem StopsAtRead.head {st : Step} {ns : Array Note} {m : Mode} {rest : List Note}
    (hst : n < st.reader.reads)
    (hnotes : st.notes.toList = ns.toList ++
      (Reader.readNotes m s[n]? (decide (n < s.length)) #[]).toList ++ rest) (good : List Step) :
    StopsAtRead s n reason (st :: good) ⟨[], some (ns, ⟨reason, lineCol s n⟩)⟩ :=
  ⟨[], st, good, ns, m, rest, rfl, (fun _ h => by cases h), hst, rfl, hnotes⟩

theorem FailsAtRead.cons {st : Step} {good : List Step} {bad : Tape}
    (hst : st.reader.reads ≤ n) (h : FailsAtRead s n reason good bad) :
    FailsAtRead s n reason (st :: good) ⟨st.failAt n reason :: bad.steps, bad.failure⟩ := by
  rcases h with ⟨hall, rfl⟩ | h
  · refine .inl ⟨fun y hy => ?_, rfl⟩
    rcases List.mem_cons.mp hy with rfl | hy
    · exact hst
    · exact hall y hy
  · exact .inr (h.cons hst)

/-- The call that gives the end token has read the whole text and the end of input. -/
theorem Step.EndsAt.reads_of_eof {st : Step} {e : Nat} (h : st.EndsAt s e)
    (hk : st.token.kind = .eof) : st.reader.reads = s.length + 1 := by
  rw [h.reads_of_not_standalone (fun hs => by simp [Token.Standalone, hk] at hs), h.eof_end hk]

namespace Reader

variable {k : Nat} {r : Reader}

/-- **Calls against the failing feed.**  Any number of calls of the scanner on a text, against
the same calls on the feed that gives its first `n` characters and then fails. -/
theorem Tracks.calls_failAt (h : r.Tracks s k) (reason : String) (hr : r.reads ≤ n)
    (hn : n ≤ s.length)
    (m : Nat) : FailsAtRead s n reason (r.calls m).steps ((r.failAt n reason).calls m) := by
  induction m generalizing r k with
  | zero => exact .inl ⟨(fun _ h => by cases h), rfl⟩
  | succ m ih =>
    obtain ⟨st, e, hst, hends, -⟩ := h.nextToken
    have hsim := h.nextToken_failAt reason hr hn hst
    rw [calls_succ hst]
    by_cases hle : st.reader.reads ≤ n
    · rw [calls_succ (hsim.1 hle)]
      exact (ih hends.tracks hle).cons hle
    · obtain ⟨ns, m', rest, hfail, hnotes⟩ := hsim.2 hle
      rw [calls_failure hfail]
      exact .inr (StopsAtRead.head (Nat.lt_of_not_le hle) hnotes _)

/-- **The tape against the failing feed.**  Scanning a text to its end token reads the end of
input after the last character, so the feed that fails at read `n + 1`, with `n` at most the
length of the text, always stops the scan, at the first call of the text's scan that reads more
than `n` times. -/
theorem Tracks.tape_failAt (h : r.Tracks s k) (reason : String) (hr : r.reads ≤ n)
    (hn : n ≤ s.length) :
    StopsAtRead s n reason r.tape.steps (r.failAt n reason).tape := by
  -- on the weight of the reader, which every call before the end token lowers
  generalize hw : r.weight = w
  induction w using Nat.strongRecOn generalizing r k with
  | ind w ih =>
    obtain ⟨st, e, hst, hends, -⟩ := h.nextToken
    have hsim := h.nextToken_failAt reason hr hn hst
    rw [tape_of_nextToken hst]
    by_cases hle : st.reader.reads ≤ n
    · have hk : st.token.kind ≠ .eof := fun hk => by
        have := hends.reads_of_eof hk
        omega
      rw [tape_of_nextToken (hsim.1 hle), if_neg hk,
        if_neg (show (st.failAt n reason).token.kind ≠ .eof from hk)]
      exact (ih _ (hw ▸ weight_nextToken_lt hst hk) hends.tracks hle rfl).cons hle
    · obtain ⟨ns, m, rest, hfail, hnotes⟩ := hsim.2 hle
      rw [tape_of_failure hfail]
      split
      · exact StopsAtRead.head (Nat.lt_of_not_le hle) hnotes []
      · exact StopsAtRead.head (Nat.lt_of_not_le hle) hnotes _

end Reader

end BlockSyntax
