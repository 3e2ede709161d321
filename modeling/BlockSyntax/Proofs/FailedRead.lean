import BlockSyntax.Report
import BlockSyntax.Proofs.ErrorOrder
import BlockSyntax.Proofs.OnlineCheck
import BlockSyntax.Proofs.FailingFeed

/-! # A check whose input fails to be read

A feed that gives the first `n` characters of a text and then fails is checked as the text is, up
to the point where the check of the text makes its read `n + 1`: there the check on the failing
feed stops, with the failed read as its only answer.  If the check of the text never reads that far,
the two checks are the same.

The scanner side is `Reader.Tracks.tape_failAt`: the failing feed's tape is the text's tape cut
at its first call that reads more than `n` times.  The checker side is `check_online`: checking
the tokens before that call goes as checking all of them, until it pulls the token of that call.
The journals then agree up to the notes of the failed call, because the journal depends only on
the calls' notes and the checker's events (`interleave_congr`, `interleave_append`).
-/

namespace BlockSyntax

/-! ### Journals -/

/-- The journal reads only the notes of the calls. -/
theorem interleave_congr {calls calls' : List Step} (h : calls.map Step.notes = calls'.map Step.notes)
    (es : List Event) : interleave calls es = interleave calls' es := by
  induction es generalizing calls calls' with
  | nil => rfl
  | cons e es ih =>
    cases e with
    | pull =>
      cases calls with
      | nil =>
        cases calls' with
        | nil => rfl
        | cons _ _ => cases h
      | cons x xs =>
        cases calls' with
        | nil => cases h
        | cons y ys =>
          simp only [List.map_cons, List.cons.injEq] at h
          simp only [interleave, h.1, ih h.2]
    | enter p => simp only [interleave, ih h]
    | leave p => simp only [interleave, ih h]
    | report e => simp only [interleave, ih h]
    | skip t => simp only [interleave, ih h]

/-- The journal of events that pull exactly the calls `a`, then of the rest. -/
theorem interleave_append {a : List Step} {es : List Event} (h : es.countP (· == .pull) = a.length)
    (rest : List Step) (es' : List Event) :
    interleave (a ++ rest) (es ++ es') = interleave a es ++ interleave rest es' := by
  induction es generalizing a with
  | nil =>
    rw [List.countP_nil, eq_comm, List.length_eq_zero_iff] at h
    subst h
    rfl
  | cons e es ih =>
    cases e with
    | pull =>
      cases a with
      | nil => simp at h
      | cons x a =>
        simp only [List.countP_cons, beq_self_eq_true, if_true, List.length_cons,
          Nat.add_right_cancel_iff] at h
        simp only [List.cons_append, interleave, ih h, List.append_assoc]
    | enter p => simp_all [interleave]
    | leave p => simp_all [interleave]
    | report e => simp_all [interleave]
    | skip t => simp_all [interleave]

/-! ### The calls a check makes -/

namespace Tape

theorem answers_of_le (t : Tape) {m : Nat} (hm : m ≤ t.steps.length) :
    t.answers m = t.steps.take m := by
  simp [answers, Nat.sub_eq_zero_of_le hm]

/-- A check that pulls past the calls `a` makes the call after them. -/
theorem answers_of_lt {t : Tape} {a c : List Step} {st : Step} (ht : t.steps = a ++ st :: c)
    {m : Nat} (hm : a.length < m) : ∃ c', t.answers m = a ++ st :: c' := by
  obtain ⟨j, rfl⟩ : ∃ j, m = a.length + (j + 1) := ⟨m - a.length - 1, by omega⟩
  refine ⟨c.take j ++ (List.replicate (a.length + (j + 1) - t.steps.length) t.again).flatten, ?_⟩
  simp [answers, ht, List.take_append, List.take_of_length_le (Nat.le_add_right a.length (j + 1))]

end Tape

/-! ### Reports -/

namespace Report

@[simp] theorem ofTape_calls (t : Tape) : (ofTape t).calls = t.answers (check t.tokens).pulls := rfl

@[simp] theorem ofTape_verdict (t : Tape) : (ofTape t).verdict = check t.tokens := rfl

theorem ofTape_failure_finished {t : Tape} {g : Cursor} (h : check t.tokens = .finished g) :
    (ofTape t).failure = none := by
  simp [ofTape, h]

theorem ofTape_failure_unreadable {t : Tape} {L : Array Event} (h : check t.tokens = .unreadable L) :
    (ofTape t).failure = t.failure := by
  simp [ofTape, h]

/-- The check of `bad`, a run on the feed that fails at read `n + 1`, against the check `good`
of the text `s`.  When no call of `good` reads more than `n` times, the checks are the same: the
calls, readers on the failing feed, the journal, the lookahead and the answer.  Otherwise they
agree up to the first call that does: the failing check makes the calls before it, tells the
failure at the line and column of offset `n` and nothing else, and its journal is that of the
text's check up to that call's read `n + 1`. -/
def FailsAtRead (s : List Char) (n : Nat) (reason : String) (good bad : Report) : Prop :=
  ((∀ st ∈ good.calls, st.reader.reads ≤ n) ∧ bad.calls = good.calls.map (Step.failAt n reason) ∧
    bad.entries = good.entries ∧ bad.lookahead? = good.lookahead? ∧ bad.result = good.result) ∨
  ∃ a st c, good.calls = a ++ st :: c ∧ (∀ x ∈ a, x.reader.reads ≤ n) ∧ n < st.reader.reads ∧
    bad.calls = a.map (Step.failAt n reason) ∧ bad.readFailure? = some ⟨reason, lineCol s n⟩ ∧
    bad.result = ⟨false, [], some ("Line " ++ toString (lineCol s n).line ++ ", col " ++
      toString (lineCol s n).column ++ ": Could not read input: " ++ reason)⟩ ∧
    ∃ m rest, good.entries = bad.entries ++
      (Reader.readNotes m s[n]? (decide (n < s.length)) #[]).toList.map Entry.scan ++ rest

end Report

theorem toString_natCast (x : Nat) : toString (x : Int) = toString x := rfl

/-- A failed read is told with its line and column, which is at least 1. -/
theorem render_lineCol (s : List Char) (n : Nat) (reason : String) :
    ReadFailure.render ⟨reason, lineCol s n⟩ = "Line " ++ toString (lineCol s n).line ++
      ", col " ++ toString (lineCol s n).column ++ ": Could not read input: " ++ reason := by
  have hline : (0 : Int) < ((lineCol s n).line : Int) := by simp only [lineCol]; omega
  have hmsg : ": " ++ ("Could not read input: " ++ reason) = ": Could not read input: " ++ reason := by
    simp only [← String.append_assoc, String.reduceAppend]
  unfold ReadFailure.render ReadFailure.describe ReadFailure.message
  rw [if_pos hline]
  simp only [toString_natCast, String.append_assoc, hmsg]

variable {s : List Char} {n : Nat} {reason : String}

@[simp] theorem Tape.tokens_failAt (a : List Step) (f : Option (Array Note × ReadFailure)) :
    Tape.tokens ⟨a.map (Step.failAt n reason), f⟩ = a.map Step.token := by
  simp [Tape.tokens, Step.failAt]

@[simp] theorem notes_failAt (a : List Step) :
    (a.map (Step.failAt n reason)).map Step.notes = a.map Step.notes := by
  simp [Step.failAt]

namespace Report

variable {T : Tape} {a c : List Step} {st : Step} {ns : Array Note} {g : Cursor}

/-- The check of the calls before `st` ended by itself, on the events of the whole check: the
two checks are the same. -/
theorem ofTape_cut_finished {b : Cursor} (hsteps : T.steps = a ++ st :: c)
    (ha : ∀ x ∈ a, x.reader.reads ≤ n) (hg : check T.tokens = .finished g)
    (hb : check (a.map Step.token) = .finished b)
    (hv : Verdict.Trails a.length (.finished g) (.finished b)) :
    FailsAtRead s n reason (ofTape T)
      (ofTape ⟨a.map (Step.failAt n reason), some (ns, ⟨reason, lineCol s n⟩)⟩) := by
  obtain ⟨hla, hlog, hpulls⟩ := hv
  have hpv : (Verdict.finished b).pulls = (Verdict.finished g).pulls := by
    simp only [Verdict.pulls, Verdict.log, hlog]
  have hle : (Verdict.finished g).pulls ≤ a.length := hpv ▸ by simpa using hpulls
  have hcalls : T.answers (Verdict.finished g).pulls = a.take (Verdict.finished g).pulls := by
    rw [Tape.answers_of_le _ (by rw [hsteps]; simp; omega), hsteps,
      List.take_append_of_le_length hle]
  have hfb := ofTape_failure_finished
    (t := ⟨a.map (Step.failAt n reason), some (ns, ⟨reason, lineCol s n⟩)⟩) (by simpa using hb)
  refine .inl ⟨fun x hx => ?_, ?_, ?_, ?_, ?_⟩
  · rw [ofTape_calls, hg, hcalls] at hx
    exact ha x (List.mem_of_mem_take hx)
  · rw [ofTape_calls, ofTape_calls, Tape.tokens_failAt, hb, hg, hpv,
      Tape.answers_of_le _ (by simpa using hle), hcalls, List.map_take]
  · simp only [entries, ofTape_calls, ofTape_verdict, hfb, ofTape_failure_finished hg,
      Tape.tokens_failAt, hb, hg, hpv, Verdict.log, hlog]
    rw [Tape.answers_of_le _ (by simpa using hle), hcalls, ← List.map_take]
    exact congrArg (· ++ [])
      (interleave_congr (by simp only [List.map_take]; rw [notes_failAt]) _)
  · simp [lookahead?, hb, hg, hla]
  · simp only [result, readFailure?, errors, hfb, ofTape_failure_finished hg, ofTape_verdict,
      Tape.tokens_failAt, hb, hg, Verdict.errors, Verdict.log, hlog]

/-- The check of the calls before `st` ran out where the whole check pulled `st`'s token: the
failing check answers the failed read, after the journal of the whole check up to that read. -/
theorem ofTape_cut_unreadable {L : Array Event} {m : Mode} {rest : List Note}
    (hsteps : T.steps = a ++ st :: c) (ha : ∀ x ∈ a, x.reader.reads ≤ n)
    (hst : n < st.reader.reads)
    (hnotes : st.notes.toList = ns.toList ++
      (Reader.readNotes m s[n]? (decide (n < s.length)) #[]).toList ++ rest)
    (hg : check T.tokens = .finished g) (hb : check (a.map Step.token) = .unreadable L)
    (hv : Verdict.Trails a.length (.finished g) (.unreadable L)) :
    FailsAtRead s n reason (ofTape T)
      (ofTape ⟨a.map (Step.failAt n reason), some (ns, ⟨reason, lineCol s n⟩)⟩) := by
  obtain ⟨hpulls, R, hR⟩ := hv
  have hpulls' : L.toList.countP (· == .pull) = a.length := by
    simpa [Verdict.pulls, Verdict.log] using hpulls
  have hlt : a.length < (Verdict.finished g).pulls := by
    simp only [Verdict.pulls, Verdict.log]
    rw [← hR, List.countP_append, List.countP_append, hpulls']
    simp only [List.countP_singleton, BEq.rfl, if_true]
    omega
  obtain ⟨c', hc'⟩ := Tape.answers_of_lt hsteps hlt
  have hbcalls : (ofTape ⟨a.map (Step.failAt n reason), some (ns, ⟨reason, lineCol s n⟩)⟩).calls
      = a.map (Step.failAt n reason) := by
    rw [ofTape_calls, Tape.tokens_failAt, hb, hpulls, Tape.answers_of_le _ (by simp),
      List.take_of_length_le (by simp)]
  have hfail := ofTape_failure_unreadable
    (t := ⟨a.map (Step.failAt n reason), some (ns, ⟨reason, lineCol s n⟩)⟩) (by simpa using hb)
  refine .inr ⟨a, st, c', by rw [ofTape_calls, hg, hc'], ha, hst, hbcalls, ?_, ?_,
    m, rest.map Entry.scan ++ interleave c' R, ?_⟩
  · simp [readFailure?, hfail]
  · simp [result, readFailure?, hfail, render_lineCol]
  · simp only [entries, hbcalls, hfail, ofTape_calls, ofTape_verdict, ofTape_failure_finished hg,
      Tape.tokens_failAt, hb, hg, hc', Verdict.log]
    rw [← hR, List.append_assoc, List.singleton_append, interleave_congr (notes_failAt a),
      interleave_append hpulls']
    simp [interleave, hnotes]

/-- **Checking a tape that stops at a read**, against checking the terminated tape of the text it
was cut from. -/
theorem ofTape_failsAtRead {T' : Tape} (ht : Terminated T.tokens)
    (hstop : StopsAtRead s n reason T.steps T') : FailsAtRead s n reason (ofTape T) (ofTape T') := by
  obtain ⟨a, st, c, ns, m, rest, hsteps, ha, hst, rfl, hnotes⟩ := hstop
  -- the failing tape gives the tokens before `st`, none of them the end token
  have htok : T.tokens = a.map Step.token ++ (st :: c).map Step.token := by
    simp [Tape.tokens, hsteps]
  obtain ⟨g, hg⟩ := (check_spec ht).1
  have hv := check_online (u := (st :: c).map Step.token) (ht.not_eof_of_append htok (by simp))
  rw [← htok, hg] at hv
  cases hb : check (a.map Step.token) with
  | finished b =>
    rw [hb, List.length_map] at hv
    exact ofTape_cut_finished hsteps ha hg hb hv
  | unreadable L =>
    rw [hb, List.length_map] at hv
    exact ofTape_cut_unreadable hsteps ha hst hnotes hg hb hv

end Report

/-- **A read that fails.**  Take a text `s`, an `n` at most its length, and the feed that gives
the first `n` characters of `s` and then fails for `reason`.  Calling the scanner on that feed
any number of times, scanning it to the end, and checking it each go as on the text itself: the
same tokens, notes, positions and read counts, as long as the run on the text has read at most
`n` times.  At the first call of the run on the text that makes its read `n + 1`, the run on the
failing feed stops instead, with a failure at the line and column of offset `n`, after the same
notes.  Scanning to the end always gets there, since the end of input is read after the `n`-th
character; a check that never reads that far is the same on both feeds, and one that does answers
only the failure, whatever syntax errors it found before. -/
theorem failing_feed_follows_text (s : String) (n : Nat) (reason : String) (hn : n ≤ s.length) :
    (∀ m, FailsAtRead s.toList n reason ((Reader.ofFeed (Feed.ofString s)).calls m).steps
      ((Reader.ofFeed ⟨s.toList.take n, .fails reason⟩).calls m)) ∧
    StopsAtRead s.toList n reason (Reader.ofFeed (Feed.ofString s)).tape.steps
      (Reader.ofFeed ⟨s.toList.take n, .fails reason⟩).tape ∧
    Report.FailsAtRead s.toList n reason (Report.ofFeed (Feed.ofString s))
      (Report.ofFeed ⟨s.toList.take n, .fails reason⟩) := by
  have h₀ := Reader.tracks_ofString s
  have hn' : n ≤ s.toList.length := by rw [String.length_toList]; exact hn
  -- the reader of the failing feed is the text's reader on the failing feed
  rw [Reader.ofFeed_failAt]
  have htape := h₀.tape_failAt reason (Nat.zero_le _) hn'
  exact ⟨fun m => h₀.calls_failAt reason (Nat.zero_le _) hn' m, htape,
    Report.ofTape_failsAtRead (terminated_ofString s) htape⟩

/-- The text `{int x}` read through a feed that fails after its first three characters. -/
theorem brace_feed_failing_after_three :
    3 ≤ "\x7bint x\x7d".length ∧
    (∀ m, FailsAtRead "\x7bint x\x7d".toList 3 "boom"
      ((Reader.ofFeed (Feed.ofString "\x7bint x\x7d")).calls m).steps
      ((Reader.ofFeed ⟨"\x7bint x\x7d".toList.take 3, .fails "boom"⟩).calls m)) ∧
    StopsAtRead "\x7bint x\x7d".toList 3 "boom"
      (Reader.ofFeed (Feed.ofString "\x7bint x\x7d")).tape.steps
      (Reader.ofFeed ⟨"\x7bint x\x7d".toList.take 3, .fails "boom"⟩).tape ∧
    Report.FailsAtRead "\x7bint x\x7d".toList 3 "boom"
      (Report.ofFeed (Feed.ofString "\x7bint x\x7d"))
      (Report.ofFeed ⟨"\x7bint x\x7d".toList.take 3, .fails "boom"⟩) :=
  ⟨by decide, failing_feed_follows_text "\x7bint x\x7d" 3 "boom" (by decide)⟩

end BlockSyntax
