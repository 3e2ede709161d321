import BlockSyntax.Proofs.TextScan
import BlockSyntax.Text.Decimal

/-! # The scanner is the maximal-munch lexer

The lexical rules of the block language, stated without the scanner's modes: `lexemes` skips
blanks and reads one lexeme with `munch`, again and again.  A lexeme is

* a maximal run of letters: a type name if it is `int`, `char` or `float`, an identifier
  otherwise (`wordKind`);
* a maximal run of ASCII digits, with the `.` after it and the maximal run of digits after that,
  possibly empty, if a `.` follows (`numeral`): an integer if it has no `.`, a float if its
  fraction is not empty, each only if its whole part is `0` or does not start with `0`, and a
  malformed lexeme otherwise (`numberKind`);
* a punctuation character, or any other character as a malformed lexeme of its own.

`tokens_eq_lexemes` says that the scanner gives exactly these lexemes, with their kinds, and then
the end token.  The proof runs the machine mode by mode: each mode reads a run of one class of
characters (`lex_run`), and the numeral modes read a `numeral` (`lex_whole`, `lex_badWhole`).
-/
namespace BlockSyntax

/-- A digit is not a letter. -/
theorem Text.isLetter_eq_false_of_isDigit {c : Char} (h : c.isDigit = true) :
    Text.isLetter c = false := by
  have hlt := Text.toNat_lt_of_isDigit h
  simp only [Text.isLetter, hlt, if_true]
  delta Char.isAlpha Char.isUpper Char.isLower
  simp only [Bool.or_eq_false_iff, Bool.and_eq_false_iff, decide_eq_false_iff_not, UInt32.le_iff_toNat_le,
    ge_iff_le]
  simp only [Char.isDigit, Bool.and_eq_true, decide_eq_true_eq, UInt32.le_iff_toNat_le] at h
  have : c.toNat = c.val.toNat := rfl
  have : '0'.val.toNat = 48 := rfl
  have : '9'.val.toNat = 57 := rfl
  have : 'A'.val.toNat = 65 := rfl
  have : 'a'.val.toNat = 97 := rfl
  omega

namespace Lexeme

/-- The kind of a run of letters. -/
def wordKind (w : List Char) : Kind :=
  if String.ofList w ∈ typeNames then .type else .ident

/-- Whether the whole part of a number is well formed: `0`, or not starting with `0`. -/
def wholeOk (whole : List Char) : Bool :=
  whole == ['0'] || whole.head? != some '0'

/-- The kind of a number with a well-formed whole part: an integer without a `.`, a float with a
`.` and a fraction that is not empty, malformed with a `.` and no fraction. -/
def fractionKind : Option (List Char) → Kind
  | none => .int
  | some f => if f = [] then .error else .float

/-- The kind of a number with whole part `whole` and, if it has a `.`, the fraction `frac`. -/
def numberKind (whole : List Char) (frac : Option (List Char)) : Kind :=
  if wholeOk whole then fractionKind frac else .error

/-- The digits `cs` starts with; if a `.` follows them, the digits after the `.`; and what is
left. -/
def numeral (cs : List Char) : List Char × Option (List Char) × List Char :=
  match cs.dropWhile Char.isDigit with
  | '.' :: r =>
    (cs.takeWhile Char.isDigit, some (r.takeWhile Char.isDigit), r.dropWhile Char.isDigit)
  | r => (cs.takeWhile Char.isDigit, none, r)

/-- The characters of a fraction in a lexeme: the `.` and its digits, if there is one. -/
def dotted : Option (List Char) → List Char
  | none => []
  | some f => '.' :: f

/-- The lexeme that starts with the character `c`, not a blank, followed by `cs`: its kind and
text, and what is left after it. -/
def munch (c : Char) (cs : List Char) : (Kind × String) × List Char :=
  if Text.isLetter c then
    let w := c :: cs.takeWhile Text.isLetter
    ((wordKind w, String.ofList w), cs.dropWhile Text.isLetter)
  else if c.isDigit then
    let n := numeral cs
    ((numberKind (c :: n.1) n.2.1, String.ofList (c :: n.1 ++ dotted n.2.1)), n.2.2)
  else (((punctuation? c).getD .error, String.singleton c), cs)

theorem numeral_rest_length_le (cs : List Char) : (numeral cs).2.2.length ≤ cs.length := by
  have hd := (List.dropWhile_suffix Char.isDigit (l := cs)).length_le
  unfold numeral
  split
  · next r h =>
    have hr := (List.dropWhile_suffix Char.isDigit (l := r)).length_le
    rw [h, List.length_cons] at hd
    exact Nat.le_trans hr (Nat.le_of_succ_le hd)
  · next r _ => exact hd

theorem munch_rest_length_le (c : Char) (cs : List Char) : (munch c cs).2.length ≤ cs.length := by
  unfold munch
  split
  · exact (List.dropWhile_suffix _).length_le
  · split
    · exact numeral_rest_length_le cs
    · exact Nat.le_refl _

@[simp] theorem numeral_nil : numeral [] = ([], none, []) := rfl

theorem numeral_digit {d : Char} (hd : d.isDigit = true) (cs : List Char) :
    numeral (d :: cs) = (d :: (numeral cs).1, (numeral cs).2) := by
  unfold numeral
  rw [List.dropWhile_cons_of_pos hd, List.takeWhile_cons_of_pos hd]
  split <;> rfl

theorem numeral_dot (cs : List Char) :
    numeral ('.' :: cs) = ([], some (cs.takeWhile Char.isDigit), cs.dropWhile Char.isDigit) := rfl

theorem numeral_other {d : Char} (hd : d.isDigit = false) (hdot : d ≠ '.') (cs : List Char) :
    numeral (d :: cs) = ([], none, d :: cs) := by
  unfold numeral
  rw [List.dropWhile_cons_of_neg (by simp [hd]), List.takeWhile_cons_of_neg (by simp [hd])]
  split
  · next r h => exact absurd (List.cons.inj h).1 hdot
  · rfl

end Lexeme

open Lexeme in
/-- The lexemes of a text by the lexical rules, with their kinds: blanks are skipped, and each
lexeme is the longest the rules allow. -/
def lexemes : List Char → List (Kind × String)
  | [] => []
  | c :: cs => if isBlank c then lexemes cs else (munch c cs).1 :: lexemes (munch c cs).2
termination_by cs => cs.length
decreasing_by
  all_goals simp only [List.length_cons]
  · exact Nat.lt_succ_self _
  · exact Nat.lt_succ_of_le (munch_rest_length_le c cs)

open Lexeme

namespace Mode

/-- A mode that keeps the characters of one class and closes the lexeme at any other reads a
maximal run of the class, and closes the lexeme by its text. -/
theorem lex_run {m : Mode} {p : Char → Bool}
    (hm : ∀ c, m.onChar c = if p c then .keep m else .close)
    (text : String) (start pos : Position) (cs : List Char) :
    (m.lex text start pos cs).token.text.toList = text.toList ++ cs.takeWhile p ∧
      (m.lex text start pos cs).token.kind = m.closeKind (m.lex text start pos cs).token.text ∧
      (m.lex text start pos cs).rest = cs.dropWhile p := by
  induction cs generalizing text start pos with
  | nil => exact ⟨by simp [lex], rfl, rfl⟩
  | cons c cs ih =>
    by_cases hc : p c = true
    · rw [lex_keep (by rw [hm c, if_pos hc]), List.takeWhile_cons_of_pos hc,
        List.dropWhile_cons_of_pos hc]
      obtain ⟨htext, hkind, hrest⟩ := ih (text.push c) _ (pos.advance c)
      refine ⟨?_, hkind, hrest⟩
      rw [htext, String.toList_push, List.append_assoc, List.singleton_append]
    · rw [lex_close (by rw [hm c, if_neg hc]), List.takeWhile_cons_of_neg hc,
        List.dropWhile_cons_of_neg hc, List.append_nil]
      exact ⟨rfl, rfl, rfl⟩

/-- After the `.` of a number, the machine reads the fraction: a float if it has a digit, a
malformed lexeme if not. -/
theorem lex_point (text : String) (start pos : Position) (cs : List Char) :
    (point.lex text start pos cs).token.text.toList = text.toList ++ cs.takeWhile Char.isDigit ∧
      (point.lex text start pos cs).token.kind = fractionKind (some (cs.takeWhile Char.isDigit)) ∧
      (point.lex text start pos cs).rest = cs.dropWhile Char.isDigit := by
  cases cs with
  | nil => exact ⟨by simp [lex], rfl, rfl⟩
  | cons c cs =>
    by_cases hc : c.isDigit = true
    · rw [lex_keep (show point.onChar c = .keep fraction by simp [onChar, hc]),
        List.takeWhile_cons_of_pos hc,
        List.dropWhile_cons_of_pos hc]
      obtain ⟨htext, hkind, hrest⟩ :=
        lex_run (m := fraction) (p := Char.isDigit) (fun _ => rfl) (text.push c) _
          (pos.advance c) cs
      refine ⟨?_, by rw [hkind]; rfl, hrest⟩
      rw [htext, String.toList_push, List.append_assoc, List.singleton_append]
    · rw [lex_close (by simp [onChar, hc]), List.takeWhile_cons_of_neg hc,
        List.dropWhile_cons_of_neg hc, List.append_nil]
      exact ⟨rfl, rfl, rfl⟩

/-- In the digits of a number that starts with `0` and another digit, the machine reads the
rest of a numeral, as a malformed lexeme. -/
theorem lex_badWhole (text : String) (start pos : Position) (cs : List Char) :
    (badWhole.lex text start pos cs).token.text.toList =
        text.toList ++ (numeral cs).1 ++ dotted (numeral cs).2.1 ∧
      (badWhole.lex text start pos cs).token.kind = .error ∧
      (badWhole.lex text start pos cs).rest = (numeral cs).2.2 := by
  induction cs generalizing text start pos with
  | nil => exact ⟨by simp [lex, dotted], rfl, rfl⟩
  | cons c cs ih =>
    by_cases hc : c.isDigit = true
    · rw [lex_keep (show badWhole.onChar c = .keep badWhole by simp [onChar, hc]),
        numeral_digit hc]
      obtain ⟨htext, hkind, hrest⟩ := ih (text.push c) _ (pos.advance c)
      refine ⟨?_, hkind, hrest⟩
      rw [htext]
      simp [String.toList_push]
    · by_cases hdot : c = '.'
      · subst hdot
        rw [lex_keep (show badWhole.onChar '.' = .keep badFraction by simp [onChar, hc]),
          numeral_dot]
        obtain ⟨htext, hkind, hrest⟩ := lex_run (m := badFraction) (p := Char.isDigit)
          (fun _ => rfl) (text.push '.') _ (pos.advance '.') cs
        refine ⟨?_, hkind, hrest⟩
        rw [htext, String.toList_push]
        simp [dotted]
      · rw [lex_close (by simp [onChar, hc, hdot]), numeral_other (Bool.eq_false_iff.mpr hc) hdot]
        exact ⟨by simp [dotted], rfl, rfl⟩

/-- In the digits of an integer, the machine reads the rest of a numeral, an integer or a float
by its fraction. -/
theorem lex_whole (text : String) (start pos : Position) (cs : List Char) :
    (whole.lex text start pos cs).token.text.toList =
        text.toList ++ (numeral cs).1 ++ dotted (numeral cs).2.1 ∧
      (whole.lex text start pos cs).token.kind = fractionKind (numeral cs).2.1 ∧
      (whole.lex text start pos cs).rest = (numeral cs).2.2 := by
  induction cs generalizing text start pos with
  | nil => exact ⟨by simp [lex, dotted], rfl, rfl⟩
  | cons c cs ih =>
    by_cases hc : c.isDigit = true
    · rw [lex_keep (show whole.onChar c = .keep whole by simp [onChar, hc]), numeral_digit hc]
      obtain ⟨htext, hkind, hrest⟩ := ih (text.push c) _ (pos.advance c)
      refine ⟨?_, hkind, hrest⟩
      rw [htext]
      simp [String.toList_push]
    · by_cases hdot : c = '.'
      · subst hdot
        rw [lex_keep (show whole.onChar '.' = .keep point by simp [onChar, hc]), numeral_dot]
        obtain ⟨htext, hkind, hrest⟩ := lex_point (text.push '.') _ (pos.advance '.') cs
        refine ⟨?_, hkind, hrest⟩
        rw [htext, String.toList_push]
        simp [dotted]
      · rw [lex_close (by simp [onChar, hc, hdot]), numeral_other (Bool.eq_false_iff.mpr hc) hdot]
        exact ⟨by simp [dotted], rfl, rfl⟩

/-- After a lone `0`, the machine reads the rest of a numeral: malformed if a digit follows, an
integer or a float by its fraction if not. -/
theorem lex_zero (text : String) (start pos : Position) (cs : List Char) :
    (zero.lex text start pos cs).token.text.toList =
        text.toList ++ (numeral cs).1 ++ dotted (numeral cs).2.1 ∧
      (zero.lex text start pos cs).token.kind =
        (if (numeral cs).1 = [] then fractionKind (numeral cs).2.1 else .error) ∧
      (zero.lex text start pos cs).rest = (numeral cs).2.2 := by
  cases cs with
  | nil => exact ⟨by simp [lex, dotted], rfl, rfl⟩
  | cons c cs =>
    by_cases hc : c.isDigit = true
    · rw [lex_keep (show zero.onChar c = .keep badWhole by simp [onChar, hc]), numeral_digit hc]
      obtain ⟨htext, hkind, hrest⟩ := lex_badWhole (text.push c) _ (pos.advance c) cs
      refine ⟨?_, by rw [hkind]; rfl, hrest⟩
      rw [htext]
      simp [String.toList_push]
    · by_cases hdot : c = '.'
      · subst hdot
        rw [lex_keep (show zero.onChar '.' = .keep point by simp [onChar, hc]), numeral_dot]
        obtain ⟨htext, hkind, hrest⟩ := lex_point (text.push '.') _ (pos.advance '.') cs
        refine ⟨?_, hkind, hrest⟩
        rw [htext, String.toList_push]
        simp [dotted]
      · rw [lex_close (by simp [onChar, hc, hdot]), numeral_other (Bool.eq_false_iff.mpr hc) hdot]
        exact ⟨by simp [dotted], rfl, rfl⟩

/-- **One run from the start mode reads one lexeme.**  From a character that is not a blank,
the machine reads the lexeme that `munch` gives, with its kind, and leaves what `munch`
leaves. -/
theorem lex_start_munch {c : Char} (hc : isBlank c = false) (begun pos : Position)
    (cs : List Char) :
    ((start.lex "" begun pos (c :: cs)).token.kind, (start.lex "" begun pos (c :: cs)).token.text) =
        (munch c cs).1 ∧
      (start.lex "" begun pos (c :: cs)).rest = (munch c cs).2 := by
  unfold munch
  by_cases hl : Text.isLetter c = true
  · have hd : c.isDigit = false := by
      cases hd : c.isDigit
      · rfl
      · rw [Text.isLetter_eq_false_of_isDigit hd] at hl; cases hl
    have h0 : c ≠ '0' := by rintro rfl; cases hd
    rw [if_pos hl, lex_keep (show start.onChar c = .keep word by simp [onChar, hc, h0, hd, hl])]
    obtain ⟨htext, hkind, hrest⟩ :=
      lex_run (m := word) (p := Text.isLetter) (fun _ => rfl) ("".push c) _ (pos.advance c) cs
    have ht :
        (word.lex ("".push c) (if start = start then pos else begun) (pos.advance c)
          cs).token.text =
          String.ofList (c :: cs.takeWhile Text.isLetter) := by
      rw [← String.toList_inj, htext, String.toList_ofList]
      simp
    refine ⟨?_, hrest⟩
    rw [hkind, ht]
    rfl
  · rw [if_neg hl]
    by_cases hd : c.isDigit = true
    · rw [if_pos hd]
      by_cases h0 : c = '0'
      · subst h0
        rw [lex_keep (show start.onChar '0' = .keep zero by simp [onChar, hc])]
        obtain ⟨htext, hkind, hrest⟩ := lex_zero ("".push '0') _ (pos.advance '0') cs
        refine ⟨?_, hrest⟩
        rw [hkind, ← String.ofList_toList (s := (zero.lex _ _ _ cs).token.text), htext]
        congr 1
        cases (numeral cs).1 <;> rfl
      · rw [lex_keep (show start.onChar c = .keep whole by simp [onChar, hc, h0, hd])]
        obtain ⟨htext, hkind, hrest⟩ := lex_whole ("".push c) _ (pos.advance c) cs
        refine ⟨?_, hrest⟩
        rw [hkind, ← String.ofList_toList (s := (whole.lex _ _ _ cs).token.text), htext]
        congr 1
        · simp [numberKind, wholeOk, h0]
        · simp
    · have h0 : c ≠ '0' := by rintro rfl; exact hd rfl
      rw [if_neg hd,
        lex_single (k := (punctuation? c).getD .error) (by simp [onChar, hc, hl, hd, h0])]
      exact ⟨rfl, rfl⟩

end Mode

/-- A blank before the next lexeme changes nothing but the positions. -/
theorem lexAll_blank {c : Char} (hc : isBlank c = true) (pos : Position) (cs : List Char) :
    lexAll pos (c :: cs) = lexAll (pos.advance c) cs := by
  rw [lexAll_eq, lexAll_eq (pos.advance c), Mode.lex_skip (by simp [Mode.onChar, hc]),
    if_pos rfl, Mode.lex_start_congr "" pos (pos.advance c)]

/-- The machine run to the end token reads the lexemes of the rules, then the end token. -/
theorem lexAll_lexemes (pos : Position) (cs : List Char) :
    (lexAll pos cs).map (fun t => (t.kind, t.text)) = lexemes cs ++ [(.eof, "")] := by
  -- on the length of the text: each lexeme leaves a shorter rest
  generalize hn : cs.length = n
  induction n using Nat.strongRecOn generalizing pos cs with
  | ind n ih =>
    cases cs with
    | nil => rw [lexAll_eq, lexemes]; rfl
    | cons c cs =>
      cases hc : isBlank c
      · obtain ⟨hlex, hrest⟩ := Mode.lex_start_munch hc pos pos cs
        have hk : (Mode.start.lex "" pos pos (c :: cs)).token.kind ≠ .eof := by
          intro hk
          obtain ⟨b, u, hcs, hb, -, -, -, -, heof, hrest⟩ := Mode.lex_start_split pos pos (c :: cs)
          rw [heof.mp hk, hrest hk, List.append_nil, List.append_nil] at hcs
          rw [← hcs] at hb
          rw [hb c List.mem_cons_self] at hc
          cases hc
        have hlt : (munch c cs).2.length < n := by
          rw [← hn]; exact Nat.lt_succ_of_le (munch_rest_length_le c cs)
        rw [lexAll_eq, if_neg hk, List.map_cons, hrest, ih _ hlt _ _ rfl, hlex, lexemes,
          if_neg (by simp [hc])]
        rfl
      · rw [lexAll_blank hc, lexemes, if_pos hc]
        exact ih cs.length (by rw [← hn]; exact Nat.lt_succ_self _) _ _ rfl

/-- **The scanner is the maximal-munch lexer.**  The kinds and texts of the tokens of a text are
its lexemes by the lexical rules, followed by the end token alone. -/
theorem tokens_eq_lexemes (s : String) :
    (Reader.ofFeed (Feed.ofString s)).tape.tokens.map (fun t => (t.kind, t.text)) =
      lexemes s.toList ++ [(.eof, "")] := by
  rw [tokens_ofString]
  exact lexAll_lexemes .start s.toList

end BlockSyntax
