import BlockSyntax.Proofs.TextScan
import Mathlib.Data.List.Induction

/-! # Where the tokens of a text lie

Each token of a text is cut out of the text at an offset: its lexeme is the text's characters
from there on, the offsets grow from token to token, the lexemes do not overlap, and whatever
lies between them is blank.  The end token sits at the end of the text.  A token's position is
the line and column of its offset, `lineCol`: one more than the number of line feeds before it,
and one more than the number of characters after the last of them, so a tab or a carriage
return is one column.

`Placed s k toks offs` says this of the tokens `toks` at offsets `offs`, for the part of the text
`s` from offset `k` on.  One run of the machine adds one token in front (`Placed.cons`), and
`lexAll_placed` builds the whole list run by run; `tokens_placed` is the statement for the
scanner on a text.
-/
namespace BlockSyntax

/-- The line and column of offset `o` in the text `s`. -/
def lineCol (s : List Char) (o : Nat) : Position :=
  ⟨1 + (s.take o).count '\n', 1 + ((s.take o).reverse.takeWhile (· != '\n')).length⟩

theorem Position.advanceAll_append (p : Position) (a b : List Char) :
    p.advanceAll (a ++ b) = (p.advanceAll a).advanceAll b :=
  List.foldl_append

/-- Reading a text from its start reaches the line and column of its end. -/
theorem advanceAll_start (cs : List Char) : Position.start.advanceAll cs = lineCol cs cs.length := by
  rw [lineCol, List.take_length]
  induction cs using List.reverseRecOn with
  | nil => rfl
  | append_singleton cs c ih =>
    rw [Position.advanceAll_append, ih, Position.advanceAll_cons, Position.advanceAll_nil,
      Position.advance, List.count_append, List.reverse_append, List.reverse_singleton,
      List.singleton_append]
    by_cases hc : c = '\n'
    · subst hc; simp [Nat.add_assoc]
    · simp only [hc, if_false]
      simp [hc, Nat.add_assoc]

/-- The position after a prefix of a text is the line and column of the prefix's end. -/
theorem advanceAll_start_prefix (pre rest : List Char) :
    Position.start.advanceAll pre = lineCol (pre ++ rest) pre.length := by
  rw [advanceAll_start, lineCol, lineCol, List.take_length, List.take_left']
  rfl

/-- The tokens `toks` lie at the offsets `offs` in the part of the text `s` from offset `k`
on. -/
structure Placed (s : List Char) (k : Nat) (toks : List Token) (offs : List Nat) : Prop where
  length_eq : offs.length = toks.length
  /-- No token starts before `k`. -/
  from_k : ∀ o ∈ offs, k ≤ o
  /-- The offsets grow strictly. -/
  increasing : offs.Pairwise (· < ·)
  /-- The last token, the end token, sits at the end of the text. -/
  last : offs.getLast? = some s.length
  /-- A token's lexeme is the text at its offset. -/
  lexeme : ∀ p ∈ toks.zip offs, p.1.text.toList = (s.drop p.2).take p.1.text.length
  /-- A token's position is the line and column of its offset. -/
  start : ∀ p ∈ toks.zip offs, p.1.start = lineCol s p.2
  /-- A lexeme ends before the next one starts. -/
  disjoint : (toks.zip offs).Pairwise fun p q => p.2 + p.1.text.length ≤ q.2
  /-- Every character from `k` on that lies in no lexeme is a blank. -/
  blank : ∀ i (hi : i < s.length), k ≤ i →
    (∀ p ∈ toks.zip offs, ¬ (p.2 ≤ i ∧ i < p.2 + p.1.text.length)) → isBlank s[i] = true
  /-- The lexemes, one after another, are the text from `k` on without its blanks. -/
  lexemes : (toks.map fun t => t.text.toList).flatten = (s.drop k).filter fun c => !isBlank c

namespace Placed

/-- The end token alone, at the end of a text whose part from `pre` on is blank. -/
theorem eof {pre b : List Char} {t : Token} (hb : ∀ c ∈ b, isBlank c = true) (htext : t.text = "")
    (hstart : t.start = lineCol (pre ++ b) (pre ++ b).length) :
    Placed (pre ++ b) pre.length [t] [(pre ++ b).length] where
  length_eq := rfl
  from_k o ho := by
    rw [List.mem_singleton] at ho
    rw [ho, List.length_append]
    exact Nat.le_add_right _ _
  increasing := List.pairwise_singleton _ _
  last := rfl
  lexeme p hp := by
    rw [List.zip_cons_cons, List.zip_nil_left, List.mem_singleton] at hp
    subst hp
    simp [htext]
  start p hp := by
    rw [List.zip_cons_cons, List.zip_nil_left, List.mem_singleton] at hp
    subst hp
    exact hstart
  disjoint := List.pairwise_singleton _ _
  blank i hi hk _ := by
    rw [List.getElem_append_right hk]
    exact hb _ (List.getElem_mem _)
  lexemes := by
    rw [List.drop_left, List.filter_eq_nil_iff.mpr (fun c hc => by simp [hb c hc])]
    simp [htext]

/-- One more token in front: its lexeme `u` follows blanks `b` that follow the part `pre`
before it, and the tokens after it are placed from where it ends. -/
theorem cons {pre b u rest : List Char} {t : Token} {toks : List Token} {offs : List Nat}
    (h : Placed (pre ++ b ++ u ++ rest) (pre ++ b ++ u).length toks offs)
    (hb : ∀ c ∈ b, isBlank c = true) (hu : ∀ c ∈ u, isBlank c = false) (hne : u ≠ [])
    (htext : t.text.toList = u)
    (hstart : t.start = lineCol (pre ++ b ++ u ++ rest) (pre ++ b).length) :
    Placed (pre ++ b ++ u ++ rest) pre.length (t :: toks) ((pre ++ b).length :: offs) := by
  have hlen : t.text.length = u.length := by rw [← String.length_toList, htext]
  have hupos : 0 < u.length := List.length_pos_iff.mpr hne
  -- every later offset lies at or after the end of the new lexeme
  have hafter : ∀ o ∈ offs, (pre ++ b).length + t.text.length ≤ o := by
    intro o ho
    have := h.from_k o ho
    rw [List.length_append] at this
    rw [hlen]; exact this
  refine ⟨by simp [h.length_eq], ?_, ?_, ?_, ?_, ?_, ?_, ?_, ?_⟩
  · intro o ho
    rcases List.mem_cons.mp ho with rfl | ho
    · simp
    · have := hafter o ho; simp only [List.length_append] at this ⊢; omega
  · refine List.pairwise_cons.mpr ⟨fun o ho => ?_, h.increasing⟩
    have := hafter o ho; omega
  · have hne' : offs ≠ [] := by
      intro h0; have := h.last; rw [h0] at this; cases this
    rw [List.getLast?_cons, h.last]
    cases offs with
    | nil => exact absurd rfl hne'
    | cons o os => rfl
  · intro p hp
    rw [List.zip_cons_cons] at hp
    rcases List.mem_cons.mp hp with rfl | hp
    · rw [htext, hlen, List.append_assoc _ u, List.drop_left, List.take_left]
    · exact h.lexeme p hp
  · intro p hp
    rw [List.zip_cons_cons] at hp
    rcases List.mem_cons.mp hp with rfl | hp
    · exact hstart
    · exact h.start p hp
  · rw [List.zip_cons_cons]
    refine List.pairwise_cons.mpr ⟨fun q hq => hafter q.2 (List.of_mem_zip hq).2, h.disjoint⟩
  · intro i hi hk hout
    by_cases hib : i < (pre ++ b).length
    · have h1 : i < (pre ++ b ++ u).length := by simp only [List.length_append] at hib ⊢; omega
      have h2 : pre.length ≤ i := hk
      rw [List.getElem_append_left h1, List.getElem_append_left hib, List.getElem_append_right h2]
      exact hb _ (List.getElem_mem _)
    · by_cases hiu : i < (pre ++ b ++ u).length
      · refine absurd ⟨Nat.le_of_not_lt hib, ?_⟩
          (hout ⟨t, (pre ++ b).length⟩ (by rw [List.zip_cons_cons]; exact List.mem_cons_self))
        rw [hlen]; simp only [List.length_append] at hiu ⊢; omega
      · exact h.blank i hi (Nat.le_of_not_lt hiu)
          (fun p hp => hout p (by rw [List.zip_cons_cons]; exact List.mem_cons_of_mem _ hp))
  · have hbf : b.filter (fun c => !isBlank c) = [] :=
      List.filter_eq_nil_iff.mpr fun c hc => by simp [hb c hc]
    have huf : u.filter (fun c => !isBlank c) = u :=
      List.filter_eq_self.mpr fun c hc => by simp [hu c hc]
    rw [List.map_cons, List.flatten_cons, h.lexemes, htext, List.drop_left, List.append_assoc,
      List.append_assoc, List.drop_left, List.filter_append, List.filter_append, hbf, huf,
      List.nil_append]

end Placed

/-- **Run by run, the machine places its tokens.**  The tokens that the machine reads from `cs`,
after the part `pre` of the text, lie at offsets in the part of `pre ++ cs` after `pre`. -/
theorem lexAll_placed (pre cs : List Char) :
    ∃ offs, Placed (pre ++ cs) pre.length (lexAll (Position.start.advanceAll pre) cs) offs := by
  -- on the length of what is left; each token but the end token takes a character
  generalize hn : cs.length = n
  induction n using Nat.strongRecOn generalizing pre cs with
  | ind n ih =>
    let pos := Position.start.advanceAll pre
    obtain ⟨b, u, hcs, hb, htext, hstart, hpos, hu, heof, hrest⟩ :=
      Mode.lex_start_split pos pos cs
    have hstart' : (Mode.start.lex "" pos pos cs).token.start =
        lineCol (pre ++ cs) (pre ++ b).length := by
      rw [hstart, ← Position.advanceAll_append, hcs, ← List.append_assoc, ← List.append_assoc,
        List.append_assoc (pre ++ b), advanceAll_start_prefix]
    rw [lexAll_eq]
    by_cases hk : (Mode.start.lex "" pos pos cs).token.kind = .eof
    · have hu0 := heof.mp hk
      rw [if_pos hk]
      rw [hu0, hrest hk, List.append_nil, List.append_nil] at hcs
      subst hcs
      refine ⟨_, Placed.eof hb ?_ hstart'⟩
      rw [← String.toList_inj, htext, hu0]; rfl
    · rw [if_neg hk]
      have hne : u ≠ [] := fun h0 => hk (heof.mpr h0)
      have hlt : (Mode.start.lex "" pos pos cs).rest.length < n := by
        rw [← hn]; exact Mode.lex_start_rest_lt hk
      have hpos' : (Mode.start.lex "" pos pos cs).pos = Position.start.advanceAll (pre ++ b ++ u) := by
        rw [hpos, Position.advanceAll_append, Position.advanceAll_append, Position.advanceAll_append]
      obtain ⟨offs, hplaced⟩ := ih _ hlt (pre ++ b ++ u) _ rfl
      rw [← hpos'] at hplaced
      have hs : pre ++ cs = pre ++ b ++ u ++ (Mode.start.lex "" pos pos cs).rest := by
        conv_lhs => rw [hcs]
        simp only [List.append_assoc]
      rw [hs] at hstart' ⊢
      exact ⟨_, Placed.cons hplaced hb hu hne htext hstart'⟩

/-- **Where the tokens of a text lie.**  There are offsets at which the tokens of a text are cut
out of it: they grow strictly and end at the length of the text; each token's lexeme is the text
at its offset, and its position is the line and column of the offset; the lexemes do not overlap,
every character outside them is a blank, and together they are the text without its blanks. -/
theorem tokens_placed (s : String) :
    ∃ offs, Placed s.toList 0 (Reader.ofFeed (Feed.ofString s)).tape.tokens offs := by
  rw [tokens_ofString]
  exact lexAll_placed [] s.toList

end BlockSyntax
