import BlockSyntax.Proofs.MaximalMunch
import BlockSyntax.Syntax.Cursor

/-! # Sources made of nested blocks

A source built by `T ::= '{' I {',' I} '}'`, with blanks around the braces, where an item `I` is a
block `T` again or a flat text with no `,`, `{` or `}`.  The types `Item` and `Items` build only
such sources: the blanks and the flat texts carry the proof of what they may hold.

The lexemes of such a source split at its delimiters (`lexemes_append_delim`): a `,`, `{` or `}`
is a lexeme of its own, and no lexeme runs across it.  So the kinds of its tokens are `{`, the
kinds of the items separated by `,`, and `}` (`Item.kinds_render`), and the lexemes of a flat text
are never a delimiter or the end (`lexemes_flat`).  `Item.flats` lists the flat items with the
index of their first token and the kind of the delimiter after them.
-/

namespace BlockSyntax

/-- The three characters that delimit items: `,`, `{` and `}`. -/
def isDelim (c : Char) : Prop :=
  c = ',' ∨ c = '{' ∨ c = '}'

/-- The kinds a flat text's lexemes have: none ends a statement or opens a block. -/
def Kind.Inner (k : Kind) : Prop :=
  k.endsStatement = false ∧ k ≠ .lbrace

namespace Lexeme

theorem takeWhile_append_of_neg {p : Char → Bool} {d : Char} (hd : p d = false)
    (xs ys : List Char) : (xs ++ d :: ys).takeWhile p = xs.takeWhile p := by
  induction xs with
  | nil => simp [hd]
  | cons x xs ih => by_cases hx : p x = true <;> simp [hx, ih]

theorem dropWhile_append_of_neg {p : Char → Bool} {d : Char} (hd : p d = false)
    (xs ys : List Char) : (xs ++ d :: ys).dropWhile p = xs.dropWhile p ++ d :: ys := by
  induction xs with
  | nil => simp [hd]
  | cons x xs ih => by_cases hx : p x = true <;> simp [hx, ih]

/-- A numeral ends before a character that is no digit and no `.`. -/
theorem numeral_append {d : Char} (hd : d.isDigit = false) (hdot : d ≠ '.') (cs b : List Char) :
    numeral (cs ++ d :: b) = ((numeral cs).1, (numeral cs).2.1, (numeral cs).2.2 ++ d :: b) := by
  unfold numeral
  rw [dropWhile_append_of_neg hd, takeWhile_append_of_neg hd]
  cases h : cs.dropWhile Char.isDigit with
  | nil => simp [hdot]
  | cons x r =>
    by_cases hx : x = '.'
    · subst hx
      simp [takeWhile_append_of_neg hd, dropWhile_append_of_neg hd]
    · simp [hx]

theorem numeral_rest_suffix (cs : List Char) : (numeral cs).2.2 <:+ cs := by
  have hd := List.dropWhile_suffix Char.isDigit (l := cs)
  unfold numeral
  split
  · next r h =>
    rw [h] at hd
    exact (List.dropWhile_suffix _).trans ((List.suffix_cons _ _).trans hd)
  · exact hd

/-- What is left after a lexeme is the end of the text. -/
theorem munch_rest_suffix (c : Char) (cs : List Char) : (munch c cs).2 <:+ cs := by
  unfold munch
  split
  · exact List.dropWhile_suffix _
  · split
    · exact numeral_rest_suffix cs
    · exact List.suffix_refl _

/-- A lexeme ends before a character that is no letter, no digit and no `.`. -/
theorem munch_append {c d : Char} (hl : Text.isLetter d = false) (hd : d.isDigit = false)
    (hdot : d ≠ '.') (cs b : List Char) :
    munch c (cs ++ d :: b) = ((munch c cs).1, (munch c cs).2 ++ d :: b) := by
  unfold munch
  split
  · rw [takeWhile_append_of_neg hl, dropWhile_append_of_neg hl]
  · split
    · rw [numeral_append hd hdot]
    · rfl

theorem wordKind_inner (w : List Char) : (wordKind w).Inner := by
  unfold wordKind
  split <;> exact ⟨rfl, by decide⟩

theorem numberKind_inner (whole : List Char) (frac : Option (List Char)) :
    (numberKind whole frac).Inner := by
  unfold numberKind fractionKind
  split
  · split
    · exact ⟨rfl, by decide⟩
    · split <;> exact ⟨rfl, by decide⟩
  · exact ⟨rfl, by decide⟩

/-- Whatever the lexeme, it is no delimiter unless its first character is one. -/
theorem munch_inner {c : Char} (hc : ¬ isDelim c) (cs : List Char) : (munch c cs).1.1.Inner := by
  unfold munch
  split
  · exact wordKind_inner _
  · split
    · exact numberKind_inner _ _
    · dsimp only
      unfold punctuation?
      split
      · exact absurd (.inl rfl) hc
      · exact ⟨rfl, by decide⟩
      · exact absurd (.inr (.inl rfl)) hc
      · exact absurd (.inr (.inr rfl)) hc
      all_goals exact ⟨rfl, by decide⟩

end Lexeme

open Lexeme

@[simp] theorem lexemes_nil : lexemes [] = [] := by
  rw [lexemes]

theorem lexemes_cons (c : Char) (cs : List Char) :
    lexemes (c :: cs) = if isBlank c then lexemes cs else (munch c cs).1 :: lexemes (munch c cs).2 := by
  rw [lexemes]

/-- Blanks have no lexemes. -/
theorem lexemes_blanks {u : List Char} (hu : ∀ c ∈ u, isBlank c = true) (b : List Char) :
    lexemes (u ++ b) = lexemes b := by
  induction u with
  | nil => rfl
  | cons c u ih =>
    rw [List.cons_append, lexemes_cons, if_pos (hu c List.mem_cons_self)]
    exact ih fun c' hc' => hu c' (List.mem_cons_of_mem _ hc')

theorem lexemes_of_blanks {u : List Char} (hu : ∀ c ∈ u, isBlank c = true) : lexemes u = [] := by
  simpa using lexemes_blanks hu []

/-- A delimiter is a lexeme of its own. -/
theorem lexemes_delim {d : Char} {k : Kind} (hk : punctuation? d = some k) (hd : isDelim d)
    (b : List Char) : lexemes (d :: b) = (k, String.singleton d) :: lexemes b := by
  rcases hd with rfl | rfl | rfl <;> cases hk <;> rw [lexemes_cons] <;> rfl

/-- **The lexemes split at a delimiter.**  No lexeme runs across a `,`, `{` or `}`. -/
theorem lexemes_append_delim {d : Char} (hd : isDelim d) (a b : List Char) :
    lexemes (a ++ d :: b) = lexemes a ++ lexemes (d :: b) := by
  have hb : isBlank d = false := by rcases hd with rfl | rfl | rfl <;> rfl
  have hl : Text.isLetter d = false := by rcases hd with rfl | rfl | rfl <;> rfl
  have hg : d.isDigit = false := by rcases hd with rfl | rfl | rfl <;> rfl
  have hdot : d ≠ '.' := by rcases hd with rfl | rfl | rfl <;> decide
  -- on `a`, as `lexemes` recurses: a lexeme that starts in `a` ends in `a`
  induction a using lexemes.induct with
  | case1 => rw [List.nil_append, lexemes_nil, List.nil_append]
  | case2 c cs hc ih =>
    rw [List.cons_append, lexemes_cons, lexemes_cons, if_pos hc, if_pos hc]
    exact ih
  | case3 c cs hc ih =>
    rw [List.cons_append, lexemes_cons, lexemes_cons, if_neg hc, if_neg hc,
      munch_append hl hg hdot, List.cons_append, ih]

/-- The lexemes of a text with no delimiter are neither a delimiter nor the end. -/
theorem lexemes_flat {cs : List Char} (h : ∀ c ∈ cs, ¬ isDelim c) :
    ∀ x ∈ lexemes cs, x.1.Inner := by
  induction cs using lexemes.induct with
  | case1 => simp
  | case2 c cs hc ih =>
    rw [lexemes_cons, if_pos hc]
    exact ih fun c' hc' => h c' (List.mem_cons_of_mem _ hc')
  | case3 c cs hc ih =>
    rw [lexemes_cons, if_neg hc]
    intro x hx
    rcases List.mem_cons.mp hx with rfl | hx
    · exact munch_inner (h c List.mem_cons_self) cs
    · exact ih (fun c' hc' => h c' (List.mem_cons_of_mem _ ((munch_rest_suffix c cs).subset hc'))) x hx

/-! ### Nested blocks -/

/-- Blanks, and nothing else. -/
structure Blanks where
  chars : List Char
  blank : ∀ c ∈ chars, isBlank c = true

/-- A text with no `,`, `{` or `}`. -/
structure FlatText where
  chars : List Char
  flat : ∀ c ∈ chars, ¬ isDelim c

mutual
/-- An item of a block: a flat text, or a block `'{' I {',' I} '}'` with blanks around it. -/
inductive Item where
  | flat (text : FlatText)
  | block (pre : Blanks) (items : Items) (post : Blanks)

/-- The items of a block, one or more, separated by commas. -/
inductive Items where
  | last (item : Item)
  | cons (item : Item) (rest : Items)
end

mutual
/-- The text of an item. -/
def Item.render : Item → List Char
  | .flat text => text.chars
  | .block pre items post => pre.chars ++ '{' :: (items.render ++ '}' :: post.chars)

/-- The text of the items of a block, with the commas between them. -/
def Items.render : Items → List Char
  | .last item => item.render
  | .cons item rest => item.render ++ ',' :: rest.render
end

mutual
/-- The kinds of the tokens of an item. -/
def Item.kinds : Item → List Kind
  | .flat text => (lexemes text.chars).map Prod.fst
  | .block _ items _ => .lbrace :: (items.kinds ++ [.rbrace])

/-- The kinds of the tokens of the items of a block, with the commas between them. -/
def Items.kinds : Items → List Kind
  | .last item => item.kinds
  | .cons item rest => item.kinds ++ .comma :: rest.kinds
end

/-- A flat item among the tokens of a source: the index of its first token, the kinds of its
tokens, and the kind of the `,` or `}` after it. -/
structure FlatItem where
  start : Nat
  kinds : List Kind
  close : Kind

mutual
/-- The flat items of an item whose first token has index `n` and that `close` follows, left to
right. -/
def Item.flats (n : Nat) (close : Kind) : Item → List FlatItem
  | .flat text => [⟨n, (lexemes text.chars).map Prod.fst, close⟩]
  | .block _ items _ => items.flats (n + 1)

/-- The flat items of the items of a block whose first token has index `n`, left to right. -/
def Items.flats (n : Nat) : Items → List FlatItem
  | .last item => item.flats n .rbrace
  | .cons item rest => item.flats n .comma ++ rest.flats (n + item.kinds.length + 1)
end

mutual
/-- **The tokens of nested blocks.**  The kinds of the lexemes of an item are `{`, the kinds of its
items with `,` between them, and `}`, down to the lexemes of its flat texts. -/
theorem Item.kinds_render : (item : Item) → (lexemes item.render).map Prod.fst = item.kinds
  | .flat _ => rfl
  | .block pre items post => by
    rw [Item.render, Item.kinds, lexemes_blanks pre.blank, lexemes_delim rfl (.inr (.inl rfl)),
      lexemes_append_delim (.inr (.inr rfl)), lexemes_delim rfl (.inr (.inr rfl)),
      lexemes_of_blanks post.blank, List.map_cons, List.map_append,
      Items.kinds_render items]
    rfl

theorem Items.kinds_render : (items : Items) → (lexemes items.render).map Prod.fst = items.kinds
  | .last item => Item.kinds_render item
  | .cons item rest => by
    rw [Items.render, Items.kinds, lexemes_append_delim (.inl rfl), lexemes_delim rfl (.inl rfl),
      List.map_append, List.map_cons, Item.kinds_render item, Items.kinds_render rest]
end

end BlockSyntax
