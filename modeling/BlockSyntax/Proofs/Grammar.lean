import BlockSyntax.Token.Basic

/-! # The grammar of the block language

    Program     ::= Block
    Block       ::= '{' StmtList '}'
    StmtList    ::= Stmt { ',' Stmt }
    Stmt        ::= TYPE IDENT | IDENT '=' Exp | Block
    Exp         ::= Term { ('+' | '-') Term }
    Term        ::= Factor { ('*' | '/' | '%') Factor }
    Factor      ::= INT | FLOAT | IDENT | '(' Exp ')'

`Derives sym w z` says that the token kinds `w` begin with a phrase of `sym` and that `z` is what
follows it; each repetition `{ … }` is a symbol of its own.  Writing the rest instead of the phrase
chains the rules without appends, and `Derives.split` recovers the phrase.  A sentence is a program
followed by the end token.

`Symbol.Closes sym k` lists the kinds that end a phrase of `sym` for good: the kinds that cannot
extend it, and for statements the kinds a statement must be followed by.  With respect to them the
grammar is LL(1): the tokens determine where a phrase ends (`Derives.rest_unique`).  A list of kinds
is viable for a symbol when it begins a phrase so closed (`Symbol.Viable`).
-/

namespace BlockSyntax

/-- The nonterminals of the grammar, with one symbol for each repetition. -/
inductive Symbol where
  | block
  | stmtList
  /-- The repetition `{ ',' Stmt }`. -/
  | moreStmts
  | stmt
  | exp
  /-- The repetition `{ ('+' | '-') Term }`. -/
  | moreTerms
  | term
  /-- The repetition `{ ('*' | '/' | '%') Factor }`. -/
  | moreFactors
  | factor
  deriving DecidableEq, Repr

/-- `Derives sym w z`: the kinds `w` are a phrase of `sym` followed by `z`. -/
inductive Derives : Symbol → List Kind → List Kind → Prop where
  | block {w z} (list : Derives .stmtList w (.rbrace :: z)) : Derives .block (.lbrace :: w) z
  | stmtList {w v z} (first : Derives .stmt w v) (rest : Derives .moreStmts v z) :
      Derives .stmtList w z
  | moreStmts_nil {w} : Derives .moreStmts w w
  | moreStmts_cons {w v z} (next : Derives .stmt w v) (rest : Derives .moreStmts v z) :
      Derives .moreStmts (.comma :: w) z
  | declaration {w} : Derives .stmt (.type :: .ident :: w) w
  | assignment {w z} (value : Derives .exp w z) : Derives .stmt (.ident :: .assign :: w) z
  | nested {w z} (inner : Derives .block w z) : Derives .stmt w z
  | exp {w v z} (first : Derives .term w v) (rest : Derives .moreTerms v z) : Derives .exp w z
  | moreTerms_nil {w} : Derives .moreTerms w w
  | moreTerms_cons {k w v z} (op : k = .add ∨ k = .sub) (next : Derives .term w v)
      (rest : Derives .moreTerms v z) : Derives .moreTerms (k :: w) z
  | term {w v z} (first : Derives .factor w v) (rest : Derives .moreFactors v z) :
      Derives .term w z
  | moreFactors_nil {w} : Derives .moreFactors w w
  | moreFactors_cons {k w v z} (op : k = .mul ∨ k = .div ∨ k = .mod) (next : Derives .factor w v)
      (rest : Derives .moreFactors v z) : Derives .moreFactors (k :: w) z
  | int {w} : Derives .factor (.int :: w) w
  | float {w} : Derives .factor (.float :: w) w
  | ident {w} : Derives .factor (.ident :: w) w
  | paren {w z} (inner : Derives .exp w (.rparen :: z)) : Derives .factor (.lparen :: w) z

/-- A sentence of `Program EOF`: a block followed by the end token alone. -/
def Sentence (ks : List Kind) : Prop :=
  Derives .block ks [.eof]

namespace Symbol

/-- The kinds that end a phrase of `sym` for good.  After an expression, a term or one of their
repetitions these are the kinds that cannot extend it; a statement, and so a statement list, must
also be followed by a `,`, a `}` or the end of input. -/
def Closes : Symbol → Kind → Prop
  | block, _ | factor, _ => True
  | stmtList, k | moreStmts, k => k = .rbrace ∨ k = .eof
  | stmt, k => k = .comma ∨ k = .rbrace ∨ k = .eof
  | exp, k | moreTerms, k => k ≠ .add ∧ k ≠ .sub ∧ k ≠ .mul ∧ k ≠ .div ∧ k ≠ .mod
  | term, k | moreFactors, k => k ≠ .mul ∧ k ≠ .div ∧ k ≠ .mod

/-- The kinds `z` close a phrase of `sym`: they begin with a kind that does. -/
def ClosedBy (sym : Symbol) : List Kind → Prop
  | [] => False
  | k :: _ => sym.Closes k

@[simp] theorem closedBy_nil (sym : Symbol) : ¬ sym.ClosedBy [] := id

@[simp] theorem closedBy_cons (sym : Symbol) (k : Kind) (z : List Kind) :
    sym.ClosedBy (k :: z) ↔ sym.Closes k := Iff.rfl

/-- `p` can be completed to a phrase of `sym`. -/
def Begins (sym : Symbol) (p : List Kind) : Prop :=
  ∃ r, Derives sym (p ++ r) []

/-- `p` begins a phrase of `sym` that is closed by what follows it. -/
def Viable (sym : Symbol) (p : List Kind) : Prop :=
  ∃ r z, sym.ClosedBy z ∧ Derives sym (p ++ r) z

theorem Viable.of_append {sym : Symbol} {p q : List Kind} (h : sym.Viable (p ++ q)) :
    sym.Viable p := by
  obtain ⟨r, z, hz, hd⟩ := h
  exact ⟨q ++ r, z, hz, by rwa [← List.append_assoc]⟩

end Symbol

namespace Derives

/-- A derivation consumes a phrase `u` from the front, and `u` is a phrase whatever follows it. -/
theorem split {sym : Symbol} {w z : List Kind} (h : Derives sym w z) :
    ∃ u, w = u ++ z ∧ ∀ z', Derives sym (u ++ z') z' := by
  induction h with
  | block _ ih =>
    obtain ⟨u, rfl, hu⟩ := ih
    refine ⟨.lbrace :: (u ++ [.rbrace]), by simp, fun z' => ?_⟩
    simpa using Derives.block (hu (.rbrace :: z'))
  | stmtList _ _ ih₁ ih₂ =>
    obtain ⟨u₁, rfl, hu₁⟩ := ih₁
    obtain ⟨u₂, rfl, hu₂⟩ := ih₂
    refine ⟨u₁ ++ u₂, by simp, fun z' => ?_⟩
    simpa using Derives.stmtList (hu₁ (u₂ ++ z')) (hu₂ z')
  | moreStmts_nil => exact ⟨[], rfl, fun _ => .moreStmts_nil⟩
  | moreStmts_cons _ _ ih₁ ih₂ =>
    obtain ⟨u₁, rfl, hu₁⟩ := ih₁
    obtain ⟨u₂, rfl, hu₂⟩ := ih₂
    refine ⟨.comma :: (u₁ ++ u₂), by simp, fun z' => ?_⟩
    simpa using Derives.moreStmts_cons (hu₁ (u₂ ++ z')) (hu₂ z')
  | declaration => exact ⟨[.type, .ident], rfl, fun _ => .declaration⟩
  | assignment _ ih =>
    obtain ⟨u, rfl, hu⟩ := ih
    exact ⟨.ident :: .assign :: u, rfl, fun z' => .assignment (hu z')⟩
  | nested _ ih =>
    obtain ⟨u, rfl, hu⟩ := ih
    exact ⟨u, rfl, fun z' => .nested (hu z')⟩
  | exp _ _ ih₁ ih₂ =>
    obtain ⟨u₁, rfl, hu₁⟩ := ih₁
    obtain ⟨u₂, rfl, hu₂⟩ := ih₂
    refine ⟨u₁ ++ u₂, by simp, fun z' => ?_⟩
    simpa using Derives.exp (hu₁ (u₂ ++ z')) (hu₂ z')
  | moreTerms_nil => exact ⟨[], rfl, fun _ => .moreTerms_nil⟩
  | @moreTerms_cons k _ _ _ hk _ _ ih₁ ih₂ =>
    obtain ⟨u₁, rfl, hu₁⟩ := ih₁
    obtain ⟨u₂, rfl, hu₂⟩ := ih₂
    refine ⟨k :: (u₁ ++ u₂), by simp, fun z' => ?_⟩
    simpa using Derives.moreTerms_cons hk (hu₁ (u₂ ++ z')) (hu₂ z')
  | term _ _ ih₁ ih₂ =>
    obtain ⟨u₁, rfl, hu₁⟩ := ih₁
    obtain ⟨u₂, rfl, hu₂⟩ := ih₂
    refine ⟨u₁ ++ u₂, by simp, fun z' => ?_⟩
    simpa using Derives.term (hu₁ (u₂ ++ z')) (hu₂ z')
  | moreFactors_nil => exact ⟨[], rfl, fun _ => .moreFactors_nil⟩
  | @moreFactors_cons k _ _ _ hk _ _ ih₁ ih₂ =>
    obtain ⟨u₁, rfl, hu₁⟩ := ih₁
    obtain ⟨u₂, rfl, hu₂⟩ := ih₂
    refine ⟨k :: (u₁ ++ u₂), by simp, fun z' => ?_⟩
    simpa using Derives.moreFactors_cons hk (hu₁ (u₂ ++ z')) (hu₂ z')
  | int => exact ⟨[.int], rfl, fun _ => .int⟩
  | float => exact ⟨[.float], rfl, fun _ => .float⟩
  | ident => exact ⟨[.ident], rfl, fun _ => .ident⟩
  | paren _ ih =>
    obtain ⟨u, hw, hu⟩ := ih
    refine ⟨.lparen :: (u ++ [.rparen]), by simp [hw], fun z' => ?_⟩
    simpa using Derives.paren (hu (.rparen :: z'))

/-- A phrase stays a phrase whatever follows it. -/
theorem shift {sym : Symbol} {u z : List Kind} (h : Derives sym (u ++ z) z) (z' : List Kind) :
    Derives sym (u ++ z') z' := by
  obtain ⟨u', hu, h'⟩ := h.split
  rw [List.append_cancel_right hu]
  exact h' z'

/-- What follows a phrase is a suffix of the tokens. -/
theorem suffix {sym : Symbol} {w z : List Kind} (h : Derives sym w z) : z <:+ w := by
  obtain ⟨u, rfl, -⟩ := h.split
  exact List.suffix_append u z

/-! ### What closes the parts of a phrase -/

theorem closedBy_block {sym : Symbol} {z : List Kind} (h : sym.ClosedBy z) :
    Symbol.block.ClosedBy z := by
  cases z with
  | nil => exact absurd h (Symbol.closedBy_nil sym)
  | cons k z => trivial

theorem closedBy_exp {z : List Kind} (h : Symbol.stmt.ClosedBy z) : Symbol.exp.ClosedBy z := by
  cases z with
  | nil => exact absurd h (Symbol.closedBy_nil _)
  | cons k z =>
    simp only [Symbol.closedBy_cons, Symbol.Closes] at h ⊢
    rcases h with rfl | rfl | rfl <;> simp

/-- A statement before a repetition `{ ',' Stmt }` is closed by its first token. -/
theorem closedBy_stmt {v z : List Kind} (h : Derives .moreStmts v z)
    (hz : Symbol.moreStmts.ClosedBy z) : Symbol.stmt.ClosedBy v := by
  cases h with
  | moreStmts_nil =>
    cases v with
    | nil => exact absurd hz (Symbol.closedBy_nil _)
    | cons k v =>
      simp only [Symbol.closedBy_cons, Symbol.Closes] at hz ⊢
      exact Or.inr hz
  | moreStmts_cons => simp [Symbol.Closes]

/-- A term before a repetition `{ ('+' | '-') Term }` is closed by its first token. -/
theorem closedBy_term {v z : List Kind} (h : Derives .moreTerms v z)
    (hz : Symbol.moreTerms.ClosedBy z) : Symbol.term.ClosedBy v := by
  cases h with
  | moreTerms_nil =>
    cases v with
    | nil => exact absurd hz (Symbol.closedBy_nil _)
    | cons k v =>
      simp only [Symbol.closedBy_cons, Symbol.Closes] at hz ⊢
      exact hz.2.2
  | moreTerms_cons op => rcases op with rfl | rfl <;> simp [Symbol.Closes]

/-- A factor before a repetition `{ ('*' | '/' | '%') Factor }` is closed by its first token. -/
theorem closedBy_factor {v z : List Kind} (h : Derives .moreFactors v z)
    (hz : Symbol.moreFactors.ClosedBy z) : Symbol.factor.ClosedBy v := by
  cases h with
  | moreFactors_nil => exact closedBy_block hz
  | moreFactors_cons => trivial

/-! ### The grammar is LL(1) -/

/-- **The tokens determine where a phrase ends.**  Two derivations from the same tokens that are
both closed by what follows them end at the same place. -/
theorem rest_unique {sym : Symbol} {w z₁ : List Kind} (h₁ : Derives sym w z₁) :
    ∀ {z₂}, Derives sym w z₂ → sym.ClosedBy z₁ → sym.ClosedBy z₂ → z₁ = z₂ := by
  induction h₁ with
  | block _ ih =>
    intro z₂ h₂ _ _
    cases h₂ with
    | block list₂ => simpa using ih list₂ (by simp [Symbol.Closes]) (by simp [Symbol.Closes])
  | stmtList _ rest ih₁ ih₂ =>
    intro z₂ h₂ hz₁ hz₂
    cases h₂ with
    | stmtList first₂ rest₂ =>
      obtain rfl := ih₁ first₂ (closedBy_stmt rest hz₁) (closedBy_stmt rest₂ hz₂)
      exact ih₂ rest₂ hz₁ hz₂
  | moreStmts_nil =>
    intro z₂ h₂ hz₁ _
    cases h₂ with
    | moreStmts_nil => rfl
    | moreStmts_cons => simp [Symbol.Closes] at hz₁
  | moreStmts_cons _ rest ih₁ ih₂ =>
    intro z₂ h₂ hz₁ hz₂
    cases h₂ with
    | moreStmts_nil => simp [Symbol.Closes] at hz₂
    | moreStmts_cons next₂ rest₂ =>
      obtain rfl := ih₁ next₂ (closedBy_stmt rest hz₁) (closedBy_stmt rest₂ hz₂)
      exact ih₂ rest₂ hz₁ hz₂
  | declaration =>
    intro z₂ h₂ _ _
    cases h₂ with
    | declaration => rfl
    | nested inner₂ => cases inner₂
  | assignment _ ih =>
    intro z₂ h₂ hz₁ hz₂
    cases h₂ with
    | assignment value₂ => exact ih value₂ (closedBy_exp hz₁) (closedBy_exp hz₂)
    | nested inner₂ => cases inner₂
  | nested inner ih =>
    intro z₂ h₂ hz₁ hz₂
    cases h₂ with
    | declaration => cases inner
    | assignment => cases inner
    | nested inner₂ => exact ih inner₂ (closedBy_block hz₁) (closedBy_block hz₂)
  | exp _ rest ih₁ ih₂ =>
    intro z₂ h₂ hz₁ hz₂
    cases h₂ with
    | exp first₂ rest₂ =>
      obtain rfl := ih₁ first₂ (closedBy_term rest hz₁) (closedBy_term rest₂ hz₂)
      exact ih₂ rest₂ hz₁ hz₂
  | moreTerms_nil =>
    intro z₂ h₂ hz₁ _
    cases h₂ with
    | moreTerms_nil => rfl
    | moreTerms_cons op => rcases op with rfl | rfl <;> simp [Symbol.Closes] at hz₁
  | moreTerms_cons op _ rest ih₁ ih₂ =>
    intro z₂ h₂ hz₁ hz₂
    cases h₂ with
    | moreTerms_nil => rcases op with rfl | rfl <;> simp [Symbol.Closes] at hz₂
    | moreTerms_cons _ next₂ rest₂ =>
      obtain rfl := ih₁ next₂ (closedBy_term rest hz₁) (closedBy_term rest₂ hz₂)
      exact ih₂ rest₂ hz₁ hz₂
  | term _ rest ih₁ ih₂ =>
    intro z₂ h₂ hz₁ hz₂
    cases h₂ with
    | term first₂ rest₂ =>
      obtain rfl := ih₁ first₂ (closedBy_factor rest hz₁) (closedBy_factor rest₂ hz₂)
      exact ih₂ rest₂ hz₁ hz₂
  | moreFactors_nil =>
    intro z₂ h₂ hz₁ _
    cases h₂ with
    | moreFactors_nil => rfl
    | moreFactors_cons op => rcases op with rfl | rfl | rfl <;> simp [Symbol.Closes] at hz₁
  | moreFactors_cons op _ rest ih₁ ih₂ =>
    intro z₂ h₂ hz₁ hz₂
    cases h₂ with
    | moreFactors_nil => rcases op with rfl | rfl | rfl <;> simp [Symbol.Closes] at hz₂
    | moreFactors_cons _ next₂ rest₂ =>
      obtain rfl := ih₁ next₂ (closedBy_factor rest hz₁) (closedBy_factor rest₂ hz₂)
      exact ih₂ rest₂ hz₁ hz₂
  | int => intro z₂ h₂ _ _; cases h₂; rfl
  | float => intro z₂ h₂ _ _; cases h₂; rfl
  | ident => intro z₂ h₂ _ _; cases h₂; rfl
  | paren _ ih =>
    intro z₂ h₂ _ _
    cases h₂ with
    | paren inner₂ => simpa using ih inner₂ (by simp [Symbol.Closes]) (by simp [Symbol.Closes])

end Derives

namespace Symbol

theorem ClosedBy.append {sym : Symbol} {p : List Kind} (h : sym.ClosedBy p) (r : List Kind) :
    sym.ClosedBy (p ++ r) := by
  cases p with
  | nil => exact absurd h (closedBy_nil sym)
  | cons k p => exact h

/-! ### Viable prefixes, rule by rule

The checker halts at the first token with which no phrase can go on.  For each rule, a prefix that
stops being viable inside the rule's first part stops being viable for the rule; inside a later
part it does too, because `Derives.rest_unique` fixes where the earlier parts end.  The `Begins`
lemmas say the same of the prefixes before it. -/

theorem factor_begins_nil : factor.Begins [] := ⟨[.int], .int⟩

theorem not_viable_factor {k : Kind}
    (hk : ¬ (k = .int ∨ k = .float ∨ k = .ident ∨ k = .lparen)) : ¬ factor.Viable [k] := by
  rintro ⟨r, z, -, h⟩
  cases h <;> simp at hk

/-! `Exp ::= Term { ('+' | '-') Term }` -/

theorem begins_exp_of_term {p : List Kind} (h : term.Begins p) : exp.Begins p := by
  obtain ⟨r, h⟩ := h
  exact ⟨r, .exp h .moreTerms_nil⟩

theorem not_viable_exp_of_term {p : List Kind} (h : ¬ term.Viable p) : ¬ exp.Viable p := by
  rintro ⟨r, z, hz, hd⟩
  cases hd with
  | exp first rest => exact h ⟨r, _, Derives.closedBy_term rest hz, first⟩

theorem begins_exp_of_moreTerms {q y p : List Kind} (h₁ : Derives .term (q ++ y) y)
    (h₂ : moreTerms.Begins p) : exp.Begins (q ++ p) := by
  obtain ⟨r, h₂⟩ := h₂
  exact ⟨r, by simpa using Derives.exp (h₁.shift (p ++ r)) h₂⟩

theorem not_viable_exp_of_moreTerms {q y p : List Kind} (h₁ : Derives .term (q ++ y) y)
    (hp : term.ClosedBy p) (h₂ : ¬ moreTerms.Viable p) : ¬ exp.Viable (q ++ p) := by
  rintro ⟨r, z, hz, hd⟩
  rw [List.append_assoc] at hd
  cases hd with
  | exp first rest =>
    obtain rfl := Derives.rest_unique (h₁.shift (p ++ r)) first (hp.append r)
      (Derives.closedBy_term rest hz)
    exact h₂ ⟨r, z, hz, rest⟩

/-! `{ ('+' | '-') Term }` -/

theorem begins_moreTerms_of_term {k : Kind} {p : List Kind} (hk : k = .add ∨ k = .sub)
    (h : term.Begins p) : moreTerms.Begins (k :: p) := by
  obtain ⟨r, h⟩ := h
  exact ⟨r, .moreTerms_cons hk h .moreTerms_nil⟩

theorem not_viable_moreTerms_of_term {k : Kind} {p : List Kind} (hk : k = .add ∨ k = .sub)
    (h : ¬ term.Viable p) : ¬ moreTerms.Viable (k :: p) := by
  rintro ⟨r, z, hz, hd⟩
  cases hd with
  | moreTerms_nil => rcases hk with rfl | rfl <;> simp [Closes] at hz
  | moreTerms_cons _ next rest => exact h ⟨r, _, Derives.closedBy_term rest hz, next⟩

theorem begins_moreTerms_of_moreTerms {k : Kind} {q y p : List Kind} (hk : k = .add ∨ k = .sub)
    (h₁ : Derives .term (q ++ y) y) (h₂ : moreTerms.Begins p) : moreTerms.Begins (k :: (q ++ p)) := by
  obtain ⟨r, h₂⟩ := h₂
  exact ⟨r, by simpa using Derives.moreTerms_cons hk (h₁.shift (p ++ r)) h₂⟩

theorem not_viable_moreTerms_of_moreTerms {k : Kind} {q y p : List Kind} (hk : k = .add ∨ k = .sub)
    (h₁ : Derives .term (q ++ y) y) (hp : term.ClosedBy p) (h₂ : ¬ moreTerms.Viable p) :
    ¬ moreTerms.Viable (k :: (q ++ p)) := by
  rintro ⟨r, z, hz, hd⟩
  rw [List.cons_append, List.append_assoc] at hd
  cases hd with
  | moreTerms_nil => rcases hk with rfl | rfl <;> simp [Closes] at hz
  | moreTerms_cons _ next rest =>
    obtain rfl := Derives.rest_unique (h₁.shift (p ++ r)) next (hp.append r)
      (Derives.closedBy_term rest hz)
    exact h₂ ⟨r, z, hz, rest⟩

/-! `Term ::= Factor { ('*' | '/' | '%') Factor }` -/

theorem begins_term_of_factor {p : List Kind} (h : factor.Begins p) : term.Begins p := by
  obtain ⟨r, h⟩ := h
  exact ⟨r, .term h .moreFactors_nil⟩

theorem not_viable_term_of_factor {p : List Kind} (h : ¬ factor.Viable p) : ¬ term.Viable p := by
  rintro ⟨r, z, hz, hd⟩
  cases hd with
  | term first rest => exact h ⟨r, _, Derives.closedBy_factor rest hz, first⟩

theorem begins_term_of_moreFactors {q y p : List Kind} (h₁ : Derives .factor (q ++ y) y)
    (h₂ : moreFactors.Begins p) : term.Begins (q ++ p) := by
  obtain ⟨r, h₂⟩ := h₂
  exact ⟨r, by simpa using Derives.term (h₁.shift (p ++ r)) h₂⟩

theorem not_viable_term_of_moreFactors {q y p : List Kind} (h₁ : Derives .factor (q ++ y) y)
    (hp : factor.ClosedBy p) (h₂ : ¬ moreFactors.Viable p) : ¬ term.Viable (q ++ p) := by
  rintro ⟨r, z, hz, hd⟩
  rw [List.append_assoc] at hd
  cases hd with
  | term first rest =>
    obtain rfl := Derives.rest_unique (h₁.shift (p ++ r)) first (hp.append r)
      (Derives.closedBy_factor rest hz)
    exact h₂ ⟨r, z, hz, rest⟩

/-! `{ ('*' | '/' | '%') Factor }` -/

theorem begins_moreFactors_of_factor {k : Kind} {p : List Kind}
    (hk : k = .mul ∨ k = .div ∨ k = .mod) (h : factor.Begins p) : moreFactors.Begins (k :: p) := by
  obtain ⟨r, h⟩ := h
  exact ⟨r, .moreFactors_cons hk h .moreFactors_nil⟩

theorem not_viable_moreFactors_of_factor {k : Kind} {p : List Kind}
    (hk : k = .mul ∨ k = .div ∨ k = .mod) (h : ¬ factor.Viable p) :
    ¬ moreFactors.Viable (k :: p) := by
  rintro ⟨r, z, hz, hd⟩
  cases hd with
  | moreFactors_nil => rcases hk with rfl | rfl | rfl <;> simp [Closes] at hz
  | moreFactors_cons _ next rest => exact h ⟨r, _, Derives.closedBy_factor rest hz, next⟩

theorem begins_moreFactors_of_moreFactors {k : Kind} {q y p : List Kind}
    (hk : k = .mul ∨ k = .div ∨ k = .mod) (h₁ : Derives .factor (q ++ y) y)
    (h₂ : moreFactors.Begins p) : moreFactors.Begins (k :: (q ++ p)) := by
  obtain ⟨r, h₂⟩ := h₂
  exact ⟨r, by simpa using Derives.moreFactors_cons hk (h₁.shift (p ++ r)) h₂⟩

theorem not_viable_moreFactors_of_moreFactors {k : Kind} {q y p : List Kind}
    (hk : k = .mul ∨ k = .div ∨ k = .mod) (h₁ : Derives .factor (q ++ y) y)
    (hp : factor.ClosedBy p) (h₂ : ¬ moreFactors.Viable p) :
    ¬ moreFactors.Viable (k :: (q ++ p)) := by
  rintro ⟨r, z, hz, hd⟩
  rw [List.cons_append, List.append_assoc] at hd
  cases hd with
  | moreFactors_nil => rcases hk with rfl | rfl | rfl <;> simp [Closes] at hz
  | moreFactors_cons _ next rest =>
    obtain rfl := Derives.rest_unique (h₁.shift (p ++ r)) next (hp.append r)
      (Derives.closedBy_factor rest hz)
    exact h₂ ⟨r, z, hz, rest⟩

/-! `Factor ::= '(' Exp ')'` -/

theorem begins_paren_of_exp {p : List Kind} (h : exp.Begins p) : factor.Begins (.lparen :: p) := by
  obtain ⟨r, h⟩ := h
  rw [← List.append_nil (p ++ r)] at h
  exact ⟨r ++ [.rparen], by simpa using Derives.paren (h.shift [.rparen])⟩

theorem not_viable_paren_of_exp {p : List Kind} (h : ¬ exp.Viable p) :
    ¬ factor.Viable (.lparen :: p) := by
  rintro ⟨r, z, -, hd⟩
  cases hd with
  | paren inner => exact h ⟨r, _, by simp [Closes], inner⟩

theorem begins_paren_close {q y : List Kind} (h₁ : Derives .exp (q ++ y) y) :
    factor.Begins (.lparen :: q) :=
  ⟨[.rparen], by simpa using Derives.paren (h₁.shift [.rparen])⟩

/-- After `'(' Exp`, only a `)` goes on. -/
theorem not_viable_paren_close {q y : List Kind} {k : Kind} (h₁ : Derives .exp (q ++ y) y)
    (hk : exp.Closes k) (hne : k ≠ .rparen) : ¬ factor.Viable (.lparen :: (q ++ [k])) := by
  rintro ⟨r, z, -, hd⟩
  rw [List.cons_append, List.append_assoc] at hd
  cases hd with
  | paren inner =>
    have := Derives.rest_unique (h₁.shift ([k] ++ r)) inner hk (by simp [Closes])
    exact hne (List.cons.inj this).1

/-! `Stmt ::= TYPE IDENT | IDENT '=' Exp | Block` -/

theorem stmt_begins_nil : stmt.Begins [] := ⟨[.type, .ident], .declaration⟩

theorem stmt_begins_type : stmt.Begins [.type] := ⟨[.ident], .declaration⟩

theorem stmt_begins_ident : stmt.Begins [.ident] :=
  ⟨[.assign, .int], .assignment (.exp (.term .int .moreFactors_nil) .moreTerms_nil)⟩

/-- Only a type, an identifier or a `{` starts a statement. -/
theorem not_viable_stmt_start {k : Kind} (ht : k ≠ .type) (hi : k ≠ .ident) (hb : k ≠ .lbrace) :
    ¬ stmt.Viable [k] := by
  rintro ⟨r, z, -, hd⟩
  cases hd with
  | declaration => exact ht rfl
  | assignment => exact hi rfl
  | nested inner =>
    cases inner
    exact hb rfl

theorem not_viable_declaration {k : Kind} (hk : k ≠ .ident) : ¬ stmt.Viable [.type, k] := by
  rintro ⟨r, z, -, hd⟩
  cases hd with
  | declaration => exact hk rfl
  | nested inner => cases inner

/-- After `TYPE IDENT` the statement is over. -/
theorem not_viable_declaration_end {k : Kind} (hk : ¬ stmt.Closes k) :
    ¬ stmt.Viable [.type, .ident, k] := by
  rintro ⟨r, z, hz, hd⟩
  cases hd with
  | declaration => exact hk hz
  | nested inner => cases inner

theorem not_viable_assignment {k : Kind} (hk : k ≠ .assign) : ¬ stmt.Viable [.ident, k] := by
  rintro ⟨r, z, -, hd⟩
  cases hd with
  | assignment => exact hk rfl
  | nested inner => cases inner

theorem begins_assignment_of_exp {p : List Kind} (h : exp.Begins p) :
    stmt.Begins (.ident :: .assign :: p) := by
  obtain ⟨r, h⟩ := h
  exact ⟨r, .assignment h⟩

theorem not_viable_assignment_of_exp {p : List Kind} (h : ¬ exp.Viable p) :
    ¬ stmt.Viable (.ident :: .assign :: p) := by
  rintro ⟨r, z, hz, hd⟩
  cases hd with
  | assignment value => exact h ⟨r, z, Derives.closedBy_exp hz, value⟩
  | nested inner => cases inner

/-- After `IDENT '=' Exp`, a token that closes the expression but not a statement goes on with
nothing. -/
theorem not_viable_assignment_end {q y : List Kind} {k : Kind} (h₁ : Derives .exp (q ++ y) y)
    (hk : exp.Closes k) (hk' : ¬ stmt.Closes k) :
    ¬ stmt.Viable (.ident :: .assign :: (q ++ [k])) := by
  rintro ⟨r, z, hz, hd⟩
  rw [List.cons_append, List.cons_append, List.append_assoc] at hd
  cases hd with
  | assignment value =>
    obtain rfl := Derives.rest_unique (h₁.shift ([k] ++ r)) value hk (Derives.closedBy_exp hz)
    exact hk' hz
  | nested inner => cases inner

end Symbol

end BlockSyntax
