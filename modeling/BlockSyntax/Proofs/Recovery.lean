import BlockSyntax.Proofs.Acceptance
import BlockSyntax.Proofs.NestedSource

/-! # Recovery in nested blocks

In a source made of nested blocks (`Item`), every statement the checker reads is an item, ended by
the `,` or `}` after it.  A flat item whose tokens are neither a declaration nor an assignment
(`SimpleStmt`) gets exactly one error, at the first token at which the item, with the `,` or `}`
after it, stops being a prefix of a statement followed by `,` or `}` (`StmtPrefix`); recovery then
skips to that `,` or `}` and no further.  Blocks add no error of their own.  `Reports` says this of
a list of errors and the flat items of a source, and `nested_errors` proves it of the check.

The flat case (`stmt_flat`) reads the position of the error off the specifications of the bodies
of statements: a fault, and a body that ends at a token that closes no statement, both come with
tokens that begin a statement and are no longer viable with the lookahead.  The nested case is a
structural induction over the items (`Item.stmt_spec`).
-/

namespace BlockSyntax

/-- A declaration `TYPE IDENT` or an assignment `IDENT '=' Exp`. -/
def SimpleStmt (u : List Kind) : Prop :=
  u = [.type, .ident] ∨ ∃ v, u = .ident :: .assign :: v ∧ Derives .exp v []

/-- `p` is a prefix of a statement followed by `,` or `}`. -/
def StmtPrefix (p : List Kind) : Prop :=
  ∃ w c r, Derives .stmt w [] ∧ (c = .comma ∨ c = .rbrace) ∧ p ++ r = w ++ [c]

/-- The errors `es` are one for each flat item of `fs` that is no declaration and no assignment,
in order, each at the first token of `toks` at which its item, with the `,` or `}` after it, stops
being a prefix of a statement followed by `,` or `}`. -/
inductive Reports (toks : List Token) : List FlatItem → List SyntaxError → Prop
  | nil : Reports toks [] []
  | simple {f : FlatItem} {fs : List FlatItem} {es : List SyntaxError} (hf : SimpleStmt f.kinds)
      (rest : Reports toks fs es) : Reports toks (f :: fs) es
  | faulty {f : FlatItem} {fs : List FlatItem} {e : SyntaxError} {es : List SyntaxError}
      (hf : ¬ SimpleStmt f.kinds) (j : Nat) (htok : toks[f.start + j]? = some e.token)
      (hpre : StmtPrefix ((f.kinds ++ [f.close]).take j))
      (hstuck : ¬ StmtPrefix ((f.kinds ++ [f.close]).take (j + 1)))
      (rest : Reports toks fs es) : Reports toks (f :: fs) (e :: es)

theorem Reports.append {toks : List Token} {fs₁ fs₂ : List FlatItem} {es₁ es₂ : List SyntaxError}
    (h₁ : Reports toks fs₁ es₁) (h₂ : Reports toks fs₂ es₂) : Reports toks (fs₁ ++ fs₂) (es₁ ++ es₂) := by
  induction h₁ with
  | nil => exact h₂
  | simple hf _ ih => exact .simple hf ih
  | faulty hf j htok hpre hstuck _ ih => exact .faulty hf j htok hpre hstuck ih

/-! ### Statements whose first token opens no block -/

namespace Symbol

/-- The symbols of expressions. -/
def IsExp : Symbol → Prop
  | exp | moreTerms | term | moreFactors | factor => True
  | _ => False

end Symbol

/-- `w` is `z` preceded by kinds that end no statement and open no block. -/
def InnerTo (w z : List Kind) : Prop :=
  ∃ u, w = u ++ z ∧ ∀ k ∈ u, k.Inner

theorem InnerTo.refl (z : List Kind) : InnerTo z z :=
  ⟨[], rfl, by simp⟩

theorem InnerTo.trans {w v z : List Kind} (h₁ : InnerTo w v) (h₂ : InnerTo v z) : InnerTo w z := by
  obtain ⟨u₁, rfl, hu₁⟩ := h₁
  obtain ⟨u₂, rfl, hu₂⟩ := h₂
  exact ⟨u₁ ++ u₂, by simp, List.forall_mem_append.mpr ⟨hu₁, hu₂⟩⟩

theorem InnerTo.cons {k : Kind} {w z : List Kind} (hk : k.Inner) (h : InnerTo w z) :
    InnerTo (k :: w) z := by
  obtain ⟨u, rfl, hu⟩ := h
  exact ⟨k :: u, rfl, List.forall_mem_cons.mpr ⟨hk, hu⟩⟩

namespace Derives

/-- An expression holds no `,`, braces or end token. -/
theorem inner_of_exp {sym : Symbol} {w z : List Kind} (h : Derives sym w z) :
    sym.IsExp → InnerTo w z := by
  induction h with
  | block | stmtList | moreStmts_nil | moreStmts_cons | declaration | assignment | nested =>
    exact fun hs => False.elim hs
  | moreTerms_nil | moreFactors_nil => exact fun _ => .refl _
  | int | float | ident => exact fun _ => (InnerTo.refl _).cons ⟨rfl, by decide⟩
  | exp _ _ ih₁ ih₂ | term _ _ ih₁ ih₂ => exact fun _ => (ih₁ trivial).trans (ih₂ trivial)
  | moreTerms_cons op _ _ ih₁ ih₂ =>
    refine fun _ => ((ih₁ trivial).trans (ih₂ trivial)).cons ?_
    rcases op with rfl | rfl <;> exact ⟨rfl, by decide⟩
  | moreFactors_cons op _ _ ih₁ ih₂ =>
    refine fun _ => ((ih₁ trivial).trans (ih₂ trivial)).cons ?_
    rcases op with rfl | rfl | rfl <;> exact ⟨rfl, by decide⟩
  | paren _ ih =>
    exact fun _ => ((ih trivial).trans ((InnerTo.refl _).cons ⟨rfl, by decide⟩)).cons ⟨rfl, by decide⟩

/-- A statement that does not open a block holds no `,`, braces or end token. -/
theorem inner_of_stmt {w z : List Kind} (h : Derives .stmt w z) (hw : w.head? ≠ some .lbrace) :
    InnerTo w z := by
  cases h with
  | declaration => exact ((InnerTo.refl _).cons ⟨rfl, by decide⟩).cons ⟨rfl, by decide⟩
  | assignment value => exact ((inner_of_exp value trivial).cons ⟨rfl, by decide⟩).cons ⟨rfl, by decide⟩
  | nested inner =>
    cases inner
    exact absurd rfl hw

/-- A statement whose first token opens no block is a declaration or an assignment. -/
theorem simple_of_stmt {u z : List Kind} (h : Derives .stmt (u ++ z) z)
    (hu : u.head? ≠ some .lbrace) : SimpleStmt u := by
  generalize hw : u ++ z = w at h
  cases h with
  | declaration =>
    exact .inl (List.append_cancel_right (hw.trans (by simp)))
  | assignment value =>
    obtain ⟨v, rfl, hv⟩ := value.split
    refine .inr ⟨v, List.append_cancel_right (hw.trans (by simp)), by simpa using hv []⟩
  | nested inner =>
    cases inner with
    | block list =>
      cases u with
      | nil =>
        -- a block is never empty
        have := list.suffix.length_le
        simp only [List.nil_append] at hw
        subst hw
        simp only [List.length_cons] at this
        exact absurd this (by omega)
      | cons k u =>
        cases (List.cons.inj hw).1
        exact absurd rfl hu

theorem stmt_of_simple {u : List Kind} (h : SimpleStmt u) (z : List Kind) :
    Derives .stmt (u ++ z) z := by
  rcases h with rfl | ⟨v, rfl, hv⟩
  · exact .declaration
  · exact .assignment ((by simpa using hv : Derives .exp (v ++ []) []).shift z)

end Derives

namespace Symbol

/-- The tokens a statement that opens no block begins with hold no `,`, braces or end token. -/
theorem begins_inner {p : List Kind} (h : stmt.Begins p) (hp : p.head? ≠ some .lbrace) :
    ∀ k ∈ p, k.Inner := by
  obtain ⟨r, hd⟩ := h
  cases p with
  | nil => simp
  | cons k p =>
    obtain ⟨u, hu, hin⟩ := Derives.inner_of_stmt hd (by simpa using hp)
    rw [List.append_nil] at hu
    exact fun k' hk' => hin k' (hu ▸ List.mem_append_left r hk')

theorem stmtPrefix_of_begins {p : List Kind} (h : stmt.Begins p) : StmtPrefix p := by
  obtain ⟨r, hd⟩ := h
  exact ⟨p ++ r, .comma, r ++ [.comma], hd, .inl rfl, by simp⟩

end Symbol

theorem StmtPrefix.viable {p : List Kind} (h : StmtPrefix p) : Symbol.stmt.Viable p := by
  obtain ⟨w, c, r, hw, hc, heq⟩ := h
  refine ⟨r, [c], by rcases hc with rfl | rfl <;> simp [Symbol.Closes], ?_⟩
  rw [heq]
  exact (by simpa using hw : Derives .stmt (w ++ []) []).shift [c]

/-- In `a ++ b = u ++ c :: v`, if everything in `a` has a property that `c` lacks, `a` ends
within `u`. -/
theorem length_le_of_append_eq {P : Kind → Prop} {a b u v : List Kind} {c : Kind}
    (h : a ++ b = u ++ c :: v) (ha : ∀ x ∈ a, P x) (hc : ¬ P c) : a.length ≤ u.length := by
  induction u generalizing a with
  | nil =>
    cases a with
    | nil => exact Nat.le_refl _
    | cons x a =>
      cases (List.cons.inj h).1
      exact absurd (ha _ List.mem_cons_self) hc
  | cons y u ih =>
    cases a with
    | nil => exact Nat.zero_le _
    | cons x a =>
      simp only [List.cons_append, List.cons.injEq] at h
      exact Nat.succ_le_succ (ih h.2 fun x hx => ha x (List.mem_cons_of_mem _ hx))

/-- Two splits of one list, each at the first element that lacks a property, are the same
split. -/
theorem length_eq_of_append_eq {P : Kind → Prop} {a b x y : List Kind} {c d : Kind}
    (h : a ++ c :: x = b ++ d :: y) (ha : ∀ k ∈ a, P k) (hb : ∀ k ∈ b, P k) (hc : ¬ P c)
    (hd : ¬ P d) : a.length = b.length :=
  Nat.le_antisymm (length_le_of_append_eq h ha hd) (length_le_of_append_eq h.symm hb hc)

namespace Cursor

variable {toks : List Token}

/-- The checker read from `s` to `s'`, which stands at token `m` of `toks`, and recorded one error
for each faulty item of `fs`, as `Reports` says, and no other. -/
def Recorded (toks : List Token) (fs : List FlatItem) (m : Nat) (s s' : Cursor) : Prop :=
  s'.tokens = toks.drop m ∧ ∃ es, s'.errors = s.errors ++ es ∧ Reports toks fs es

theorem Recorded.trans {fs₁ fs₂ : List FlatItem} {m₁ m₂ : Nat} {s₁ s₂ s₃ : Cursor}
    (h₁ : Recorded toks fs₁ m₁ s₁ s₂) (h₂ : Recorded toks fs₂ m₂ s₂ s₃) :
    Recorded toks (fs₁ ++ fs₂) m₂ s₁ s₃ := by
  obtain ⟨-, es₁, he₁, hr₁⟩ := h₁
  obtain ⟨ht, es₂, he₂, hr₂⟩ := h₂
  exact ⟨ht, es₁ ++ es₂, by rw [he₂, he₁, List.append_assoc], hr₁.append hr₂⟩

theorem Recorded.quiet_left {fs : List FlatItem} {m : Nat} {s s₁ s₂ : Cursor} (hq : s.Quiet s₁)
    (h : Recorded toks fs m s₁ s₂) : Recorded toks fs m s s₂ := by
  obtain ⟨ht, es, he, hr⟩ := h
  exact ⟨ht, es, by rw [he, hq.errors], hr⟩

theorem Recorded.quiet_right {fs : List FlatItem} {m m' : Nat} {s s₁ s₂ : Cursor}
    (h : Recorded toks fs m s s₁) (hq : s₁.Quiet s₂) (ht : s₂.tokens = toks.drop m') :
    Recorded toks fs m' s s₂ := by
  obtain ⟨-, es, he, hr⟩ := h
  exact ⟨ht, es, by rw [hq.errors, he], hr⟩

theorem Recorded.congr {fs : List FlatItem} {m m' : Nat} {s s' : Cursor}
    (h : Recorded toks fs m s s') (hm : m = m') : Recorded toks fs m' s s' :=
  hm ▸ h

theorem Recorded.leave {fs : List FlatItem} {m : Nat} {s s' : Cursor} (h : Recorded toks fs m s s')
    (p : Procedure) : Recorded toks fs m s (s'.note (.leave p)) :=
  h.quiet_right ((Quiet.refl s').note rfl) h.1

theorem Recorded.enter {fs : List FlatItem} {m : Nat} {s s' : Cursor} {p : Procedure}
    (h : Recorded toks fs m (s.note (.enter p)) s') : Recorded toks fs m s s' :=
  h.quiet_left ((Quiet.refl s).note rfl)

theorem tokens_after {s s' : Cursor} {n : Nat} {q : List Token} (hs : s.tokens = toks.drop n)
    (hq : s.tokens = q ++ s'.tokens) : s'.tokens = toks.drop (n + q.length) := by
  rw [← List.drop_drop, ← hs, hq, List.drop_left]

theorem kinds_after_drop {s s' : Cursor} {n m : Nat} (hs : s.tokens = toks.drop n)
    (hs' : s'.tokens = toks.drop (n + m)) : s'.kinds = s.kinds.drop m := by
  rw [kinds, kinds, hs, hs', ← List.drop_drop, List.map_drop]

/-- **Recovery skips to the end of the item.**  Skipping from inside an item stops at the `,` or
`}` after it. -/
theorem skip_to_close {s : Cursor} {v rest : List Kind} {c : Kind} (hk : s.kinds = v ++ c :: rest)
    (hv : ∀ k ∈ v, k.Inner) (hc : c.endsStatement = true) :
    s.skipToEnd.Holds (fun s' => s.Quiet s' ∧ s'.tokens = s.tokens.drop v.length)
      fun h _ => h = .unreadable ∧ ¬ s.Ready := by
  refine (skipToEnd_spec s).imp (fun s' hd => ⟨hd.1, ?_⟩) fun _ _ hh => ⟨hh.1, hh.2.2⟩
  obtain ⟨_, hend, q, hq, hskip⟩ := hd
  have hkq : q.map Token.kind ++ s'.kinds = v ++ c :: rest := by rw [← kinds_eq_of_tokens hq, hk]
  rw [kinds_cons] at hkq
  -- the first token that ends a statement is the one after the item
  have hlen : (q.map Token.kind).length = v.length :=
    length_eq_of_append_eq (P := fun k => k.endsStatement = false) hkq (by simpa using hskip)
      (fun k hk => (hv k hk).1) (by simp [hend]) (by simp [hc])
  rw [hq, ← hlen, List.length_map, List.drop_left]

/-! ### A flat item -/

section Flat

variable {n : Nat} {u rest : List Kind} {c : Kind}

theorem ends_of_close (hc : c = .comma ∨ c = .rbrace) : c.endsStatement = true := by
  rcases hc with rfl | rfl <;> rfl

theorem not_inner_of_ends (hc : c.endsStatement = true) : ¬ c.Inner :=
  fun h => absurd h.1 (by rw [hc]; decide)

theorem head_inner (hu : ∀ k ∈ u, k.Inner) : u.head? ≠ some .lbrace := by
  cases u with
  | nil => simp
  | cons k u => simpa using (hu k List.mem_cons_self).2

/-- A flat item, with the `,` or `}` after it, does not open a block. -/
theorem head_ne_lbrace (hu : ∀ k ∈ u, k.Inner) (hc : c = .comma ∨ c = .rbrace) :
    (u ++ c :: rest).head? ≠ some .lbrace := by
  cases u with
  | nil => rcases hc with rfl | rfl <;> simp
  | cons k u => simpa using (hu k List.mem_cons_self).2

/-- **Where the error of a flat item lies.**  If the tokens `q` read from the start of a flat item
begin a statement and are not viable with the lookahead after them, then they lie within the item,
the item is no declaration and no assignment, and the lookahead is the first token at which the
item, with the `,` or `}` after it, stops being a prefix of a statement followed by `,` or `}`. -/
theorem flat_fault {s s₁ : Cursor} {q : List Token} (hk : s.kinds = u ++ c :: rest)
    (hu : ∀ k ∈ u, k.Inner) (hc : c = .comma ∨ c = .rbrace) (hq : s.tokens = q ++ s₁.tokens)
    (hb : Symbol.stmt.Begins (q.map Token.kind))
    (hv : ¬ Symbol.stmt.Viable (q.map Token.kind ++ [s₁.lookahead.kind])) :
    q.length ≤ u.length ∧ s₁.kinds = u.drop q.length ++ c :: rest ∧ ¬ SimpleStmt u ∧
      StmtPrefix ((u ++ [c]).take q.length) ∧ ¬ StmtPrefix ((u ++ [c]).take (q.length + 1)) := by
  have hkq : q.map Token.kind ++ s₁.kinds = u ++ c :: rest := by rw [← kinds_eq_of_tokens hq, hk]
  have hcin : ¬ c.Inner := not_inner_of_ends (ends_of_close hc)
  -- the tokens read open no block, so they hold no `,` or `}` and end within the item
  have hin : ∀ k ∈ q.map Token.kind, k.Inner :=
    Symbol.begins_inner hb fun hh => head_ne_lbrace hu hc (by rw [← hkq, List.head?_append, hh]; rfl)
  have hle : q.length ≤ u.length := by
    simpa using length_le_of_append_eq hkq hin hcin
  obtain ⟨m, hum, hm⟩ : ∃ m, u = q.map Token.kind ++ m ∧ s₁.kinds = m ++ c :: rest := by
    rcases List.append_eq_append_iff.mp hkq with ⟨m, hum, hm⟩ | ⟨b, hb', hcb⟩
    · exact ⟨m, hum, hm⟩
    · have hb0 : b = [] := by
        have := congrArg List.length hb'
        simp only [List.length_map, List.length_append] at this
        exact List.eq_nil_of_length_eq_zero (by omega)
      subst hb0
      exact ⟨[], by simp [hb'], by simpa using hcb.symm⟩
  have hdrop : u.drop q.length = m := by
    rw [hum, ← List.length_map (f := Token.kind), List.drop_left]
  have htake : (u ++ [c]).take q.length = q.map Token.kind := by
    rw [hum, List.append_assoc, ← List.length_map (f := Token.kind), List.take_left]
  -- the lookahead is the next kind of the item, or the `,` or `}` after it
  have htake₁ : (u ++ [c]).take (q.length + 1) = q.map Token.kind ++ [s₁.lookahead.kind] := by
    rw [hum, List.append_assoc, ← List.length_map (f := Token.kind), List.take_length_add_append]
    cases m with
    | nil => simp [lookahead_of_kinds hm]
    | cons x m => simp [lookahead_of_kinds hm]
  refine ⟨hle, hdrop ▸ hm, fun hs => ?_, htake ▸ Symbol.stmtPrefix_of_begins hb,
    fun hp => hv (by rw [htake₁] at hp; exact hp.viable)⟩
  -- a simple statement followed by `,` or `}` keeps every prefix of the item viable
  have hall : Symbol.stmt.Viable (u ++ [c]) :=
    ⟨[], [c], by rcases hc with rfl | rfl <;> simp [Symbol.Closes],
      by simpa using Derives.stmt_of_simple hs [c]⟩
  rw [← List.take_append_drop (q.length + 1) (u ++ [c]), htake₁] at hall
  exact hv hall.of_append

/-- **One error for a faulty flat item.**  After an error found as in `flat_fault`, recovery
skips to the `,` or `}` after the item; the item gets that one error. -/
theorem flat_recover {s s₁ : Cursor} {q : List Token} {e : SyntaxError}
    (hs : s.tokens = toks.drop n) (hr : s.Ready) (hk : s.kinds = u ++ c :: rest)
    (hu : ∀ k ∈ u, k.Inner) (hc : c = .comma ∨ c = .rbrace) (hquiet : s.Quiet s₁)
    (hq : s.tokens = q ++ s₁.tokens) (hb : Symbol.stmt.Begins (q.map Token.kind))
    (hv : ¬ Symbol.stmt.Viable (q.map Token.kind ++ [s₁.lookahead.kind]))
    (he : e.token = s₁.lookahead) :
    ((s₁.note (.report e)).skipToEnd).Holds
      (fun s₂ => Recorded toks [⟨n, u, c⟩] (n + u.length) s (s₂.note (.leave .stmt)))
      fun _ _ => False := by
  obtain ⟨hle, hk₁, hns, hpre, hstuck⟩ := flat_fault hk hu hc hq hb hv
  have ht₁ := tokens_after hs hq
  refine (skip_to_close (s := s₁.note (.report e)) hk₁
    (fun k hk => hu k (List.mem_of_mem_drop hk)) (ends_of_close hc)).imp (fun s₂ hd => ?_)
    fun _ _ hh => hh.2 (hr.of_suffix hquiet.suffix)
  have htok : toks[n + q.length]? = some e.token := by
    have h0 := congrArg (·[0]?) ht₁
    simp only [List.getElem?_drop, Nat.add_zero] at h0
    rw [← h0, he]
    rfl
  refine ⟨?_, [e], ?_, .faulty hns q.length htok hpre hstuck .nil⟩
  · rw [tokens_note, hd.2, tokens_note, ht₁, List.drop_drop, List.length_drop]
    congr 1
    omega
  · simp [hd.1.errors, hquiet.errors, Event.error?]

/-- **No error for a simple flat item.**  A body that read statement tokens and stopped at a
token that ends a statement read the whole item, which is a declaration or an assignment. -/
theorem flat_done {s s₁ : Cursor} (hs : s.tokens = toks.drop n) (hk : s.kinds = u ++ c :: rest)
    (hu : ∀ k ∈ u, k.Inner) (hc : c = .comma ∨ c = .rbrace) (hquiet : s.Quiet s₁)
    (hder : Derives .stmt s.kinds s₁.kinds) (hend : s₁.lookahead.kind.endsStatement = true) :
    Recorded toks [⟨n, u, c⟩] (n + u.length) s s₁ := by
  obtain ⟨q, hq⟩ := hquiet.consumed
  have hkq : q.map Token.kind ++ s₁.kinds = u ++ c :: rest := by rw [← kinds_eq_of_tokens hq, hk]
  have hcin : ¬ c.Inner := not_inner_of_ends (ends_of_close hc)
  rw [kinds_eq_of_tokens hq] at hder
  -- the statement read opens no block, so it holds no `,` or `}`
  have hin : ∀ k ∈ q.map Token.kind, k.Inner := by
    obtain ⟨v, hv, hin⟩ := Derives.inner_of_stmt hder (by rw [hkq]; exact head_ne_lbrace hu hc)
    rw [List.append_cancel_right hv]
    exact hin
  rw [kinds_cons] at hkq
  -- it ends where the item ends: at the first token that ends a statement
  have hlen : (q.map Token.kind).length = u.length :=
    length_eq_of_append_eq hkq hin hu (not_inner_of_ends hend) hcin
  have hqu : q.map Token.kind = u := (List.append_inj hkq hlen).1
  refine ⟨by rw [tokens_after hs hq, ← hlen, List.length_map], [], by simp [hquiet.errors],
    .simple ?_ .nil⟩
  rw [hqu] at hder
  exact Derives.simple_of_stmt hder (head_inner hu)

/-- **A flat item as a statement.**  The checker reads a flat item and the `,` or `}` after it
stays the lookahead; it records one error if the item is no declaration and no assignment, at
the first token at which the item stops being a prefix of a statement followed by `,` or `}`,
and none otherwise. -/
theorem stmt_flat {s : Cursor} (hs : s.tokens = toks.drop n) (hr : s.Ready)
    (hk : s.kinds = u ++ c :: rest) (hu : ∀ k ∈ u, k.Inner) (hc : c = .comma ∨ c = .rbrace) :
    s.stmt.Holds (Recorded toks [⟨n, u, c⟩] (n + u.length) s) fun _ _ => False := by
  have hquiet : s.Quiet (s.note (.enter .stmt)) := (Quiet.refl s).note rfl
  have hopen : s.lookahead.kind ≠ .lbrace := fun hl =>
    head_ne_lbrace hu hc (by rw [← hk, kinds_cons, hl]; rfl)
  refine holds_stmt (B := BodyDone (s.note (.enter .stmt)))
    (F := ExpHalt .stmt (s.note (.enter .stmt))) (fun hk' => declaration_spec _ hk')
    (fun hk' => assignment_spec _ hk') (fun hl => absurd hl hopen) (fun h₁ h₂ h₃ => ?_)
    (fun s₁ hd hend => ?_) (fun s₁ hd hend => ?_) (fun s₁ hh => hh.2 hr) fun e s₁ hh => ?_
  · -- no statement starts with the first token
    exact flat_recover hs hr hk hu hc hquiet (q := []) rfl Symbol.stmt_begins_nil
      (Symbol.not_viable_stmt_start h₁ h₂ h₃) rfl
  · -- the body read the whole item
    exact (flat_done hs hk hu hc ((quiet_note_left rfl).mp hd.1) hd.2.1 hend).leave _
  · -- the body stopped inside the item
    obtain ⟨q, hq⟩ := hd.1.consumed
    have hder := hd.2.1
    rw [kinds_eq_of_tokens hq] at hder
    refine flat_recover hs hr hk hu hc ((quiet_note_left rfl).mp hd.1) hq ⟨[], ?_⟩
      (hd.2.2 q hq fun hcl => by rw [Symbol.closes_stmt_iff, hend] at hcl; cases hcl) rfl
    simpa using hder.shift []
  · -- the body found a fault
    obtain ⟨hq₁, htok, q, hq, hb, hv⟩ := hh
    rw [htok] at hv
    exact flat_recover hs hr hk hu hc ((quiet_note_left rfl).mp hq₁) hq hb hv htok

end Flat

/-! ### Nested blocks -/

theorem ready_at {s s' : Cursor} {n m : Nat} (hr : s.Ready) (hs : s.tokens = toks.drop n)
    (hs' : s'.tokens = toks.drop m) (h : n ≤ m) : s'.Ready :=
  hr.of_suffix (by rw [hs, hs']; exact List.drop_suffix_drop_left _ h)

/-- A cursor further on among the same tokens has the kinds after the ones read. -/
theorem kinds_at {s s' : Cursor} {n m : Nat} {u v : List Kind} (hs : s.tokens = toks.drop n)
    (hs' : s'.tokens = toks.drop m) (hk : s.kinds = u ++ v) (hm : m = n + u.length) :
    s'.kinds = v := by
  rw [kinds_after_drop hs (hm ▸ hs'), hk, List.drop_left]

/-- The lookahead after a statement list is never a comma, so the repetition ends at once. -/
theorem holds_moreStmts_end {s : Cursor} {D : Cursor → Prop} {H : Halt → Cursor → Prop}
    (hk : s.lookahead.kind ≠ .comma) (hD : D s) : s.moreStmts.Holds D H :=
  holds_moreStmts (fun h => absurd h hk) (fun h => absurd h hk) fun _ => hD

/-- **A block**, given what its statement list records. -/
theorem block_items {n : Nat} {rest : List Kind} {s : Cursor} {items : Items} {fs : List FlatItem}
    (hs : s.tokens = toks.drop n) (hr : s.Ready)
    (hk : s.kinds = .lbrace :: (items.kinds ++ .rbrace :: rest))
    (hlist : ∀ s₁ : Cursor, s₁.tokens = toks.drop (n + 1) → s₁.Ready →
      s₁.kinds = items.kinds ++ .rbrace :: rest →
      s₁.stmtList.Holds (Recorded toks fs (n + 1 + items.kinds.length) s₁) fun _ _ => False) :
    s.block.Holds (Recorded toks fs (n + 1 + items.kinds.length + 1) s) fun _ _ => False := by
  have hopen := lookahead_of_kinds hk
  refine holds_block (fun _ s₁ ha => ?_)
    (fun _ ha => not_ready_of_advance (s := s.note (.enter .block)) ha hr) fun hne => hne hopen
  have hq₁ : s.Quiet s₁ := ((Quiet.refl s).note rfl).trans (Quiet.advance ha)
  have hs₁ : s₁.tokens = toks.drop (n + 1) :=
    tokens_after hs (tokens_of_advance (s := s.note (.enter .block)) ha
      (ne_eof_of_kind_eq hopen (by decide)))
  refine (hlist s₁ hs₁ (hr.of_suffix hq₁.suffix) (kinds_after (s := s.note (.enter .block)) hk
    (by decide) ha)).imp (fun s₂ hd₂ => ?_) fun _ _ h => h
  have hclose : s₂.lookahead.kind = .rbrace := lookahead_of_kinds
    (kinds_at hs hd₂.1 (u := .lbrace :: items.kinds) (v := .rbrace :: rest) (by simp [hk])
      (by simp; omega))
  refine holds_consume (fun s₃ _ ha₃ => ?_)
    (fun ha₃ => not_ready_of_advance ha₃ (ready_at hr hs hd₂.1 (by omega)))
    fun hne => hne hclose
  refine ((hd₂.quiet_right (Quiet.advance ha₃) ?_).quiet_left hq₁).leave _
  rw [tokens_after hd₂.1 (tokens_of_advance ha₃ (ne_eof_of_kind_eq hclose (by decide)))]
  rfl

end Cursor

/-- The tokens of a flat text end no statement and open no block. -/
theorem Item.inner_flat (text : FlatText) : ∀ k ∈ (Item.flat text).kinds, k.Inner := by
  intro k hk
  obtain ⟨x, hx, rfl⟩ := List.mem_map.mp hk
  exact lexemes_flat text.flat x hx

open Cursor in
mutual
/-- **An item as a statement.**  Started on an item followed by `,` or `}`, the procedure of
statements reads the item, stops at the `,` or `}`, and records the errors of its flat items as
`Reports` says. -/
theorem Item.stmt_spec {toks : List Token} : (item : Item) → ∀ {n : Nat} {c : Kind}
    {rest : List Kind} {s : Cursor}, (c = .comma ∨ c = .rbrace) → s.tokens = toks.drop n →
    s.Ready → s.kinds = item.kinds ++ c :: rest →
    s.stmt.Holds (Recorded toks (item.flats n c) (n + item.kinds.length) s) fun _ _ => False
  | .flat text, _, _, _, _, hc, hs, hr, hk => stmt_flat hs hr hk (Item.inner_flat text) hc
  | .block pre items post, n, c, rest, s, hc, hs, hr, hk => by
    have hk' : s.kinds = .lbrace :: (items.kinds ++ .rbrace :: c :: rest) := by
      rw [hk]; simp [Item.kinds]
    have hopen : s.lookahead.kind = .lbrace := lookahead_of_kinds hk'
    have hlen : (Item.block pre items post).kinds.length = items.kinds.length + 2 := by
      simp [Item.kinds]
    refine holds_stmt (B := Recorded toks (items.flats (n + 1)) (n + 1 + items.kinds.length + 1)
      (s.note (.enter .stmt))) (F := fun _ _ => False)
      (fun h => absurd (hopen.symm.trans h) (by decide)) (fun h => absurd (hopen.symm.trans h) (by decide))
      (fun _ => block_items (s := s.note (.enter .stmt)) hs hr hk' fun _ hs₁ hr₁ hk₁ =>
        Items.stmtList_spec items hs₁ hr₁ hk₁)
      (fun _ _ h => absurd hopen h) (fun s₁ hb _ => (hb.enter.leave _).congr (by rw [hlen]; omega))
      (fun s₁ hb hend => ?_) (fun _ h => h) fun _ _ h => h.elim
    -- the block ends at the `,` or `}` after it
    have hc' : s₁.lookahead.kind = c := lookahead_of_kinds (kinds_at hs hb.1 hk (by rw [hlen]; omega))
    rw [hc', ends_of_close hc] at hend
    cases hend

/-- **The items of a block as a statement list.** -/
theorem Items.stmtList_spec {toks : List Token} : (items : Items) → ∀ {n : Nat} {rest : List Kind}
    {s : Cursor}, s.tokens = toks.drop n → s.Ready → s.kinds = items.kinds ++ .rbrace :: rest →
    s.stmtList.Holds (Recorded toks (items.flats n) (n + items.kinds.length) s) fun _ _ => False
  | .last item, n, rest, s, hs, hr, hk => by
    refine holds_stmtList ((Item.stmt_spec item (s := s.note (.enter .stmtList)) (.inr rfl) hs hr
      hk).imp (fun s₁ hd₁ => holds_moreStmts_end ?_ (hd₁.enter.leave _)) fun _ _ h => h)
    rw [lookahead_of_kinds (kinds_at hs hd₁.1 hk rfl)]
    decide
  | .cons item more, n, rest, s, hs, hr, hk => by
    have hk' : s.kinds = item.kinds ++ .comma :: (more.kinds ++ .rbrace :: rest) := by
      rw [hk]; simp [Items.kinds]
    refine holds_stmtList ((Item.stmt_spec item (s := s.note (.enter .stmtList)) (.inl rfl) hs hr
      hk').imp (fun s₁ hd₁ => ?_) fun _ _ h => h)
    have hk₁ : s₁.kinds = .comma :: (more.kinds ++ .rbrace :: rest) := kinds_at hs hd₁.1 hk' rfl
    refine (Items.moreStmts_spec more hd₁.1 (ready_at hr hs hd₁.1 (by omega)) hk₁).imp
      (fun s₂ hd₂ => ((hd₁.enter.trans hd₂).congr ?_).leave _) fun _ _ h => h
    simp [Items.kinds]; omega

/-- **The items after a comma, as the repetition of a statement list.** -/
theorem Items.moreStmts_spec {toks : List Token} : (items : Items) → ∀ {n : Nat}
    {rest : List Kind} {s : Cursor}, s.tokens = toks.drop n → s.Ready →
    s.kinds = .comma :: (items.kinds ++ .rbrace :: rest) →
    s.moreStmts.Holds (Recorded toks (items.flats (n + 1)) (n + 1 + items.kinds.length) s)
      fun _ _ => False
  | .last item, n, rest, s, hs, hr, hk => by
    refine holds_moreStmts (fun _ s₁ ha => ?_) (fun _ ha => not_ready_of_advance ha hr)
      fun hne => absurd (lookahead_of_kinds hk) hne
    have hq₁ := Quiet.advance ha
    have hs₁ := tokens_after hs (tokens_of_advance ha (by rw [lookahead_of_kinds hk]; decide))
    refine (Item.stmt_spec item (.inr rfl) hs₁ (hr.of_suffix hq₁.suffix)
      (kinds_after hk (by decide) ha)).imp (fun s₂ hd₂ => holds_moreStmts_end ?_ (hd₂.quiet_left hq₁))
      fun _ _ h => h
    rw [lookahead_of_kinds (kinds_at hs₁ hd₂.1 (kinds_after hk (by decide) ha) rfl)]
    decide
  | .cons item more, n, rest, s, hs, hr, hk => by
    refine holds_moreStmts (fun _ s₁ ha => ?_) (fun _ ha => not_ready_of_advance ha hr)
      fun hne => absurd (lookahead_of_kinds hk) hne
    have hq₁ := Quiet.advance ha
    have hs₁ := tokens_after hs (tokens_of_advance ha (by rw [lookahead_of_kinds hk]; decide))
    have hk₁ : s₁.kinds = item.kinds ++ .comma :: (more.kinds ++ .rbrace :: rest) := by
      rw [kinds_after hk (by decide) ha]; simp [Items.kinds]
    refine (Item.stmt_spec item (.inl rfl) hs₁ (hr.of_suffix hq₁.suffix) hk₁).imp
      (fun s₂ hd₂ => ?_) fun _ _ h => h
    have hk₂ : s₂.kinds = .comma :: (more.kinds ++ .rbrace :: rest) := kinds_at hs₁ hd₂.1 hk₁ rfl
    refine (Items.moreStmts_spec more hd₂.1 (ready_at hr hs hd₂.1 (by omega)) hk₂).imp
      (fun s₃ hd₃ => ((hd₂.quiet_left hq₁).trans hd₃).congr ?_) fun _ _ h => h
    simp [Items.kinds]; omega
end

namespace Cursor

/-- At the end token a pull is always answered. -/
theorem advance_ne_none_of_eof {s : Cursor} (hk : s.lookahead.kind = .eof) : s.advance ≠ none := by
  unfold advance
  split
  · exact Option.some_ne_none _
  · rw [if_pos hk]
    exact Option.some_ne_none _

/-- The errors of a program are those of its block, when the block ends normally at the end
token. -/
theorem program_errors (s₀ : Cursor) {P : List SyntaxError → Prop}
    (h : (s₀.note (.enter .program)).block.Holds (fun s₁ => s₁.lookahead.kind = .eof ∧ P s₁.errors)
      fun _ _ => False) :
    P s₀.program.errors := by
  refine (program_verdict s₀ (P := P) ((h.imp (fun _ h => h) fun _ _ h => h.elim).bind fun s₁ _ hd =>
    (Reply.holds_widen _ _).mpr (holds_consume (fun s₂ _ ha => ?_)
      (fun ha => (advance_ne_none_of_eof hd.1 ha).elim) fun hne => (hne hd.1).elim))).2
  rw [(advance_spec ha).1]
  exact hd.2

end Cursor

/-- The check of tokens whose kinds are those of a block made of `items`, and the end token,
records the errors of the flat items as `Reports` says. -/
theorem check_nested {toks : List Token} {items : Items} (ht : Terminated toks)
    (hk : toks.map Token.kind = .lbrace :: (items.kinds ++ [.rbrace, .eof])) :
    Reports toks (items.flats 1) (check toks).errors := by
  cases toks with
  | nil =>
    obtain ⟨p, t, hp, -⟩ := ht
    simp at hp
  | cons t rest =>
    let s : Cursor := (⟨t, rest, #[.pull]⟩ : Cursor).note (.enter .program)
    refine Cursor.program_errors ⟨t, rest, #[.pull]⟩ ((Cursor.block_items (s := s) (n := 0) rfl
      (Terminated.ready (s := s) ht) hk fun s₁ hs₁ hr₁ hk₁ => Items.stmtList_spec items hs₁ hr₁ hk₁).imp
      (fun s₁ hd => ?_) fun _ _ h => h)
    obtain ⟨hs₁, es, he, hr⟩ := hd
    -- the block ends at the end token
    have hend : s₁.kinds = [.eof] :=
      Cursor.kinds_at (s := s) (n := 0) (u := .lbrace :: (items.kinds ++ [.rbrace])) rfl hs₁
        (hk.trans (by simp)) (by simp; omega)
    refine ⟨Cursor.lookahead_of_kinds hend, ?_⟩
    rw [he]
    exact hr

/-- **Errors in nested blocks.**  In a source built of blocks `'{' I {',' I} '}'`, with blanks
around the braces, whose items are blocks again or flat texts with no `,`, `{` or `}`, the check
reports exactly one error for each flat item whose tokens are neither a declaration `TYPE IDENT`
nor an assignment `IDENT '=' Exp`, an item with no tokens included, and no other error.  The
errors come in the order of the items, and each one's token is the first token at which its
item, with the `,` or `}` after it, stops being a prefix of a statement followed by `,` or `}`. -/
theorem nested_errors (pre : Blanks) (items : Items) (post : Blanks) :
    Reports (Reader.ofFeed (Feed.ofString (String.ofList (Item.block pre items post).render))).tape.tokens
      (items.flats 1)
      (Report.ofFeed (Feed.ofString (String.ofList (Item.block pre items post).render))).errors := by
  have hkinds : (Reader.ofFeed (Feed.ofString (String.ofList (Item.block pre items post).render))).tape.tokens.map
      Token.kind = .lbrace :: (items.kinds ++ [.rbrace, .eof]) := by
    rw [tokens_ofString, String.toList_ofList]
    have := congrArg (List.map Prod.fst) (lexAll_lexemes .start (Item.block pre items post).render)
    simp only [List.map_map, Function.comp_def, List.map_append, Item.kinds_render, List.map_cons,
      List.map_nil] at this
    rw [this]
    simp [Item.kinds]
  exact check_nested (terminated_ofString _) hkinds

end BlockSyntax
