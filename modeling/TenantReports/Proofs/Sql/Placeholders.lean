import TenantReports.Sql.Query

/-!
# Bound values and the text of a statement

The text of a statement has a placeholder where its tokens have a bound value, and the values
themselves nowhere. Statements whose tokens differ only in their bound values therefore have one
text, in every dialect. Blanking is what makes this precise: it puts null for every bound value,
in tokens, expressions and queries, and the tokens of what is blanked are blanked tokens.

## Main definitions

* `Token.blank`, `Expr.blank`, `Query.blank`: without the bound values

## Main results

* `renderChars_append`: the text of tokens, one part after the other
* `renderChars_placeholder`: where a bound value is among the tokens, its placeholder is in the text
* `statement_sql_congr`: queries that differ only in bound values have one text
-/

namespace TenantReports.Sql

/-! ## Tokens -/

@[simp] theorem boundValues_append (ts us : List Token) :
    boundValues (ts ++ us) = boundValues ts ++ boundValues us := List.filterMap_append

@[simp] theorem boundValues_param (v : Literal) (ts : List Token) :
    boundValues (.param v :: ts) = v :: boundValues ts := rfl

/-- The text of tokens, one part after the other: the placeholders go on where those of the first
part end. -/
theorem renderChars_append (d : Dialect) (n : Nat) (ts us : List Token) :
    renderChars d n (ts ++ us)
      = renderChars d n ts ++ renderChars d (n + (boundValues ts).length) us := by
  induction ts generalizing n with
  | nil => rfl
  | cons t ts ih =>
    cases t with
    | param v =>
      rw [List.cons_append, renderChars, renderChars, ih, boundValues_param, List.length_cons,
        List.append_assoc, Nat.add_right_comm, Nat.add_assoc]
    | _ =>
      rw [List.cons_append, renderChars, renderChars, ih, List.append_assoc]
      · rfl
      all_goals simp

/-- **Where a bound value is among the tokens**, its placeholder is in the text, with the number of
the value. -/
theorem renderChars_placeholder (d : Dialect) (before : List Token) (v : Literal)
    (after : List Token) :
    renderChars d 1 (before ++ .param v :: after)
      = renderChars d 1 before ++ d.placeholder ((boundValues before).length + 1)
        ++ renderChars d ((boundValues before).length + 2) after := by
  rw [renderChars_append, renderChars, List.append_assoc, Nat.add_comm 1, Nat.add_assoc]

/-- The value itself is bound under this number. -/
theorem getElem?_boundValues (before : List Token) (v : Literal) (after : List Token) :
    (boundValues (before ++ .param v :: after))[(boundValues before).length]? = some v := by
  rw [boundValues_append, List.getElem?_append_right (Nat.le_refl _), Nat.sub_self]
  rfl

/-- A token without its bound value. -/
def Token.blank : Token → Token
  | .param _ => .param .null
  | t => t

theorem renderChars_map_blank (d : Dialect) (n : Nat) (ts : List Token) :
    renderChars d n (ts.map Token.blank) = renderChars d n ts := by
  induction ts generalizing n with
  | nil => rfl
  | cons t ts ih => cases t <;> simp only [List.map_cons, Token.blank, renderChars, ih]

theorem joined_map_blank (items : List (List Token)) :
    joined (items.map (List.map Token.blank)) = (joined items).map Token.blank := by
  induction items with
  | nil => rfl
  | cons ts rest ih =>
    cases rest with
    | nil => rfl
    | cons us rest =>
      rw [List.map_cons] at ih ⊢
      simp only [List.map_cons, joined] at ih ⊢
      simp [ih, Token.blank]

theorem parenthesized_map_blank (items : List (List Token)) :
    parenthesized (items.map (List.map Token.blank)) = (parenthesized items).map Token.blank := by
  simp [parenthesized, joined_map_blank, Token.blank]

/-! ## Expressions -/

namespace Expr

mutual

/-- An expression without its bound values. -/
def blank : Expr → Expr
  | .column table name => .column table name
  | .literal v => .literal v
  | .param _ => .param .null
  | .binary op l r => .binary op (blank l) (blank r)
  | .call f args => .call f (blankList args)
  | .isIn e values => .isIn (blank e) (blankList values)
  | .between e low high => .between (blank e) (blank low) (blank high)
  | .isNull e => .isNull (blank e)
  | .like e pattern c => .like (blank e) (blank pattern) c
  | .star table => .star table

/-- Each of a list of expressions without its bound values. -/
def blankList : List Expr → List Expr
  | [] => []
  | e :: es => blank e :: blankList es

end

theorem blankList_eq_map (es : List Expr) : blankList es = es.map blank := by
  induction es with
  | nil => rfl
  | cons e es ih => rw [blankList, List.map_cons, ih]

mutual

/-- The tokens of an expression without its bound values are its tokens without them. -/
theorem tokens_blank (e : Expr) : e.blank.tokens = e.tokens.map Token.blank := by
  cases e with
  | column table name => cases table <;> rfl
  | literal v => rfl
  | param v => rfl
  | binary op l r => cases op <;> simp [blank, tokens, tokens_blank l, tokens_blank r, Token.blank,
      BinaryOp.token]
  | call f args => simp [blank, tokens, tokensOfList_blankList args, parenthesized_map_blank,
      Token.blank]
  | isIn e values =>
    cases values with
    | nil => rfl
    | cons v vs =>
      have hvalues := tokensOfList_blankList (v :: vs)
      rw [blankList] at hvalues
      simp [blank, blankList, tokens, hvalues, tokens_blank e, parenthesized_map_blank, spaced,
        Token.blank]
  | between e low high => simp [blank, tokens, tokens_blank e, tokens_blank low, tokens_blank high,
      spaced, Token.blank]
  | isNull e => simp [blank, tokens, tokens_blank e, Token.blank]
  | like e pattern c => simp [blank, tokens, tokens_blank e, tokens_blank pattern, spaced,
      Token.blank]
  | star table => cases table <;> rfl

theorem tokensOfList_blankList (es : List Expr) :
    tokensOfList (blankList es) = (tokensOfList es).map (List.map Token.blank) := by
  cases es with
  | nil => rfl
  | cons e es => rw [blankList, tokensOfList, tokensOfList, List.map_cons, tokens_blank e,
      tokensOfList_blankList es]

end

end Expr

/-! ## Queries -/

/-- An output column without its bound values. -/
def SelectItem.blank (s : SelectItem) : SelectItem := { s with expr := s.expr.blank }

/-- A join without its bound values. -/
def JoinClause.blank (j : JoinClause) : JoinClause := { j with on := j.on.blank }

/-- An entry of the order without its bound values. -/
def OrderItem.blank (o : OrderItem) : OrderItem := { o with expr := o.expr.blank }

theorem aliasTokens_map_blank (called : Option String) :
    (aliasTokens called).map Token.blank = aliasTokens called := by
  cases called <;> rfl

theorem SelectItem.tokens_blank (s : SelectItem) :
    s.blank.tokens = s.tokens.map Token.blank := by
  simp [SelectItem.blank, SelectItem.tokens, Expr.tokens_blank, aliasTokens_map_blank]

theorem TableRef.tokens_map_blank (t : TableRef) : t.tokens.map Token.blank = t.tokens := by
  simp [TableRef.tokens, aliasTokens_map_blank, Token.blank]

theorem JoinClause.tokens_blank (j : JoinClause) :
    j.blank.tokens = j.tokens.map Token.blank := by
  simp [JoinClause.blank, JoinClause.tokens, Expr.tokens_blank, TableRef.tokens_map_blank, spaced,
    Token.blank]

theorem OrderItem.tokens_blank (o : OrderItem) :
    o.blank.tokens = o.tokens.map Token.blank := by
  simp [OrderItem.blank, OrderItem.tokens, Expr.tokens_blank, Token.blank]

namespace Query

/-- A query without its bound values. -/
def blank (q : Query) : Query :=
  { q with
    select := q.select.map SelectItem.blank
    joins := q.joins.map JoinClause.blank
    condition := q.condition.map Expr.blank
    groupBy := q.groupBy.map Expr.blank
    orderBy := q.orderBy.map OrderItem.blank }

theorem selectTokens_map_blank (items : List SelectItem) :
    selectTokens (items.map SelectItem.blank) = (selectTokens items).map Token.blank := by
  induction items with
  | nil => rfl
  | cons s rest ih =>
    cases rest with
    | nil => simp [selectTokens, SelectItem.tokens_blank, Token.blank]
    | cons s' rest =>
      simp only [List.map_cons, selectTokens] at ih ⊢
      simp [ih, SelectItem.tokens_blank, Token.blank]

theorem listClause_map_blank (k : Keyword) (items : List (List Token)) :
    listClause k (items.map (List.map Token.blank)) = (listClause k items).map Token.blank := by
  unfold listClause
  rw [List.isEmpty_map]
  split
  · rfl
  · simp [joined_map_blank, Token.blank]

/-- The tokens of a query without its bound values are its tokens without them. -/
theorem tokens_blank (q : Query) : q.blank.tokens = q.tokens.map Token.blank := by
  have hjoins : (q.joins.map JoinClause.blank).flatMap (fun j => .newline :: j.tokens)
      = (q.joins.flatMap fun j => .newline :: j.tokens).map Token.blank := by
    rw [List.flatMap_map, List.map_flatMap]
    simp only [JoinClause.tokens_blank, List.map_cons, Token.blank]
  have hgroupBy : (q.groupBy.map Expr.blank).map Expr.tokens
      = (q.groupBy.map Expr.tokens).map (List.map Token.blank) := by
    simp only [List.map_map, Function.comp_def, Expr.tokens_blank]
  have horderBy : (q.orderBy.map OrderItem.blank).map OrderItem.tokens
      = (q.orderBy.map OrderItem.tokens).map (List.map Token.blank) := by
    simp only [List.map_map, Function.comp_def, OrderItem.tokens_blank]
  obtain ⟨select, source, joins, condition, groupBy, orderBy, limit⟩ := q
  simp only [tokens, blank, List.map_append, List.map_cons, selectTokens_map_blank, hjoins,
    hgroupBy, horderBy, listClause_map_blank, Token.blank]
  -- what is left are the clauses that a query may be without
  congr 1
  · cases source <;> cases condition <;>
      simp [TableRef.tokens_map_blank, Expr.tokens_blank, Token.blank]
  · cases limit <;> rfl

/-- **Queries that differ only in bound values have one text**, in every dialect. -/
theorem statement_sql_congr {q₁ q₂ : Query} (h : q₁.blank = q₂.blank) (d : Dialect) :
    (q₁.statement d).sql = (q₂.statement d).sql := by
  have htokens : q₁.tokens.map Token.blank = q₂.tokens.map Token.blank := by
    rw [← tokens_blank, ← tokens_blank, h]
  simp only [statement, Statement.ofTokens, render]
  rw [← renderChars_map_blank, htokens, renderChars_map_blank]

end Query

end TenantReports.Sql
