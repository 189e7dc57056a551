import TenantReports.Sql.Query

/-!
# A grammar of queries

A grammar of queries, as a reader of their tokens. AND binds weakest and to the left; comparisons,
choices, ranges, patterns and null checks bind tighter and take operands: columns, values,
placeholders and calls. There are no parentheses but those of calls and choices.

Queries are written without parentheses too, so they can be read back only if their expressions
need none. These fit: what a comparison is made of are operands, and the right side of AND is not
another AND. The AND of a range does no harm, as the bounds of a range are operands.

## Main definitions

* `operand?`, `comparison?`, `condition?`: the expressions at the start of tokens
* `Query.read?`: a query
* `Expr.Fits`: expressions that need no parentheses
* `Expr.asWritten`: choices from no values as they are written
* `Stops`: what follows an expression is not part of it

## Main results

* `Expr.Fits.reads`: expressions that fit are read where they stand
* `Expr.Reads.condition?`: conditions that fit are read back
-/

namespace TenantReports.Sql

/-! ## The grammar -/

/-- A token is layout only. -/
def Token.isLayout : Token → Bool
  | .space => true
  | .newline => true
  | .indent _ => true
  | _ => false

/-- The tokens that mean something. -/
def significant (ts : List Token) : List Token := ts.filter fun t => !t.isLayout

/-- What was read at the start of tokens, if there are fewer left. -/
def within? {α : Type} (ts : List Token) (r : Option (α × List Token)) :
    Option (α × { rest : List Token // rest.length < ts.length }) :=
  r.bind fun p => if h : p.2.length < ts.length then some (p.1, ⟨p.2, h⟩) else none

/-- The character after a pattern that makes the next one in it literal. -/
def escaped? (e pattern : Expr) : List Token → Option (Expr × List Token)
  | .keyword .escape :: .literal (.string s) :: rest =>
    match s.toList with
    | [c] => some (.like e pattern c, rest)
    | _ => none
  | _ => none

mutual

/-- An operand: a column, a value, a placeholder or a call. -/
def operand? (ts : List Token) : Option (Expr × List Token) :=
  match ts with
  | .ident name :: rest =>
    match rest with
    | .symbol .dot :: .ident column :: rest => some (.column (some name) column, rest)
    | .symbol .dot :: .symbol .star :: rest => some (.star (some name), rest)
    | rest => some (.column none name, rest)
  | .symbol .star :: rest => some (.star none, rest)
  | .literal v :: rest => some (.literal v, rest)
  | .param v :: rest => some (.param v, rest)
  | .function f :: .symbol .lparen :: rest =>
    match rest with
    | .symbol .rparen :: rest => some (.call f [], rest)
    | rest => (items? rest).map fun (args, rest) => (.call f args, rest)
  | _ => none
termination_by 6 * ts.length
decreasing_by all_goals grind

/-- Conditions with commas between them, and the parenthesis that closes them. -/
def items? (ts : List Token) : Option (List Expr × List Token) :=
  match within? ts (condition? ts) with
  | some (e, ⟨rest, _⟩) => itemsAfter? e rest
  | none => none
termination_by 6 * ts.length + 5
decreasing_by all_goals grind

/-- Further conditions after one, and the parenthesis that closes them. -/
def itemsAfter? (e : Expr) (ts : List Token) : Option (List Expr × List Token) :=
  match ts with
  | .symbol .comma :: rest => (items? rest).map fun (es, rest) => (e :: es, rest)
  | .symbol .rparen :: rest => some ([e], rest)
  | _ => none
termination_by 6 * ts.length
decreasing_by all_goals grind

/-- An operand alone, or what it is compared with. -/
def comparison? (ts : List Token) : Option (Expr × List Token) :=
  match within? ts (operand? ts) with
  | some (e, ⟨rest, _⟩) => compared? e rest
  | none => none
termination_by 6 * ts.length + 2
decreasing_by all_goals grind

/-- What an operand is compared with, if it is. -/
def compared? (e : Expr) (ts : List Token) : Option (Expr × List Token) :=
  match ts with
  | .symbol .eq :: rest => (operand? rest).map fun (r, rest) => (.binary .eq e r, rest)
  | .symbol .lte :: rest => (operand? rest).map fun (r, rest) => (.binary .lte e r, rest)
  | .symbol .gte :: rest => (operand? rest).map fun (r, rest) => (.binary .gte e r, rest)
  | .keyword .in :: .symbol .lparen :: rest =>
    (items? rest).map fun (values, rest) => (.isIn e values, rest)
  | .keyword .between :: rest =>
    match within? rest (operand? rest) with
    | some (low, ⟨rest, _⟩) => upTo? e low rest
    | none => none
  | .keyword .like :: rest => (operand? rest).bind fun (pattern, rest) => escaped? e pattern rest
  | .keyword .isNull :: rest => some (.isNull e, rest)
  | rest => some (e, rest)
termination_by 6 * ts.length + 1
decreasing_by all_goals grind

/-- The end of a range after its beginning. -/
def upTo? (e low : Expr) (ts : List Token) : Option (Expr × List Token) :=
  match ts with
  | .keyword .and :: rest => (operand? rest).map fun (high, rest) => (.between e low high, rest)
  | _ => none
termination_by 6 * ts.length
decreasing_by all_goals grind

/-- Comparisons with AND between them. -/
def condition? (ts : List Token) : Option (Expr × List Token) :=
  match within? ts (comparison? ts) with
  | some (e, ⟨rest, _⟩) => conjuncts? e rest
  | none => none
termination_by 6 * ts.length + 4
decreasing_by all_goals grind

/-- Further comparisons after an AND, from left to right. -/
def conjuncts? (left : Expr) (ts : List Token) : Option (Expr × List Token) :=
  match ts with
  | .keyword .and :: rest =>
    match within? rest (comparison? rest) with
    | some (right, ⟨rest, _⟩) => conjuncts? (left.and right) rest
    | none => none
  | rest => some (left, rest)
termination_by 6 * ts.length + 3
decreasing_by all_goals grind

end

/-- One or more of what is read by `item?`, with commas between them. -/
def separated? {α : Type} (item? : List Token → Option (α × List Token)) (ts : List Token) :
    Option (List α × List Token) :=
  match within? ts (item? ts) with
  | some (a, ⟨rest, _⟩) =>
    if rest.head? = some (.symbol .comma) then
      (separated? item? rest.tail).map fun (as, rest) => (a :: as, rest)
    else some ([a], rest)
  | none => none
termination_by ts.length
decreasing_by all_goals grind

/-- A name in the output or the query, if there is one. -/
def alias? : List Token → Option String × List Token
  | .keyword .as :: .ident name :: rest => (some name, rest)
  | rest => (none, rest)

/-- An output column. -/
def selectItem? (ts : List Token) : Option (SelectItem × List Token) := do
  let (e, rest) ← condition? ts
  let (called, rest) := alias? rest
  return (⟨e, called⟩, rest)

/-- A table. -/
def table? : List Token → Option (TableRef × List Token)
  | .ident table :: rest =>
    let (called, rest) := alias? rest
    some (⟨table, called⟩, rest)
  | _ => none

/-- The kind of join that begins with a keyword. -/
def joinKind? : Keyword → Option JoinKind
  | .inner => some .inner
  | .left => some .left
  | _ => none

/-- A join after its kind. -/
def joinOf? (kind : JoinKind) : List Token → Option (JoinClause × List Token)
  | .keyword .join :: rest => do
    let (table, rest) ← table? rest
    match rest with
    | .keyword .on :: rest =>
      let (on, rest) ← condition? rest
      return (⟨kind, table, on⟩, rest)
    | _ => none
  | _ => none

/-- Any number of joins. -/
def joins? (ts : List Token) : Option (List JoinClause × List Token) :=
  match ts with
  | .keyword k :: rest =>
    match joinKind? k with
    | none => some ([], ts)
    | some kind =>
      match within? rest (joinOf? kind rest) with
      | some (j, ⟨rest, _⟩) => (joins? rest).map fun (joins, rest) => (j :: joins, rest)
      | none => none
  | _ => some ([], ts)
termination_by ts.length
decreasing_by all_goals grind

/-- An entry of the order, which is ascending unless it says otherwise. -/
def orderItem? (ts : List Token) : Option (OrderItem × List Token) := do
  let (e, rest) ← condition? ts
  match rest with
  | .keyword .desc :: rest => return (⟨e, .desc⟩, rest)
  | .keyword .asc :: rest => return (⟨e, .asc⟩, rest)
  | rest => return (⟨e, .asc⟩, rest)

/-- A number of rows. -/
def limit? : List Token → Option (Nat × List Token)
  | .literal (.int n) :: rest => if 0 ≤ n then some (n.toNat, rest) else none
  | _ => none

/-- A clause that begins with a keyword, if it is there. -/
def clause? {α : Type} (k : Keyword) (body? : List Token → Option (α × List Token))
    (ts : List Token) : Option (Option α × List Token) :=
  match ts with
  | .keyword k' :: rest =>
    if k' = k then (body? rest).map fun (a, rest) => (some a, rest) else some (none, ts)
  | _ => some (none, ts)

/-- A query, to its end. -/
def Query.read? (ts : List Token) : Option Query :=
  match significant ts with
  | .keyword .select :: rest => do
    let (select, rest) ← separated? selectItem? rest
    let (source, rest) ← clause? .from table? rest
    let (joins, rest) ← joins? rest
    let (condition, rest) ← clause? .where_ condition? rest
    let (groupBy, rest) ← clause? .groupBy (separated? condition?) rest
    let (orderBy, rest) ← clause? .orderBy (separated? orderItem?) rest
    let (limit, rest) ← clause? .limit limit? rest
    if rest.isEmpty then
      return {
        select, source, joins, condition, groupBy := groupBy.getD [], orderBy := orderBy.getD []
        limit }
    else none
  | _ => none

/-! ## Expressions that need no parentheses -/

/-- What an expression may be part of. -/
inductive Level where
  | operand
  | comparison
  | condition
deriving DecidableEq, Repr

namespace Expr

/-- An expression needs no parentheses where one of a level stands. -/
inductive Fits : Level → Expr → Prop
  | column (table : Option String) (name : String) : Fits .operand (.column table name)
  | literal (v : Literal) : Fits .operand (.literal v)
  | param (v : Literal) : Fits .operand (.param v)
  | star (table : Option String) : Fits .operand (.star table)
  | call (f : String) {args : List Expr} (hargs : ∀ a ∈ args, Fits .condition a) :
    Fits .operand (.call f args)
  | compared {op : BinaryOp} {l r : Expr} (hop : op ≠ .and) (hl : Fits .operand l)
    (hr : Fits .operand r) : Fits .comparison (.binary op l r)
  | isIn {e : Expr} {values : List Expr} (he : Fits .operand e)
    (hvalues : ∀ v ∈ values, Fits .condition v) : Fits .comparison (.isIn e values)
  | between {e low high : Expr} (he : Fits .operand e) (hlow : Fits .operand low)
    (hhigh : Fits .operand high) : Fits .comparison (.between e low high)
  | isNull {e : Expr} (he : Fits .operand e) : Fits .comparison (.isNull e)
  | like {e pattern : Expr} (c : Char) (he : Fits .operand e) (hpattern : Fits .operand pattern) :
    Fits .comparison (.like e pattern c)
  | ofOperand {e : Expr} (he : Fits .operand e) : Fits .comparison e
  | and {l r : Expr} (hl : Fits .condition l) (hr : Fits .comparison r) : Fits .condition (l.and r)
  | ofComparison {e : Expr} (he : Fits .comparison e) : Fits .condition e

/-- A condition that is never true. -/
def never : Expr := .binary .eq (.literal (.int 1)) (.literal (.int 0))

mutual

/-- An expression as it is written: a choice from no values is never true. -/
def asWritten : Expr → Expr
  | .column table name => .column table name
  | .literal v => .literal v
  | .param v => .param v
  | .binary op l r => .binary op (asWritten l) (asWritten r)
  | .call f args => .call f (asWrittenList args)
  | .isIn e values =>
    if values.isEmpty then never else .isIn (asWritten e) (asWrittenList values)
  | .between e low high => .between (asWritten e) (asWritten low) (asWritten high)
  | .isNull e => .isNull (asWritten e)
  | .like e pattern c => .like (asWritten e) (asWritten pattern) c
  | .star table => .star table

/-- Each of a list of expressions as it is written. -/
def asWrittenList : List Expr → List Expr
  | [] => []
  | e :: es => asWritten e :: asWrittenList es

end

end Expr

/-! ## What may follow -/

/-- A token after an expression of a level may be part of it. -/
def Level.continues : Level → Token → Bool
  | _, .symbol .dot => true
  | .operand, _ => false
  | _, .symbol .eq => true
  | _, .symbol .lte => true
  | _, .symbol .gte => true
  | _, .keyword .in => true
  | _, .keyword .between => true
  | _, .keyword .like => true
  | _, .keyword .isNull => true
  | .comparison, _ => false
  | .condition, .keyword .and => true
  | .condition, _ => false

/-- The tokens after an expression of a level are not part of it. -/
def Stops (level : Level) (rest : List Token) : Prop :=
  ∀ t ∈ rest.head?, level.continues t = false

theorem stops_cons {level : Level} {t : Token} {rest : List Token} :
    Stops level (t :: rest) ↔ level.continues t = false := by
  simp [Stops]

theorem Stops.operand {rest : List Token} (h : Stops .comparison rest) : Stops .operand rest := by
  intro t ht
  have hstop := h t ht
  revert hstop
  cases t with
  | symbol s => cases s <;> simp [Level.continues]
  | _ => simp [Level.continues]

theorem Stops.comparison {rest : List Token} (h : Stops .condition rest) :
    Stops .comparison rest := by
  intro t ht
  have hstop := h t ht
  revert hstop
  cases t with
  | symbol s => cases s <;> simp [Level.continues]
  | keyword k => cases k <;> simp [Level.continues]
  | _ => simp [Level.continues]

/-! ## Significant tokens -/

@[simp] theorem significant_nil : significant [] = [] := rfl

@[simp] theorem significant_append (ts us : List Token) :
    significant (ts ++ us) = significant ts ++ significant us := List.filter_append ..

@[simp] theorem significant_keyword (k : Keyword) (ts : List Token) :
    significant (.keyword k :: ts) = .keyword k :: significant ts := rfl

@[simp] theorem significant_symbol (s : Symbol) (ts : List Token) :
    significant (.symbol s :: ts) = .symbol s :: significant ts := rfl

@[simp] theorem significant_ident (name : String) (ts : List Token) :
    significant (.ident name :: ts) = .ident name :: significant ts := rfl

@[simp] theorem significant_literal (v : Literal) (ts : List Token) :
    significant (.literal v :: ts) = .literal v :: significant ts := rfl

@[simp] theorem significant_param (v : Literal) (ts : List Token) :
    significant (.param v :: ts) = .param v :: significant ts := rfl

@[simp] theorem significant_function (f : String) (ts : List Token) :
    significant (.function f :: ts) = .function f :: significant ts := rfl

@[simp] theorem significant_space (ts : List Token) :
    significant (.space :: ts) = significant ts := rfl

@[simp] theorem significant_newline (ts : List Token) :
    significant (.newline :: ts) = significant ts := rfl

@[simp] theorem significant_indent (depth : Nat) (ts : List Token) :
    significant (.indent depth :: ts) = significant ts := rfl

/-- Tokens begin with one that does not close a list. -/
def Opens (ts : List Token) : Prop := ∃ t rest, ts = t :: rest ∧ t ≠ .symbol .rparen

theorem Opens.append {ts : List Token} (h : Opens ts) (us : List Token) : Opens (ts ++ us) := by
  obtain ⟨t, rest, rfl, ht⟩ := h
  exact ⟨t, rest ++ us, rfl, ht⟩

theorem Opens.length_lt {ts : List Token} (h : Opens ts) (rest : List Token) :
    rest.length < (ts ++ rest).length := by
  obtain ⟨t, us, rfl, -⟩ := h
  rw [List.length_append, List.length_cons]
  omega

theorem Expr.opens (e : Expr) : Opens (significant e.tokens) := by
  cases e with
  | column table name => cases table <;> exact ⟨_, _, rfl, by simp⟩
  | literal v => exact ⟨_, _, rfl, by simp⟩
  | param v => exact ⟨_, _, rfl, by simp⟩
  | binary op l r =>
    simp only [tokens, List.append_assoc, significant_append]
    exact l.opens.append _
  | call f args => exact ⟨_, _, rfl, by simp⟩
  | isIn e values =>
    rw [tokens]
    split
    · exact ⟨_, _, rfl, by simp⟩
    · simp only [List.append_assoc, significant_append]
      exact e.opens.append _
  | between e low high =>
    simp only [tokens, List.append_assoc, significant_append]
    exact e.opens.append _
  | isNull e =>
    simp only [tokens, significant_append]
    exact e.opens.append _
  | like e pattern c =>
    simp only [tokens, List.append_assoc, significant_append]
    exact e.opens.append _
  | star table => cases table <;> exact ⟨_, _, rfl, by simp⟩

theorem Expr.opens_joined (e : Expr) (es : List Expr) :
    Opens (significant (joined (tokensOfList (e :: es)))) := by
  cases es with
  | nil => exact e.opens
  | cons e' es =>
    simp only [tokensOfList, joined, significant_append]
    exact e.opens.append _

theorem within?_some {α : Type} {ts rest : List Token} {r : Option (α × List Token)} {a : α}
    (hr : r = some (a, rest)) (h : rest.length < ts.length) :
    within? ts r = some (a, ⟨rest, h⟩) := by
  rw [hr, within?, Option.bind_some, dif_pos h]

/-! ## Reading expressions -/

namespace Expr

/-- An expression is read where one of a level stands, with any rest behind it that is not part of
it. Conditions are read up to an AND, from where more of them are read. -/
def Reads : Level → Expr → Prop
  | .operand, e => ∀ rest, Stops .operand rest →
    operand? (significant e.tokens ++ rest) = some (e.asWritten, rest)
  | .comparison, e => ∀ rest, Stops .comparison rest →
    comparison? (significant e.tokens ++ rest) = some (e.asWritten, rest)
  | .condition, e => ∀ rest, Stops .comparison rest →
    condition? (significant e.tokens ++ rest) = conjuncts? e.asWritten rest

/-- After an operand comes what it is compared with. -/
theorem comparison?_of_reads {e : Expr} (he : Reads .operand e) {rest : List Token}
    (hrest : Stops .operand rest) :
    comparison? (significant e.tokens ++ rest) = compared? e.asWritten rest := by
  rw [comparison?, within?_some (he rest hrest) (e.opens.length_lt rest)]

theorem compared?_stops {e : Expr} {rest : List Token} (h : Stops .comparison rest) :
    compared? e rest = some (e, rest) := by
  cases rest with
  | nil => simp [compared?]
  | cons t rest =>
    have ht := stops_cons.mp h
    unfold compared?
    split <;> simp_all [Level.continues]

theorem conjuncts?_stops {e : Expr} {rest : List Token} (h : Stops .condition rest) :
    conjuncts? e rest = some (e, rest) := by
  cases rest with
  | nil => simp [conjuncts?]
  | cons t rest =>
    have ht := stops_cons.mp h
    unfold conjuncts?
    split <;> simp_all [Level.continues]

/-- A condition is read back, with any rest behind it that is not part of it. -/
theorem Reads.condition? {e : Expr} (he : Reads .condition e) {rest : List Token}
    (hrest : Stops .condition rest) :
    condition? (significant e.tokens ++ rest) = some (e.asWritten, rest) := by
  rw [he rest hrest.comparison, conjuncts?_stops hrest]

/-! ### Operands -/

theorem reads_column (table : Option String) (name : String) :
    Reads .operand (.column table name) := by
  intro rest hrest
  cases table with
  | some table =>
    change operand? (.ident table :: .symbol .dot :: .ident name :: rest) = _
    simp [operand?, asWritten]
  | none =>
    change operand? (.ident name :: rest) = _
    unfold operand?
    -- a point would qualify the name
    split <;> simp_all [asWritten, stops_cons, Level.continues]

theorem reads_star (table : Option String) : Reads .operand (.star table) := by
  intro rest _
  cases table with
  | some table =>
    change operand? (.ident table :: .symbol .dot :: .symbol .star :: rest) = _
    simp [operand?, asWritten]
  | none =>
    change operand? (.symbol .star :: rest) = _
    simp [operand?, asWritten]

/-- Conditions with commas between them are read up to the parenthesis that closes them. -/
theorem items?_joined {e : Expr} {es : List Expr} (h : ∀ a ∈ e :: es, Reads .condition a)
    (rest : List Token) :
    items? (significant (joined (tokensOfList (e :: es))) ++ .symbol .rparen :: rest)
      = some (asWrittenList (e :: es), rest) := by
  induction es generalizing e with
  | nil =>
    have hstop : Stops .condition (.symbol .rparen :: rest) := stops_cons.mpr rfl
    have he := (h e List.mem_cons_self).condition? hstop
    change items? (significant e.tokens ++ .symbol .rparen :: rest) = _
    rw [items?, within?_some he (e.opens.length_lt _)]
    simp [itemsAfter?, asWrittenList]
  | cons e' es ih =>
    have hrest := ih fun a ha => h a (List.mem_cons_of_mem e ha)
    have htokens : significant (joined (tokensOfList (e :: e' :: es))) ++ .symbol .rparen :: rest
        = significant e.tokens ++ .symbol .comma ::
          (significant (joined (tokensOfList (e' :: es))) ++ .symbol .rparen :: rest) := by
      simp [tokensOfList, joined]
    have hstop : Stops .condition (.symbol .comma ::
        (significant (joined (tokensOfList (e' :: es))) ++ .symbol .rparen :: rest)) :=
      stops_cons.mpr rfl
    have he := (h e List.mem_cons_self).condition? hstop
    rw [htokens, items?, within?_some he (e.opens.length_lt _)]
    simp [itemsAfter?, hrest, asWrittenList]

theorem reads_call (f : String) {args : List Expr} (hargs : ∀ a ∈ args, Reads .condition a) :
    Reads .operand (.call f args) := by
  intro rest _
  cases args with
  | nil =>
    change operand? (.function f :: .symbol .lparen :: .symbol .rparen :: rest) = _
    simp [operand?, asWritten, asWrittenList]
  | cons a args =>
    have htokens : significant (tokens (.call f (a :: args))) ++ rest
        = .function f :: .symbol .lparen ::
          (significant (joined (tokensOfList (a :: args))) ++ .symbol .rparen :: rest) := by
      simp [tokens, parenthesized]
    have hitems := items?_joined hargs rest
    rw [htokens]
    -- what follows the parenthesis does not close it
    obtain ⟨t, ts, hts, ht⟩ := (opens_joined a args).append (.symbol .rparen :: rest)
    rw [hts] at hitems ⊢
    unfold operand?
    split <;> simp_all [asWritten]

/-! ### Comparisons -/

theorem reads_ofOperand {e : Expr} (he : Reads .operand e) : Reads .comparison e := by
  intro rest hrest
  rw [comparison?_of_reads he hrest.operand, compared?_stops hrest]

theorem reads_compared {op : BinaryOp} {l r : Expr} (hop : op ≠ .and) (hl : Reads .operand l)
    (hr : Reads .operand r) : Reads .comparison (.binary op l r) := by
  intro rest hrest
  have htokens : significant (tokens (.binary op l r)) ++ rest
      = significant l.tokens ++ op.token :: (significant r.tokens ++ rest) := by
    cases op <;> simp [tokens, BinaryOp.token]
  have hstop : Stops .operand (op.token :: (significant r.tokens ++ rest)) :=
    stops_cons.mpr (by cases op <;> rfl)
  rw [htokens, comparison?_of_reads hl hstop]
  cases op with
  | and => exact absurd rfl hop
  | eq | lte | gte => simp [compared?, BinaryOp.token, hr rest hrest.operand, asWritten]

theorem reads_never : Reads .comparison never := by
  refine reads_compared (by decide) ?_ ?_ <;>
    · intro rest _
      simp [tokens, operand?, asWritten]

theorem reads_isIn {e : Expr} {values : List Expr} (he : Reads .operand e)
    (hvalues : ∀ v ∈ values, Reads .condition v) : Reads .comparison (.isIn e values) := by
  intro rest hrest
  cases values with
  | nil =>
    -- a choice from no values is written as a condition that is never true
    have hnever := reads_never rest hrest
    simpa [asWritten, tokens, never, neverTokens, BinaryOp.token] using hnever
  | cons v values =>
    have htokens : significant (tokens (.isIn e (v :: values))) ++ rest
        = significant e.tokens ++ .keyword .in :: .symbol .lparen ::
          (significant (joined (tokensOfList (v :: values))) ++ .symbol .rparen :: rest) := by
      simp [tokens, parenthesized, spaced]
    rw [htokens, comparison?_of_reads he (stops_cons.mpr rfl)]
    simp [compared?, items?_joined hvalues rest, asWritten]

theorem reads_between {e low high : Expr} (he : Reads .operand e) (hlow : Reads .operand low)
    (hhigh : Reads .operand high) : Reads .comparison (.between e low high) := by
  intro rest hrest
  have htokens : significant (tokens (.between e low high)) ++ rest
      = significant e.tokens ++ .keyword .between :: (significant low.tokens ++
        .keyword .and :: (significant high.tokens ++ rest)) := by
    simp [tokens, spaced]
  rw [htokens, comparison?_of_reads he (stops_cons.mpr rfl)]
  -- the AND after the first bound belongs to the range
  have hand : Stops .operand (.keyword .and :: (significant high.tokens ++ rest)) :=
    stops_cons.mpr rfl
  unfold compared?
  simp only [within?_some (hlow _ hand) (low.opens.length_lt _)]
  simp [upTo?, hhigh rest hrest.operand, asWritten]

theorem reads_isNull {e : Expr} (he : Reads .operand e) : Reads .comparison (.isNull e) := by
  intro rest _
  have htokens : significant (tokens (.isNull e)) ++ rest
      = significant e.tokens ++ .keyword .isNull :: rest := by
    simp [tokens]
  rw [htokens, comparison?_of_reads he (stops_cons.mpr rfl)]
  simp [compared?, asWritten]

theorem reads_like {e pattern : Expr} (c : Char) (he : Reads .operand e)
    (hpattern : Reads .operand pattern) : Reads .comparison (.like e pattern c) := by
  intro rest _
  have htokens : significant (tokens (.like e pattern c)) ++ rest
      = significant e.tokens ++ .keyword .like :: (significant pattern.tokens ++
        .keyword .escape :: .literal (.string (String.ofList [c])) :: rest) := by
    simp [tokens, spaced]
  rw [htokens, comparison?_of_reads he (stops_cons.mpr rfl)]
  have hescape : Stops .operand
      (.keyword .escape :: .literal (.string (String.ofList [c])) :: rest) := stops_cons.mpr rfl
  have hread := hpattern _ hescape
  simp only [compared?, hread, Option.bind_some, escaped?, String.toList_ofList, asWritten]

/-! ### Conditions -/

theorem reads_ofComparison {e : Expr} (he : Reads .comparison e) : Reads .condition e := by
  intro rest hrest
  rw [Sql.condition?, within?_some (he rest hrest) (e.opens.length_lt rest)]

theorem reads_and {l r : Expr} (hl : Reads .condition l) (hr : Reads .comparison r) :
    Reads .condition (l.and r) := by
  intro rest hrest
  have htokens : significant (l.and r).tokens ++ rest
      = significant l.tokens ++ .keyword .and :: (significant r.tokens ++ rest) := by
    simp [Expr.and, tokens, BinaryOp.token]
  -- after the left side the right one is read, and then whatever else there is
  rw [htokens, hl _ (stops_cons.mpr rfl), conjuncts?,
    within?_some (hr rest hrest) (r.opens.length_lt rest)]
  rfl

/-- **Expressions that fit are read.** -/
theorem Fits.reads {level : Level} {e : Expr} (h : Fits level e) : Reads level e := by
  induction h with
  | column table name => exact reads_column table name
  | literal v => exact fun rest _ => by simp [tokens, operand?, asWritten]
  | param v => exact fun rest _ => by simp [tokens, operand?, asWritten]
  | star table => exact reads_star table
  | call f _ ih => exact reads_call f ih
  | compared hop _ _ hl hr => exact reads_compared hop hl hr
  | isIn _ _ he hvalues => exact reads_isIn he hvalues
  | between _ _ _ he hlow hhigh => exact reads_between he hlow hhigh
  | isNull _ he => exact reads_isNull he
  | like c _ _ he hpattern => exact reads_like c he hpattern
  | ofOperand _ he => exact reads_ofOperand he
  | and _ _ hl hr => exact reads_and hl hr
  | ofComparison _ he => exact reads_ofComparison he

end Expr

end TenantReports.Sql
