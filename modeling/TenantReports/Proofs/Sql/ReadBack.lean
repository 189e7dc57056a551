import TenantReports.Proofs.Sql.Grammar

/-!
# Queries read back

A query whose expressions need no parentheses is read back from its tokens: the grammar finds the
parts it was written from, and ends each of them where it ends. What begins with a keyword of its
own cannot be taken for a part that is not there, and does not go on with an expression before it.

Two things are not read back as they are, because they are not written as they are: a choice from
no values, and a limit beyond the greatest signed integer of 64 bits.

## Main definitions

* `Ends`, `Tail`: what may follow a part of a query
* `Query.Fits`: queries that need no parentheses
* `Query.asWritten`: a query with its choices from no values as they are written

## Main results

* `separated?_joined`, `clause?_clauseTokens`, `joins?_tokens`: the parts of a query are read back
* `Query.read?_tokens`: queries that fit are read back
-/

namespace TenantReports.Sql

/-! ## What may follow -/

/-- A token is the keyword of a clause, or a comma. -/
def Token.ends : Token → Bool
  | .symbol .comma => true
  | .keyword .from => true
  | .keyword .inner => true
  | .keyword .left => true
  | .keyword .on => true
  | .keyword .where_ => true
  | .keyword .groupBy => true
  | .keyword .orderBy => true
  | .keyword .limit => true
  | _ => false

/-- What follows a part of a query begins with a comma or another part, if there is anything. -/
def Ends (rest : List Token) : Prop := ∀ t ∈ rest.head?, t.ends = true

theorem ends_cons {t : Token} (h : t.ends = true) (rest : List Token) : Ends (t :: rest) := by
  rintro _ ⟨⟩
  exact h

theorem Ends.stops {rest : List Token} (h : Ends rest) : Stops .condition rest := by
  intro t ht
  have hend := h t ht
  revert hend
  cases t with
  | symbol s => cases s <;> simp [Token.ends, Level.continues]
  | keyword k => cases k <;> simp [Token.ends, Level.continues]
  | _ => simp [Token.ends]

theorem alias?_aliasTokens (called : Option String) {rest : List Token} (h : Ends rest) :
    alias? (significant (aliasTokens called) ++ rest) = (called, rest) := by
  cases called with
  | some name => rfl
  | none =>
    change alias? rest = (none, rest)
    unfold alias?
    split
    · exact absurd (h _ rfl) (by decide)
    · rfl

/-- A part that is read with commas between, if it is read back before each comma and at the
end. -/
theorem separated?_joined {α β : Type} {item? : List Token → Option (β × List Token)}
    {tokens : α → List Token} {read : α → β} {a : α} {as : List α}
    (hread : ∀ x ∈ a :: as, ∀ rest, Ends rest →
      item? (significant (tokens x) ++ rest) = some (read x, rest))
    (hopens : ∀ x, Opens (significant (tokens x))) {rest : List Token} (hrest : Ends rest)
    (hcomma : rest.head? ≠ some (.symbol .comma)) :
    separated? item? (significant (joined ((a :: as).map tokens)) ++ rest)
      = some ((a :: as).map read, rest) := by
  induction as generalizing a with
  | nil =>
    change separated? item? (significant (tokens a) ++ rest) = _
    rw [separated?, within?_some (hread a List.mem_cons_self rest hrest)
      ((hopens a).length_lt rest)]
    simp [hcomma]
  | cons a' as ih =>
    have hlater := ih fun x hx => hread x (List.mem_cons_of_mem a hx)
    have htokens : significant (joined ((a :: a' :: as).map tokens)) ++ rest
        = significant (tokens a) ++ .symbol .comma ::
          (significant (joined ((a' :: as).map tokens)) ++ rest) := by
      simp [joined]
    have hfirst := hread a List.mem_cons_self (.symbol .comma ::
      (significant (joined ((a' :: as).map tokens)) ++ rest)) (ends_cons rfl _)
    rw [htokens, separated?, within?_some hfirst ((hopens a).length_lt _)]
    simp only [List.head?_cons, if_true, List.tail_cons, hlater]
    rfl

/-- The tokens begin with one of some keywords, or not at all. -/
def Tail (ks : List Keyword) (ts : List Token) : Prop := ∀ t ∈ ts.head?, ∃ k ∈ ks, t = .keyword k

theorem Tail.ends {ks : List Keyword} {ts : List Token} (h : Tail ks ts)
    (hks : ∀ k ∈ ks, (Token.keyword k).ends = true) : Ends ts := by
  intro t ht
  obtain ⟨k, hk, rfl⟩ := h t ht
  exact hks k hk

theorem Tail.head?_ne_comma {ks : List Keyword} {ts : List Token} (h : Tail ks ts) :
    ts.head? ≠ some (.symbol .comma) := by
  intro hcomma
  obtain ⟨k, -, hk⟩ := h _ hcomma
  cases hk

theorem Tail.mono {ks ks' : List Keyword} {ts : List Token} (h : Tail ks ts) (hks : ks ⊆ ks') :
    Tail ks' ts := by
  intro t ht
  obtain ⟨k, hk, rfl⟩ := h t ht
  exact ⟨k, hks hk, rfl⟩

/-- The tokens of a clause, if it is there. -/
def clauseTokens {α : Type} (k : Keyword) (tokens : α → List Token) : Option α → List Token
  | some a => .keyword k :: tokens a
  | none => []

theorem Tail.clause {α : Type} {ks : List Keyword} {rest : List Token} (h : Tail ks rest)
    (k : Keyword) (tokens : α → List Token) (o : Option α) :
    Tail (k :: ks) (clauseTokens k tokens o ++ rest) := by
  cases o with
  | some a =>
    rintro _ ⟨⟩
    exact ⟨k, List.mem_cons_self, rfl⟩
  | none => exact h.mono (List.subset_cons_self k ks)

/-- A clause is read if it is there, and what follows is not taken for it. -/
theorem clause?_clauseTokens {α β : Type} {k : Keyword}
    {body? : List Token → Option (β × List Token)} {tokens : α → List Token} {read : α → β}
    {o : Option α} {ks : List Keyword} {rest : List Token}
    (hbody : ∀ a, o = some a → body? (tokens a ++ rest) = some (read a, rest))
    (hrest : Tail ks rest) (hk : k ∉ ks) :
    clause? k body? (clauseTokens k tokens o ++ rest) = some (o.map read, rest) := by
  cases o with
  | some a => simp [clauseTokens, clause?, hbody a rfl]
  | none =>
    change clause? k body? rest = some (none, rest)
    unfold clause?
    split
    · rename_i k' rest'
      obtain ⟨k'', hk'', heq⟩ := hrest _ rfl
      cases heq
      rw [if_neg]
      rintro rfl
      exact hk hk''
    · rfl

/-! ## The parts of queries -/

/-- A table is followed by its name in the query, if it has one. -/
theorem table?_tokens (t : TableRef) {rest : List Token} (h : Ends rest) :
    table? (significant t.tokens ++ rest) = some (t, rest) := by
  change table? (.ident t.table :: (significant (aliasTokens t.called) ++ rest)) = _
  rw [table?, alias?_aliasTokens t.called h]

/-- An output column as it is written. -/
def SelectItem.asWritten (s : SelectItem) : SelectItem := { s with expr := s.expr.asWritten }

/-- A join as it is written. -/
def JoinClause.asWritten (j : JoinClause) : JoinClause := { j with on := j.on.asWritten }

/-- An entry of the order as it is written. -/
def OrderItem.asWritten (o : OrderItem) : OrderItem := { o with expr := o.expr.asWritten }

theorem selectItem?_tokens {s : SelectItem} (hs : s.expr.Fits .condition) {rest : List Token}
    (h : Ends rest) :
    selectItem? (significant s.tokens ++ rest) = some (s.asWritten, rest) := by
  have hstops : Stops .condition (significant (aliasTokens s.called) ++ rest) := by
    cases s.called with
    | some name => exact stops_cons.mpr rfl
    | none => exact h.stops
  rw [SelectItem.tokens, significant_append, List.append_assoc, selectItem?,
    hs.reads.condition? hstops]
  simp [alias?_aliasTokens s.called h, SelectItem.asWritten]

theorem orderItem?_tokens {o : OrderItem} (ho : o.expr.Fits .condition) {rest : List Token} :
    orderItem? (significant o.tokens ++ rest) = some (o.asWritten, rest) := by
  have htokens : significant o.tokens ++ rest = significant o.expr.tokens ++
      .keyword (directionKeyword o.direction) :: rest := by
    simp [OrderItem.tokens]
  have hstops : Stops .condition (.keyword (directionKeyword o.direction) :: rest) :=
    stops_cons.mpr (by cases o.direction <;> rfl)
  rw [htokens, orderItem?, ho.reads.condition? hstops]
  obtain ⟨e, direction⟩ := o
  cases direction <;> rfl

theorem joinKind?_joinKeyword (kind : JoinKind) : joinKind? (joinKeyword kind) = some kind := by
  cases kind <;> rfl

theorem joinOf?_tokens {j : JoinClause} (hj : j.on.Fits .condition) {rest : List Token}
    (h : Ends rest) :
    joinOf? j.kind (.keyword .join :: (significant j.table.tokens ++
      .keyword .on :: (significant j.on.tokens ++ rest))) = some (j.asWritten, rest) := by
  have htable := table?_tokens j.table
    (ends_cons (t := .keyword .on) rfl (significant j.on.tokens ++ rest))
  simp [joinOf?, htable, hj.reads.condition? h.stops, JoinClause.asWritten]

theorem tail_joins {ks : List Keyword} {rest : List Token} (h : Tail ks rest)
    (joins : List JoinClause) :
    Tail (.inner :: .left :: ks)
      (significant (joins.flatMap fun j => .newline :: j.tokens) ++ rest) := by
  cases joins with
  | nil => exact h.mono (List.Subset.trans (List.subset_cons_self _ _) (List.subset_cons_self _ _))
  | cons j joins =>
    rintro _ ⟨⟩
    refine ⟨joinKeyword j.kind, ?_, rfl⟩
    cases j.kind <;> simp [joinKeyword]

theorem joins?_tokens {joins : List JoinClause} (hjoins : ∀ j ∈ joins, j.on.Fits .condition)
    {ks : List Keyword} {rest : List Token} (h : Tail ks rest)
    (hends : ∀ k ∈ ks, (Token.keyword k).ends = true) (hks : ∀ k ∈ ks, joinKind? k = none) :
    joins? (significant (joins.flatMap fun j => .newline :: j.tokens) ++ rest)
      = some (joins.map JoinClause.asWritten, rest) := by
  induction joins with
  | nil =>
    change joins? rest = some ([], rest)
    unfold joins?
    split
    · rename_i k rest'
      obtain ⟨k', hk', heq⟩ := h _ rfl
      cases heq
      rw [hks k hk']
    · rfl
  | cons j joins ih =>
    have hlater := ih fun j' hj' => hjoins j' (List.mem_cons_of_mem j hj')
    -- after a join comes another one, or what comes after all
    have htail : Ends (significant (joins.flatMap fun j => .newline :: j.tokens) ++ rest) := by
      refine (tail_joins h joins).ends fun k hk => ?_
      rcases List.mem_cons.mp hk with rfl | hk
      · rfl
      rcases List.mem_cons.mp hk with rfl | hk
      · rfl
      · exact hends k hk
    have htokens : significant ((j :: joins).flatMap fun j => .newline :: j.tokens) ++ rest
        = .keyword (joinKeyword j.kind) :: .keyword .join :: (significant j.table.tokens ++
          .keyword .on :: (significant j.on.tokens ++
            (significant (joins.flatMap fun j => .newline :: j.tokens) ++ rest))) := by
      simp [JoinClause.tokens, spaced]
    have hfirst := joinOf?_tokens (hjoins j List.mem_cons_self) htail
    have hlength : (significant (joins.flatMap fun j => .newline :: j.tokens) ++ rest).length
        < (Token.keyword .join :: (significant j.table.tokens ++ .keyword .on ::
          (significant j.on.tokens ++
            (significant (joins.flatMap fun j => .newline :: j.tokens) ++ rest)))).length := by
      simp only [List.length_cons, List.length_append]
      omega
    rw [htokens, joins?, joinKind?_joinKeyword]
    simp only [within?_some hfirst hlength, hlater]
    rfl

/-- A list of items in a clause, if there are any. -/
def present {α : Type} : List α → Option (List α)
  | [] => none
  | a :: as => some (a :: as)

/-- A clause with a list is read back; an empty one is not there. -/
theorem clause?_present {α β : Type} {k : Keyword}
    {item? : List Token → Option (β × List Token)} {tokens : α → List Token} {read : α → β}
    {as : List α} {ks : List Keyword} {rest : List Token}
    (hread : ∀ x ∈ as, ∀ rest, Ends rest →
      item? (significant (tokens x) ++ rest) = some (read x, rest))
    (hopens : ∀ x, Opens (significant (tokens x))) (hrest : Tail ks rest)
    (hends : ∀ k ∈ ks, (Token.keyword k).ends = true) (hk : k ∉ ks) :
    clause? k (separated? item?) (clauseTokens k
        (fun as => significant (joined (as.map tokens))) (present as) ++ rest)
      = some ((present as).map (List.map read), rest) := by
  refine clause?_clauseTokens (fun bs hbs => ?_) hrest hk
  cases as with
  | nil => cases hbs
  | cons a as =>
    cases hbs
    exact separated?_joined hread hopens (hrest.ends hends) hrest.head?_ne_comma

theorem getD_present {α β : Type} (read : α → β) (as : List α) :
    ((present as).map (List.map read)).getD [] = as.map read := by
  cases as <;> rfl

/-- The greatest limit that is written. -/
def maxLimit : Nat := Nat.pow 2 63 - 1

theorem significant_limitTokens (n : Nat) :
    significant (limitTokens n)
      = [.keyword .limit, .literal (.int (min n maxLimit : Nat))] := by
  have hlimit : min (n : Int) ((Nat.pow 2 63 : Nat) - 1) = ((min n maxLimit : Nat) : Int) := by
    unfold maxLimit
    have hpositive : 1 ≤ Nat.pow 2 63 := by decide
    omega
  simp only [limitTokens, significant_keyword, significant_space, significant_literal,
    significant_nil]
  rw [hlimit]

theorem limit?_literal (n : Nat) (rest : List Token) :
    limit? (.literal (.int n) :: rest) = some (n, rest) := by
  simp [limit?]

/-! ## Queries -/

namespace Query

/-- A query needs no parentheses, and selects something. -/
structure Fits (q : Query) : Prop where
  select_ne_nil : q.select ≠ []
  select : ∀ s ∈ q.select, s.expr.Fits .condition
  joins : ∀ j ∈ q.joins, j.on.Fits .condition
  condition : ∀ e ∈ q.condition, e.Fits .condition
  groupBy : ∀ e ∈ q.groupBy, e.Fits .condition
  orderBy : ∀ o ∈ q.orderBy, o.expr.Fits .condition

/-- A query as it is written: its choices from no values are never true. -/
def asWritten (q : Query) : Query :=
  { q with
    select := q.select.map SelectItem.asWritten
    joins := q.joins.map JoinClause.asWritten
    condition := q.condition.map Expr.asWritten
    groupBy := q.groupBy.map Expr.asWritten
    orderBy := q.orderBy.map OrderItem.asWritten }

theorem significant_selectTokens (items : List SelectItem) :
    significant (selectTokens items) = significant (Sql.joined (items.map SelectItem.tokens)) := by
  induction items with
  | nil => rfl
  | cons s rest ih =>
    cases rest with
    | nil => rfl
    | cons s' rest => simp [selectTokens, Sql.joined, ih]

theorem significant_listClause {α : Type} (k : Keyword) (tokens : α → List Token) (as : List α) :
    significant (listClause k (as.map tokens))
      = clauseTokens k (fun as => significant (Sql.joined (as.map tokens))) (present as) := by
  cases as with
  | nil => rfl
  | cons a as => simp [listClause, clauseTokens, present]

/-- The significant tokens of a query are those of its clauses. -/
theorem significant_tokens (q : Query) :
    significant q.tokens = .keyword .select ::
      (significant (Sql.joined (q.select.map SelectItem.tokens)) ++
        (clauseTokens .from (fun t => significant t.tokens) q.source ++
          (significant (q.joins.flatMap fun j => .newline :: j.tokens) ++
            (clauseTokens .where_ (fun e => significant e.tokens) q.condition ++
              (clauseTokens .groupBy (fun es => significant (Sql.joined (es.map Expr.tokens)))
                  (present q.groupBy) ++
                (clauseTokens .orderBy
                    (fun os => significant (Sql.joined (os.map OrderItem.tokens)))
                    (present q.orderBy) ++
                  clauseTokens .limit (fun n => [.literal (.int (min n maxLimit : Nat))])
                    q.limit)))))) := by
  obtain ⟨select, source, joins, condition, groupBy, orderBy, limit⟩ := q
  simp only [tokens, significant_append, significant_keyword, List.cons_append, List.append_assoc,
    significant_selectTokens, significant_listClause]
  cases source <;> cases condition <;> cases limit <;>
    simp [clauseTokens, significant_limitTokens]

/-- **Queries that fit are read back**, but for what their limit exceeds the greatest one by. -/
theorem read?_tokens {q : Query} (h : q.Fits) :
    read? q.tokens = some { q.asWritten with limit := q.limit.map (min · maxLimit) } := by
  have hnil : Tail [] ([] : List Token) := by rintro _ ⟨⟩
  -- what begins the rest after each part, from the last one to the first
  have hlimit := hnil.clause .limit (fun n => [.literal (.int (min n maxLimit : Nat))]) q.limit
  rw [List.append_nil] at hlimit
  have horderBy := hlimit.clause .orderBy
    (fun os => significant (Sql.joined (os.map OrderItem.tokens))) (present q.orderBy)
  have hgroupBy := horderBy.clause .groupBy
    (fun es => significant (Sql.joined (es.map Expr.tokens))) (present q.groupBy)
  have hcondition := hgroupBy.clause .where_ (fun e => significant e.tokens) q.condition
  have hjoins := tail_joins hcondition q.joins
  have hsource := hjoins.clause .from (fun t => significant t.tokens) q.source
  obtain ⟨s, items, hselect⟩ := List.exists_cons_of_ne_nil h.select_ne_nil
  have hread : ∀ x ∈ s :: items, ∀ rest, Ends rest →
      selectItem? (significant x.tokens ++ rest) = some (x.asWritten, rest) := by
    intro x hx rest hrest
    exact selectItem?_tokens (h.select x (by rwa [hselect])) hrest
  have hopens : ∀ x : SelectItem, Opens (significant x.tokens) := by
    intro x
    rw [SelectItem.tokens, significant_append]
    exact x.expr.opens.append _
  have hopens' : ∀ x : OrderItem, Opens (significant x.tokens) := by
    intro x
    rw [OrderItem.tokens, significant_append]
    exact x.expr.opens.append _
  have hlimit' : ∀ n : Nat, q.limit = some n →
      limit? ([.literal (.int (min n maxLimit : Nat))] ++ []) = some (min n maxLimit, []) :=
    fun n _ => limit?_literal _ _
  rw [read?, significant_tokens, hselect]
  simp only [separated?_joined hread hopens (hsource.ends (by decide)) hsource.head?_ne_comma,
    Option.bind_eq_bind, Option.bind_some]
  rw [clause?_clauseTokens (fun t _ => table?_tokens t (hjoins.ends (by decide))) hjoins
    (by decide), Option.bind_some]
  dsimp only
  rw [joins?_tokens h.joins hcondition (by decide) (by decide), Option.bind_some]
  dsimp only
  rw [clause?_clauseTokens (fun e he => (h.condition e he).reads.condition?
    (hgroupBy.ends (by decide)).stops) hgroupBy (by decide), Option.bind_some]
  dsimp only
  rw [clause?_present (fun e he rest hrest => (h.groupBy e he).reads.condition? hrest.stops)
    Expr.opens horderBy (by decide) (by decide), Option.bind_some]
  dsimp only
  rw [clause?_present (fun o ho rest _ => orderItem?_tokens (h.orderBy o ho))
    hopens' hlimit (by decide) (by decide), Option.bind_some]
  dsimp only
  rw [← List.append_nil (clauseTokens .limit _ q.limit), clause?_clauseTokens hlimit' hnil
    (by decide), Option.bind_some]
  simp [getD_present, asWritten, hselect]

end Query

end TenantReports.Sql
