import Mathlib.Data.List.Chain
import TenantReports.Proofs.Catalog.Identifiers
import TenantReports.Sql.Query

/-!
# Quoting

Names and strings stand in quotes, and a quote within them is doubled. Whoever reads the text of a
query, character by character, therefore finds every name and every string as it is, whatever
characters it has, and finds the same text around them as around any others.

Two things carry this. Each quoted text is read back with any rest behind it that does not go on
with the same quote; and the tokens of a query are spaced: what follows a name or a string is a
blank, the end of a line or a symbol, never another quoted text that it would merge with.

## Main definitions

* `Segment`, `segments?`: a text as characters outside quotes and contents of quotes
* `tokenSegments`: what the tokens of a statement should be read as
* `Spaced`: quoted tokens are followed by others only

## Main results

* `segments?_quoteChars`: a quoted text is read back
* `segments?_renderChars`: so are spaced tokens
* `Query.spaced_tokens`: the tokens of a query are spaced
* `Query.segments_statement`: the text of a query is read back
-/

namespace TenantReports.Sql

/-! ## Reading a text -/

/-- A part of a text: a character outside quotes, or what stands between two quotes. -/
inductive Segment where
  | bare (c : Char)
  | quoted (quote : Char) (content : List Char)
deriving DecidableEq, Repr

/-- The characters that begin a quoted text in some dialect. -/
def isQuote (c : Char) : Bool := c = '"' || c = '\'' || c = '\x60'

/-- The characters that begin a quoted text. -/
def Dialect.isQuote : Dialect → Char → Bool
  | .postgres, c => c = '"' || c = '\''
  | _, c => Sql.isQuote c

/-- The segments of a text, which begins outside quotes or, after a quote, with some characters
already read, the last one first. Between quotes a quote is doubled and every other character is
itself, backslashes included; quotes that are not closed have no segments. -/
def segments? (d : Dialect) : Option (Char × List Char) → List Char → Option (List Segment)
  | none, [] => some []
  | none, c :: cs =>
    if d.isQuote c then segments? d (some (c, [])) cs
    else (segments? d none cs).map (.bare c :: ·)
  | some _, [] => none
  | some (q, content), [c] => if c = q then some [.quoted q content.reverse] else none
  | some (q, content), c :: c' :: cs =>
    if c ≠ q then segments? d (some (q, c :: content)) (c' :: cs)
    else if c' = q then segments? d (some (q, q :: content)) cs
    else (segments? d none (c' :: cs)).map (.quoted q content.reverse :: ·)

/-- The contents of quotes, with the quotes, in order. -/
def quotedContents (segments : List Segment) : List (Char × List Char) :=
  segments.filterMap fun
    | .bare _ => none
    | .quoted q content => some (q, content)

/-- The characters outside quotes, in order. -/
def bareText (segments : List Segment) : List Char :=
  segments.filterMap fun
    | .bare c => some c
    | .quoted _ _ => none

/-- No character is a quote. -/
def Bare (cs : List Char) : Prop := ∀ c ∈ cs, isQuote c = false

-- One character after the other: the characters there are at all need not be gone through.
instance (cs : List Char) : Decidable (Bare cs) :=
  List.decidableBAll (fun c => isQuote c = false) cs

theorem isQuote_of_dialect {d : Dialect} {c : Char} (h : d.isQuote c = true) :
    isQuote c = true := by
  cases d with
  | postgres => simp_all [Dialect.isQuote, isQuote]
  | sqlite | mysql => exact h

/-- Characters outside quotes are read one by one. -/
theorem segments?_bare (d : Dialect) {cs : List Char} (h : Bare cs) (rest : List Char) :
    segments? d none (cs ++ rest) = (segments? d none rest).map (cs.map Segment.bare ++ ·) := by
  induction cs with
  | nil => simp
  | cons c cs ih =>
    have hc : ¬ d.isQuote c = true := fun hquote => by
      have hbare := h c List.mem_cons_self
      rw [isQuote_of_dialect hquote] at hbare
      cases hbare
    rw [List.cons_append, segments?, if_neg hc, ih fun c' hc' => h c' (List.mem_cons_of_mem c hc')]
    simp [Function.comp_def]

/-- The rest of a quoted text is read up to its end, if what follows does not go on with the same
quote. -/
theorem segments?_closing (d : Dialect) {q : Char} {rest : List Char}
    (hrest : rest.head? ≠ some q) (content cs : List Char) :
    segments? d (some (q, content))
        (cs.flatMap (fun c => if c = q then [q, q] else [c]) ++ q :: rest)
      = (segments? d none rest).map (.quoted q (content.reverse ++ cs) :: ·) := by
  induction cs generalizing content with
  | nil =>
    cases rest with
    | nil => simp [segments?]
    | cons c rest =>
      have hc : c ≠ q := fun h => hrest (by rw [h]; rfl)
      simp [segments?, hc]
  | cons c cs ih =>
    -- what is left after a character is not empty: it has the end of the quoted text
    obtain ⟨c', cs', hnext⟩ : ∃ c' cs', cs.flatMap (fun c => if c = q then [q, q] else [c])
        ++ q :: rest = c' :: cs' := List.exists_cons_of_ne_nil (by simp)
    have hcontent : content.reverse ++ c :: cs = (c :: content).reverse ++ cs := by simp
    rw [hcontent, ← ih (c :: content), List.flatMap_cons, List.append_assoc, hnext]
    by_cases hc : c = q
    · rw [if_pos hc, hc]
      simp [segments?]
    · rw [if_neg hc]
      simp [segments?, hc]

/-- **A quoted text is read back**, whatever its characters are, with any rest behind it that does
not go on with the same quote. -/
theorem segments?_quoteChars {d : Dialect} {q : Char} (hq : d.isQuote q = true) (cs : List Char)
    {rest : List Char} (hrest : rest.head? ≠ some q) :
    segments? d none (Dialect.quoteChars q cs ++ rest)
      = (segments? d none rest).map (.quoted q cs :: ·) := by
  rw [Dialect.quoteChars, List.cons_append, List.cons_append, segments?, if_pos hq,
    List.append_assoc]
  exact segments?_closing d hrest [] cs

/-! ## Tokens that are not quoted -/

theorem isQuote_eq_false_of_isDigit {c : Char} (h : c.isDigit = true) : isQuote c = false := by
  rw [isQuote, Bool.or_eq_false_iff, Bool.or_eq_false_iff]
  refine ⟨⟨?_, ?_⟩, ?_⟩ <;>
    · rw [decide_eq_false_iff_not]
      rintro rfl
      revert h
      decide

theorem bare_toDigits (n : Nat) : Bare (Nat.toDigits 10 n) := fun _ hc =>
  isQuote_eq_false_of_isDigit (Nat.isDigit_of_mem_toDigits (by decide) (by decide) hc)

theorem bare_replicate {c : Char} (hc : isQuote c = false) (n : Nat) :
    Bare (List.replicate n c) := fun _ h => by rwa [List.eq_of_mem_replicate h]

theorem bare_append {cs cs' : List Char} : Bare (cs ++ cs') ↔ Bare cs ∧ Bare cs' :=
  List.forall_mem_append

theorem bare_cons {c : Char} {cs : List Char} :
    Bare (c :: cs) ↔ isQuote c = false ∧ Bare cs := List.forall_mem_cons

theorem bare_intText (n : Int) : Bare (Json.intText n).toList := by
  have hdigits : Bare (String.ofList (Nat.toDigits 10 n.natAbs)).toList := by
    rw [String.toList_ofList]
    exact bare_toDigits _
  unfold Json.intText
  split
  · rw [String.toList_append]
    exact bare_append.mpr ⟨by decide, hdigits⟩
  · exact hdigits

/-- A decimal is digits, a point, the letter of an exponent and its sign. -/
theorem bare_write (d : Decimal) : Bare (NumberStyle.sql.write d) := by
  have hdigits : Bare d.digits := bare_toDigits d.coeff
  have hdrop : ∀ n, Bare (d.digits.drop n) := fun n c hc => hdigits c (List.mem_of_mem_drop hc)
  have htake : ∀ n, Bare (d.digits.take n) := fun n c hc => hdigits c (List.mem_of_mem_take hc)
  have hzeros := bare_replicate (c := '0') (by decide)
  unfold NumberStyle.write
  dsimp only
  split
  · split
    · exact bare_cons.mpr ⟨by decide, bare_cons.mpr ⟨by decide, bare_append.mpr
        ⟨hzeros _, hdigits⟩⟩⟩
    · refine bare_append.mpr ⟨bare_append.mpr ⟨htake _, hzeros _⟩, bare_cons.mpr ⟨by decide, ?_⟩⟩
      split
      · decide
      · exact hdrop _
  · refine bare_append.mpr ⟨bare_append.mpr ⟨htake _, ?_⟩, bare_cons.mpr ⟨by decide,
      bare_append.mpr ⟨?_, bare_toDigits _⟩⟩⟩
    · split
      · decide
      · exact bare_cons.mpr ⟨by decide, hdrop _⟩
    · split
      · decide
      · split <;> decide

theorem bare_toText (x : Binary64) : Bare (x.toText .sql).toList := by
  unfold Binary64.toText
  split
  · decide
  · split <;> decide
  · rename_i neg m q _
    have hbody : Bare (if m = 0 then ['0', '.', '0']
        else NumberStyle.sql.write (Binary64.shortest m q)) := by
      split
      · decide
      · exact bare_write _
    dsimp only
    rw [String.toList_ofList]
    split
    · exact bare_cons.mpr ⟨by decide, hbody⟩
    · exact hbody

/-- Plain identifiers are ASCII. -/
theorem toNat_lt_of_isIdentifierPart {c : Char} (h : isIdentifierPart c = true) :
    c.toNat < 128 := by
  have hval : c.toNat = c.val.toNat := rfl
  have hZ : 'Z'.val.toNat = 90 := rfl
  have hz : 'z'.val.toNat = 122 := rfl
  have h9 : '9'.val.toNat = 57 := rfl
  have hupper : c.isUpper = decide ('A'.val ≤ c.val ∧ c.val ≤ 'Z'.val) := rfl
  have hlower : c.isLower = (decide ('a'.val ≤ c.val) && decide (c.val ≤ 'z'.val)) := rfl
  have hdigit : c.isDigit = (decide ('0'.val ≤ c.val) && decide (c.val ≤ '9'.val)) := rfl
  have hpart : isIdentifierPart c = (c.isUpper || c.isLower || c.isDigit || c == '_') := rfl
  simp only [hpart, hupper, hlower, hdigit, Bool.or_eq_true, Bool.and_eq_true,
    decide_eq_true_eq, beq_iff_eq, UInt32.le_iff_toNat_le] at h
  rcases h with h | rfl
  · omega
  · decide

/-- The characters of plain identifiers have upper-case forms that are not quotes. -/
theorem bare_toUpperChars {c : Char} (h : isIdentifierPart c = true) :
    Bare (Text.toUpperChars c) := by
  have hascii : ∀ n : Fin 128, isIdentifierPart (Char.ofNat n) = true →
      isQuote (Char.ofNat n).toUpper = false := by decide
  have hc := toNat_lt_of_isIdentifierPart h
  have hupper := hascii ⟨c.toNat, hc⟩
  rw [Char.ofNat_toNat] at hupper
  rw [Text.toUpperChars, if_pos hc]
  exact bare_cons.mpr ⟨hupper h, List.forall_mem_nil _⟩

theorem bare_upper {f : String} (h : isIdentifier f = true) : Bare (Text.upper f).toList := by
  rw [Text.upper, String.toList_ofList]
  intro c hc
  obtain ⟨c', hc', hmem⟩ := List.mem_flatMap.mp hc
  exact bare_toUpperChars (isIdentifierPart_of_isIdentifier h c' hc') c hmem

theorem bare_functionText (d : Dialect) {f : String} (h : isIdentifier f = true) :
    Bare (d.functionText f).toList := by
  unfold Dialect.functionText
  cases hremap : d.remap? f with
  | none => exact bare_upper h
  | some g =>
    rw [Option.getD_some]
    unfold Dialect.remap? at hremap
    split at hremap <;> cases hremap <;> decide

theorem bare_placeholder (d : Dialect) (n : Nat) : Bare (d.placeholder n) := by
  cases d
  · exact bare_cons.mpr ⟨by decide, bare_toDigits n⟩
  · exact bare_cons.mpr ⟨by decide, bare_toDigits n⟩
  · exact (by decide : Bare ['?'])

/-! ## Tokens -/

/-- The quote and the content of a token that is quoted. -/
def Token.quotedAs? (d : Dialect) : Token → Option (Char × List Char)
  | .ident name => some (d.identQuote, name.toList)
  | .literal (.string s) => some ('\'', s.toList)
  | _ => none

/-- A token is a name or a string. -/
def Token.isQuoted : Token → Bool
  | .ident _ => true
  | .literal (.string _) => true
  | _ => false

/-- A token is a blank, the end of a line or a symbol. -/
def Token.isBreak : Token → Bool
  | .space => true
  | .newline => true
  | .symbol _ => true
  | _ => false

/-- A token is not the name of a function that is not a plain identifier. -/
def Token.isPlain : Token → Bool
  | .function f => isIdentifier f
  | _ => true

/-- The text of a token that is not quoted has no quotes. -/
theorem bare_chars (d : Dialect) {t : Token} (hquoted : t.isQuoted = false)
    (hplain : t.isPlain = true) : Bare (t.chars d) := by
  cases t with
  | keyword k =>
    change Bare k.text.toList
    cases k <;> decide
  | symbol s =>
    change Bare s.text.toList
    cases s <;> decide
  | space => exact (by decide : Bare [' '])
  | newline => exact (by decide : Bare ['\n'])
  | indent depth => exact bare_replicate (by decide) _
  | ident name => cases hquoted
  | param v => exact bare_placeholder d 1
  | function f => exact bare_functionText d hplain
  | literal v =>
    cases v with
    | int n => exact bare_intText n
    | float x =>
      rw [Token.chars, Literal.chars]
      split
      · exact bare_toText x
      · decide
    | string s => cases hquoted
    | bool b => cases d <;> cases b <;> decide
    | null => exact (by decide : Bare "NULL".toList)

/-- What tokens are read as. The next placeholder is number `n`. -/
def tokenSegments (d : Dialect) : Nat → List Token → List Segment
  | _, [] => []
  | n, .param _ :: ts => (d.placeholder n).map .bare ++ tokenSegments d (n + 1) ts
  | n, .ident name :: ts => .quoted d.identQuote name.toList :: tokenSegments d n ts
  | n, .literal (.string s) :: ts => .quoted '\'' s.toList :: tokenSegments d n ts
  | n, t :: ts => (t.chars d).map .bare ++ tokenSegments d n ts

/-- Each name and each string is followed by a token that it cannot merge with. -/
abbrev Spaced (ts : List Token) : Prop :=
  ts.IsChain fun t u => t.isQuoted = true → u.isBreak = true

/-- What follows a quoted token does not begin with a quote. -/
theorem head?_renderChars_ne (d : Dialect) {t : Token} {ts : List Token} (h : Spaced (t :: ts))
    (ht : t.isQuoted = true) (n : Nat) {q : Char} (hq : isQuote q = true) :
    (renderChars d n ts).head? ≠ some q := by
  cases ts with
  | nil => simp [renderChars]
  | cons u ts =>
    have hu : u.isBreak = true := (List.isChain_cons_cons.mp h).1 ht
    cases u with
    | space | newline =>
      rintro ⟨⟩
      revert hq
      decide
    | symbol s =>
      cases s <;>
        · rintro ⟨⟩
          revert hq
          decide
    | _ => cases hu

theorem Dialect.isQuote_identQuote (d : Dialect) : d.isQuote d.identQuote = true := by
  cases d <;> rfl

theorem Dialect.isQuote_string (d : Dialect) : d.isQuote '\'' = true := by
  cases d <;> rfl

/-- **The text of spaced tokens is read back.** -/
theorem segments?_renderChars (d : Dialect) {ts : List Token} (hspaced : Spaced ts)
    (hplain : ∀ t ∈ ts, t.isPlain = true) (n : Nat) :
    segments? d none (renderChars d n ts) = some (tokenSegments d n ts) := by
  induction ts generalizing n with
  | nil => rfl
  | cons t ts ih =>
    have hrest := ih hspaced.tail fun u hu => hplain u (List.mem_cons_of_mem t hu)
    have ht : t.isPlain = true := hplain t List.mem_cons_self
    -- a token without quotes
    have hbare : ∀ cs, Bare cs → ∀ m, segments? d none (cs ++ renderChars d m ts)
        = some (cs.map .bare ++ tokenSegments d m ts) := by
      intro cs hcs m
      rw [segments?_bare d hcs, hrest, Option.map_some]
    -- a quoted token
    have hquoted : ∀ q cs, d.isQuote q = true → t.isQuoted = true →
        segments? d none (Dialect.quoteChars q cs ++ renderChars d n ts)
          = some (.quoted q cs :: tokenSegments d n ts) := by
      intro q cs hq hquoted
      have hhead := head?_renderChars_ne d hspaced hquoted n (isQuote_of_dialect hq)
      rw [segments?_quoteChars hq cs hhead, hrest, Option.map_some]
    cases t with
    | param v => exact hbare _ (bare_placeholder d n) (n + 1)
    | ident name => exact hquoted d.identQuote name.toList d.isQuote_identQuote rfl
    | literal v =>
      cases v with
      | string s => exact hquoted '\'' s.toList d.isQuote_string rfl
      | int | float | bool | null => exact hbare _ (bare_chars d rfl ht) n
    | keyword | symbol | space | newline | indent | function =>
      exact hbare _ (bare_chars d rfl ht) n

/-- A token with the letter a for a name or a string. -/
def Token.anonymous : Token → Token
  | .ident _ => .ident "a"
  | .literal (.string _) => .literal (.string "a")
  | t => t

/-- A segment with the letter a for what is between quotes. -/
def Segment.anonymous : Segment → Segment
  | .bare c => .bare c
  | .quoted q _ => .quoted q ['a']

theorem Token.isQuoted_anonymous (t : Token) : t.anonymous.isQuoted = t.isQuoted := by
  unfold Token.anonymous
  split <;> rfl

theorem Token.isBreak_anonymous (t : Token) : t.anonymous.isBreak = t.isBreak := by
  unfold Token.anonymous
  split <;> rfl

theorem Token.isPlain_anonymous (t : Token) : t.anonymous.isPlain = t.isPlain := by
  unfold Token.anonymous
  split <;> rfl

theorem bareText_map_anonymous (segments : List Segment) :
    bareText (segments.map Segment.anonymous) = bareText segments := by
  rw [bareText, bareText, List.filterMap_map]
  congr 1
  funext segment
  cases segment <;> rfl

/-- The contents of quotes are those of the quoted tokens, in order. -/
theorem quotedContents_tokenSegments (d : Dialect) (n : Nat) (ts : List Token) :
    quotedContents (tokenSegments d n ts) = ts.filterMap (Token.quotedAs? d) := by
  have hbare : ∀ (cs : List Char) (segments : List Segment),
      quotedContents (cs.map .bare ++ segments) = quotedContents segments := by
    intro cs segments
    rw [quotedContents, List.filterMap_append, List.filterMap_map]
    simp [quotedContents]
  induction ts generalizing n with
  | nil => rfl
  | cons t ts ih =>
    cases t with
    | literal v =>
      cases v with
      | string s => exact congrArg _ (ih n)
      | int | float | bool | null => exact (hbare _ _).trans (ih n)
    | ident name => exact congrArg _ (ih n)
    | param v => exact (hbare _ _).trans (ih (n + 1))
    | keyword | symbol | space | newline | indent | function => exact (hbare _ _).trans (ih n)

/-- With other contents the segments are the same but for the contents. -/
theorem tokenSegments_map_anonymous (d : Dialect) (n : Nat) (ts : List Token) :
    tokenSegments d n (ts.map Token.anonymous)
      = (tokenSegments d n ts).map Segment.anonymous := by
  have hbare : ∀ cs : List Char, (cs.map Segment.bare).map Segment.anonymous
      = cs.map Segment.bare := by
    intro cs
    rw [List.map_map]
    rfl
  induction ts generalizing n with
  | nil => rfl
  | cons t ts ih =>
    cases t with
    | literal v =>
      cases v <;> simp [Token.anonymous, Segment.anonymous, tokenSegments, hbare, ih, -List.map_map]
    | _ => simp [Token.anonymous, Segment.anonymous, tokenSegments, hbare, ih, -List.map_map]

/-! ## Spaced tokens -/

theorem Spaced.cons {t : Token} {ts : List Token} (h : Spaced ts) (ht : t.isQuoted = false) :
    Spaced (t :: ts) :=
  List.isChain_cons.mpr ⟨fun _ _ hquoted => absurd hquoted (by simp [ht]), h⟩

/-- Spaced tokens may be followed by others that begin with a break. -/
theorem Spaced.append {ts us : List Token} (hts : Spaced ts) (hus : Spaced us)
    (hbreak : ∀ u ∈ us.head?, u.isBreak = true) : Spaced (ts ++ us) :=
  List.IsChain.append hts hus fun _ _ u hu _ => hbreak u hu

theorem spaced_nil : Spaced [] := .nil

/-- A quoted token, alone or before a break. -/
theorem Spaced.quoted {t u : Token} {ts : List Token} (h : Spaced (u :: ts))
    (hu : u.isBreak = true) : Spaced (t :: u :: ts) :=
  List.isChain_cons_cons.mpr ⟨fun _ => hu, h⟩

theorem spaced_qualified (table : Option String) (t : Token) : Spaced (qualified table t) := by
  cases table with
  | none => exact .singleton t
  | some name => exact Spaced.quoted (Spaced.cons (.singleton t) rfl) rfl

theorem spaced_joined {items : List (List Token)} (h : ∀ ts ∈ items, Spaced ts) :
    Spaced (joined items) := by
  induction items with
  | nil => exact spaced_nil
  | cons ts rest ih =>
    have hrest := ih fun us hus => h us (List.mem_cons_of_mem ts hus)
    cases rest with
    | nil => exact h ts List.mem_cons_self
    | cons us rest =>
      exact (h ts List.mem_cons_self).append ((hrest.cons rfl).cons rfl) (by rintro _ ⟨⟩; rfl)

theorem spaced_parenthesized {items : List (List Token)} (h : ∀ ts ∈ items, Spaced ts) :
    Spaced (parenthesized items) :=
  ((spaced_joined h).append (.singleton _) (by rintro _ ⟨⟩; rfl)).cons rfl

namespace Expr

/-- Tokens after others, with a keyword between them. -/
theorem spaced_append_spaced {ts us : List Token} (k : Keyword) (hts : Spaced ts)
    (hus : Spaced us) : Spaced (ts ++ spaced k ++ us) := by
  rw [List.append_assoc]
  exact hts.append (((hus.cons rfl).cons rfl).cons rfl) (by rintro _ ⟨⟩; rfl)

mutual

/-- The tokens of an expression are spaced. -/
theorem spaced_tokens (e : Expr) : Spaced e.tokens := by
  cases e with
  | column table name => exact spaced_qualified table _
  | literal v => exact .singleton _
  | param v => exact .singleton _
  | binary op l r =>
    have hop : op.token.isQuoted = false := by cases op <;> rfl
    rw [tokens, List.append_assoc]
    exact (spaced_tokens l).append ((((spaced_tokens r).cons rfl).cons hop).cons rfl)
      (by rintro _ ⟨⟩; rfl)
  | call f args =>
    rw [tokens]
    exact (spaced_parenthesized (spaced_tokensOfList args)).cons rfl
  | isIn e values =>
    rw [tokens]
    split
    · rw [neverTokens]
      exact ((((Spaced.cons (.singleton _) rfl).cons rfl).cons rfl).cons rfl)
    · exact spaced_append_spaced .in (spaced_tokens e)
        (spaced_parenthesized (spaced_tokensOfList values))
  | between e low high =>
    exact spaced_append_spaced .and
      (spaced_append_spaced .between (spaced_tokens e) (spaced_tokens low)) (spaced_tokens high)
  | isNull e =>
    exact (spaced_tokens e).append (Spaced.cons (.singleton _) rfl) (by rintro _ ⟨⟩; rfl)
  | like e pattern c =>
    exact spaced_append_spaced .escape
      (spaced_append_spaced .like (spaced_tokens e) (spaced_tokens pattern)) (.singleton _)
  | star table => exact spaced_qualified table _

theorem spaced_tokensOfList (es : List Expr) : ∀ ts ∈ tokensOfList es, Spaced ts := by
  cases es with
  | nil => exact List.forall_mem_nil _
  | cons e es => exact List.forall_mem_cons.mpr ⟨spaced_tokens e, spaced_tokensOfList es⟩

end

end Expr

/-- A quoted token, and after it another one's name. -/
theorem spaced_aliasTokens (called : Option String) : Spaced (aliasTokens called) := by
  cases called with
  | none => exact spaced_nil
  | some name => exact ((Spaced.cons (.singleton _) rfl).cons rfl).cons rfl

/-- What is named in the output or the query is followed by a blank, if by anything. -/
theorem Spaced.append_aliasTokens {ts : List Token} (h : Spaced ts) (called : Option String) :
    Spaced (ts ++ aliasTokens called) :=
  h.append (spaced_aliasTokens called) (by cases called <;> rintro _ ⟨⟩; rfl)

theorem TableRef.spaced_tokens (t : TableRef) : Spaced t.tokens :=
  have htable : Spaced [.ident t.table] := .singleton _
  htable.append_aliasTokens t.called

theorem JoinClause.spaced_tokens (j : JoinClause) : Spaced j.tokens := by
  have hon := Expr.spaced_append_spaced .on j.table.spaced_tokens j.on.spaced_tokens
  rw [tokens, List.append_assoc, List.append_assoc, ← List.append_assoc j.table.tokens]
  exact (((hon.cons rfl).cons rfl).cons rfl).cons rfl

namespace Query

/-- The tokens of a part of a query, which begins on a line of its own if it is there. -/
structure IsClause (ts : List Token) : Prop where
  spaced : Spaced ts
  newline : ∀ t ∈ ts.head?, t = .newline

theorem isClause_nil : IsClause [] := ⟨spaced_nil, by rintro _ ⟨⟩⟩

theorem IsClause.of_newline {ts : List Token} (h : Spaced ts) : IsClause (.newline :: ts) :=
  ⟨h.cons rfl, by rintro _ ⟨⟩; rfl⟩

/-- A part of a query may follow whatever is spaced. -/
theorem spaced_append_clause {ts us : List Token} (hts : Spaced ts) (hus : IsClause us) :
    Spaced (ts ++ us) :=
  hts.append hus.spaced fun u hu => by rw [hus.newline u hu]; rfl

theorem isClause_selectTokens (items : List SelectItem) : IsClause (selectTokens items) := by
  have hitem : ∀ s : SelectItem, Spaced (.indent 1 :: s.tokens) := fun s =>
    (s.expr.spaced_tokens.append_aliasTokens s.called).cons rfl
  induction items with
  | nil => exact isClause_nil
  | cons s rest ih =>
    cases rest with
    | nil => exact .of_newline (hitem s)
    | cons s' rest =>
      exact .of_newline ((hitem s).append (ih.spaced.cons rfl) (by rintro _ ⟨⟩; rfl))

theorem isClause_joins (joins : List JoinClause) :
    IsClause (joins.flatMap fun j => .newline :: j.tokens) := by
  induction joins with
  | nil => exact isClause_nil
  | cons j joins ih => exact .of_newline (spaced_append_clause j.spaced_tokens ih)

theorem isClause_listClause (k : Keyword) {items : List (List Token)}
    (h : ∀ ts ∈ items, Spaced ts) : IsClause (listClause k items) := by
  unfold listClause
  split
  · exact isClause_nil
  · exact .of_newline (((spaced_joined h).cons rfl).cons rfl)

/-- **The tokens of a query are spaced**: no name or string is followed by another one. -/
theorem spaced_tokens (q : Query) : Spaced q.tokens := by
  have hselect : Spaced (.keyword .select :: selectTokens q.select) :=
    (isClause_selectTokens q.select).spaced.cons rfl
  have hgroupBy : ∀ ts ∈ q.groupBy.map Expr.tokens, Spaced ts :=
    List.forall_mem_map.mpr fun e _ => e.spaced_tokens
  have horderBy : ∀ ts ∈ q.orderBy.map OrderItem.tokens, Spaced ts :=
    List.forall_mem_map.mpr fun o _ =>
      o.expr.spaced_tokens.append (Spaced.cons (.singleton _) rfl) (by rintro _ ⟨⟩; rfl)
  unfold tokens
  refine spaced_append_clause (spaced_append_clause (spaced_append_clause (spaced_append_clause
    (spaced_append_clause (spaced_append_clause hselect ?source) (isClause_joins q.joins))
      ?condition) (isClause_listClause .groupBy hgroupBy))
        (isClause_listClause .orderBy horderBy)) ?limit
  case source =>
    cases q.source with
    | none => exact isClause_nil
    | some t => exact .of_newline ((t.spaced_tokens.cons rfl).cons rfl)
  case condition =>
    cases q.condition with
    | none => exact isClause_nil
    | some e => exact .of_newline ((e.spaced_tokens.cons rfl).cons rfl)
  case limit =>
    cases q.limit with
    | none => exact isClause_nil
    | some n => exact .of_newline ((Spaced.cons (.singleton _) rfl).cons rfl)

/-- **The text of a query is read back.** If the functions of a query have plain identifiers as
names, then whatever characters its names and strings have, the quoted segments of its text are
these names and strings, in order and with the quotes of their kinds; and with the letter a for
each of them the segments are the same but for the contents, so that the text outside quotes is
the same. These are the rules of SQLite and PostgreSQL, which know no escapes within quotes. -/
theorem segments_statement (q : Query) (d : Dialect)
    (hfunctions : ∀ f, .function f ∈ q.tokens → isIdentifier f = true) :
    ∃ segments, segments? d none (q.statement d).sql.toList = some segments ∧
      quotedContents segments = q.tokens.filterMap (Token.quotedAs? d) ∧
      ∃ plain, segments? d none (render d (q.tokens.map Token.anonymous)).toList = some plain ∧
        plain = segments.map Segment.anonymous ∧ bareText plain = bareText segments := by
  have hplain : ∀ t ∈ q.tokens, t.isPlain = true := by
    intro t ht
    cases t with
    | function f => exact hfunctions f ht
    | _ => rfl
  have hspaced : Spaced (q.tokens.map Token.anonymous) := by
    rw [Spaced, List.isChain_map]
    simp only [Token.isQuoted_anonymous, Token.isBreak_anonymous]
    exact q.spaced_tokens
  have hplain' : ∀ t ∈ q.tokens.map Token.anonymous, t.isPlain = true := by
    refine List.forall_mem_map.mpr fun t ht => ?_
    rw [Token.isPlain_anonymous]
    exact hplain t ht
  refine ⟨tokenSegments d 1 q.tokens, ?_, quotedContents_tokenSegments d 1 q.tokens,
    tokenSegments d 1 (q.tokens.map Token.anonymous), ?_, tokenSegments_map_anonymous d 1 _, ?_⟩
  · rw [statement, Statement.ofTokens, render, String.toList_ofList]
    exact segments?_renderChars d q.spaced_tokens hplain 1
  · rw [render, String.toList_ofList]
    exact segments?_renderChars d hspaced hplain' 1
  · rw [tokenSegments_map_anonymous, bareText_map_anonymous]

/-- A query whose names and strings have quotes, comment markers and ends of lines in them. -/
def intrusive : Query where
  select := [⟨.call "lower" [.column (some "t\"") "a\"\"--"], some "'; drop"⟩]
  source := some ⟨"t\\", some "t\""⟩
  condition := some (.like (.column none "\n") (.literal (.string "it''s /* \\' ")) '\'')

theorem segments_statement_intrusive :
    (∀ f, .function f ∈ intrusive.tokens → isIdentifier f = true) ∧
      ∃ segments, segments? .sqlite none (intrusive.statement .sqlite).sql.toList = some segments ∧
        quotedContents segments = intrusive.tokens.filterMap (Token.quotedAs? .sqlite) := by
  have hplain : ∀ t ∈ intrusive.tokens, t.isPlain = true := by decide
  have hfunctions : ∀ f, .function f ∈ intrusive.tokens → isIdentifier f = true :=
    fun f hf => hplain _ hf
  obtain ⟨segments, hsegments, hcontents, -⟩ :=
    segments_statement intrusive .sqlite hfunctions
  exact ⟨hfunctions, segments, hsegments, hcontents⟩

end Query

end TenantReports.Sql
