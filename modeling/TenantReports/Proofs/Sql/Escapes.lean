import TenantReports.Proofs.Sql.Placeholders
import TenantReports.Proofs.Sql.Quoting

/-!
# Escapes within quotes

MySQL reads a backslash in a quoted string as the beginning of an escape: the character after it
does not end the string, even if it is a quote. Strings are written for MySQL as for the other
dialects, with quotes doubled and backslashes as they are. Where no string has a backslash, MySQL
reads the same as the others. A string that is one backslash, however, takes the quote that should
close it as its first character, and goes on into the tokens that follow.

## Main definitions

* `escapedSegments?`: a text as MySQL reads it
* `backslash`: the string that is one backslash
* `Inert`: characters that neither close a string nor begin an escape in it

## Main results

* `escapedSegments?_append`: without backslashes in strings, MySQL reads what the others read
* `escapedSegments?_backslash`: the string of one backslash is left open
* `quotedContents_ne_of_backslash`: so the contents of quotes are not those of the tokens
* `escapedSegments?_eq_none_of_backslash`: the last of such strings is never closed, unless others
  have quotes or backslashes
-/

namespace TenantReports.Sql

/-! ## Reading a text with escapes -/

/-- What an escape stands for, by the character after its backslash. Escaped wildcards of patterns
keep the backslash, and most characters stand for themselves. -/
def unescaped : Char → List Char
  | '0' => ['\x00']
  | 'b' => ['\x08']
  | 'n' => ['\n']
  | 'r' => ['\r']
  | 't' => ['\t']
  | 'Z' => ['\x1a']
  | '%' => ['\\', '%']
  | '_' => ['\\', '_']
  | c => [c]

/-- The segments of a text as MySQL reads it, which begins outside quotes or, after a quote, with
some characters already read, the last one first. In strings a backslash begins an escape; names
are quoted without escapes. -/
def escapedSegments? : Option (Char × List Char) → List Char → Option (List Segment)
  | none, [] => some []
  | none, c :: cs =>
    if Dialect.mysql.isQuote c then escapedSegments? (some (c, [])) cs
    else (escapedSegments? none cs).map (.bare c :: ·)
  | some _, [] => none
  | some (q, content), [c] => if c = q then some [.quoted q content.reverse] else none
  | some (q, content), c :: c' :: cs =>
    if c = q then
      if c' = q then escapedSegments? (some (q, q :: content)) cs
      else (escapedSegments? none (c' :: cs)).map (.quoted q content.reverse :: ·)
    else if c = '\\' ∧ q ≠ '\x60' then
      escapedSegments? (some (q, (unescaped c').reverse ++ content)) cs
    else escapedSegments? (some (q, c :: content)) (c' :: cs)

/-- The first segment is what is between quotes, and begins with characters already read, the last
one of them first. -/
def Continues (q : Char) (content : List Char) (segments : List Segment) : Prop :=
  ∃ more later, segments = .quoted q (content.reverse ++ more) :: later

theorem Continues.of_append {q : Char} (new : List Char) {content : List Char}
    {segments : List Segment}
    (h : Continues q (new ++ content) segments) : Continues q content segments := by
  obtain ⟨more, later, rfl⟩ := h
  exact ⟨new.reverse ++ more, later, by simp⟩

theorem Continues.closed {q : Char} {content : List Char} {later : List Segment} :
    Continues q content (.quoted q content.reverse :: later) := ⟨[], later, by simp⟩

/-- What is read within quotes begins with the characters already read. -/
theorem continues_of_segments? {d : Dialect} {q : Char} {content cs : List Char}
    {segments : List Segment} (h : segments? d (some (q, content)) cs = some segments) :
    Continues q content segments := by
  generalize hstart : some (q, content) = start at h
  -- a step within quotes adds before the characters already read, or closes the quotes
  fun_induction segments? d start cs generalizing content segments <;> cases hstart
  case case4 | case6 => cases h
  case case5 =>
    cases h
    exact .closed
  case case7 c _ _ _ ih => exact .of_append [c] (ih rfl h)
  case case8 ih => exact .of_append [q] (ih rfl h)
  case case9 =>
    obtain ⟨later, -, rfl⟩ := Option.map_eq_some_iff.mp h
    exact .closed

/-- So does what is read with escapes. -/
theorem continues_of_escapedSegments? {q : Char} {content cs : List Char}
    {segments : List Segment} (h : escapedSegments? (some (q, content)) cs = some segments) :
    Continues q content segments := by
  generalize hstart : some (q, content) = start at h
  fun_induction escapedSegments? start cs generalizing content segments <;> cases hstart
  case case4 | case6 => cases h
  case case5 =>
    cases h
    exact .closed
  case case7 ih => exact .of_append [q] (ih rfl h)
  case case8 =>
    obtain ⟨later, -, rfl⟩ := Option.map_eq_some_iff.mp h
    exact .closed
  case case9 ih => exact .of_append _ (ih rfl h)
  case case10 c _ _ _ _ ih => exact .of_append [c] (ih rfl h)

/-- **Without backslashes in strings, MySQL reads what the others read**, whatever comes behind,
unless that goes on with a quote that is closed in the text. -/
theorem escapedSegments?_append {start : Option (Char × List Char)} {cs rest : List Char}
    {segments : List Segment} (h : segments? .mysql start cs = some segments)
    (hsegments : ∀ q content, .quoted q content ∈ segments →
      ('\\' ∈ content → q = '\x60') ∧ rest.head? ≠ some q) :
    escapedSegments? start (cs ++ rest) = (escapedSegments? none rest).map (segments ++ ·) := by
  -- along the reader of the others: but for a backslash in a string, MySQL takes the same step
  fun_induction segments? .mysql start cs generalizing segments
  case case1 =>
    cases h
    simp
  case case2 hquote ih =>
    rw [List.cons_append, escapedSegments?, if_pos hquote, ih h hsegments]
  case case3 c cs hquote ih =>
    obtain ⟨segments, hread, rfl⟩ := Option.map_eq_some_iff.mp h
    have hrest := ih hread fun q content hmem => hsegments q content (List.mem_cons_of_mem _ hmem)
    rw [List.cons_append, escapedSegments?, if_neg hquote, hrest, Option.map_map]
    rfl
  case case4 | case6 => cases h
  case case5 content q =>
    cases h
    -- what comes behind does not double the quote
    have hhead := (hsegments _ _ List.mem_cons_self).2
    cases rest with
    | nil => simp [escapedSegments?]
    | cons c rest =>
      have hc : c ≠ q := fun hc => hhead (by rw [hc]; rfl)
      simp [escapedSegments?, hc]
  case case7 q content c c' cs hc ih =>
    obtain ⟨more, later, rfl⟩ := continues_of_segments? h
    have hescape : ¬ (c = '\\' ∧ q ≠ '\x60') := by
      rintro ⟨rfl, hq⟩
      exact hq ((hsegments _ _ List.mem_cons_self).1 (by simp))
    rw [List.cons_append, List.cons_append, escapedSegments?, if_neg hc, if_neg hescape]
    exact ih h hsegments
  case case8 content c q cs hc ih =>
    rw [List.cons_append, List.cons_append, escapedSegments?, if_pos (not_not.mp hc), if_pos rfl]
    exact ih h hsegments
  case case9 q content c c' cs hc hc' ih =>
    obtain ⟨segments, hread, rfl⟩ := Option.map_eq_some_iff.mp h
    have hrest := ih hread fun q content hmem => hsegments q content (List.mem_cons_of_mem _ hmem)
    rw [List.cons_append, List.cons_append, escapedSegments?, if_pos (not_not.mp hc), if_neg hc',
      ← List.cons_append, hrest, Option.map_map]
    rfl

/-! ## Strings of one backslash -/

/-- The string that is one backslash. -/
def backslash : Token := .literal (.string (String.ofList ['\\']))

/-- Characters that neither close a string nor begin an escape in it. -/
def Inert (cs : List Char) : Prop := ∀ c ∈ cs, c ≠ '\'' ∧ c ≠ '\\'

instance (cs : List Char) : Decidable (Inert cs) :=
  List.decidableBAll (fun c => c ≠ '\'' ∧ c ≠ '\\') cs

/-- Letters, digits and underscores are inert. -/
theorem Inert.of_identifierPart {cs : List Char} (h : ∀ c ∈ cs, isIdentifierPart c = true) :
    Inert cs := by
  intro c hc
  refine ⟨?_, ?_⟩ <;>
    · rintro rfl
      exact absurd (h _ hc) (by decide)

/-- A plain identifier is inert, with its quotes. -/
theorem inert_ident {name : String} (h : isIdentifier name = true) :
    Inert (Token.chars .mysql (.ident name)) := by
  have hparts := isIdentifierPart_of_isIdentifier h
  intro c hc
  simp only [Token.chars, Dialect.quoteIdent, Dialect.quoteChars, List.mem_append, List.mem_cons,
    List.mem_flatMap, List.not_mem_nil, or_false] at hc
  rcases hc with (rfl | ⟨part, hpart, hc⟩) | rfl
  · decide
  · -- no character of the name is doubled
    have hquote : part ≠ Dialect.mysql.identQuote := by
      rintro rfl
      exact absurd (hparts _ hpart) (by decide)
    rw [if_neg hquote, List.mem_singleton] at hc
    exact Inert.of_identifierPart hparts c (hc ▸ hpart)
  · decide

theorem chars_backslash : backslash.chars .mysql = ['\'', '\\', '\''] := by
  simp [backslash, Token.chars, Literal.chars, Dialect.quoteString, Dialect.quoteChars]

/-- Outside quotes, the string of one backslash opens quotes and does not close them: its last
quote is the first character within. -/
theorem escapedSegments?_opening (rest : List Char) :
    escapedSegments? none (backslash.chars .mysql ++ rest)
      = escapedSegments? (some ('\'', ['\''])) rest := by
  rw [chars_backslash]
  simp [escapedSegments?, Dialect.isQuote, isQuote, unescaped]

/-- Within quotes, it closes them and opens others. -/
theorem escapedSegments?_reopening (content rest : List Char) :
    escapedSegments? (some ('\'', content)) (backslash.chars .mysql ++ rest)
      = (escapedSegments? (some ('\'', [])) rest).map
          ([.quoted '\'' content.reverse, .bare '\\'] ++ ·) := by
  rw [chars_backslash]
  simp [escapedSegments?, Dialect.isQuote, isQuote, Function.comp_def]

/-- Inert characters stay within quotes. -/
theorem escapedSegments?_inert {cs : List Char} (h : Inert cs) (content rest : List Char) :
    escapedSegments? (some ('\'', content)) (cs ++ rest)
      = escapedSegments? (some ('\'', cs.reverse ++ content)) rest := by
  induction cs generalizing content with
  | nil => rfl
  | cons c cs ih =>
    obtain ⟨hquote, hescape⟩ := h c List.mem_cons_self
    have hrest := ih (fun c' hc' => h c' (List.mem_cons_of_mem c hc')) (c :: content)
    rw [List.reverse_cons, List.append_assoc, List.singleton_append, ← hrest, List.cons_append]
    -- the reader tells the last character of a text from those before it
    cases cs ++ rest with
    | nil => simp [escapedSegments?, hquote]
    | cons c' rest => simp [escapedSegments?, hquote, hescape]

/-- **Quotes are never closed** by tokens of which only strings of one backslash have quotes or
backslashes. -/
theorem escapedSegments?_unclosed {ts : List Token}
    (h : ∀ t ∈ ts, t = backslash ∨ Inert (t.chars .mysql)) (n : Nat) (content : List Char) :
    escapedSegments? (some ('\'', content)) (renderChars .mysql n ts) = none := by
  -- on the tokens: within quotes before a token, within quotes after it
  induction ts generalizing n content with
  | nil => rfl
  | cons t ts ih =>
    have hrest := ih fun u hu => h u (List.mem_cons_of_mem t hu)
    -- every placeholder is written like the first
    obtain ⟨m, htext⟩ : ∃ m, renderChars .mysql n (t :: ts)
        = t.chars .mysql ++ renderChars .mysql m ts := by
      cases t with
      | param v => exact ⟨n + 1, rfl⟩
      | _ => exact ⟨n, rfl⟩
    rw [htext]
    rcases h t List.mem_cons_self with rfl | hinert
    · rw [escapedSegments?_reopening, hrest, Option.map_none]
    · rw [escapedSegments?_inert hinert, hrest]

/-! ## Tokens -/

theorem mem_quotedContents {segments : List Segment} {q : Char} {content : List Char} :
    (q, content) ∈ quotedContents segments ↔ .quoted q content ∈ segments := by
  rw [quotedContents, List.mem_filterMap]
  constructor
  · rintro ⟨segment, hmem, hsegment⟩
    cases segment with
    | bare c => cases hsegment
    | quoted q content =>
      cases hsegment
      exact hmem
  · intro hmem
    exact ⟨_, hmem, rfl⟩

/-- Tokens without backslashes in strings are read as what they are, if what comes behind does not
go on with one of their quotes. -/
theorem escapedSegments?_renderChars {ts : List Token} (hspaced : Spaced ts)
    (hplain : ∀ t ∈ ts, t.isPlain = true)
    (hstrings : ∀ s, .literal (.string s) ∈ ts → '\\' ∉ s.toList) (n : Nat) (rest : List Char)
    (hrest : ∀ t ∈ ts, ∀ q content, t.quotedAs? .mysql = some (q, content) →
      rest.head? ≠ some q) :
    escapedSegments? none (renderChars .mysql n ts ++ rest)
      = (escapedSegments? none rest).map (tokenSegments .mysql n ts ++ ·) := by
  refine escapedSegments?_append (segments?_renderChars .mysql hspaced hplain n) ?_
  intro q content hmem
  rw [← mem_quotedContents, quotedContents_tokenSegments, List.mem_filterMap] at hmem
  obtain ⟨t, ht, hquoted⟩ := hmem
  refine ⟨?_, hrest t ht q content hquoted⟩
  cases t with
  | ident name =>
    cases hquoted
    exact fun _ => rfl
  | literal v =>
    cases v with
    | string s =>
      cases hquoted
      exact fun hescape => absurd hescape (hstrings s ht)
    | _ => cases hquoted
  | _ => cases hquoted

/-- **The string of one backslash is left open**: what comes after it is read within quotes. -/
theorem escapedSegments?_backslash {before after : List Token} (hspaced : Spaced before)
    (hplain : ∀ t ∈ before, t.isPlain = true) (hstrings : ∀ s, .literal (.string s) ∉ before)
    (n : Nat) :
    escapedSegments? none (renderChars .mysql n (before ++ backslash :: after))
      = (escapedSegments? (some ('\'', ['\'']))
          (renderChars .mysql (n + (boundValues before).length) after)).map
            (tokenSegments .mysql n before ++ ·) := by
  have htext : ∀ m, renderChars .mysql m (backslash :: after)
      = backslash.chars .mysql ++ renderChars .mysql m after := fun _ => rfl
  rw [renderChars_append, htext, escapedSegments?_renderChars hspaced hplain
    (fun s hs => absurd hs (hstrings s)), escapedSegments?_opening]
  intro t ht q content hquoted
  rw [chars_backslash]
  cases t with
  | ident name =>
    cases hquoted
    simp [Dialect.identQuote]
  | literal v =>
    cases v with
    | string s => exact absurd ht (hstrings s)
    | _ => cases hquoted
  | _ => cases hquoted

section Backslash

variable {ts : List Token} (hspaced : Spaced ts) (hplain : ∀ t ∈ ts, t.isPlain = true)
  (hstrings : ∀ s, .literal (.string s) ∈ ts → .literal (.string s) = backslash)
  (hmem : backslash ∈ ts)

include hspaced hplain hstrings hmem

/-- The first of the strings that are one backslash is left open. -/
theorem exists_escapedSegments?_backslash (n : Nat) :
    ∃ before after m, ts = before ++ backslash :: after ∧
      escapedSegments? none (renderChars .mysql n ts)
        = (escapedSegments? (some ('\'', ['\''])) (renderChars .mysql m after)).map
            (tokenSegments .mysql n before ++ ·) := by
  obtain ⟨before, after, rfl, hfirst⟩ := List.eq_append_cons_of_mem hmem
  refine ⟨before, after, _, rfl, escapedSegments?_backslash ?_ ?_ ?_ n⟩
  · exact (List.isChain_append.mp hspaced).1
  · exact fun t ht => hplain t (List.mem_append_left _ ht)
  · intro s hs
    have hs' := hstrings s (List.mem_append_left _ hs)
    exact hfirst (hs' ▸ hs)

/-- **Strings of one backslash are not read back**: if a text with them can be read at all, the
contents of its quotes are not those of its tokens. -/
theorem quotedContents_ne_of_backslash {n : Nat} {segments : List Segment}
    (h : escapedSegments? none (renderChars .mysql n ts) = some segments) :
    quotedContents segments ≠ ts.filterMap (Token.quotedAs? .mysql) := by
  obtain ⟨before, after, m, rfl, hread⟩ :=
    exists_escapedSegments?_backslash hspaced hplain hstrings hmem n
  rw [hread] at h
  obtain ⟨opened, hopened, rfl⟩ := Option.map_eq_some_iff.mp h
  -- the string begins with the quote that should close it
  obtain ⟨more, later, rfl⟩ := continues_of_escapedSegments? hopened
  have hcontents : quotedContents (tokenSegments .mysql n before
        ++ .quoted '\'' (['\''].reverse ++ more) :: later)
      = before.filterMap (Token.quotedAs? .mysql)
        ++ ('\'', '\'' :: more) :: quotedContents later := by
    rw [← quotedContents_tokenSegments .mysql n before]
    simp [quotedContents]
  have htokens : (before ++ backslash :: after).filterMap (Token.quotedAs? .mysql)
      = before.filterMap (Token.quotedAs? .mysql)
        ++ ('\'', ['\\']) :: after.filterMap (Token.quotedAs? .mysql) := by
    simp [backslash, Token.quotedAs?]
  rw [hcontents, htokens]
  intro heq
  have hstring := List.append_cancel_left heq
  simp at hstring

/-- **A text with strings of one backslash cannot be read** if nothing else in it has quotes or
backslashes: the last of them is never closed. -/
theorem escapedSegments?_eq_none_of_backslash
    (hinert : ∀ t ∈ ts, t = backslash ∨ Inert (t.chars .mysql)) (n : Nat) :
    escapedSegments? none (renderChars .mysql n ts) = none := by
  obtain ⟨before, after, m, rfl, hread⟩ :=
    exists_escapedSegments?_backslash hspaced hplain hstrings hmem n
  rw [hread, escapedSegments?_unclosed, Option.map_none]
  exact fun t ht => hinert t (List.mem_append_right _ (List.mem_cons_of_mem _ ht))

end Backslash

end TenantReports.Sql
