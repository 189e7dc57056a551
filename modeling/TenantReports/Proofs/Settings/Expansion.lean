import TenantReports.Settings.Settings

/-!
# Texts with variables, part by part

A text with variables is written in parts: characters without a dollar sign, a name in braces, a
name that goes on as far as it can, a dollar sign that begins no name. Each part is read as it was
written, and where it ends the next one begins, up to the end of the text. So the text comes to
what its parts stand for, one after the other. The value of a variable is not looked into, and may
have dollar signs of its own. If some variables have no value, the first of them is told.

## Main definitions

* `EnvPart`: a part of a text, as it is written
* `EnvPart.Precedes`, `WellWritten`: the parts that the text keeps apart
* `ReadsOff`: the pieces that are read off a text, and what is left of it

## Main results

* `readsOff_part`: a part is read as it was written
* `readsOff_writtenText`: so are the parts of a text, up to its end
* `expandPieces_parts`: what parts come to, or the first name without a value
* `expandPath_writtenText`: what a text comes to
-/

namespace TenantReports

/-! ## Parts -/

/-- A part of a text: characters that stand for themselves, a name in braces, a name without them,
or a dollar sign of its own. -/
inductive EnvPart where
  | literal (chars : List Char)
  | braced (name : List Char)
  | bare (name : List Char)
  | dollar
deriving DecidableEq, Repr

namespace EnvPart

/-- How a part is written. -/
def written : EnvPart → List Char
  | literal chars => chars
  | braced name => '$' :: '\x7b' :: name ++ ['\x7d']
  | bare name => '$' :: name
  | dollar => ['$']

/-- A part may be written before a text. A name without braces ends there, and a dollar sign of its
own is not taken for the beginning of a name. -/
def Precedes (rest : List Char) : EnvPart → Prop
  | literal chars => '$' ∉ chars
  | braced name => '\x7d' ∉ name
  | bare name => name ≠ [] ∧ (∀ c ∈ name, isEnvNameChar c = true) ∧
      ∀ c ∈ rest.head?, isEnvNameChar c = false
  | dollar => ∀ c ∈ rest.head?, c ≠ '\x7b' ∧ isEnvNameChar c = false

/-- What a part is read as. -/
def pieces : EnvPart → List EnvPiece
  | literal chars => chars.map .char
  | braced name | bare name => [.variable (String.ofList name)]
  | dollar => [.char '$']

/-- The variable that a part refers to. -/
def reference? : EnvPart → Option String
  | braced name | bare name => some (String.ofList name)
  | literal _ | dollar => none

/-- What a part stands for, if its variable has a value. -/
def meaning (env : Environment) : EnvPart → List Char
  | literal chars => chars
  | braced name | bare name => ((env (String.ofList name)).getD "").toList
  | dollar => ['$']

end EnvPart

/-- The text that parts are written as. -/
def writtenText (parts : List EnvPart) : List Char := parts.flatMap EnvPart.written

/-- Each part may be written before those that come after it. -/
def WellWritten : List EnvPart → Prop
  | [] => True
  | part :: parts => part.Precedes (writtenText parts) ∧ WellWritten parts

instance (rest : List Char) : (part : EnvPart) → Decidable (part.Precedes rest)
  | .literal chars => inferInstanceAs (Decidable ('$' ∉ chars))
  | .braced name => inferInstanceAs (Decidable ('\x7d' ∉ name))
  | .bare name =>
    have := List.decidableBAll (fun c => isEnvNameChar c = true) name
    have := Option.decidableForallMem (p := fun c => isEnvNameChar c = false) rest.head?
    inferInstanceAs (Decidable (name ≠ [] ∧ (∀ c ∈ name, isEnvNameChar c = true) ∧
      ∀ c ∈ rest.head?, isEnvNameChar c = false))
  | .dollar => Option.decidableForallMem rest.head?

instance decidableWellWritten : (parts : List EnvPart) → Decidable (WellWritten parts)
  | [] => .isTrue trivial
  | part :: parts =>
    have := decidableWellWritten parts
    inferInstanceAs (Decidable (part.Precedes (writtenText parts) ∧ WellWritten parts))

/-! ## Reading -/

/-- Some pieces are read off a text, one after the other, and the rest of it is left. -/
inductive ReadsOff : List Char → List EnvPiece → List Char → Prop
  | nil (rest : List Char) : ReadsOff rest [] rest
  | char {c : Char} {cs rest : List Char} {ps : List EnvPiece} (hc : c ≠ '$')
      (h : ReadsOff cs ps rest) : ReadsOff (c :: cs) (.char c :: ps) rest
  | dollar {cs rest : List Char} {ps : List EnvPiece} (h : ReadsOff (envPiece cs).2 ps rest) :
      ReadsOff ('$' :: cs) ((envPiece cs).1 :: ps) rest

namespace ReadsOff

variable {cs rest : List Char} {ps : List EnvPiece}

theorem append {qs : List EnvPiece} {rest' : List Char} (h : ReadsOff cs ps rest)
    (h' : ReadsOff rest qs rest') : ReadsOff cs (ps ++ qs) rest' := by
  induction h with
  | nil => exact h'
  | char hc _ ih => exact .char hc (ih h')
  | dollar _ ih => exact .dollar (ih h')

/-- The pieces of a text are those that are read off it, and then those of what is left. -/
theorem envPieces_eq (h : ReadsOff cs ps rest) : envPieces cs = ps ++ envPieces rest := by
  induction h with
  | nil => rfl
  | char hc _ ih => rw [envPieces, if_neg hc, ih, List.cons_append]
  | dollar _ ih => rw [envPieces, if_pos rfl, ih, List.cons_append]

end ReadsOff

section Parts

variable {name rest : List Char}

/-- Characters without a dollar sign are read one by one. -/
theorem readsOff_literal {chars : List Char} (h : '$' ∉ chars) :
    ReadsOff (chars ++ rest) (chars.map .char) rest := by
  induction chars with
  | nil => exact .nil rest
  | cons c chars ih =>
    rw [List.mem_cons, not_or] at h
    exact .char (Ne.symm h.1) (ih h.2)

/-- A name in braces ends at the first closing brace. -/
theorem envPiece_braced (hname : '\x7d' ∉ name) :
    envPiece ('\x7b' :: (name ++ '\x7d' :: rest)) = (.variable (String.ofList name), rest) := by
  have hinside : ∀ c ∈ name, (c != '\x7d') = true := by
    intro c hc
    rw [bne_iff_ne]
    rintro rfl
    exact hname hc
  rw [envPiece, List.takeWhile_append_of_pos hinside, List.dropWhile_append_of_pos hinside]
  simp

/-- A name without braces goes on as far as it can. -/
theorem envPiece_bare (hne : name ≠ []) (hname : ∀ c ∈ name, isEnvNameChar c = true)
    (hrest : ∀ c ∈ rest.head?, isEnvNameChar c = false) :
    envPiece (name ++ rest) = (.variable (String.ofList name), rest) := by
  obtain ⟨c, cs, rfl⟩ := List.exists_cons_of_ne_nil hne
  have hbrace : c ≠ '\x7b' := by
    rintro rfl
    exact absurd (hname _ List.mem_cons_self) (by decide)
  -- the text after the name adds nothing to it
  have htake : rest.takeWhile isEnvNameChar = [] ∧ rest.dropWhile isEnvNameChar = rest := by
    cases rest with
    | nil => exact ⟨rfl, rfl⟩
    | cons r rest => simp [hrest r rfl]
  unfold envPiece
  split
  · simp_all
  · rw [List.takeWhile_append_of_pos hname, List.dropWhile_append_of_pos hname, htake.1, htake.2]
    simp

/-- A dollar sign before neither a brace nor a name stands for itself. -/
theorem envPiece_dollar (hrest : ∀ c ∈ rest.head?, c ≠ '\x7b' ∧ isEnvNameChar c = false) :
    envPiece rest = (.char '$', rest) := by
  cases rest with
  | nil => rfl
  | cons c rest =>
    obtain ⟨hbrace, hc⟩ := hrest c rfl
    unfold envPiece
    split
    · simp_all
    · simp [hc]

/-- **A part is read as it was written**, and what comes after it is left. -/
theorem readsOff_part {part : EnvPart} (h : part.Precedes rest) :
    ReadsOff (part.written ++ rest) part.pieces rest := by
  -- after a dollar sign there is one piece, if the text that is left is known
  have hdollar : ∀ {cs : List Char} {p : EnvPiece}, envPiece cs = (p, rest) →
      ReadsOff ('$' :: cs) [p] rest := by
    intro cs p hp
    have hread : ReadsOff ('$' :: cs) [(envPiece cs).1] rest := .dollar (by rw [hp]; exact .nil rest)
    rwa [hp] at hread
  cases part with
  | literal chars => exact readsOff_literal h
  | braced name =>
    have hname : envPiece ('\x7b' :: (name ++ '\x7d' :: rest))
        = (.variable (String.ofList name), rest) := envPiece_braced h
    simpa [EnvPart.written, EnvPart.pieces] using hdollar hname
  | bare name => exact hdollar (envPiece_bare h.1 h.2.1 h.2.2)
  | dollar => exact hdollar (envPiece_dollar h)

end Parts

/-- **The parts of a text are read one after the other**, up to its end. -/
theorem readsOff_writtenText {parts : List EnvPart} (h : WellWritten parts) :
    ReadsOff (writtenText parts) (parts.flatMap EnvPart.pieces) [] := by
  induction parts with
  | nil => exact .nil []
  | cons part parts ih => exact (readsOff_part h.1).append (ih h.2)

/-! ## Values -/

variable (env : Environment)

/-- The first variable without a value that parts refer to. -/
def firstUnset? (parts : List EnvPart) : Option String :=
  (parts.filterMap EnvPart.reference?).find? fun name => (env name).isNone

/-- Characters come to themselves. -/
theorem expandPieces_chars (chars : List Char) (qs : List EnvPiece) :
    expandPieces env (chars.map .char ++ qs) = (expandPieces env qs).map (chars ++ ·) := by
  induction chars with
  | nil => cases hqs : expandPieces env qs <;> simp [hqs, Except.map]
  | cons c chars ih =>
    rw [List.map_cons, List.cons_append, expandPieces, ih]
    cases expandPieces env qs <;> rfl

section Part

variable {env} {part : EnvPart} (qs : List EnvPiece)

/-- A part comes to what it stands for, unless it refers to a variable without a value. -/
theorem expandPieces_of_set (h : ∀ name ∈ part.reference?, (env name).isNone = false) :
    expandPieces env (part.pieces ++ qs)
      = (expandPieces env qs).map (part.meaning env ++ ·) := by
  cases part with
  | literal chars => exact expandPieces_chars env chars qs
  | dollar => exact expandPieces_chars env ['$'] qs
  | braced name | bare name =>
    obtain ⟨value, hvalue⟩ := Option.isSome_iff_exists.mp (by simpa using h _ rfl)
    simp only [EnvPart.pieces, EnvPart.meaning, List.singleton_append, expandPieces,
      EnvPiece.value, hvalue, Option.getD_some]
    cases expandPieces env qs <;> rfl

/-- Such a variable is told, whatever comes after it. -/
theorem expandPieces_of_unset {name : String} (hname : part.reference? = some name)
    (h : (env name).isNone = true) : expandPieces env (part.pieces ++ qs) = .error name := by
  rw [Option.isNone_iff_eq_none] at h
  cases part with
  | literal chars => cases hname
  | dollar => cases hname
  | braced chars | bare chars =>
    obtain rfl := Option.some.inj hname
    simp only [EnvPart.pieces, List.singleton_append, expandPieces, EnvPiece.value, h]
    rfl

end Part

/-- **Parts come to what they stand for, one after the other**, or to the first variable without a
value. -/
theorem expandPieces_parts (parts : List EnvPart) :
    expandPieces env (parts.flatMap EnvPart.pieces) = match firstUnset? env parts with
      | some name => .error name
      | none => .ok (parts.flatMap (EnvPart.meaning env)) := by
  induction parts with
  | nil => rfl
  | cons part parts ih =>
    rw [List.flatMap_cons, List.flatMap_cons]
    -- the first part is the first without a value, or it comes to what it stands for
    by_cases hunset : ∃ name, part.reference? = some name ∧ (env name).isNone = true
    · obtain ⟨name, href, hname⟩ := hunset
      have hfirst : firstUnset? env (part :: parts) = some name := by
        simp [firstUnset?, href, hname]
      rw [expandPieces_of_unset _ href hname, hfirst]
    · have hset : ∀ name ∈ part.reference?, (env name).isNone = false := by
        intro name href
        exact Bool.eq_false_iff.mpr fun hname => hunset ⟨name, href, hname⟩
      have hrest : firstUnset? env (part :: parts) = firstUnset? env parts := by
        cases href : part.reference? with
        | none => simp [firstUnset?, href]
        | some name => simp [firstUnset?, href, hset name href]
      rw [expandPieces_of_set _ hset, ih, hrest]
      cases firstUnset? env parts <;> rfl

/-- **A text with variables is read part by part, up to its end, and comes to what its parts stand
for**, one after the other: characters and dollar signs of their own for themselves, and variables
for their values, which are not looked into. If some variables have no value, it comes to the first
of them in the order of the text. -/
theorem expandPath_writtenText {parts : List EnvPart} (h : WellWritten parts) :
    ReadsOff (writtenText parts) (parts.flatMap EnvPart.pieces) [] ∧
      envPieces (writtenText parts) = parts.flatMap EnvPart.pieces ∧
      Settings.expandPath env (String.ofList (writtenText parts))
        = match firstUnset? env parts with
          | some name => .error (.missingVariable name)
          | none => .ok (String.ofList (parts.flatMap (EnvPart.meaning env))) := by
  have hread := readsOff_writtenText h
  have hpieces : envPieces (writtenText parts) = parts.flatMap EnvPart.pieces := by
    rw [hread.envPieces_eq, envPieces, List.append_nil]
  refine ⟨hread, hpieces, ?_⟩
  rw [Settings.expandPath, expandEnv, String.toList_ofList, hpieces, expandPieces_parts]
  cases firstUnset? env parts <;> rfl

/-- `~/$A${B C}$ $$A`: names next to each other, and dollar signs before a blank and before a name. -/
def homeParts : List EnvPart :=
  [.literal ['~', '/'], .bare ['A'], .braced ['B', ' ', 'C'], .dollar, .literal [' '], .dollar,
    .bare ['A']]

/-- A value with a dollar sign in it stays as it is, and of two variables without a value it is the
first that is told. -/
theorem expandPath_homeParts :
    WellWritten homeParts ∧
      String.ofList (writtenText homeParts) = "~/$A$\x7bB C\x7d$ $$A" ∧
      Settings.expandPath (.ofEntries [("A", "$HOME"), ("B C", "b")]) "~/$A$\x7bB C\x7d$ $$A"
        = .ok "~/$HOMEb$ $$HOME" ∧
      Settings.expandPath (.ofEntries [("A", "$HOME")]) "~/$A$\x7bB C\x7d$ $$A"
        = .error (.missingVariable "B C") ∧
      Settings.expandPath (.ofEntries []) "~/$A$\x7bB C\x7d$ $$A"
        = .error (.missingVariable "A") := by
  have h : WellWritten homeParts := by decide
  refine ⟨h, rfl, ?_, ?_, ?_⟩
  · exact (expandPath_writtenText (.ofEntries [("A", "$HOME"), ("B C", "b")]) h).2.2
  · exact (expandPath_writtenText (.ofEntries [("A", "$HOME")]) h).2.2
  · exact (expandPath_writtenText (.ofEntries []) h).2.2

end TenantReports
