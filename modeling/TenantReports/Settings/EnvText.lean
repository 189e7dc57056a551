import TenantReports.Text.Alphanumeric

/-!
# Texts with variables

A path may name variables of the environment, as in `${HOME}/x` or `$HOME/x`. A name in braces
ends at the closing brace or at the end of the text; any other name is as long as it has letters,
digits and underscores. A dollar sign without a name stands for itself, and so does everything in
the value of a variable.

## Main definitions

* `EnvPiece`: a character or a variable
* `envPieces`, `envNames`: the pieces of a text, and the variables among them
* `Environment`: the values of variables
* `expandEnv`: the text with the values of its variables, or the first one that has none
-/

namespace TenantReports

/-- A character that stands for itself, or the name of a variable. -/
inductive EnvPiece where
  | char (c : Char)
  | variable (name : String)
deriving DecidableEq, Repr

/-- What a name outside braces is made of. -/
def isEnvNameChar (c : Char) : Bool := Text.isAlphanumeric c || c == '_'

/-- A text's first piece after a dollar sign, and the characters left. -/
def envPiece (cs : List Char) : EnvPiece × List Char :=
  match cs with
  | '\x7b' :: r =>
    (.variable (String.ofList (r.takeWhile (· != '\x7d'))), (r.dropWhile (· != '\x7d')).drop 1)
  | _ =>
    if (cs.takeWhile isEnvNameChar).isEmpty then (.char '$', cs)
    else (.variable (String.ofList (cs.takeWhile isEnvNameChar)), cs.dropWhile isEnvNameChar)

theorem length_dropWhile_le {α : Type} (p : α → Bool) (l : List α) :
    (l.dropWhile p).length ≤ l.length := by
  induction l with
  | nil => simp
  | cons a l ih =>
    rw [List.dropWhile_cons]
    split
    · exact Nat.le_succ_of_le ih
    · exact Nat.le_refl _

theorem length_envPiece_le (cs : List Char) : (envPiece cs).2.length ≤ cs.length := by
  unfold envPiece
  split
  · rename_i r
    have := length_dropWhile_le (· != '\x7d') r
    simp only [List.length_drop, List.length_cons]
    omega
  · split
    · exact Nat.le_refl _
    · exact length_dropWhile_le _ _

/-- The pieces of a text. -/
def envPieces : List Char → List EnvPiece
  | [] => []
  | c :: cs =>
    if c = '$' then (envPiece cs).1 :: envPieces (envPiece cs).2
    else .char c :: envPieces cs
termination_by cs => cs.length
decreasing_by
  · exact Nat.lt_succ_of_le (length_envPiece_le cs)
  · exact Nat.lt_succ_self _

/-- The names of the variables in a text, in order. -/
def envNames (text : String) : List String :=
  (envPieces text.toList).filterMap fun
    | .char _ => none
    | .variable name => some name

/-- The values of variables, of those that have one. -/
abbrev Environment := String → Option String

/-- A variable that can be set: its name is not empty and has no equals sign, and neither the name
nor the value has a null character. -/
def isEnvEntry (e : String × String) : Bool :=
  e.1 != "" && !e.1.contains '=' && !e.1.contains '\x00' && !e.2.contains '\x00'

/-- What follows a name in an entry, where the name ends right before an equals sign. -/
def envValue? (name : String) (e : String × String) : Option String :=
  let start := name.toList ++ ['=']
  let entry := e.1.toList ++ '=' :: e.2.toList
  if start.isPrefixOf entry then some (String.ofList (entry.drop start.length)) else none

/-- The environment of some variables. Each is one text, a name and a value with an equals sign
between them, so a name with an equals sign of its own may reach into a value. -/
def Environment.ofEntries (entries : List (String × String)) : Environment := fun name =>
  if name = "" then none else entries.findSome? (envValue? name)

/-- What a piece stands for, or the name of a variable without a value. -/
def EnvPiece.value (env : Environment) : EnvPiece → Except String (List Char)
  | .char c => .ok [c]
  | .variable name =>
    match env name with
    | some value => .ok value.toList
    | none => .error name

/-- What pieces stand for one after the other, or the first name without a value. -/
def expandPieces (env : Environment) : List EnvPiece → Except String (List Char)
  | [] => .ok []
  | p :: ps => do
    let first ← p.value env
    let rest ← expandPieces env ps
    return first ++ rest

/-- A text with the values of its variables, or the first name without a value. -/
def expandEnv (env : Environment) (text : String) : Except String String :=
  (expandPieces env (envPieces text.toList)).map String.ofList

end TenantReports
