import TenantReports.Report.Layout
import TenantReports.Validation.Scope

/-!
# Checking sources and joins

The primary source must be complete. Each join names a further complete source and may state the
two fields that must be equal; otherwise a declared relation to an earlier source supplies them.
A joined source is in scope of its own condition and of everything after it.

## Main definitions

* `relationCondition?`: the condition that a declared relation supplies
* `checkJoin`: a join
* `checkSources`: the section
-/

namespace TenantReports

/-- The two fields of a relation from `source`, if it names both. -/
def Relation.fieldsFrom? (r : Relation) (source : String) : Option (FieldRef × FieldRef) :=
  match r.localField, r.foreignField with
  | some l, some f => some (⟨source, l⟩, ⟨r.target, f⟩)
  | _, _ => none

/-- The relations that a source declares. -/
def Catalog.relations (c : Catalog) (source : String) : List Relation :=
  ((c.source? source).map (·.relations)).getD []

/-- The condition that a declared relation supplies: the first with both fields of those from an
earlier source to the table, else of those from the table to an earlier source. -/
def relationCondition? (c : Catalog) (earlier : List String) (table : String) :
    Option (FieldRef × FieldRef) :=
  let forth := earlier.flatMap fun source =>
    ((c.relations source).filter (·.target == table)).filterMap (·.fieldsFrom? source)
  let back := ((c.relations table).filter fun r => earlier.contains r.target).filterMap
    (·.fieldsFrom? table)
  (forth ++ back).head?

/-- The stated condition of a join: a list of two names of fields. -/
def statedCondition (scope : Scope) (place : Place) : Json → Checked (FieldRef × FieldRef)
  | .array [.string l, .string r] =>
    (fun l r => (l.ref, r.ref)) <$> scope.resolve place l <*> scope.resolve place r
  | _ => .fail (.invalidJoinCondition place)

/-- The condition of a join, given the sources before it and with it. -/
def joinCondition (scope : Scope) (earlier : List String) (table : String) (place : Place) :
    Option Json → Checked (FieldRef × FieldRef)
  | none => .ofOption (relationCondition? scope.catalog earlier table) (.missingValue place "on")
  | some j => statedCondition scope place j

/-- The table of a join: a complete source that the report does not have yet. -/
def joinTable (scope : Scope) (place : Place) (entries : List (String × Json)) : Checked String :=
  (requiredText place entries "table").andThen fun table =>
    if !scope.catalog.isValidSource table then .fail (.unknownSource place table)
    else if scope.sources.contains table then .fail (.duplicateJoin place table)
    else .ok table

/-- A join, and the sources in scope after it. -/
def checkJoin (catalog : Catalog) (index : Nat) (item : Json) (earlier : List String) :
    Checked Join × List String :=
  let place := Place.join index
  match item with
  | .object entries =>
    match joinTable ⟨catalog, earlier⟩ place entries with
    | .bad p ps => (.bad p ps, earlier)
    | .ok table =>
      let sources := earlier ++ [table]
      let kind := wordOr place "join type" JoinKind.inner (given? entries "type")
      let condition := joinCondition ⟨catalog, sources⟩ earlier table place (given? entries "on")
      ((fun kind (l, r) => ⟨table, kind, l, r⟩) <$> kind <*> condition, sources)
  | _ => (.fail (.malformed place "a join object"), earlier)

/-- The primary source: a complete one. -/
def checkPrimary (catalog : Catalog) (entries : List (String × Json)) : Checked String :=
  (requiredText .sources entries "primary").andThen fun key =>
    if catalog.isValidSource key then .ok key else .fail (.unknownSource .primary key)

/-- What the check of the sources comes to. -/
inductive SourcesOutcome where
  | malformed (problems : List Problem)
  | noPrimary (problems : List Problem)
  | scoped (primary : String) (joins : Section Join) (scope : List String)

/-- The sources: the primary one, the number of joins, and the joins. -/
def checkSources (catalog : Catalog) (limits : Limits) : Json → SourcesOutcome
  | .object entries =>
    let primary := checkPrimary catalog entries
    match listSection? .joins "a list of joins" ((entries.lookup "joins").getD .null) with
    | .error p => .malformed (primary.problems ++ [p])
    | .ok items =>
      let before := primary.problems ++ atMost .joins items.length limits.maxJoins
      match primary with
      | .bad _ _ => .noPrimary before
      | .ok key =>
        let (joins, scope) := Checked.checkAll (checkJoin catalog) 0 items [key]
        .scoped key (.ofItems before joins []) scope
  | _ => .malformed [.malformed .sources "an object with a primary source"]

end TenantReports
