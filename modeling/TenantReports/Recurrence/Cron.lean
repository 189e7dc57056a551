import TenantReports.Json.Parser

/-!
# Cron expressions

An expression has six fields, for seconds, minutes, hours, days of the month, months and days of
the week (from Sunday as 1), and perhaps a seventh for years from 1970 to 2100. A field is a list
of points, ranges and steps, some of which may be given by name. A star stands for all values; so
does a question mark among the days. There are five shorthands, each an expression of its own.

## Main definitions

* `Cron.Item`: what a field lists
* `Cron.TimeUnit`: a unit of time, with its bounds and names
* `Cron.Schedule`: the values of each unit, in ascending order
* `Cron.Schedule.parse?`: the schedule of an expression
-/

namespace TenantReports.Cron

/-- What a step starts from. -/
inductive Base where
  | every
  | range (first last : Nat)
  | point (n : Nat)
  | names (first last : String)
deriving DecidableEq, Repr

/-- What a field lists. -/
inductive Item where
  | base (b : Base)
  | step (b : Base) (n : Nat)
  | name (s : String)
deriving DecidableEq, Repr

/-! ### Reading items -/

/-- What is left of a text after its blanks. -/
def skip (cs : List Char) : List Char := Json.skipBlanks cs

/-- A number of 32 bits between blanks. -/
def number? (cs : List Char) : Option (Nat × List Char) :=
  let cs := skip cs
  let ds := cs.takeWhile Char.isDigit
  let n := Binary64.digitsValue 0 ds
  if ds.isEmpty ∨ Nat.pow 2 32 ≤ n then none else some (n, skip (cs.dropWhile Char.isDigit))

/-- Letters between blanks. -/
def word? (cs : List Char) : Option (String × List Char) :=
  let cs := skip cs
  let letters := cs.takeWhile Char.isAlpha
  if letters.isEmpty then none else some (String.ofList letters, skip (cs.dropWhile Char.isAlpha))

/-- Two things with a character between them. -/
def pair? {α β : Type} (first : List Char → Option (α × List Char)) (sep : Char)
    (second : List Char → Option (β × List Char)) (cs : List Char) :
    Option ((α × β) × List Char) := do
  let (a, r) ← first cs
  match r with
  | c :: r =>
    if c = sep then
      let (b, r) ← second r
      some ((a, b), r)
    else none
  | [] => none

/-- A star, a range, a number or a range of names. A question mark is a star where `question` is
set. -/
def base? (question : Bool) (cs : List Char) : Option (Base × List Char) :=
  match cs with
  | '*' :: r => some (.every, r)
  | '?' :: r => if question then some (.every, r) else none
  | cs =>
    ((pair? number? '-' number? cs).map fun ((a, b), r) => (.range a b, r))
      <|> ((number? cs).map fun (n, r) => (.point n, r))
      <|> ((pair? word? '-' word? cs).map fun ((a, b), r) => (.names a b, r))

/-- An item of a field. -/
def item? (question : Bool) (cs : List Char) : Option (Item × List Char) :=
  ((pair? (base? question) '/' number? cs).map fun ((b, n), r) => (.step b n, r))
    <|> ((base? question cs).map fun (b, r) => (.base b, r))
    <|> ((word? cs).map fun (s, r) => (.name s, r))

/-- Further items, each after a comma. The list ends before a comma that no item follows. -/
def moreItems (question : Bool) : Nat → List Char → List Item × List Char
  | 0, cs => ([], cs)
  | fuel + 1, cs =>
    match cs with
    | ',' :: r =>
      match item? question r with
      | some (i, r) =>
        let (is, r) := moreItems question fuel r
        (i :: is, r)
      | none => ([], cs)
    | _ => ([], cs)

/-- The items of a field, with blanks around them. -/
def items? (question : Bool) (cs : List Char) : Option (List Item × List Char) := do
  let (i, r) ← item? question (skip cs)
  let (is, r) := moreItems question r.length r
  return (i :: is, skip r)

/-! ### Values -/

/-- A unit of time: its bounds, and the names of its values. -/
structure TimeUnit where
  low : Nat
  high : Nat
  names : List (List String)
deriving DecidableEq, Repr

namespace TimeUnit

/-- The seconds of a minute. -/
def second : TimeUnit := ⟨0, 59, []⟩

/-- The minutes of an hour. -/
def minute : TimeUnit := ⟨0, 59, []⟩

/-- The hours of a day. -/
def hour : TimeUnit := ⟨0, 23, []⟩

/-- The days of a month. -/
def day : TimeUnit := ⟨1, 31, []⟩

/-- The months of a year. -/
def month : TimeUnit := ⟨1, 12, [["jan", "january"], ["feb", "february"], ["mar", "march"],
  ["apr", "april"], ["may"], ["jun", "june"], ["jul", "july"], ["aug", "august"],
  ["sep", "september"], ["oct", "october"], ["nov", "november"], ["dec", "december"]]⟩

/-- The days of a week, from Sunday as 1. -/
def weekday : TimeUnit := ⟨1, 7, [["sun", "sunday"], ["mon", "monday"], ["tue", "tues", "tuesday"],
  ["wed", "wednesday"], ["thu", "thurs", "thursday"], ["fri", "friday"], ["sat", "saturday"]]⟩

/-- The years that a schedule can name. -/
def year : TimeUnit := ⟨1970, 2100, []⟩

/-- The numbers from one to another, in ascending order. -/
def between (first last : Nat) : List Nat :=
  (List.range (last + 1 - first)).map (· + first)

/-- All values of a unit. -/
def all (u : TimeUnit) : List Nat := between u.low u.high

/-- The value of a name, in any case. -/
def ofName? (u : TimeUnit) (s : String) : Option Nat :=
  let lowered := String.ofList (s.toList.map Char.toLower)
  (u.names.findIdx? (·.contains lowered)).map (· + u.low)

/-- A value within the bounds. -/
def check? (u : TimeUnit) (n : Nat) : Option Nat := if u.low ≤ n ∧ n ≤ u.high then some n else none

/-- The values of a range within the bounds, which must not be empty. -/
def range? (u : TimeUnit) (first last : Nat) : Option (List Nat) := do
  let first ← u.check? first
  let last ← u.check? last
  if first ≤ last then some (between first last) else none

/-- The values of a star, a range or a number. -/
def base? (u : TimeUnit) : Base → Option (List Nat)
  | .every => some u.all
  | .range a b => u.range? a b
  | .point n => some [n]
  | .names a b => do u.range? (← u.ofName? a) (← u.ofName? b)

/-- Every `n`-th of a list, from the first. -/
def everyNth (n : Nat) (values : List Nat) : List Nat :=
  (values.zipIdx.filter fun p => p.2 % n == 0).map (·.1)

/-- The values of an item. A step from a number goes on to the upper bound. -/
def item? (u : TimeUnit) : Item → Option (List Nat)
  | .base b => u.base? b
  | .step _ 0 => none
  | .step (.point n) k => (u.check? n).map fun n => everyNth k (between n u.high)
  | .step b k => (u.base? b).map (everyNth k)
  | .name s => (u.ofName? s).map ([·])

/-- The values of a field, in ascending order. -/
def values? (u : TimeUnit) (items : List Item) : Option (List Nat) := do
  let lists ← items.mapM u.item?
  let chosen ← lists.flatten.mapM u.check?
  return u.all.filter chosen.contains

/-- A field at the start of a text: its values, and the characters left. -/
def field? (u : TimeUnit) (cs : List Char) : Option (List Nat × List Char) := do
  let (items, r) ← items? false cs
  return (← u.values? items, r)

/-- A field in which a question mark, too, stands for all values. -/
def questionField? (u : TimeUnit) (cs : List Char) : Option (List Nat × List Char) := do
  let (items, r) ← items? true cs
  return (← u.values? items, r)

end TimeUnit

/-- The values of each unit of time, in ascending order. -/
structure Schedule where
  seconds : List Nat
  minutes : List Nat
  hours : List Nat
  days : List Nat
  months : List Nat
  weekdays : List Nat
  years : List Nat
deriving DecidableEq, Repr

namespace Schedule

/-- The schedule that fires every hour. -/
def hourly : Schedule where
  seconds := [0]
  minutes := [0]
  hours := TimeUnit.hour.all
  days := TimeUnit.day.all
  months := TimeUnit.month.all
  weekdays := TimeUnit.weekday.all
  years := TimeUnit.year.all

/-- The schedule that fires at the start of every day. -/
def daily : Schedule := { hourly with hours := [0] }

/-- The shorthands. -/
def shorthands : List (String × Schedule) :=
  [("@yearly", { daily with days := [1], months := [1] }), ("@monthly", { daily with days := [1] }),
    ("@weekly", { daily with weekdays := [1] }), ("@daily", daily), ("@hourly", hourly)]

/-- The characters after a given start, if a text begins with it. -/
def afterStart? : List Char → List Char → Option (List Char)
  | [], cs => some cs
  | c :: cs, d :: ds => if c = d then afterStart? cs ds else none
  | _ :: _, [] => none

/-- The schedule of a shorthand with blanks around it. -/
def shorthand? (cs : List Char) : Option Schedule :=
  (shorthands.find? fun s => (afterStart? s.1.toList (skip cs)).map skip == some []).map (·.2)

/-- The schedule of an expression of fields. -/
def fields? (cs : List Char) : Option Schedule := do
  let (seconds, r) ← TimeUnit.second.field? cs
  let (minutes, r) ← TimeUnit.minute.field? r
  let (hours, r) ← TimeUnit.hour.field? r
  let (days, r) ← TimeUnit.day.questionField? r
  let (months, r) ← TimeUnit.month.field? r
  let (weekdays, r) ← TimeUnit.weekday.questionField? r
  let (years, r) := (TimeUnit.year.field? r).getD (TimeUnit.year.all, r)
  if r.isEmpty then some ⟨seconds, minutes, hours, days, months, weekdays, years⟩ else none

/-- The schedule of an expression. -/
def parse? (text : String) : Option Schedule :=
  shorthand? text.toList <|> fields? text.toList

end Schedule

end TenantReports.Cron
