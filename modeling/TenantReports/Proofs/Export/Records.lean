import TenantReports.Export.Csv
import TenantReports.Proofs.Outcome

/-!
# Records read back

Comma-separated values are read one character after the other. A quote at the beginning of a field
opens quotes, within which a quote is doubled and all else is itself; outside of them a comma ends
the field, and a line feed, which may have a carriage return before it, ends the record. A quote
within a bare field, a character behind closed quotes and a carriage return of its own are refused.
What is to be made of an empty line is left open: it is a record of one empty field, or it is
skipped.

Whatever is written is read back by either reader. A field goes to the reader as it is, or in
quotes; after it stands a comma or the end of the line. Only a record whose text would be empty
could be taken for an empty line, and that one is written with quotes.

## Main definitions

* `Csv.Place`, `Csv.Move`, `Csv.Place.move?`: where a reader stands, and what it makes of a
  character there
* `Csv.readFrom`, `Csv.read?`: the records of a text

## Main results

* `Csv.readFrom_fieldChars`: a field is read back, whatever its characters are
* `Csv.readFrom_recordChars`: so is a record
* `Csv.recordsChars_eq_ok`, `Csv.write_eq_ok`: records are written exactly if they are as long as
  the first one
* `Csv.read?_write`: a table is read back
-/

namespace TenantReports.Csv

/-! ## A reader -/

/-- Where a reader stands: at the start of a record, at the start of a further field, in a field
without quotes, between quotes, behind a quote that may have closed them, or behind a carriage
return, before which there was an empty line or not. -/
inductive Place where
  | start
  | next
  | bare
  | quoted
  | closed
  | returned (blank : Bool)
deriving DecidableEq, Repr

/-- What a reader makes of a character: it goes to another place, takes the character as one of the
field as well, or ends the field or the record, which may be an empty line. -/
inductive Move where
  | go (place : Place)
  | take (place : Place)
  | endField
  | endRecord (blank : Bool)
deriving DecidableEq, Repr

namespace Place

/-- A comma or a line break outside of quotes. -/
def separation? (p : Place) (c : Char) : Option Move :=
  if c = ',' then some .endField
  else if c = '\n' then some (.endRecord (p = .start))
  else if c = '\r' then some (.go (.returned (p = .start)))
  else none

/-- What a reader makes of a character, unless it refuses it. -/
def move? (p : Place) (c : Char) : Option Move :=
  match p with
  | .start | .next =>
    if c = '"' then some (.go .quoted) else some ((p.separation? c).getD (.take .bare))
  | .bare => if c = '"' then none else some ((p.separation? c).getD (.take .bare))
  | .quoted => if c = '"' then some (.go .closed) else some (.take .quoted)
  | .closed => if c = '"' then some (.take .quoted) else p.separation? c
  | .returned blank => if c = '\n' then some (.endRecord blank) else none

end Place

/-- The records of a text, read from a place, with the fields of the record and the characters of
the field that were read before. -/
def readFrom (skips : Bool) :
    Place → List (List Char) → List Char → List Char → Option (List (List (List Char)))
  | .start, _, _, [] => some []
  | .quoted, _, _, [] => none
  | .returned _, _, _, [] => none
  | _, fields, field, [] => some [fields ++ [field]]
  | p, fields, field, c :: cs =>
    match p.move? c with
    | none => none
    | some (.go p') => readFrom skips p' fields field cs
    | some (.take p') => readFrom skips p' fields (field ++ [c]) cs
    | some .endField => readFrom skips .next (fields ++ [field]) [] cs
    | some (.endRecord blank) =>
      (readFrom skips .start [] [] cs).map fun records =>
        if blank && skips then records else (fields ++ [field]) :: records

/-- The records of a text. Empty lines are skipped, or they are records of one empty field. -/
def read? (skips : Bool) (text : String) : Option (List (List String)) :=
  (readFrom skips .start [] [] text.toList).map fun records =>
    records.map fun fields => fields.map String.ofList

/-! ## Fields -/

section Read

variable {skips : Bool} {p : Place} {fields : List (List Char)} {field rest : List Char}

/-- A character that is no quote, comma or line break is taken as it is. -/
theorem move?_of_not_special {c : Char} (hc : isSpecial c = false)
    (hp : p = .start ∨ p = .next ∨ p = .bare) : p.move? c = some (.take .bare) := by
  simp only [isSpecial, Bool.or_eq_false_iff, beq_eq_false_iff_ne] at hc
  obtain ⟨⟨⟨hcomma, hquote⟩, hline⟩, hreturn⟩ := hc
  rcases hp with rfl | rfl | rfl <;>
    simp [Place.move?, Place.separation?, hcomma, hquote, hline, hreturn]

/-- Such characters are read one by one. -/
theorem readFrom_bare {cs : List Char} (hcs : ∀ c ∈ cs, isSpecial c = false) :
    readFrom skips .bare fields field (cs ++ rest)
      = readFrom skips .bare fields (field ++ cs) rest := by
  induction cs generalizing field with
  | nil => rw [List.nil_append, List.append_nil]
  | cons c cs ih =>
    have hc := hcs c List.mem_cons_self
    rw [List.cons_append, readFrom, move?_of_not_special hc (.inr (.inr rfl))]
    dsimp only
    rw [ih fun c' hc' => hcs c' (List.mem_cons_of_mem c hc'), List.append_assoc]
    rfl

/-- Between quotes every character is read as it is, and two quotes are one. -/
theorem readFrom_quoted (cs : List Char) :
    readFrom skips .quoted fields field
        (cs.flatMap (fun c => if c = '"' then ['"', '"'] else [c]) ++ rest)
      = readFrom skips .quoted fields (field ++ cs) rest := by
  induction cs generalizing field with
  | nil => rw [List.flatMap_nil, List.nil_append, List.append_nil]
  | cons c cs ih =>
    have hfield : field ++ c :: cs = field ++ [c] ++ cs := by simp
    rw [hfield, ← ih, List.flatMap_cons, List.append_assoc]
    by_cases hc : c = '"'
    · rw [if_pos hc, hc]
      simp [readFrom, Place.move?]
    · rw [if_neg hc]
      simp [readFrom, Place.move?, hc]

/-- **A field is read back**, whatever its characters are. Behind it the reader stands in a bare
field or behind the quotes, or it has not moved, as the field was empty. -/
theorem readFrom_fieldChars (f : String) (hp : p = .start ∨ p = .next) :
    ∃ p', (p' = .bare ∨ p' = .closed ∨ p' = p ∧ fieldChars f = []) ∧
      readFrom skips p fields [] (fieldChars f ++ rest)
        = readFrom skips p' fields f.toList rest := by
  unfold fieldChars
  split
  · -- in quotes
    refine ⟨.closed, .inr (.inl rfl), ?_⟩
    have hopen : p.move? '"' = some (.go .quoted) := by
      rcases hp with rfl | rfl <;> rfl
    rw [quoteChars, List.cons_append, List.cons_append, readFrom, hopen]
    dsimp only
    rw [List.append_assoc, readFrom_quoted, List.nil_append, List.singleton_append, readFrom]
    rfl
  · rename_i hbare
    rw [Bool.not_eq_true, List.any_eq_false] at hbare
    cases hf : f.toList with
    | nil => exact ⟨p, .inr (.inr ⟨rfl, rfl⟩), rfl⟩
    | cons d ds =>
      rw [hf] at hbare
      have hplain : ∀ e ∈ d :: ds, isSpecial e = false := fun e he =>
        Bool.eq_false_iff.mpr (hbare e he)
      have hd := move?_of_not_special (hplain d List.mem_cons_self) (hp.imp_right .inl)
      refine ⟨.bare, .inl rfl, ?_⟩
      rw [List.cons_append, readFrom, hd]
      dsimp only
      rw [readFrom_bare fun e he => hplain e (List.mem_cons_of_mem d he)]
      rfl

/-- A field and the comma behind it. -/
theorem readFrom_comma (f : String) (hp : p = .start ∨ p = .next) :
    readFrom skips p fields [] (fieldChars f ++ ',' :: rest)
      = readFrom skips .next (fields ++ [f.toList]) [] rest := by
  obtain ⟨p', hp', hread⟩ := readFrom_fieldChars f hp
  rw [hread]
  rcases hp' with rfl | rfl | ⟨rfl, -⟩
  · rfl
  · rfl
  · rcases hp with rfl | rfl <;> rfl

/-- A field and the end of the line behind it. It must not be taken for an empty line. -/
theorem readFrom_line (f : String) (hp : p = .start ∧ fieldChars f ≠ [] ∨ p = .next) :
    readFrom skips p fields [] (fieldChars f ++ '\n' :: rest)
      = (readFrom skips .start [] [] rest).map ((fields ++ [f.toList]) :: ·) := by
  obtain ⟨p', hp', hread⟩ := readFrom_fieldChars f (hp.imp_left And.left)
  rw [hread]
  rcases hp' with rfl | rfl | ⟨rfl, hempty⟩
  · rfl
  · rfl
  · rcases hp with ⟨rfl, hne⟩ | rfl
    · exact absurd hempty hne
    · rfl

/-! ## Records -/

/-- The fields of a line are read back, unless the line is empty. -/
theorem readFrom_joinFields (f : String) (fs : List String)
    (hp : p = .start ∧ joinFields ((f :: fs).map fieldChars) ≠ [] ∨ p = .next) :
    readFrom skips p fields [] (joinFields ((f :: fs).map fieldChars) ++ '\n' :: rest)
      = (readFrom skips .start [] [] rest).map
          ((fields ++ (f :: fs).map String.toList) :: ·) := by
  induction fs generalizing f p fields with
  | nil => exact readFrom_line f hp
  | cons g fs ih =>
    have hline : joinFields ((f :: g :: fs).map fieldChars) ++ '\n' :: rest
        = fieldChars f ++ ',' :: (joinFields ((g :: fs).map fieldChars) ++ '\n' :: rest) := by
      simp [joinFields]
    rw [hline, readFrom_comma f (hp.imp_left And.left), ih g (.inr rfl), List.append_assoc]
    rfl

/-- A line is empty only if the record is one empty field. -/
theorem eq_of_joinFields_eq_nil {f : String} {fs : List String}
    (h : joinFields ((f :: fs).map fieldChars) = []) : f = "" ∧ fs = [] := by
  cases fs with
  | nil =>
    refine ⟨?_, rfl⟩
    have hfield : fieldChars f = [] := h
    unfold fieldChars at hfield
    split at hfield
    · cases hfield
    · exact String.toList_eq_nil_iff.mp hfield
  | cons g fs => simp [joinFields] at h

/-- **A record is read back.** -/
theorem readFrom_recordChars {record : List String} (hne : record ≠ []) :
    readFrom skips .start [] [] (recordChars record ++ rest)
      = (readFrom skips .start [] [] rest).map (record.map String.toList :: ·) := by
  obtain ⟨f, fs, rfl⟩ := List.exists_cons_of_ne_nil hne
  unfold recordChars
  dsimp only
  by_cases hline : joinFields ((f :: fs).map fieldChars) = []
  · -- the quotes tell the record from an empty line
    obtain ⟨rfl, rfl⟩ := eq_of_joinFields_eq_nil hline
    rfl
  · have hfull : (joinFields ((f :: fs).map fieldChars)).isEmpty = false :=
      List.isEmpty_eq_false_iff.mpr hline
    rw [hfull, if_neg Bool.false_ne_true, List.append_assoc]
    exact readFrom_joinFields f fs (.inl ⟨rfl, hline⟩)

/-- So are several records. -/
theorem readFrom_records {records : List (List String)} (hne : ∀ r ∈ records, r ≠ []) :
    readFrom skips .start [] [] (records.flatMap recordChars)
      = some (records.map fun r => r.map String.toList) := by
  induction records with
  | nil => rfl
  | cons r rs ih =>
    rw [List.flatMap_cons, readFrom_recordChars (hne r List.mem_cons_self),
      ih fun r' hr' => hne r' (List.mem_cons_of_mem r hr')]
    rfl

end Read

/-! ## Tables -/

/-- **Records are written exactly if they are as long as the first one**, one after the other. -/
theorem recordsChars_eq_ok {width : Nat} {records : List (List String)} {cs : List Char} :
    recordsChars width records = .ok cs ↔
      (∀ r ∈ records, r.length = width) ∧ cs = records.flatMap recordChars := by
  induction records generalizing cs with
  | nil => simp [recordsChars, eq_comm]
  | cons r rs ih =>
    rw [List.forall_mem_cons, List.flatMap_cons, recordsChars]
    by_cases hr : r.length = width
    · rw [if_pos hr, Except.map_eq_ok]
      simp only [ih]
      constructor
      · rintro ⟨_, ⟨hrs, rfl⟩, rfl⟩
        exact ⟨⟨hr, hrs⟩, rfl⟩
      · rintro ⟨⟨-, hrs⟩, rfl⟩
        exact ⟨_, ⟨hrs, rfl⟩, rfl⟩
    · rw [if_neg hr]
      simp [hr]

section Write

variable {labels : List String} {rows : List (List Json)} {text : String}

/-- A table is written exactly if every row has as many cells as there are columns. -/
theorem write_eq_ok :
    write labels rows = .ok text ↔
      (∀ row ∈ rows, row.length = labels.length) ∧
        text = String.ofList
          ((labels :: rows.map fun row => row.map cellText).flatMap recordChars) := by
  unfold write
  simp only [Except.map_eq_ok, recordsChars_eq_ok, List.forall_mem_cons, true_and,
    List.forall_mem_map, List.length_map]
  constructor
  · rintro ⟨cs, ⟨hrows, rfl⟩, rfl⟩
    exact ⟨hrows, rfl⟩
  · rintro ⟨hrows, rfl⟩
    exact ⟨_, ⟨hrows, rfl⟩, rfl⟩

/-- **A table is read back.** It is written exactly if every row has as many cells as there are
columns, and what is written reads as the labels and then the rows, with the text of every cell,
whether empty lines are skipped or not. -/
theorem read?_write (hlabels : labels ≠ []) (rows : List (List Json)) (skips : Bool) :
    ((∃ text, write labels rows = .ok text) ↔ ∀ row ∈ rows, row.length = labels.length) ∧
      ∀ text, write labels rows = .ok text →
        read? skips text = some (labels :: rows.map fun row => row.map cellText) := by
  constructor
  · constructor
    · rintro ⟨text, htext⟩
      exact (write_eq_ok.mp htext).1
    · intro hrows
      exact ⟨_, write_eq_ok.mpr ⟨hrows, rfl⟩⟩
  · intro text htext
    obtain ⟨hrows, rfl⟩ := write_eq_ok.mp htext
    -- no record is without fields, as all are as long as the labels
    have hne : ∀ r ∈ labels :: rows.map (fun row => row.map cellText), r ≠ [] := by
      refine List.forall_mem_cons.mpr ⟨hlabels, List.forall_mem_map.mpr fun row hrow => ?_⟩
      intro hempty
      apply hlabels
      rw [← List.length_eq_zero_iff, ← hrows row hrow, List.map_eq_nil_iff.mp hempty]
      rfl
    have htexts : ∀ r : List String, (r.map String.toList).map String.ofList = r := by
      intro r
      simp [Function.comp_def]
    rw [read?, String.toList_ofList, readFrom_records hne, Option.map_some, List.map_map]
    exact congrArg some (List.map_id'' htexts _)

/-- A column without a label, with cells that are empty or have all that needs quotes. -/
theorem read?_write_oneColumn :
    [""] ≠ ([] : List String) ∧
      (∀ row ∈ [[Json.null], [.string ""], [.string " a,\r\n\"b\" "]], row.length = [""].length) ∧
      ∀ text, write [""] [[.null], [.string ""], [.string " a,\r\n\"b\" "]] = .ok text →
        read? true text = some [[""], [""], [""], [" a,\r\n\"b\" "]] :=
  ⟨List.cons_ne_nil _ _, by decide,
    (read?_write (List.cons_ne_nil _ _) [[.null], [.string ""], [.string " a,\r\n\"b\" "]] true).2⟩

end Write

end TenantReports.Csv
