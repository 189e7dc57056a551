import TenantReports.Proofs.Export.Names
import TenantReports.Run.World

/-!
# Paths of exported files

A report may be named by anything, also by what would lead elsewhere in a path. The file of a report
is not: whatever the report is called, its slug is made of letters, digits and underscores, and of
`report` if nothing is left of the name. So the name of the file is one component of a path, and the
file is in the directory that it is saved to.

## Main definitions

* `FileName`: a slug, a day, a time of day and a format
* `IsComponent`: a name that leads to an entry of a directory, on any system
* `pathFrom`, `pathParts`: a path taken from a directory, and the names in it

## Main results

* `mem_slugChars`: what is in a slug
* `FileName.isComponent`: the name of a file is a component of a path
* `pathParts_joinPath`: a component is what is added to the path of a directory
* `exportFilename_inside`: the file of a report is in the directory it is saved to
-/

namespace TenantReports

open Text (isAlphanumeric)
open Time (digits Instant)

/-! ## Slugs -/

/-- Letters in lower case are letters. -/
theorem isAlphanumeric_toLower {c : Char} (h : isAlphanumeric c = true) :
    isAlphanumeric c.toLower = true := by
  by_cases hupper : c.val ≥ 'A'.val ∧ c.val ≤ 'Z'.val
  · have hcapital : ∀ n : Fin 26, isAlphanumeric (Char.ofNat (65 + n)).toLower = true := by decide
    obtain ⟨hlow, hhigh⟩ := hupper
    have hlow : 65 ≤ c.toNat := hlow
    have hhigh : c.toNat ≤ 90 := hhigh
    have hc := hcapital ⟨c.toNat - 65, by omega⟩
    dsimp only at hc
    rwa [Nat.add_sub_cancel' hlow, Char.ofNat_toNat] at hc
  · have hlower : c.toLower = c := dif_neg hupper
    rwa [hlower]

/-- A letter, a digit or an underscore. -/
def IsWordChar (c : Char) : Prop := isAlphanumeric c = true ∨ c = '_'

theorem mem_slugFrom {name : Array Char} {place : Nat} {atStart : Bool} {cs : List Char} {c : Char}
    (h : c ∈ slugFrom name place atStart cs) : IsWordChar c := by
  induction cs generalizing place atStart with
  | nil => cases h
  | cons d ds ih =>
    rw [slugFrom] at h
    split at h
    · -- a separator
      split at h
      · exact ih h
      · rcases List.mem_cons.mp h with rfl | h
        · exact .inr rfl
        · exact ih h
    · rename_i hd
      have hletter : isAlphanumeric d.toLower = true := isAlphanumeric_toLower (by simpa using hd)
      split at h
      · -- the beginning of a word
        rcases List.mem_cons.mp h with rfl | h
        · exact .inr rfl
        · rcases List.mem_cons.mp h with rfl | h
          · exact .inl hletter
          · exact ih h
      · rcases List.mem_cons.mp h with rfl | h
        · exact .inl hletter
        · exact ih h

/-- **What is in a slug**: letters and digits of any script, and underscores. -/
theorem mem_slugChars {name : String} {c : Char} (h : c ∈ slugChars name) : IsWordChar c :=
  mem_slugFrom h

theorem mem_fileStem {name : String} {c : Char} (h : c ∈ fileStem name) : IsWordChar c := by
  unfold fileStem at h
  split at h
  · have hreport : "report".toList.all isAlphanumeric = true := by decide
    exact .inl (List.all_eq_true.mp hreport c h)
  · exact mem_slugChars h

theorem fileStem_ne_nil (name : String) : fileStem name ≠ [] := by
  unfold fileStem
  split
  · decide
  · rename_i h
    rwa [List.isEmpty_iff] at h

/-! ## Names of files -/

/-- The parts of the name of a file. -/
structure FileName where
  slug : List Char
  day : List Char
  time : List Char
  format : ExportFormat
  slug_ne_nil : slug ≠ []
  isWordChar_of_mem_slug : ∀ c ∈ slug, IsWordChar c
  length_day : day.length = 8
  isDigit_of_mem_day : ∀ c ∈ day, c.isDigit = true
  length_time : time.length = 6
  isDigit_of_mem_time : ∀ c ∈ time, c.isDigit = true

/-- The name of a file: the parts with underscores and a dot between them. -/
def FileName.text (n : FileName) : String :=
  String.ofList (n.slug ++ '_' :: n.day ++ '_' :: n.time ++ '.' :: n.format.extension.toList)

/-- The name leads to an entry of the directory that it is looked up in, on any system: it is not
empty, stands neither for the directory nor for the one above, and has no separator of either kind,
colon of a drive or end of a text. -/
structure IsComponent (name : List Char) : Prop where
  ne_nil : name ≠ []
  ne_dot : name ≠ ['.']
  ne_dots : name ≠ ['.', '.']
  plain : ∀ c ∈ name, c ≠ '/' ∧ c ≠ '\\' ∧ c ≠ ':' ∧ c ≠ '\x00'

theorem IsWordChar.plain {c : Char} (h : IsWordChar c) :
    c ≠ '/' ∧ c ≠ '\\' ∧ c ≠ ':' ∧ c ≠ '\x00' := by
  refine ⟨?_, ?_, ?_, ?_⟩ <;> rintro rfl <;> rcases h with h | h <;> exact absurd h (by decide)

theorem isWordChar_of_isDigit {c : Char} (h : c.isDigit = true) : IsWordChar c := by
  left
  have hlow : c.toNat < 128 := by
    have hnine : c.toNat ≤ 57 := (Char.isDigit_iff_toNat.mp h).2
    omega
  rw [isAlphanumeric, if_pos hlow, Char.isAlphanum, h, Bool.or_true]

namespace FileName

variable (n : FileName)

/-- Besides the dot there is nothing but letters, digits and underscores. -/
theorem mem_text {c : Char} (h : c ∈ n.text.toList) : IsWordChar c ∨ c = '.' := by
  have hextension : ∀ f : ExportFormat, f.extension.toList.all isAlphanumeric = true := by
    intro f
    cases f <;> decide
  simp only [text, String.toList_ofList, List.mem_append, List.mem_cons] at h
  rcases h with ((hslug | rfl | hday) | rfl | htime) | rfl | hext
  · exact .inl (n.isWordChar_of_mem_slug c hslug)
  · exact .inl (.inr rfl)
  · exact .inl (isWordChar_of_isDigit (n.isDigit_of_mem_day c hday))
  · exact .inl (.inr rfl)
  · exact .inl (isWordChar_of_isDigit (n.isDigit_of_mem_time c htime))
  · exact .inr rfl
  · exact .inl (.inl (List.all_eq_true.mp (hextension n.format) c hext))

/-- **The name of a file is a component of a path.** -/
theorem isComponent : IsComponent n.text.toList := by
  have hunderscore : '_' ∈ n.text.toList := by simp [text]
  refine ⟨?_, ?_, ?_, fun c hc => ?_⟩
  · exact List.ne_nil_of_mem hunderscore
  · intro h
    rw [h] at hunderscore
    exact absurd hunderscore (by decide)
  · intro h
    rw [h] at hunderscore
    exact absurd hunderscore (by decide)
  · rcases n.mem_text hc with hword | rfl
    · exact hword.plain
    · decide

end FileName

/-- The name of a report's file has the parts that it should: the slug of the report, the second and
the format. -/
theorem exists_fileName (name : String) (format : ExportFormat) {t : Instant}
    (hyear : 0 ≤ t.date.year) (hyear' : t.date.year ≤ 9999) :
    ∃ n : FileName, n.slug = fileStem name ∧ n.day ++ '_' :: n.time = stampChars t ∧
      n.format = format ∧ n.text = exportFilename name format t := by
  have hdigits : ∀ {width k : Nat}, ∀ c ∈ digits width k, c.isDigit = true :=
    fun _ hc => Time.isDigit_of_mem_digits hc
  have hthree : ∀ {i j k l m n : Nat}, ∀ c ∈ digits i l ++ digits j m ++ digits k n,
      c.isDigit = true := by
    intro i j k l m n
    simp only [List.forall_mem_append]
    exact ⟨⟨hdigits, hdigits⟩, hdigits⟩
  refine ⟨{
    slug := fileStem name
    day := digits 4 t.date.year.toNat ++ digits 2 t.date.month ++ digits 2 t.date.day
    time := digits 2 t.clock.hour ++ digits 2 t.clock.minute ++ digits 2 (Time.secondShown t.clock)
    format := format
    slug_ne_nil := fileStem_ne_nil name
    isWordChar_of_mem_slug := fun _ => mem_fileStem
    length_day := by simp
    isDigit_of_mem_day := hthree
    length_time := by simp
    isDigit_of_mem_time := hthree }, rfl, (stampChars_eq hyear hyear').symm, rfl, ?_⟩
  rw [exportFilename_eq, stampChars_eq hyear hyear']
  simp only [FileName.text, List.append_assoc, List.cons_append]

/-! ## Paths -/

/-- The names between the slashes of a path, without those that lead nowhere. -/
def partsOf (cs : List Char) : List (List Char) :=
  (cs.splitOnP (· == '/')).filter fun part => part ≠ [] ∧ part ≠ ['.']

/-- The names in a path. -/
def pathParts (path : String) : List (List Char) := partsOf path.toList

/-- A path taken from a directory. One that begins at the root is taken as it is. -/
def pathFrom (dir path : String) : String :=
  if path.toList.head? = some '/' then path else joinPath dir path

theorem partsOf_slash (front rest : List Char) :
    partsOf (front ++ '/' :: rest) = partsOf front ++ partsOf rest := by
  rw [partsOf, List.splitOnP_append_cons front rest (by decide), List.filter_append]
  rfl

theorem IsComponent.partsOf_eq {name : List Char} (h : IsComponent name) :
    partsOf name = [name] := by
  have hslash : ∀ c ∈ name, (c == '/') = false := fun c hc =>
    beq_eq_false_iff_ne.mpr (h.plain c hc).1
  rw [partsOf, List.splitOnP_eq_singleton hslash, List.filter_cons_of_pos]
  · rfl
  · simp [h.ne_nil, h.ne_dot]

/-- **A component is what is added to the path of a directory.** -/
theorem pathParts_joinPath (dir : String) {name : String} (h : IsComponent name.toList) :
    pathParts (joinPath dir name) = pathParts dir ++ [name.toList] := by
  unfold joinPath
  split
  · rename_i hdir
    rcases hdir with hempty | hslash
    · rw [String.isEmpty_iff.mp hempty, String.empty_append]
      exact h.partsOf_eq
    · -- the directory ends with a slash
      rw [String.endsWith_eq_endsWith_toSlice, String.Slice.endsWith_string_iff,
        String.copy_toSlice] at hslash
      obtain ⟨front, hfront⟩ := hslash
      have hfront : dir.toList = front ++ '/' :: [] := hfront.symm
      rw [pathParts, pathParts, String.toList_append, hfront, List.append_assoc, List.cons_append,
        List.nil_append, partsOf_slash, partsOf_slash, h.partsOf_eq]
      exact congrArg (· ++ [name.toList]) (List.append_nil _).symm
  · have hpath : (dir ++ "/" ++ name).toList = dir.toList ++ '/' :: name.toList := by
      rw [String.toList_append, String.toList_append, List.append_assoc]
      rfl
    rw [pathParts, hpath, partsOf_slash, h.partsOf_eq]
    rfl

/-- A component is no path from the root. -/
theorem IsComponent.pathFrom_eq {name : String} (h : IsComponent name.toList) (dir : String) :
    pathFrom dir name = joinPath dir name := by
  refine if_neg fun hroot => ?_
  exact (h.plain '/' (List.mem_of_head? hroot)).1 rfl

/-- **The file of a report is in the directory it is saved to**, whatever the report is called. Its
name has the report's slug, which is not empty, the day and the time of day, and the extension of
the format. It is one component of a path, and it is all that is added to the path of the
directory. -/
theorem exportFilename_inside (name : String) (format : ExportFormat) {t : Instant}
    (hyear : 0 ≤ t.date.year) (hyear' : t.date.year ≤ 9999) :
    (∃ n : FileName, n.slug = fileStem name ∧ n.day ++ '_' :: n.time = stampChars t ∧
        n.format = format ∧ n.text = exportFilename name format t) ∧
      IsComponent (exportFilename name format t).toList ∧
      ∀ dir, pathFrom dir (exportFilename name format t)
          = joinPath dir (exportFilename name format t) ∧
        pathParts (joinPath dir (exportFilename name format t))
          = pathParts dir ++ [(exportFilename name format t).toList] := by
  have hname := exists_fileName name format hyear hyear'
  have hcomponent : IsComponent (exportFilename name format t).toList := by
    obtain ⟨n, -, -, -, htext⟩ := hname
    exact htext ▸ n.isComponent
  refine ⟨hname, hcomponent, fun dir => ⟨hcomponent.pathFrom_eq dir, ?_⟩⟩
  exact pathParts_joinPath dir hcomponent

/-- A report that is named like a path, at the beginning of the year 0. -/
theorem exportFilename_inside_path :
    0 ≤ (⟨-62167219200, 0⟩ : Instant).date.year ∧ (⟨-62167219200, 0⟩ : Instant).date.year ≤ 9999 ∧
      exportFilename "C:\\..\\../../etc/Passwd\x00" .csv ⟨-62167219200, 0⟩
        = "c_etc_passwd_00000101_000000.csv" ∧
      pathParts (joinPath "/srv/exports/" "c_etc_passwd_00000101_000000.csv")
        = pathParts "/srv/exports/" ++ ["c_etc_passwd_00000101_000000.csv".toList] := by
  have hfile : exportFilename "C:\\..\\../../etc/Passwd\x00" .csv ⟨-62167219200, 0⟩
      = "c_etc_passwd_00000101_000000.csv" := by decide
  refine ⟨by decide, by decide, hfile, ?_⟩
  rw [← hfile]
  exact ((exportFilename_inside _ .csv (by decide) (by decide)).2.2 "/srv/exports/").2

end TenantReports
