import TenantReports.Proofs.Json.Numerals

/-!
# Compact texts tell values apart

What is written of a value says what the value is, and where its text ends, if what comes after it
cannot be more of a number. Only a double that is not finite is written as `null`; values that are
read have none.

## Main definitions

* `Json.Finite`: the values whose doubles are finite
* `Json.written`: a value as its text has it
* `Json.Delimited`: what can come after a value
* `Json.TellsApart`: the text of a value is that of no other, whatever comes after it

## Main results

* `Json.Finite.tellsApart`: so are the texts of values with finite doubles
* `Json.compact_eq_iff`: two texts are the same exactly if the values as written are
-/

namespace TenantReports.Json

/-- A value whose doubles are finite. -/
inductive Finite : Json → Prop
  | null : Finite .null
  | bool (b : Bool) : Finite (.bool b)
  | int (n : Int) : Finite (.int n)
  | double {x : Binary64} (hx : x.isFinite = true) : Finite (.double x)
  | string (s : String) : Finite (.string s)
  | array {items : List Json} (hitems : ∀ j ∈ items, Finite j) : Finite (.array items)
  | object {entries : List (String × Json)} (hentries : ∀ e ∈ entries, Finite e.2) :
    Finite (.object entries)

mutual

/-- A value as its text has it: a double that is not finite is written as `null`. -/
def written : Json → Json
  | .double x => if x.isFinite then .double x else .null
  | .array items => .array (writtenItems items)
  | .object entries => .object (writtenEntries entries)
  | j => j

/-- Items as their texts have them. -/
def writtenItems : List Json → List Json
  | [] => []
  | j :: js => j.written :: writtenItems js

/-- Entries as their texts have them. -/
def writtenEntries : List (String × Json) → List (String × Json)
  | [] => []
  | (key, j) :: es => (key, j.written) :: writtenEntries es

end

theorem writtenItems_eq (js : List Json) : writtenItems js = js.map written := by
  induction js with
  | nil => rfl
  | cons j js ih => rw [writtenItems, ih, List.map_cons]

theorem writtenEntries_eq (es : List (String × Json)) :
    writtenEntries es = es.map fun e => (e.1, e.2.written) := by
  induction es with
  | nil => rfl
  | cons e es ih => rw [writtenEntries, ih, List.map_cons]

mutual

/-- What is written is finite. -/
theorem finite_written : ∀ j : Json, j.written.Finite
  | .null => .null
  | .bool b => .bool b
  | .int n => .int n
  | .double x => by
    rw [written]
    split
    · rename_i hx
      exact .double hx
    · exact .null
  | .string s => .string s
  | .array items => .array (finite_writtenItems items)
  | .object entries => .object (finite_writtenEntries entries)

theorem finite_writtenItems : ∀ js : List Json, ∀ j ∈ writtenItems js, j.Finite
  | [] => List.forall_mem_nil _
  | j :: js => List.forall_mem_cons.mpr ⟨finite_written j, finite_writtenItems js⟩

theorem finite_writtenEntries : ∀ es : List (String × Json), ∀ e ∈ writtenEntries es, e.2.Finite
  | [] => List.forall_mem_nil _
  | (_, j) :: es => List.forall_mem_cons.mpr ⟨finite_written j, finite_writtenEntries es⟩

end

/-- A finite value is written as it is. -/
theorem Finite.written_eq {j : Json} (h : j.Finite) : j.written = j := by
  induction h with
  | double hx => rw [written, if_pos hx]
  | array _ ih => rw [written, writtenItems_eq, List.map_congr_left ih, List.map_id']
  | @object entries _ ih =>
    have hsame : (entries.map fun e => (e.1, e.2.written)) = entries := by
      refine (List.map_congr_left fun e he => ?_).trans (List.map_id' _)
      rw [ih e he]
    rw [written, writtenEntries_eq, hsame]
  | _ => rfl

mutual

theorem compactChars_written : ∀ j : Json, j.written.compactChars = j.compactChars
  | .null => rfl
  | .bool b => rfl
  | .int n => rfl
  | .double x => by
    rw [written, compactChars, doubleText]
    split
    · rename_i hx
      rw [compactChars, doubleText, if_pos hx]
    · rfl
  | .string s => rfl
  | .array [] => rfl
  | .array (j :: js) => by
    rw [written, writtenItems, compactChars, compactChars, compactChars_written j,
      compactItems_written js]
  | .object [] => rfl
  | .object ((key, j) :: es) => by
    rw [written, writtenEntries, compactChars, compactChars, compactChars_written j,
      compactEntries_written es]

theorem compactItems_written : ∀ js : List Json, compactItems (writtenItems js) = compactItems js
  | [] => rfl
  | j :: js => by
    rw [writtenItems, compactItems, compactItems, compactChars_written j, compactItems_written js]

theorem compactEntries_written : ∀ es : List (String × Json),
    compactEntries (writtenEntries es) = compactEntries es
  | [] => rfl
  | (key, j) :: es => by
    rw [writtenEntries, compactEntries, compactEntries, compactChars_written j,
      compactEntries_written es]

end

/-! ## Numbers -/

/-- A character of a number. -/
def isNumeric (c : Char) : Bool :=
  c.isDigit || c == '-' || c == '+' || c == '.' || c == 'e'

theorem isNumeric_of_isDigit {c : Char} (hc : c.isDigit = true) : isNumeric c = true := by
  simp [isNumeric, hc]

/-- What can come after a value: nothing that could be part of a number. -/
def Delimited (rest : List Char) : Prop := ∀ c ∈ rest.head?, isNumeric c = false

theorem delimited_nil : Delimited [] := nofun

theorem delimited_cons {c : Char} (hc : isNumeric c = false) (rest : List Char) :
    Delimited (c :: rest) := by
  rintro _ ⟨⟩
  exact hc

/-- A number ends where its characters end. -/
theorem append_injective_of_numeric {cs cs' rest rest' : List Char}
    (hcs : ∀ c ∈ cs, isNumeric c = true) (hcs' : ∀ c ∈ cs', isNumeric c = true)
    (hrest : Delimited rest) (hrest' : Delimited rest') (h : cs ++ rest = cs' ++ rest') :
    cs = cs' ∧ rest = rest' := by
  obtain rfl : cs = cs' := by
    rw [← (takeWhile_dropWhile_append hcs hrest).1, h,
      (takeWhile_dropWhile_append hcs' hrest').1]
  exact ⟨rfl, List.append_cancel_left h⟩

theorem Denotes.isNumeric {cs : List Char} {v : Rat} (h : Denotes cs v) :
    ∀ c ∈ cs, isNumeric c = true := by
  have hdigits : ∀ {ds : List Char}, (∀ c ∈ ds, c.isDigit = true) →
      ∀ c ∈ ds, Json.isNumeric c = true := fun hds c hc => isNumeric_of_isDigit (hds c hc)
  cases h with
  | positional _ _ _ hwhole hfraction =>
    refine List.forall_mem_append.mpr ⟨hdigits hwhole, ?_⟩
    exact List.forall_mem_cons.mpr ⟨rfl, hdigits hfraction⟩
  | scientific hc hfraction e =>
    refine List.forall_mem_append.mpr ⟨List.forall_mem_cons.mpr ⟨isNumeric_of_isDigit hc, ?_⟩,
      List.forall_mem_cons.mpr ⟨rfl, List.forall_mem_cons.mpr ⟨by split <;> rfl, ?_⟩⟩⟩
    · split
      · exact List.forall_mem_nil _
      · exact List.forall_mem_cons.mpr ⟨rfl, hdigits hfraction⟩
    · exact hdigits fun c hc => Nat.isDigit_of_mem_toDigits (by decide) (by decide) hc

/-- The text of an integer is its digits, with a sign or without. -/
theorem toList_intText (n : Int) : (intText n).toList
    = if decide (n < 0) then '-' :: Nat.toDigits 10 n.natAbs else Nat.toDigits 10 n.natAbs := by
  unfold intText
  by_cases hneg : n < 0 <;> simp [hneg]

theorem intText_injective {n n' : Int} (h : intText n = intText n') : n = n' := by
  have htext := congrArg String.toList h
  rw [toList_intText, toList_intText] at htext
  obtain ⟨hsign, hdigits⟩ := sign_unique (exists_digit_cons _) (exists_digit_cons _) htext
  have habs := Denotes.toDigits_injective hdigits
  rw [decide_eq_decide] at hsign
  omega

/-- What kind of a value it is, by the first character of its text; `0` for a number. -/
def kind : Json → Char
  | .null => 'n'
  | .bool true => 't'
  | .bool false => 'f'
  | .int _ => '0'
  | .double _ => '0'
  | .string _ => '"'
  | .array _ => '['
  | .object _ => '{'

/-- Values of one kind are made alike. -/
theorem alike_of_kind_eq {j j' : Json} (h : j.kind = j'.kind) : match j with
    | .null => j' = .null
    | .bool b => j' = .bool b
    | .int _ | .double _ => (∃ n, j' = .int n) ∨ ∃ x, j' = .double x
    | .string _ => ∃ s, j' = .string s
    | .array _ => ∃ items, j' = .array items
    | .object _ => ∃ entries, j' = .object entries := by
  rcases j with _ | (_ | _) | _ | _ | _ | _ | _ <;>
    rcases j' with _ | (_ | _) | _ | _ | _ | _ | _ <;>
    first
    | simp [kind] at h; done
    | simp

theorem kind_eq_number {j : Json} (h : j.kind = '0') :
    (∃ n, j = .int n) ∨ ∃ x, j = .double x :=
  alike_of_kind_eq (j := .int 0) h.symm

/-- The text of a number is digits and the like, with a sign or without. -/
theorem Finite.exists_numeral {j : Json} (hj : j.Finite) (hkind : j.kind = '0') :
    ∃ (neg : Bool) (cs : List Char), j.compactChars = (if neg then '-' :: cs else cs) ∧
      (∃ c tail, cs = c :: tail ∧ c.isDigit = true) ∧ ∀ c ∈ cs, isNumeric c = true := by
  obtain ⟨n, rfl⟩ | ⟨x, rfl⟩ := kind_eq_number hkind
  · refine ⟨_, _, toList_intText n, exists_digit_cons _, fun c hc => isNumeric_of_isDigit ?_⟩
    exact Nat.isDigit_of_mem_toDigits (by decide) (by decide) hc
  · cases hj with
    | double hx =>
      obtain ⟨neg, m, q, hview, -, -⟩ := view_of_isFinite hx
      obtain ⟨cs, htext, hcs⟩ := toText_denotes hview
      refine ⟨neg, cs, ?_, hcs.exists_digit_cons, hcs.isNumeric⟩
      rw [compactChars, doubleText, if_pos hx, htext]

theorem Finite.isNumeric {j : Json} (hj : j.Finite) (hkind : j.kind = '0') :
    ∀ c ∈ j.compactChars, isNumeric c = true := by
  obtain ⟨neg, cs, htext, -, hcs⟩ := hj.exists_numeral hkind
  rw [htext]
  cases neg with
  | false => exact hcs
  | true => exact List.forall_mem_cons.mpr ⟨rfl, hcs⟩

/-- A double has a point or an exponent, an integer has neither. -/
theorem intText_ne_toText (n : Int) {x : Binary64} (hx : x.isFinite = true) :
    intText n ≠ x.toText .json := by
  intro h
  obtain ⟨neg, m, q, hview, -, -⟩ := view_of_isFinite hx
  obtain ⟨cs, htext, hcs⟩ := toText_denotes hview
  rw [← h, toList_intText] at htext
  obtain ⟨-, rfl⟩ := sign_unique (exists_digit_cons _) hcs.exists_digit_cons htext
  have hdigits : ∀ c ∈ Nat.toDigits 10 n.natAbs, c.isDigit = true := fun c hc =>
    Nat.isDigit_of_mem_toDigits (by decide) (by decide) hc
  rcases hcs.point_or_e_mem with hpoint | he
  · exact Denotes.not_mem_of_digits rfl hdigits hpoint
  · exact Denotes.not_mem_of_digits rfl hdigits he

theorem compactChars_double {x : Binary64} (hx : x.isFinite = true) :
    (Json.double x).compactChars = (x.toText .json).toList := by
  rw [compactChars, doubleText, if_pos hx]

theorem Finite.number_injective {j j' : Json} (hj : j.Finite) (hj' : j'.Finite)
    (hkind : j.kind = '0') (hkind' : j'.kind = '0') (h : j.compactChars = j'.compactChars) :
    j = j' := by
  obtain ⟨n, rfl⟩ | ⟨x, rfl⟩ := kind_eq_number hkind
  · obtain ⟨n', rfl⟩ | ⟨x', rfl⟩ := kind_eq_number hkind'
    · rw [intText_injective (String.toList_inj.mp h)]
    · cases hj' with
      | double hx' =>
        rw [compactChars_double hx'] at h
        exact absurd (String.toList_inj.mp h) (intText_ne_toText n hx')
  · cases hj with
    | double hx =>
      rw [compactChars_double hx] at h
      obtain ⟨n', rfl⟩ | ⟨x', rfl⟩ := kind_eq_number hkind'
      · exact absurd (String.toList_inj.mp h.symm) (intText_ne_toText n' hx)
      · cases hj' with
        | double hx' =>
          rw [compactChars_double hx'] at h
          rw [toText_injective hx hx' (String.toList_inj.mp h)]

/-! ## Kinds -/

/-- The kind of a value whose text begins so. -/
def kindOf (c : Char) : Char := if c.isDigit || c == '-' then '0' else c

/-- A text begins as its kind of value does. -/
theorem Finite.exists_kind {j : Json} (hj : j.Finite) :
    ∃ c cs, j.compactChars = c :: cs ∧ kindOf c = j.kind := by
  -- numbers begin with a digit or a sign, and all others with their kind itself
  have hnumber : j.kind = '0' → ∃ c cs, j.compactChars = c :: cs ∧ kindOf c = j.kind := by
    intro hkind
    obtain ⟨neg, cs, htext, ⟨c, tail, rfl, hc⟩, -⟩ := hj.exists_numeral hkind
    rw [htext, hkind]
    cases neg with
    | false => exact ⟨c, tail, rfl, by simp [kindOf, hc]⟩
    | true => exact ⟨'-', _, rfl, rfl⟩
  cases hj with
  | null => exact ⟨_, _, rfl, rfl⟩
  | bool b => cases b <;> exact ⟨_, _, rfl, rfl⟩
  | int n => exact hnumber rfl
  | double hx => exact hnumber rfl
  | string s => exact ⟨_, _, rfl, rfl⟩
  | @array items _ => cases items <;> exact ⟨_, _, rfl, rfl⟩
  | @object entries _ => rcases entries with _ | ⟨⟨key, j⟩, es⟩ <;> exact ⟨_, _, rfl, rfl⟩

/-- Texts of two kinds of values are different, whatever comes after them. -/
theorem Finite.kind_eq {j j' : Json} (hj : j.Finite) (hj' : j'.Finite) {rest rest' : List Char}
    (h : j.compactChars ++ rest = j'.compactChars ++ rest') : j.kind = j'.kind := by
  obtain ⟨c, cs, htext, hkind⟩ := hj.exists_kind
  obtain ⟨c', cs', htext', hkind'⟩ := hj'.exists_kind
  rw [htext, htext', List.cons_append, List.cons_append] at h
  rw [← hkind, ← hkind', (List.cons.inj h).1]

/-- No text begins with the end of a list. -/
theorem Finite.not_closing {j : Json} (hj : j.Finite) {rest rest' : List Char} :
    ']' :: rest ≠ j.compactChars ++ rest' := by
  intro h
  obtain ⟨c, cs, htext, hkind⟩ := hj.exists_kind
  rw [htext, List.cons_append] at h
  obtain ⟨rfl, -⟩ := List.cons.inj h
  have hclosing : j.kind ≠ kindOf ']' := by
    rcases j with _ | (_ | _) | _ | _ | _ | _ | _ <;> simp [kind, kindOf]
  exact hclosing hkind.symm

/-! ## Strings -/

/-- A string ends with its closing quote. -/
theorem quoteChars_append_injective {s s' : String} {rest rest' : List Char}
    (h : quoteChars s ++ rest = quoteChars s' ++ rest') : s = s' ∧ rest = rest' := by
  have hbody : (s.toList.flatMap escape ++ ['"']) ++ rest
      = (s'.toList.flatMap escape ++ ['"']) ++ rest' := (List.cons.inj h).2
  have hread := stringBody?_quoteChars s rest
  rw [hbody, stringBody?_quoteChars] at hread
  obtain ⟨hs, hrest⟩ := Prod.mk.inj (Option.some.inj hread)
  exact ⟨hs.symm, hrest.symm⟩

/-! ## Lists and objects -/

/-- The text of a value is that of no other, whatever comes after it. -/
def TellsApart (j : Json) : Prop :=
  ∀ j' rest rest', j'.Finite → Delimited rest → Delimited rest' →
    j.compactChars ++ rest = j'.compactChars ++ rest' → j = j' ∧ rest = rest'

theorem delimited_compactItems (js : List Json) (rest : List Char) :
    Delimited (compactItems js ++ ']' :: rest) := by
  cases js <;> exact delimited_cons rfl _

theorem compactItems_injective {js : List Json} (hjs : ∀ j ∈ js, TellsApart j) {js' : List Json}
    (hjs' : ∀ j ∈ js', j.Finite) {rest rest' : List Char}
    (h : compactItems js ++ ']' :: rest = compactItems js' ++ ']' :: rest') :
    js = js' ∧ rest = rest' := by
  induction js generalizing js' with
  | nil =>
    cases js' with
    | nil => exact ⟨rfl, (List.cons.inj h).2⟩
    | cons j' js' => exact absurd (List.cons.inj h).1 (by decide)
  | cons j js ih =>
    cases js' with
    | nil => exact absurd (List.cons.inj h).1 (by decide)
    | cons j' js' =>
      -- what comes after the first item is a comma or the closing bracket
      rw [List.forall_mem_cons] at hjs hjs'
      simp only [compactItems, List.cons_append, List.append_assoc, List.cons.injEq,
        true_and] at h
      obtain ⟨rfl, hmore⟩ := hjs.1 j' _ _ hjs'.1 (delimited_compactItems js rest)
        (delimited_compactItems js' rest') h
      obtain ⟨rfl, hrest⟩ := ih hjs.2 hjs'.2 hmore
      exact ⟨rfl, hrest⟩

theorem tellsApart_array {js : List Json} (hfinite : ∀ j ∈ js, j.Finite)
    (hjs : ∀ j ∈ js, TellsApart j) : TellsApart (.array js) := by
  intro j' rest rest' hj' _ _ h
  obtain ⟨js', rfl⟩ := alike_of_kind_eq ((Finite.array hfinite).kind_eq hj' h)
  -- an empty list closes where another one has its first item
  cases hj' with
  | array hjs' =>
    cases js with
    | nil =>
      cases js' with
      | nil => exact ⟨rfl, List.append_cancel_left h⟩
      | cons j' js' =>
        simp only [compactChars, List.cons_append, List.append_assoc, List.cons.injEq,
          true_and] at h
        exact absurd h ((hjs' j' List.mem_cons_self).not_closing)
    | cons j js =>
      rw [List.forall_mem_cons] at hfinite hjs
      cases js' with
      | nil =>
        simp only [compactChars, List.cons_append, List.append_assoc, List.cons.injEq,
          true_and] at h
        exact absurd h.symm (hfinite.1.not_closing)
      | cons j' js' =>
        rw [List.forall_mem_cons] at hjs'
        simp only [compactChars, List.cons_append, List.append_assoc, List.cons.injEq,
          true_and] at h
        obtain ⟨rfl, hmore⟩ := hjs.1 j' _ _ hjs'.1 (delimited_compactItems js rest)
          (delimited_compactItems js' rest') h
        obtain ⟨rfl, hrest⟩ := compactItems_injective hjs.2 hjs'.2 hmore
        exact ⟨rfl, hrest⟩

theorem delimited_compactEntries (es : List (String × Json)) (rest : List Char) :
    Delimited (compactEntries es ++ '}' :: rest) := by
  rcases es with _ | ⟨⟨key, j⟩, es⟩ <;> exact delimited_cons rfl _

theorem entry_injective {key key' : String} {j j' : Json} (hj : TellsApart j) (hj' : j'.Finite)
    {rest rest' : List Char} (hrest : Delimited rest) (hrest' : Delimited rest')
    (h : quoteChars key ++ ':' :: (j.compactChars ++ rest)
      = quoteChars key' ++ ':' :: (j'.compactChars ++ rest')) :
    (key, j) = (key', j') ∧ rest = rest' := by
  obtain ⟨rfl, hvalue⟩ := quoteChars_append_injective h
  obtain ⟨rfl, hmore⟩ := hj j' _ _ hj' hrest hrest' (List.cons.inj hvalue).2
  exact ⟨rfl, hmore⟩

theorem compactEntries_injective {es : List (String × Json)} (hes : ∀ e ∈ es, TellsApart e.2)
    {es' : List (String × Json)} (hes' : ∀ e ∈ es', e.2.Finite) {rest rest' : List Char}
    (h : compactEntries es ++ '}' :: rest = compactEntries es' ++ '}' :: rest') :
    es = es' ∧ rest = rest' := by
  induction es generalizing es' with
  | nil =>
    rcases es' with _ | ⟨⟨key', j'⟩, es'⟩
    · exact ⟨rfl, (List.cons.inj h).2⟩
    · exact absurd (List.cons.inj h).1 (by decide)
  | cons e es ih =>
    obtain ⟨key, j⟩ := e
    rcases es' with _ | ⟨⟨key', j'⟩, es'⟩
    · exact absurd (List.cons.inj h).1 (by decide)
    · rw [List.forall_mem_cons] at hes hes'
      simp only [compactEntries, List.cons_append, List.append_assoc, List.cons.injEq,
        true_and] at h
      obtain ⟨heq, hmore⟩ := entry_injective hes.1 hes'.1 (delimited_compactEntries es rest)
        (delimited_compactEntries es' rest') h
      obtain ⟨rfl, hrest⟩ := ih hes.2 hes'.2 hmore
      exact ⟨congrArg (· :: es) heq, hrest⟩

theorem tellsApart_object {es : List (String × Json)} (hfinite : ∀ e ∈ es, e.2.Finite)
    (hes : ∀ e ∈ es, TellsApart e.2) : TellsApart (.object es) := by
  intro j' rest rest' hj' _ _ h
  obtain ⟨es', rfl⟩ := alike_of_kind_eq ((Finite.object hfinite).kind_eq hj' h)
  cases hj' with
  | object hes' =>
    rcases es with _ | ⟨⟨key, j⟩, es⟩ <;> rcases es' with _ | ⟨⟨key', j'⟩, es'⟩
    · exact ⟨rfl, List.append_cancel_left h⟩
    -- a key begins with a quote
    · exact absurd (List.cons.inj (List.cons.inj h).2).1 (by decide)
    · exact absurd (List.cons.inj (List.cons.inj h).2).1 (by decide)
    · rw [List.forall_mem_cons] at hes hes'
      simp only [compactChars, List.cons_append, List.append_assoc, List.cons.injEq,
        true_and] at h
      obtain ⟨heq, hmore⟩ := entry_injective hes.1 hes'.1 (delimited_compactEntries es rest)
        (delimited_compactEntries es' rest') h
      obtain ⟨rfl, hrest⟩ := compactEntries_injective hes.2 hes'.2 hmore
      rw [heq]
      exact ⟨rfl, hrest⟩

/-! ## Values -/

/-- **The text of a value is that of no other**, and it says where it ends. -/
theorem Finite.tellsApart {j : Json} (h : j.Finite) : TellsApart j := by
  -- two numbers may go on differently, so they are told apart with their ends
  have hnumber : ∀ {j : Json}, j.Finite → j.kind = '0' → TellsApart j := by
    intro j hj hkind j' rest rest' hj' hrest hrest' h
    have hkind' := (hj.kind_eq hj' h).symm.trans hkind
    obtain ⟨htext, rfl⟩ := append_injective_of_numeric (hj.isNumeric hkind)
      (hj'.isNumeric hkind') hrest hrest' h
    exact ⟨hj.number_injective hj' hkind hkind' htext, rfl⟩
  induction h with
  | null =>
    intro j' rest rest' hj' _ _ h
    obtain rfl : j' = .null := alike_of_kind_eq (Finite.null.kind_eq hj' h)
    exact ⟨rfl, List.append_cancel_left h⟩
  | bool b =>
    intro j' rest rest' hj' _ _ h
    obtain rfl : j' = .bool b := alike_of_kind_eq ((Finite.bool b).kind_eq hj' h)
    exact ⟨rfl, List.append_cancel_left h⟩
  | int n => exact hnumber (.int n) rfl
  | double hx => exact hnumber (.double hx) rfl
  | string s =>
    intro j' rest rest' hj' _ _ h
    obtain ⟨s', rfl⟩ := alike_of_kind_eq ((Finite.string s).kind_eq hj' h)
    obtain ⟨rfl, hrest⟩ := quoteChars_append_injective h
    exact ⟨rfl, hrest⟩
  | array hitems ih => exact tellsApart_array hitems ih
  | object hentries ih => exact tellsApart_object hentries ih

/-- **Two texts are the same exactly if the values as written are.** -/
theorem compact_eq_iff {j j' : Json} : j.compact = j'.compact ↔ j.written = j'.written := by
  constructor
  · intro h
    have hchars : j.compactChars = j'.compactChars := String.ofList_injective h
    rw [← compactChars_written j, ← compactChars_written j', ← List.append_nil (compactChars _),
      ← List.append_nil j'.written.compactChars] at hchars
    exact ((finite_written j).tellsApart _ _ _ (finite_written j') delimited_nil delimited_nil
      hchars).1
  · intro h
    rw [compact, compact, ← compactChars_written j, h, compactChars_written]

end TenantReports.Json
