import Mathlib.Algebra.Ring.Int.Defs
import Mathlib.Algebra.Ring.Nat
import Mathlib.Data.List.Basic
import Mathlib.Data.List.Forall2
import TenantReports.Json.Parser
import TenantReports.Json.Printer

/-!
# Written JSON reads back

The compact text of a value reads back as that value with the keys of its objects in order, and
reading it leaves what comes after it. What comes after must not look like more of a number. The
value must not nest too deep and its integers must be of 64 bits; of doubles it is assumed that
their texts read back.

## Main definitions

* `Json.EndsNumber`: what may come after a number
* `Json.ReadsBack`: the values that read back
* `Json.plain`: a test for it, for values without doubles
* `Json.ordered`: a value with the keys of its objects in order

## Main results

* `Json.stringBody?_flatMap_escape`, `Json.number?_intText`: strings and integers
* `Json.ReadsBack.readOff`: values, by recursion on them
* `Json.parse?_compact`: whole texts
-/

namespace TenantReports.Json

/-! ## Strings -/

theorem hex4?_hexDigit : ∀ n < 32, hex4? '0' '0' (hexDigit (n / 16)) (hexDigit n) = some n := by
  decide

/-- An escaped character reads back. -/
theorem stringBody?_escape (acc : List Char) (c : Char) (cs : List Char) :
    stringBody? acc (escape c ++ cs) = stringBody? (c :: acc) cs := by
  unfold escape
  split
  · rfl
  · rfl
  · rfl
  · rfl
  · rfl
  · rfl
  · rfl
  · rename_i hquote hbackslash _ _ _ _ _
    split
    -- a control character
    · rename_i hcontrol
      have hhex := hex4?_hexDigit c.toNat hcontrol
      simp only [List.cons_append, List.nil_append]
      rw [stringBody?, hhex]
      -- it is no surrogate
      dsimp only
      rw [if_neg (by omega), if_neg (by omega), Char.ofNat_toNat]
    · rename_i hcontrol
      simp only [List.cons_append, List.nil_append]
      rw [stringBody?, if_neg (not_or.mpr ⟨hbackslash, hcontrol⟩)]
      · exact hquote
      · exact fun _ _ _ _ _ hc _ => hbackslash hc
      · exact fun _ _ hc _ => hbackslash hc

theorem stringBody?_flatMap_escape (acc cs rest : List Char) :
    stringBody? acc (cs.flatMap escape ++ '"' :: rest)
      = some (String.ofList (acc.reverse ++ cs), rest) := by
  induction cs generalizing acc with
  | nil => simp [stringBody?]
  | cons c cs ih =>
    rw [List.flatMap_cons, List.append_assoc, stringBody?_escape, ih]
    simp

/-- The text of a string reads back, after its opening quote. -/
theorem stringBody?_quoteChars (s : String) (rest : List Char) :
    stringBody? [] ((s.toList.flatMap escape ++ ['"']) ++ rest) = some (s, rest) := by
  rw [List.append_assoc, List.singleton_append, stringBody?_flatMap_escape]
  simp

/-! ## Integers -/

/-- What may come after digits. -/
def EndsDigits (rest : List Char) : Prop := ∀ c ∈ rest.head?, c.isDigit = false

/-- What may come after a number: nothing that would be read as more of it. -/
def EndsNumber (rest : List Char) : Prop :=
  ∀ c ∈ rest.head?, c.isDigit = false ∧ c ≠ '.' ∧ c ≠ 'e' ∧ c ≠ 'E'

theorem EndsNumber.endsDigits {rest : List Char} (h : EndsNumber rest) : EndsDigits rest :=
  fun c hc => (h c hc).1

theorem le_ofDigitChars (cs : List Char) (n : Nat) : n ≤ Nat.ofDigitChars 10 cs n := by
  induction cs generalizing n with
  | nil => exact Nat.le_refl n
  | cons c cs ih =>
    rw [Nat.ofDigitChars_cons]
    have hle := ih (10 * n + (c.toNat - '0'.toNat))
    omega

/-- Digits that fit are read as the number they denote. -/
theorem scanWhole_digits {cs rest : List Char} (hdigits : ∀ c ∈ cs, c.isDigit = true)
    (hrest : EndsDigits rest) {s : Nat} (hfits : Nat.ofDigitChars 10 cs s ≤ significandLimit) :
    scanWhole s (cs ++ rest) = ⟨Nat.ofDigitChars 10 cs s, 0, rest⟩ := by
  induction cs generalizing s with
  | nil =>
    rw [List.nil_append, Nat.ofDigitChars_nil]
    cases rest with
    | nil => rfl
    | cons c rest => simp [scanWhole, hrest c rfl]
  | cons c cs ih =>
    rw [Nat.ofDigitChars_cons] at hfits ⊢
    have hle := le_ofDigitChars cs (10 * s + (c.toNat - '0'.toNat))
    rw [List.cons_append, scanWhole, if_pos (hdigits c List.mem_cons_self)]
    dsimp only [Binary64.digitValue]
    rw [if_neg (by omega)]
    exact ih (fun c' hc' => hdigits c' (List.mem_cons_of_mem c hc')) hfits

/-- The digits of a positive number do not begin with a zero. -/
theorem head?_toDigits {n : Nat} (hn : 0 < n) : (Nat.toDigits 10 n).head? ≠ some '0' := by
  have hdigit : ∀ d < 10, 0 < d → [Nat.digitChar d].head? ≠ some '0' := by decide
  induction n using Nat.strongRecOn with
  | _ n ih =>
    rcases Nat.lt_or_ge n 10 with hlt | hge
    · rw [Nat.toDigits_of_lt_base hlt]
      exact hdigit n hlt hn
    · rw [Nat.toDigits_of_base_le (by decide) hge,
        List.head?_append_of_ne_nil _ Nat.toDigits_ne_nil]
      exact ih (n / 10) (by omega) (by omega)

theorem exists_digit_cons (n : Nat) :
    ∃ c cs, Nat.toDigits 10 n = c :: cs ∧ c.isDigit = true := by
  obtain ⟨c, cs, hcs⟩ := List.exists_cons_of_ne_nil (Nat.toDigits_ne_nil (n := n) (b := 10))
  refine ⟨c, cs, hcs, Nat.isDigit_of_mem_toDigits (n := n) (by decide) (Nat.le_refl 10) ?_⟩
  rw [hcs]
  exact List.mem_cons_self

theorem unsignedNumber?_toDigits {rest : List Char} (hrest : EndsNumber rest) (neg : Bool)
    {n : Nat} (hfits : n ≤ significandLimit) :
    unsignedNumber? neg (Nat.toDigits 10 n ++ rest) = some (integerOf neg n, rest) := by
  have hafter : unsignedNumber?.afterWhole neg ⟨n, 0, rest⟩ = some (integerOf neg n, rest) := by
    unfold unsignedNumber?.afterWhole
    cases rest with
    | nil => rfl
    | cons c rest =>
      obtain ⟨-, hpoint, he, hE⟩ := hrest c rfl
      split <;> simp_all
  rcases Nat.eq_zero_or_pos n with rfl | hpos
  · cases rest with
    | nil => exact hafter
    | cons c rest =>
      rw [Nat.toDigits_zero, List.singleton_append, unsignedNumber?, (hrest c rfl).1]
      exact hafter
  obtain ⟨c, cs, hcs, hc⟩ := exists_digit_cons n
  have hdigits : ∀ c ∈ Nat.toDigits 10 n, c.isDigit = true := fun c hc =>
    Nat.isDigit_of_mem_toDigits (by decide) (by decide) hc
  have hscan := scanWhole_digits hdigits hrest.endsDigits (s := 0)
    (by rwa [Nat.ofDigitChars_ten_toDigits])
  have hhead := head?_toDigits hpos
  rw [Nat.ofDigitChars_ten_toDigits] at hscan
  rw [hcs] at hhead hscan ⊢
  rw [List.cons_append] at hscan ⊢
  rw [unsignedNumber?, if_pos hc, hscan]
  · exact hafter
  · rintro _ _ rfl
    exact absurd rfl hhead

/-- **The text of a 64-bit integer reads back.** -/
theorem number?_intText {n : Int} (hlow : -(2 ^ 63) ≤ n) (hhigh : n < 2 ^ 64) {rest : List Char}
    (hrest : EndsNumber rest) : number? ((intText n).toList ++ rest) = some (.int n, rest) := by
  have hlimit : significandLimit = 2 ^ 64 - 1 := rfl
  have hfits : n.natAbs ≤ significandLimit := by omega
  unfold intText
  split
  · rename_i hneg
    rw [String.toList_append, String.toList_ofList, String.toList_ofList]
    change unsignedNumber? true (Nat.toDigits 10 n.natAbs ++ rest) = _
    have hleast : ¬ (n.natAbs = 0 ∨ Nat.pow 2 63 < n.natAbs) := by
      have hpow : Nat.pow 2 63 = 2 ^ 63 := rfl
      omega
    rw [unsignedNumber?_toDigits hrest true hfits, integerOf, if_neg (by simp), if_neg hleast,
      show -(n.natAbs : Int) = n by omega]
  · rename_i hneg
    rw [String.toList_ofList, number?, unsignedNumber?_toDigits hrest false hfits, integerOf,
      if_pos (by simp), show (n.natAbs : Int) = n by omega]
    intro cs hcs
    obtain ⟨c, cs', hcs', hc⟩ := exists_digit_cons n.natAbs
    rw [hcs', List.cons_append, List.cons.injEq] at hcs
    rw [hcs.1] at hc
    cases hc

/-! ## Values -/

theorem skipBlanks_cons {c : Char} (hc : isJsonBlank c = false) (cs : List Char) :
    skipBlanks (c :: cs) = c :: cs := by
  rw [skipBlanks, List.dropWhile_cons_of_neg (by simp [hc])]

theorem skipBlanks_skipBlanks (cs : List Char) : skipBlanks (skipBlanks cs) = skipBlanks cs := by
  induction cs with
  | nil => rfl
  | cons c cs ih =>
    cases hc : isJsonBlank c with
    | false => rw [skipBlanks_cons hc, skipBlanks_cons hc]
    | true =>
      rw [show skipBlanks (c :: cs) = skipBlanks cs from List.dropWhile_cons_of_pos hc]
      exact ih

/-- Blanks before a value make no difference. -/
theorem value?_skipBlanks (depth : Nat) (cs : List Char) :
    value? depth (skipBlanks cs) = value? depth cs := by
  rw [value?, skipBlanks_skipBlanks, ← value?]

/-- What begins like a number is read as one. -/
theorem value?_of_number {depth : Nat} {c : Char} (hc : c.isDigit = true ∨ c = '-')
    (cs : List Char) : value? depth (c :: cs) = number? (c :: cs) := by
  have hfirst : ∀ c' : Char, c'.isDigit = false → c' ≠ '-' → c ≠ c' := by
    rintro c' hdigit hminus rfl
    simp [hdigit, hminus] at hc
  have hblank : isJsonBlank c = false := by
    simp [isJsonBlank, hfirst]
  rw [value?, skipBlanks_cons hblank]
  split
  all_goals first
    | rfl
    | rename_i heq
      rw [List.cons.injEq] at heq
      exact absurd heq.1 (hfirst _ (by decide) (by decide))

/-- The values whose compact texts read back: they nest at most `depth` deep. -/
inductive ReadsBack : Nat → Json → Prop
  | null {depth : Nat} : ReadsBack depth .null
  | bool {depth : Nat} (b : Bool) : ReadsBack depth (.bool b)
  | int {depth : Nat} {n : Int} (hlow : -(2 ^ 63) ≤ n) (hhigh : n < 2 ^ 64) :
    ReadsBack depth (.int n)
  | double {depth : Nat} {x : Binary64}
      (htext : ∀ depth rest, EndsNumber rest →
        value? depth ((doubleText x).toList ++ rest) = some (.double x, rest)) :
    ReadsBack depth (.double x)
  | string {depth : Nat} (s : String) : ReadsBack depth (.string s)
  | array {depth : Nat} {items : List Json} (hitems : ∀ j ∈ items, ReadsBack depth j) :
    ReadsBack (depth + 1) (.array items)
  | object {depth : Nat} {entries : List (String × Json)}
      (hentries : ∀ e ∈ entries, ReadsBack depth e.2) : ReadsBack (depth + 1) (.object entries)

mutual

/-- A value with the keys of its objects in order, as a reader has it. -/
def ordered : Json → Json
  | .array items => .array (orderedItems items)
  | .object entries => .ofEntries (orderedEntries entries)
  | j => j

/-- Items with the keys of their objects in order. -/
def orderedItems : List Json → List Json
  | [] => []
  | j :: js => j.ordered :: orderedItems js

/-- Entries whose values have the keys of their objects in order. -/
def orderedEntries : List (String × Json) → List (String × Json)
  | [] => []
  | (key, j) :: es => (key, j.ordered) :: orderedEntries es

end

mutual

/-- A value without doubles that reads back. -/
def plain : Nat → Json → Bool
  | _, .null => true
  | _, .bool _ => true
  | _, .int n => decide (-(2 ^ 63) ≤ n ∧ n < 2 ^ 64)
  | _, .double _ => false
  | _, .string _ => true
  | 0, .array _ => false
  | depth + 1, .array items => plainItems depth items
  | 0, .object _ => false
  | depth + 1, .object entries => plainEntries depth entries

/-- Items without doubles that read back. -/
def plainItems : Nat → List Json → Bool
  | _, [] => true
  | depth, j :: js => plain depth j && plainItems depth js

/-- Entries without doubles that read back. -/
def plainEntries : Nat → List (String × Json) → Bool
  | _, [] => true
  | depth, (_, j) :: es => plain depth j && plainEntries depth es

end

mutual

theorem readsBack_of_plain : ∀ (depth : Nat) (j : Json), plain depth j = true → ReadsBack depth j
  | _, .null, _ => .null
  | _, .bool b, _ => .bool b
  | _, .int n, h => by
    rw [plain, decide_eq_true_eq] at h
    exact .int h.1 h.2
  | _, .double x, h => nomatch h
  | _, .string s, _ => .string s
  | 0, .array items, h => nomatch h
  | depth + 1, .array items, h => .array (readsBack_of_plainItems depth items h)
  | 0, .object entries, h => nomatch h
  | depth + 1, .object entries, h => .object (readsBack_of_plainEntries depth entries h)

theorem readsBack_of_plainItems : ∀ (depth : Nat) (js : List Json),
    plainItems depth js = true → ∀ j ∈ js, ReadsBack depth j
  | _, [], _ => by simp
  | depth, j :: js, h => by
    rw [plainItems, Bool.and_eq_true] at h
    rw [List.forall_mem_cons]
    exact ⟨readsBack_of_plain depth j h.1, readsBack_of_plainItems depth js h.2⟩

theorem readsBack_of_plainEntries : ∀ (depth : Nat) (es : List (String × Json)),
    plainEntries depth es = true → ∀ e ∈ es, ReadsBack depth e.2
  | _, [], _ => by simp
  | depth, (key, j) :: es, h => by
    rw [plainEntries, Bool.and_eq_true] at h
    rw [List.forall_mem_cons]
    exact ⟨readsBack_of_plain depth j h.1, readsBack_of_plainEntries depth es h.2⟩

end

/-- A value's text, read off the front of a list of characters, reads as a value. -/
def ReadOff (depth : Nat) (j j' : Json) : Prop :=
  ∀ rest, EndsNumber rest → value? depth (j.compactChars ++ rest) = some (j', rest)

/-- The same of an entry, whose key reads back. -/
def EntryReadOff (depth : Nat) (e e' : String × Json) : Prop :=
  e.1 = e'.1 ∧ ReadOff depth e.2 e'.2

theorem endsNumber_cons {c : Char} (hc : c = ',' ∨ c = ']' ∨ c = '}') (rest : List Char) :
    EndsNumber (c :: rest) := by
  rintro c' hc'
  cases hc'
  rcases hc with rfl | rfl | rfl <;> decide

theorem readOff_int {depth : Nat} {n : Int} (hlow : -(2 ^ 63) ≤ n) (hhigh : n < 2 ^ 64) :
    ReadOff depth (.int n) (.int n) := by
  intro rest hrest
  have hnumber := number?_intText hlow hhigh hrest
  obtain ⟨c, cs, hcs, hc⟩ : ∃ c cs, (intText n).toList = c :: cs ∧
      (c.isDigit = true ∨ c = '-') := by
    unfold intText
    split
    · exact ⟨'-', _, by rw [String.toList_append]; rfl, .inr rfl⟩
    · obtain ⟨c, cs, hcs, hc⟩ := exists_digit_cons n.natAbs
      exact ⟨c, cs, by rw [String.toList_ofList, hcs], .inl hc⟩
  rw [compactChars, ← hnumber, hcs, List.cons_append]
  exact value?_of_number hc _

theorem value?_array (depth : Nat) (cs : List Char) : value? (depth + 1) ('[' :: cs)
    = (items? (value? depth) cs).map fun (js, r) => (.array js, r) := rfl

theorem value?_object (depth : Nat) (cs : List Char) : value? (depth + 1) ('{' :: cs)
    = (entries? (value? depth) cs).map fun (es, r) => (.ofEntries es, r) := rfl

theorem value?_closing {depth : Nat} {c : Char} (hc : c = ']' ∨ c = '}') (cs : List Char) :
    value? depth (c :: cs) = none := by
  rcases hc with rfl | rfl
  all_goals
    rw [value?, skipBlanks_cons (by decide)]
    rfl

/-! ## Arrays -/

section Items

variable {depth : Nat}

theorem endsNumber_compactItems (js : List Json) (rest : List Char) :
    EndsNumber (compactItems js ++ ']' :: rest) := by
  cases js <;> exact endsNumber_cons (by simp) _

/-- Each round reads one item, so there is fuel enough for as many as there are. -/
theorem itemsTail?_compactItems {js js' : List Json} (hjs : List.Forall₂ (ReadOff depth) js js')
    (acc : List Json) (rest : List Char) {fuel : Nat} (hfuel : js.length < fuel) :
    itemsTail? (value? depth) fuel acc (compactItems js ++ ']' :: rest)
      = some (acc.reverse ++ js', rest) := by
  induction hjs generalizing acc fuel with
  | nil =>
    obtain _ | fuel := fuel
    · cases hfuel
    simp [compactItems, itemsTail?, skipBlanks, isJsonBlank]
  | @cons j j' js js' hj _ ih =>
    obtain _ | fuel := fuel
    · cases hfuel
    have hfirst := hj _ (endsNumber_compactItems js rest)
    have hlater := ih (j' :: acc) (Nat.lt_of_succ_lt_succ hfuel)
    rw [compactItems, List.cons_append, List.append_assoc, itemsTail?,
      skipBlanks_cons (by decide)]
    simp only [hfirst, hlater]
    simp

theorem length_le_compactItems (js : List Json) : js.length ≤ (compactItems js).length := by
  induction js with
  | nil => exact Nat.zero_le _
  | cons j js ih =>
    rw [compactItems, List.length_cons, List.length_cons, List.length_append]
    omega

/-- The first item of an array is no closing bracket. -/
theorem items?_of_value? {cs rest : List Char} {j : Json} (h : value? depth cs = some (j, rest)) :
    items? (value? depth) cs = itemsTail? (value? depth) (rest.length + 1) [j] rest := by
  rw [← value?_skipBlanks] at h
  unfold items?
  split
  · rename_i heq
    rw [heq, value?_closing (.inl rfl)] at h
    cases h
  · rw [h]

theorem readOff_array {js js' : List Json} (hjs : List.Forall₂ (ReadOff depth) js js') :
    ReadOff (depth + 1) (.array js) (.array js') := by
  intro rest _
  cases hjs with
  | nil => rfl
  | @cons j j' js js' hj hjs =>
    have hfirst := hj _ (endsNumber_compactItems js rest)
    have hfuel : js.length < (compactItems js ++ ']' :: rest).length + 1 := by
      have hle := length_le_compactItems js
      rw [List.length_append]
      omega
    have htail := itemsTail?_compactItems hjs [j'] rest hfuel
    rw [compactChars, List.cons_append, List.append_assoc, List.append_assoc,
      List.singleton_append, value?_array, items?_of_value? hfirst, htail]
    rfl

end Items

/-! ## Objects -/

section Entries

variable {depth : Nat}

theorem endsNumber_compactEntries (es : List (String × Json)) (rest : List Char) :
    EndsNumber (compactEntries es ++ '}' :: rest) := by
  rcases es with _ | ⟨e, es⟩ <;> exact endsNumber_cons (by simp) _

theorem entry?_compact (key : String) {j j' : Json} (hj : ReadOff depth j j') {rest : List Char}
    (hrest : EndsNumber rest) :
    entry? (value? depth) (quoteChars key ++ ':' :: (j.compactChars ++ rest))
      = some ((key, j'), rest) := by
  rw [quoteChars, List.cons_append, List.cons_append, entry?, skipBlanks_cons (by decide)]
  simp only [stringBody?_quoteChars, skipBlanks_cons (show isJsonBlank ':' = false by decide),
    hj rest hrest]

theorem entriesTail?_compactEntries {es es' : List (String × Json)}
    (hes : List.Forall₂ (EntryReadOff depth) es es') (acc : List (String × Json))
    (rest : List Char) {fuel : Nat} (hfuel : es.length < fuel) :
    entriesTail? (value? depth) fuel acc (compactEntries es ++ '}' :: rest)
      = some (acc.reverse ++ es', rest) := by
  induction hes generalizing acc fuel with
  | nil =>
    obtain _ | fuel := fuel
    · cases hfuel
    simp [compactEntries, entriesTail?, skipBlanks, isJsonBlank]
  | @cons e e' es es' he _ ih =>
    obtain ⟨key, j⟩ := e
    obtain ⟨key', j'⟩ := e'
    obtain ⟨rfl, hj⟩ : key = key' ∧ ReadOff depth j j' := he
    obtain _ | fuel := fuel
    · cases hfuel
    have hentry := entry?_compact key hj (endsNumber_compactEntries es rest)
    have hlater := ih ((key, j') :: acc) (Nat.lt_of_succ_lt_succ hfuel)
    simp only [compactEntries, List.cons_append, List.append_assoc] at hentry ⊢
    rw [entriesTail?, skipBlanks_cons (by decide)]
    simp only [hentry, hlater]
    simp

theorem length_le_compactEntries (es : List (String × Json)) :
    es.length ≤ (compactEntries es).length := by
  induction es with
  | nil => exact Nat.zero_le _
  | cons e es ih =>
    rw [compactEntries, List.length_cons, List.length_cons, List.length_append, List.length_append]
    omega

/-- The first entry of an object is no closing brace. -/
theorem entries?_of_entry? {cs rest : List Char} {e : String × Json}
    (h : entry? (value? depth) cs = some (e, rest)) : entries? (value? depth) cs
      = entriesTail? (value? depth) (rest.length + 1) [e] rest := by
  have hskip : entry? (value? depth) (skipBlanks cs) = some (e, rest) := by
    rw [ entry?, skipBlanks_skipBlanks, ← entry?, h]
  unfold entries?
  split
  · rename_i heq
    rw [heq, entry?, skipBlanks_cons (by decide)] at hskip
    cases hskip
  · rw [hskip]

theorem readOff_object {es es' : List (String × Json)}
    (hes : List.Forall₂ (EntryReadOff depth) es es') :
    ReadOff (depth + 1) (.object es) (.ofEntries es') := by
  intro rest _
  cases hes with
  | nil => rfl
  | @cons e e' es es' he hes =>
    obtain ⟨key, j⟩ := e
    obtain ⟨key', j'⟩ := e'
    obtain ⟨rfl, hj⟩ : key = key' ∧ ReadOff depth j j' := he
    have hentry := entry?_compact key hj (endsNumber_compactEntries es rest)
    have hfuel : es.length < (compactEntries es ++ '}' :: rest).length + 1 := by
      have hle := length_le_compactEntries es
      rw [List.length_append]
      omega
    have htail := entriesTail?_compactEntries hes [(key, j')] rest hfuel
    simp only [compactChars, List.cons_append, List.append_assoc, List.nil_append]
      at hentry htail ⊢
    rw [value?_object, entries?_of_entry? hentry, htail, Option.map_some]
    rfl

end Entries

/-! ## Texts -/

theorem readOff_null {depth : Nat} : ReadOff depth .null .null := by
  intro rest _
  rw [compactChars, List.cons_append, value?, skipBlanks_cons (by decide)]
  rfl

theorem readOff_bool {depth : Nat} (b : Bool) : ReadOff depth (.bool b) (.bool b) := by
  intro rest _
  cases b
  all_goals
    rw [compactChars, List.cons_append, value?, skipBlanks_cons (by decide)]
    rfl

theorem readOff_string {depth : Nat} (s : String) : ReadOff depth (.string s) (.string s) := by
  intro rest _
  rw [compactChars, quoteChars, List.cons_append, List.cons_append, value?,
    skipBlanks_cons (by decide)]
  simp only [stringBody?_quoteChars, Option.map_some]

theorem orderedItems_eq (js : List Json) : orderedItems js = js.map ordered := by
  induction js with
  | nil => rfl
  | cons j js ih => rw [orderedItems, ih, List.map_cons]

theorem orderedEntries_eq (es : List (String × Json)) :
    orderedEntries es = es.map fun e => (e.1, e.2.ordered) := by
  induction es with
  | nil => rfl
  | cons e es ih => rw [orderedEntries, ih, List.map_cons]

/-- **The compact text of a value reads back**, whatever comes after it. -/
theorem ReadsBack.readOff {depth : Nat} {j : Json} (h : ReadsBack depth j) :
    ReadOff depth j j.ordered := by
  induction h with
  | null => exact readOff_null
  | bool b => exact readOff_bool b
  | int hlow hhigh => exact readOff_int hlow hhigh
  | double htext => exact fun rest hrest => htext _ rest hrest
  | string s => exact readOff_string s
  | array _ ih =>
    rw [ordered, orderedItems_eq]
    exact readOff_array (List.forall₂_map_right_iff.mpr (List.forall₂_same.mpr ih))
  | object _ ih =>
    rw [ordered, orderedEntries_eq]
    refine readOff_object (List.forall₂_map_right_iff.mpr (List.forall₂_same.mpr ?_))
    exact fun e he => ⟨rfl, ih e he⟩

/-- A text that is read off is read. -/
theorem parse?_of_readOff {j j' : Json} (h : ReadOff depthLimit j j') :
    parse? j.compact = some j' := by
  have hread := h [] (by rintro c ⟨⟩)
  rw [List.append_nil] at hread
  rw [parse?, compact, String.toList_ofList, hread]
  rfl

/-- **The compact text of a value is the text of that value**, with its keys in order. -/
theorem parse?_compact {j : Json} (h : ReadsBack depthLimit j) :
    parse? j.compact = some j.ordered :=
  parse?_of_readOff h.readOff

end TenantReports.Json
