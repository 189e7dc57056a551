import TenantReports.Proofs.Json.Doubles
import TenantReports.Proofs.Json.Keys

/-!
# Written JSON is read

Whatever a value is, its compact text is read if its integers are of 64 bits and it does not nest
too deep. What is read is the value with the keys of its objects in order and with its doubles as
their texts are read, which need not be the doubles they were.

## Main definitions

* `Json.Readable`: the values whose texts are read
* `Json.reread`: what they are read as

## Main results

* `Json.parse?_of_readable`: the text of a readable value is read
* `Json.readable_of_parse?`: what was read is readable
-/

namespace TenantReports.Json

/-- What the text of a double is read as. -/
def rereadDouble (x : Binary64) : Json :=
  ((value? 0 (doubleText x).toList).map fun (j, _) => j).getD .null

mutual

/-- What the text of a value is read as. -/
def reread : Json → Json
  | .double x => rereadDouble x
  | .array items => .array (rereadItems items)
  | .object entries => .ofEntries (rereadEntries entries)
  | j => j

/-- What the texts of items are read as. -/
def rereadItems : List Json → List Json
  | [] => []
  | j :: js => j.reread :: rereadItems js

/-- What the texts of the values of entries are read as. -/
def rereadEntries : List (String × Json) → List (String × Json)
  | [] => []
  | (key, j) :: es => (key, j.reread) :: rereadEntries es

end

theorem rereadItems_eq (js : List Json) : rereadItems js = js.map reread := by
  induction js with
  | nil => rfl
  | cons j js ih => rw [rereadItems, ih, List.map_cons]

theorem rereadEntries_eq (es : List (String × Json)) :
    rereadEntries es = es.map fun e => (e.1, e.2.reread) := by
  induction es with
  | nil => rfl
  | cons e es ih => rw [rereadEntries, ih, List.map_cons]

/-- The values whose texts are read: their integers are of 64 bits, and they nest at most `depth`
deep. -/
inductive Readable : Nat → Json → Prop
  | null {depth : Nat} : Readable depth .null
  | bool {depth : Nat} (b : Bool) : Readable depth (.bool b)
  | int {depth : Nat} {n : Int} (hlow : -(2 ^ 63) ≤ n) (hhigh : n < 2 ^ 64) :
    Readable depth (.int n)
  | double {depth : Nat} (x : Binary64) : Readable depth (.double x)
  | string {depth : Nat} (s : String) : Readable depth (.string s)
  | array {depth : Nat} {items : List Json} (hitems : ∀ j ∈ items, Readable depth j) :
    Readable (depth + 1) (.array items)
  | object {depth : Nat} {entries : List (String × Json)}
      (hentries : ∀ e ∈ entries, Readable depth e.2) : Readable (depth + 1) (.object entries)

theorem readOff_double {depth : Nat} (x : Binary64) :
    ReadOff depth (.double x) (rereadDouble x) := by
  obtain ⟨j, hj⟩ := exists_readOff_double x
  have hread := hj 0 [] (by rintro c ⟨⟩)
  rw [compactChars, List.append_nil] at hread
  have heq : rereadDouble x = j := by rw [rereadDouble, hread]; rfl
  rw [heq]
  exact hj depth

theorem Readable.readOff {depth : Nat} {j : Json} (h : Readable depth j) :
    ReadOff depth j j.reread := by
  induction h with
  | null => exact readOff_null
  | bool b => exact readOff_bool b
  | int hlow hhigh => exact readOff_int hlow hhigh
  | double x => exact readOff_double x
  | string s => exact readOff_string s
  | array _ ih =>
    rw [reread, rereadItems_eq]
    exact readOff_array (List.forall₂_map_right_iff.mpr (List.forall₂_same.mpr ih))
  | object _ ih =>
    rw [reread, rereadEntries_eq]
    refine readOff_object (List.forall₂_map_right_iff.mpr (List.forall₂_same.mpr ?_))
    exact fun e he => ⟨rfl, ih e he⟩

/-- **The text of a readable value is read.** -/
theorem parse?_of_readable {j : Json} (h : Readable depthLimit j) :
    parse? j.compact = some j.reread :=
  parse?_of_readOff h.readOff

/-- What may nest deeper may also nest less deep. -/
theorem Readable.mono {depth more : Nat} {j : Json} (h : Readable depth j) (hle : depth ≤ more) :
    Readable more j := by
  induction h generalizing more with
  | null => exact .null
  | bool b => exact .bool b
  | int hlow hhigh => exact .int hlow hhigh
  | double x => exact .double x
  | string s => exact .string s
  | array _ ih =>
    obtain _ | more := more
    · cases hle
    · exact .array fun j hj => ih j hj (Nat.le_of_succ_le_succ hle)
  | object _ ih =>
    obtain _ | more := more
    · cases hle
    · exact .object fun e he => ih e he (Nat.le_of_succ_le_succ hle)

/-! ## Values that were read -/

theorem scanWhole_le (cs : List Char) {s : Nat} (hs : s ≤ significandLimit) :
    (scanWhole s cs).significand ≤ significandLimit := by
  induction cs generalizing s with
  | nil => exact hs
  | cons c cs ih =>
    rw [scanWhole]
    dsimp only
    split
    · split
      · exact hs
      · rename_i hfits
        exact ih (Nat.not_lt.mp hfits)
    · exact hs

/-- Integers are read only if they are of 64 bits. -/
theorem readable_integerOf (neg : Bool) {s depth : Nat} (hs : s ≤ significandLimit) :
    (integerOf neg s).Readable depth := by
  have hlimit : significandLimit = 2 ^ 64 - 1 := rfl
  have hpow : Nat.pow 2 63 = 2 ^ 63 := rfl
  unfold integerOf
  split
  · exact .int (by omega) (by omega)
  · split
    · exact .double _
    · exact .int (by omega) (by omega)

section Parser

variable {depth : Nat} {neg : Bool} {cs rest : List Char} {j : Json}

theorem readable_of_doubleOf? {s : Nat} {p : Int} (h : doubleOf? neg s p = some j) :
    j.Readable depth := by
  obtain ⟨x, -, rfl⟩ := Option.map_eq_some_iff.mp h
  exact .double _

theorem readable_of_scanTail? {s : Scan} (h : scanTail? neg s = some (j, rest)) :
    j.Readable depth := by
  have hexponent : ∀ cs, scanExponent? neg s cs = some (j, rest) → j.Readable depth := by
    intro cs h
    unfold scanExponent? at h
    -- whatever its sign
    split at h
    all_goals
      dsimp only at h
      split at h
      · cases h
      · split at h
        · split at h
          · cases h
          · cases h
            exact .double _
        · obtain ⟨j', hj', heq⟩ := Option.map_eq_some_iff.mp h
          cases heq
          exact readable_of_doubleOf? hj'
  unfold scanTail? at h
  split at h
  · exact hexponent _ h
  · exact hexponent _ h
  · obtain ⟨j', hj', heq⟩ := Option.map_eq_some_iff.mp h
    cases heq
    exact readable_of_doubleOf? hj'

theorem readable_of_afterWhole {s : Scan} (hs : s.significand ≤ significandLimit)
    (h : unsignedNumber?.afterWhole neg s = some (j, rest)) : j.Readable depth := by
  unfold unsignedNumber?.afterWhole at h
  split at h
  · split at h
    · exact readable_of_scanTail? h
    · cases h
  · cases h
  · exact readable_of_scanTail? h
  · exact readable_of_scanTail? h
  · split at h
    · cases h
      exact readable_integerOf neg hs
    · exact readable_of_scanTail? h

theorem readable_of_number? (h : number? cs = some (j, rest)) : j.Readable depth := by
  have hunsigned : ∀ neg cs, unsignedNumber? neg cs = some (j, rest) → j.Readable depth := by
    intro neg cs h
    unfold unsignedNumber? at h
    split at h
    · split at h
      · cases h
      · exact readable_of_afterWhole (Nat.zero_le _) h
    · split at h
      · exact readable_of_afterWhole (scanWhole_le _ (Nat.zero_le _)) h
      · cases h
    · cases h
  unfold number? at h
  split at h
  · exact hunsigned _ _ h
  · exact hunsigned _ _ h

/-- The items of an array have what each value has that is read. -/
theorem forall_items? {item : List Char → Option (Json × List Char)} {P : Json → Prop}
    (hitem : ∀ cs j rest, item cs = some (j, rest) → P j) {js : List Json}
    (h : items? item cs = some (js, rest)) : ∀ j ∈ js, P j := by
  have htail : ∀ fuel acc cs, (∀ j ∈ acc, P j) → itemsTail? item fuel acc cs = some (js, rest) →
      ∀ j ∈ js, P j := by
    intro fuel
    induction fuel with
    | zero => exact fun _ _ _ h => nomatch h
    | succ fuel ih =>
      intro acc cs hacc h
      rw [itemsTail?] at h
      split at h
      · cases h
        exact fun j hj => hacc j (List.mem_reverse.mp hj)
      · split at h
        · cases h
        · rename_i hread
          exact ih _ _ (List.forall_mem_cons.mpr ⟨hitem _ _ _ hread, hacc⟩) h
      · cases h
  unfold items? at h
  split at h
  · cases h
    exact List.forall_mem_nil _
  · split at h
    · cases h
    · rename_i hread
      exact htail _ _ _ (List.forall_mem_singleton.mpr (hitem _ _ _ hread)) h

theorem value_of_entry {item : List Char → Option (Json × List Char)} {P : Json → Prop}
    (hitem : ∀ cs j rest, item cs = some (j, rest) → P j) {e : String × Json}
    (h : entry? item cs = some (e, rest)) : P e.2 := by
  unfold entry? at h
  split at h
  · split at h
    · cases h
    · split at h
      · split at h
        · cases h
        · rename_i hread
          cases h
          exact hitem _ _ _ hread
      · cases h
  · cases h

/-- So have the values of the entries of an object. -/
theorem forall_entries? {item : List Char → Option (Json × List Char)} {P : Json → Prop}
    (hitem : ∀ cs j rest, item cs = some (j, rest) → P j) {es : List (String × Json)}
    (h : entries? item cs = some (es, rest)) : ∀ e ∈ es, P e.2 := by
  have htail : ∀ fuel acc cs, (∀ e ∈ acc, P (Prod.snd e)) →
      entriesTail? item fuel acc cs = some (es, rest) → ∀ e ∈ es, P e.2 := by
    intro fuel
    induction fuel with
    | zero => exact fun _ _ _ h => nomatch h
    | succ fuel ih =>
      intro acc cs hacc h
      rw [entriesTail?] at h
      split at h
      · cases h
        exact fun e he => hacc e (List.mem_reverse.mp he)
      · split at h
        · cases h
        · rename_i hread
          exact ih _ _ (List.forall_mem_cons.mpr ⟨value_of_entry hitem hread, hacc⟩) h
      · cases h
  unfold entries? at h
  split at h
  · cases h
    exact List.forall_mem_nil _
  · split at h
    · cases h
    · rename_i hread
      exact htail _ _ _ (List.forall_mem_singleton.mpr (value_of_entry hitem hread)) h

/-- **A value that was read can be read again.** -/
theorem readable_of_value? (h : value? depth cs = some (j, rest)) : j.Readable depth := by
  induction depth generalizing cs j rest with
  | zero =>
    rw [value?] at h
    split at h
    · cases h; exact .null
    · cases h; exact .bool _
    · cases h; exact .bool _
    · obtain ⟨s, -, heq⟩ := Option.map_eq_some_iff.mp h
      cases heq
      exact .string _
    · cases h
    · cases h
    · exact readable_of_number? h
  | succ depth ih =>
    rw [value?] at h
    split at h
    · cases h; exact .null
    · cases h; exact .bool _
    · cases h; exact .bool _
    · obtain ⟨s, -, heq⟩ := Option.map_eq_some_iff.mp h
      cases heq
      exact .string _
    · obtain ⟨js, hjs, heq⟩ := Option.map_eq_some_iff.mp h
      cases heq
      exact .array (forall_items? (fun _ _ _ => ih) hjs)
    · obtain ⟨es, hes, heq⟩ := Option.map_eq_some_iff.mp h
      cases heq
      exact .object fun e he => forall_entries? (fun _ _ _ => ih) hes e (mem_orderKeys he)
    · exact readable_of_number? h

theorem readable_of_parse? {text : String} (h : parse? text = some j) : j.Readable depthLimit := by
  unfold parse? at h
  split at h
  · rename_i hread
    split at h
    · cases h
      exact readable_of_value? hread
    · cases h
  · cases h

end Parser

end TenantReports.Json
