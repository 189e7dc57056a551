import Mathlib.Data.String.Basic
import TenantReports.Json.Value
import TenantReports.Report.FilterValues

/-!
# Keys in order

The entries of a map stand in ascending order of their keys, byte by byte. Texts are compared
character by character, which comes to the same: of two characters the greater has the greater
bytes, and the bytes of neither begin those of the other.

## Main definitions

* `keyBytes`: the bytes of a key
* `Ascending`: entries whose keys ascend

## Main results

* `lt_iff_keyBytes_lt`: characters and bytes order keys alike
* `ascending_orderKeys`: entries that are put in order ascend
* `orderKeys_of_ascending`: entries that ascend stay as they are
* `lookup_orderKeys`: and what is found among them stays the same
-/

namespace TenantReports

/-- The bytes of a key. -/
def keyBytes (key : String) : List UInt8 := key.toUTF8.data.toList

/-! ## Bytes -/

theorem keyBytes_eq (key : String) : keyBytes key = key.toList.flatMap String.utf8EncodeChar := by
  have hbytes : key.toUTF8 = key.toList.utf8Encode := by
    rw [← String.toByteArray_ofList, String.ofList_toList, String.toUTF8_eq_toByteArray]
  rw [keyBytes, hbytes, List.utf8Encode]
  simp

/-- The greater of two characters has the greater bytes, whatever comes after them. -/
theorem utf8EncodeChar_append_lt {c d : Char} (h : c < d) (cs ds : List UInt8) :
    String.utf8EncodeChar c ++ cs < String.utf8EncodeChar d ++ ds := by
  have hlt : c.val.toNat < d.val.toNat := UInt32.lt_iff_toNat_lt.mp h
  have hvalid : d.val.toNat < 1114112 := by
    rcases d.valid with hd | hd <;> omega
  have hbyte : ∀ k < 256, (UInt8.ofNat k).toNat = k := fun k hk => UInt8.toNat_ofNat_of_lt' hk
  unfold String.utf8EncodeChar
  generalize c.val.toNat = m at hlt
  generalize d.val.toNat = n at hlt hvalid
  -- the groups of six bits that a character's number is cut into
  have hgroups : ∀ k < 1114112, k / 262144 % 8 = k / 262144 ∧
      k / 4096 = 64 * (k / 262144) + k / 4096 % 64 ∧ k / 64 = 64 * (k / 4096) + k / 64 % 64 := by
    omega
  have hm := hgroups m (hlt.trans hvalid)
  have hn := hgroups n hvalid
  -- one case for each two numbers of bytes; the first byte alone tells different numbers apart
  dsimp only
  split_ifs <;> try omega
  all_goals
    simp only [List.cons_append, List.nil_append, List.cons_lt_cons_iff, UInt8.lt_iff_toNat_lt,
      ← UInt8.toNat_inj]
    simp (disch := omega) only [hbyte]
    omega

theorem flatMap_utf8EncodeChar_lt {cs ds : List Char} (h : cs < ds) :
    cs.flatMap String.utf8EncodeChar < ds.flatMap String.utf8EncodeChar := by
  rw [← List.lex_lt] at h
  induction h with
  | @nil d ds =>
    rw [List.flatMap_nil, List.flatMap_cons]
    obtain ⟨byte, bytes, hbytes⟩ :=
      List.exists_cons_of_ne_nil (String.utf8EncodeChar_ne_nil (c := d))
    rw [hbytes]
    exact List.nil_lt_cons ..
  | cons h ih => exact List.append_left_lt ih
  | rel h => exact utf8EncodeChar_append_lt h _ _

/-- **Characters and bytes order keys alike.** -/
theorem lt_iff_keyBytes_lt {a b : String} : a < b ↔ keyBytes a < keyBytes b := by
  have hbytes : ∀ {a b : String}, a < b → keyBytes a < keyBytes b := by
    intro a b h
    rw [keyBytes_eq, keyBytes_eq]
    exact flatMap_utf8EncodeChar_lt (String.lt_iff.mp h)
  refine ⟨hbytes, fun h => ?_⟩
  rcases lt_trichotomy a b with hlt | rfl | hgt
  · exact hlt
  · exact absurd h (List.lt_irrefl _)
  · exact absurd h (List.lt_asymm (hbytes hgt))

theorem keyBytes_inj {a b : String} : keyBytes a = keyBytes b ↔ a = b := by
  refine ⟨fun h => ?_, congrArg keyBytes⟩
  rcases lt_trichotomy a b with hlt | rfl | hgt
  · exact absurd (lt_iff_keyBytes_lt.mp hlt) (h ▸ List.lt_irrefl _)
  · rfl
  · exact absurd (lt_iff_keyBytes_lt.mp hgt) (h ▸ List.lt_irrefl _)

/-! ## Entries -/

variable {α : Type} {entries : List (String × α)}

/-- Entries whose keys ascend, byte by byte. No key is there twice. -/
def Ascending (entries : List (String × α)) : Prop :=
  entries.Pairwise fun a b => keyBytes a.1 < keyBytes b.1

theorem ascending_iff : Ascending entries ↔ entries.Pairwise fun a b => a.1 < b.1 := by
  unfold Ascending
  simp only [lt_iff_keyBytes_lt]

theorem mem_insertKey {key : String} {value : α} {e : String × α}
    (h : e ∈ insertKey key value entries) : e = (key, value) ∨ e ∈ entries := by
  induction entries with
  | nil => exact .inl (List.mem_singleton.mp h)
  | cons first rest ih =>
    unfold insertKey at h
    split at h
    · exact List.mem_cons.mp h
    · split at h
      · exact (List.mem_cons.mp h).imp_right (List.mem_cons_of_mem _)
      · rcases List.mem_cons.mp h with rfl | h
        · exact .inr List.mem_cons_self
        · exact (ih h).imp_right (List.mem_cons_of_mem _)

/-- An entry is put where its key belongs. -/
theorem Ascending.insertKey (h : Ascending entries) (key : String) (value : α) :
    Ascending (insertKey key value entries) := by
  rw [ascending_iff] at h ⊢
  induction entries with
  | nil => exact List.pairwise_singleton ..
  | cons first rest ih =>
    obtain ⟨hfirst, hrest⟩ := List.pairwise_cons.mp h
    unfold TenantReports.insertKey
    split
    case isTrue hlt =>
      refine List.pairwise_cons.mpr ⟨?_, h⟩
      intro e he
      rcases List.mem_cons.mp he with rfl | he
      · exact hlt
      · exact lt_trans hlt (hfirst e he)
    case isFalse hlt =>
      split
      case isTrue heq =>
        rw [heq]
        exact List.pairwise_cons.mpr ⟨hfirst, hrest⟩
      case isFalse hne =>
        refine List.pairwise_cons.mpr ⟨?_, ih hrest⟩
        intro e he
        rcases mem_insertKey he with rfl | he
        · exact lt_of_le_of_ne (not_lt.mp hlt) (Ne.symm hne)
        · exact hfirst e he

/-- **Entries that are put in order ascend.** -/
theorem ascending_orderKeys (entries : List (String × α)) : Ascending (orderKeys entries) := by
  have hfold : ∀ (entries acc : List (String × α)), Ascending acc →
      Ascending (entries.foldl (fun acc e => insertKey e.1 e.2 acc) acc) := by
    intro entries
    induction entries with
    | nil => exact fun acc h => h
    | cons e entries ih => exact fun acc h => ih _ (h.insertKey e.1 e.2)
  exact hfold entries [] List.Pairwise.nil

/-- The greatest key is put at the end. -/
theorem insertKey_of_forall_lt {key : String} (h : ∀ e ∈ entries, e.1 < key) (value : α) :
    insertKey key value entries = entries ++ [(key, value)] := by
  induction entries with
  | nil => rfl
  | cons first rest ih =>
    obtain ⟨hfirst, hrest⟩ := List.forall_mem_cons.mp h
    unfold TenantReports.insertKey
    rw [if_neg (lt_asymm hfirst), if_neg (ne_of_gt hfirst), ih hrest, List.cons_append]

/-- **Entries that ascend stay as they are.** -/
theorem orderKeys_of_ascending (h : Ascending entries) : orderKeys entries = entries := by
  have hfold : ∀ (entries acc : List (String × α)), Ascending (acc ++ entries) →
      entries.foldl (fun acc e => insertKey e.1 e.2 acc) acc = acc ++ entries := by
    intro entries
    induction entries with
    | nil => exact fun acc _ => (List.append_nil acc).symm
    | cons e entries ih =>
      intro acc h
      have hgreatest : ∀ e' ∈ acc, e'.1 < e.1 := by
        rw [ascending_iff, List.pairwise_append] at h
        exact fun e' he' => h.2.2 e' he' e List.mem_cons_self
      rw [List.append_cons] at h ⊢
      rw [List.foldl_cons, insertKey_of_forall_lt hgreatest]
      exact ih _ h
  exact hfold entries [] h

/-- Putting entries in order adds none. -/
theorem mem_orderKeys {entries : List (String × α)} {e : String × α} (h : e ∈ orderKeys entries) :
    e ∈ entries := by
  have hfold : ∀ (entries acc : List (String × α)),
      e ∈ entries.foldl (fun acc e => insertKey e.1 e.2 acc) acc → e ∈ acc ∨ e ∈ entries := by
    intro entries
    induction entries with
    | nil => exact fun acc h => .inl h
    | cons first entries ih =>
      intro acc h
      rcases ih _ h with h | h
      · exact (mem_insertKey h).elim (fun heq => .inr (heq ▸ List.mem_cons_self)) .inl
      · exact .inr (List.mem_cons_of_mem _ h)
  exact (hfold entries [] h).elim (fun hnil => nomatch hnil) id

/-- So the values of filters that stand in an object do. -/
theorem ascending_filterValues (entries : List (String × Json)) :
    Ascending (filterValues (.ofEntries entries)) :=
  ascending_orderKeys entries

/-! ## What is found -/

theorem lookup_cons_ite (key : String) (e : String × α) (entries : List (String × α)) :
    (e :: entries).lookup key = if key = e.1 then some e.2 else entries.lookup key := by
  rw [List.lookup_cons]
  by_cases hk : key = e.1
  · rw [if_pos hk, beq_iff_eq.mpr hk]
  · rw [if_neg hk, beq_false_of_ne hk]

theorem lookup_map_values {β : Type} (f : α → β) (key : String) (entries : List (String × α)) :
    (entries.map fun e => (e.1, f e.2)).lookup key = (entries.lookup key).map f := by
  induction entries with
  | nil => rfl
  | cons e entries ih =>
    rw [List.map_cons, lookup_cons_ite, lookup_cons_ite, ih]
    split <;> rfl

/-- An entry that is put in is found, and hides only one of its own key. -/
theorem lookup_insertKey (key k : String) (value : α) (entries : List (String × α)) :
    (insertKey k value entries).lookup key
      = if key = k then some value else entries.lookup key := by
  induction entries with
  | nil => exact lookup_cons_ite key (k, value) []
  | cons first rest ih =>
    unfold TenantReports.insertKey
    split
    case isTrue => exact lookup_cons_ite key (k, value) (first :: rest)
    case isFalse =>
      split
      case isTrue heq =>
        rw [lookup_cons_ite, lookup_cons_ite, heq]
        by_cases hk : key = first.1 <;> simp [hk]
      case isFalse hne =>
        rw [lookup_cons_ite, lookup_cons_ite, ih]
        by_cases hk : key = first.1
        · rw [if_pos hk, if_pos hk, if_neg (hk ▸ Ne.symm hne)]
        · rw [if_neg hk, if_neg hk]

/-- Putting entries in order changes nothing of what is found, if no key is there twice. -/
theorem lookup_orderKeys {entries : List (String × α)} (h : (entries.map (·.1)).Nodup)
    (key : String) : (orderKeys entries).lookup key = entries.lookup key := by
  have hfold : ∀ (entries acc : List (String × α)), (entries.map (·.1)).Nodup →
      (entries.foldl (fun acc e => insertKey e.1 e.2 acc) acc).lookup key
        = (entries.lookup key).or (acc.lookup key) := by
    intro entries
    induction entries with
    | nil => exact fun acc _ => rfl
    | cons e entries ih =>
      intro acc hnodup
      rw [List.map_cons, List.nodup_cons] at hnodup
      rw [List.foldl_cons, ih _ hnodup.2, lookup_insertKey, lookup_cons_ite]
      by_cases hk : key = e.1
      · -- a key that is found now is not found later
        have hnone : entries.lookup key = none := by
          rw [List.lookup_eq_none_iff]
          intro e' he'
          rw [bne_iff_ne, hk]
          rintro heq
          exact hnodup.1 (heq ▸ List.mem_map_of_mem he')
        rw [if_pos hk, if_pos hk, hnone]
        rfl
      · rw [if_neg hk, if_neg hk]
  rw [orderKeys, hfold entries [] h, List.lookup_nil, Option.or_none]

end TenantReports
