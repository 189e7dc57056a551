import Mathlib.Data.List.Induction
import Mathlib.Data.List.TakeWhile
import TenantReports.Proofs.Time.Rfc3339

/-!
# What is read as an instant

A text that is read as an instant states a leap second as the sixtieth of its minute, and a zone by
whole minutes. So in universal time, too, leap seconds come at the ends of minutes, and whatever is
read in the years of four digits can be written and read again.

## Main results

* `exists_of_parseRfc3339?`: what a text that is read says
* `plain_of_parseRfc3339?`: instants that are read are plain
-/

namespace TenantReports.Time

open Binary64 (digitValue digitsValue)

theorem digitValue_le {c : Char} (h : c.isDigit = true) : digitValue c ≤ 9 := by
  simp only [Char.isDigit, Bool.and_eq_true, decide_eq_true_eq, ge_iff_le, UInt32.le_iff_toNat_le]
    at h
  have hbounds : 48 ≤ c.toNat ∧ c.toNat ≤ 57 := h
  have hzero : '0'.toNat = 48 := rfl
  unfold digitValue
  omega

/-- A number has no more digits than it is written with. -/
theorem digitsValue_lt {ds : List Char} (hds : ∀ d ∈ ds, d.isDigit = true) :
    digitsValue 0 ds < 10 ^ ds.length := by
  induction ds using List.reverseRecOn with
  | nil => decide
  | append_singleton ds d ih =>
    have hd := digitValue_le (hds d (by simp))
    have hrest := ih fun d' hd' => hds d' (List.mem_append_left _ hd')
    rw [digitsValue_concat, List.length_append, List.length_singleton, Nat.pow_succ]
    omega

/-- Fraction digits denote less than a second. -/
theorem fractionNanos_lt {ds : List Char} (hds : ∀ d ∈ ds, d.isDigit = true) :
    fractionNanos ds < 1000000000 := by
  have hlt := digitsValue_lt fun d hd => hds d (List.mem_of_mem_take (i := 9) hd)
  have hlength : (ds.take 9).length ≤ 9 := List.length_take_le 9 ds
  unfold fractionNanos
  dsimp only
  calc digitsValue 0 (ds.take 9) * 10 ^ (9 - (ds.take 9).length)
      < 10 ^ (ds.take 9).length * 10 ^ (9 - (ds.take 9).length) :=
        Nat.mul_lt_mul_of_pos_right hlt (Nat.pow_pos (by decide))
    _ = 10 ^ 9 := by rw [← Nat.pow_add, Nat.add_sub_of_le hlength]

/-- A leap second is the one after the last of its minute. -/
theorem leapAware?_spec {stated nanos second shown : Nat} (hnanos : nanos < 1000000000)
    (h : leapAware? stated nanos = some (second, shown)) :
    shown < 2000000000 ∧ (1000000000 ≤ shown → second = 59) := by
  unfold leapAware? at h
  split at h
  · cases h
    omega
  · split at h
    · cases h
      omega
    · cases h

/-- A zone is ahead by whole minutes. -/
theorem zoneSeconds?_spec {cs : List Char} {zone : Int} (h : zoneSeconds? cs = some zone) :
    zone % 60 = 0 := by
  unfold zoneSeconds? at h
  split at h
  · cases h
    rfl
  · cases h
    rfl
  · dsimp only at h
    split at h
    on_goal 2 => split at h
    all_goals
      -- the sign only says in which direction
      obtain ⟨ahead, -, h⟩ := Option.bind_eq_some_iff.mp h
      obtain ⟨⟨hour, r⟩, -, h⟩ := Option.bind_eq_some_iff.mp h
      split at h; swap; · cases h
      obtain ⟨⟨minute, r⟩, -, h⟩ := Option.bind_eq_some_iff.mp h
      split at h; swap; · cases h
      cases h
      split <;> omega
  · cases h

variable {t : Instant} {text : String}

/-- **What a text that is read says**: a date, a time of day and a zone. -/
theorem exists_of_parseRfc3339? (h : parseRfc3339? text = some t) :
    ∃ (date : Date) (hour minute stated second nanos : Nat) (fraction ending : List Char)
      (zone : Int), (∀ d ∈ fraction, d.isDigit = true) ∧
        leapAware? stated (fractionNanos fraction) = some (second, nanos) ∧
        zoneSeconds? ending = some zone ∧
        t = (Instant.ofDateClock date ⟨hour, minute, second, nanos⟩).addSeconds (-zone) := by
  -- each field is followed by a character of its own
  obtain ⟨⟨year, r⟩, -, h⟩ := Option.bind_eq_some_iff.mp h
  dsimp only at h
  split at h; swap; · cases h
  obtain ⟨⟨month, r⟩, -, h⟩ := Option.bind_eq_some_iff.mp h
  dsimp only at h
  split at h; swap; · cases h
  obtain ⟨⟨day, r⟩, -, h⟩ := Option.bind_eq_some_iff.mp h
  dsimp only at h
  split at h; swap; · cases h
  split at h; · cases h
  obtain ⟨⟨hour, r⟩, -, h⟩ := Option.bind_eq_some_iff.mp h
  dsimp only at h
  split at h; swap; · cases h
  obtain ⟨⟨minute, r⟩, -, h⟩ := Option.bind_eq_some_iff.mp h
  dsimp only at h
  split at h; swap; · cases h
  obtain ⟨⟨stated, r⟩, -, h⟩ := Option.bind_eq_some_iff.mp h
  dsimp only at h
  -- a fraction may follow, and then comes the zone
  obtain ⟨fraction, ending, hdigits, h⟩ : ∃ fraction ending, (∀ d ∈ fraction, d.isDigit = true) ∧
      ((zoneSeconds? ending).bind fun zone =>
        (leapAware? stated (fractionNanos fraction)).bind fun x =>
          if (⟨year, month, day⟩ : Date).isValid ∧ hour ≤ 23 ∧ minute ≤ 59 then
            some ((Instant.ofDateClock ⟨year, month, day⟩ ⟨hour, minute, x.1, x.2⟩).addSeconds
              (-zone))
          else none) = some t := by
    split at h
    · split at h
      · cases h
      · exact ⟨_, _, fun d hd => List.mem_takeWhile_imp hd, h⟩
    · exact ⟨[], _, nofun, h⟩
  obtain ⟨zone, hzone, h⟩ := Option.bind_eq_some_iff.mp h
  obtain ⟨⟨second, nanos⟩, hleap, h⟩ := Option.bind_eq_some_iff.mp h
  split at h
  · cases h
    exact ⟨_, _, _, _, _, _, _, _, _, hdigits, hleap, hzone, rfl⟩
  · cases h

/-- **Instants that are read are plain**, where their years have four digits. -/
theorem plain_of_parseRfc3339? (h : parseRfc3339? text = some t) (hnonneg : 0 ≤ t.date.year)
    (hle : t.date.year ≤ 9999) : t.Plain := by
  obtain ⟨date, hour, minute, stated, second, nanos, fraction, ending, zone, hdigits, hleap, hzone,
    rfl⟩ := exists_of_parseRfc3339? h
  have hminutes := zoneSeconds?_spec hzone
  obtain ⟨hnanos, hlast⟩ := leapAware?_spec (fractionNanos_lt hdigits) hleap
  refine ⟨hnanos, fun hleap => ?_, hnonneg, hle⟩
  have hsecond := hlast hleap
  unfold Instant.addSeconds Instant.ofDateClock Clock.seconds
  dsimp only
  omega

end TenantReports.Time
