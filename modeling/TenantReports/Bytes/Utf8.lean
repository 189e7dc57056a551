/-!
# Reading UTF-8 with replacements

Bytes are read as UTF-8. Where they are not, each maximal run that begins a well-formed sequence
without completing it, or else a single byte, reads as one replacement character.

## Main definitions

* `Utf8.Pending`: how a sequence goes on
* `Utf8.decodeLossy`: the text of a list of bytes
-/

namespace TenantReports.Utf8

/-- The replacement character. -/
def replacement : Char := '\uFFFD'

/-- A sequence being read: its payload `bits` so far, the range of the next byte, and how many
bytes come after that one. -/
structure Pending where
  bits : Nat
  low : Nat
  high : Nat
  more : Nat

/-- The well-formed sequences of more than one byte. The second byte's range leaves out overlong
forms, surrogates and what lies beyond the last code point. -/
def lead? (b : Nat) : Option Pending :=
  if 0xC2 ≤ b ∧ b ≤ 0xDF then some ⟨b - 0xC0, 0x80, 0xBF, 0⟩
  else if b = 0xE0 then some ⟨0, 0xA0, 0xBF, 1⟩
  else if b = 0xED then some ⟨13, 0x80, 0x9F, 1⟩
  else if 0xE1 ≤ b ∧ b ≤ 0xEF then some ⟨b - 0xE0, 0x80, 0xBF, 1⟩
  else if b = 0xF0 then some ⟨0, 0x90, 0xBF, 2⟩
  else if b = 0xF4 then some ⟨4, 0x80, 0x8F, 2⟩
  else if 0xF1 ≤ b ∧ b ≤ 0xF3 then some ⟨b - 0xF0, 0x80, 0xBF, 2⟩
  else none

/-- The text of a list of bytes, in a state between two sequences or within one. -/
def decode : Option Pending → List UInt8 → List Char
  | none, [] => []
  | some _, [] => [replacement]
  | none, b :: bs =>
    let n := b.toNat
    if n < 0x80 then Char.ofNat n :: decode none bs
    else match lead? n with
      | some l => decode (some l) bs
      | none => replacement :: decode none bs
  | some l, b :: bs =>
    let n := b.toNat
    if l.low ≤ n ∧ n ≤ l.high then
      let bits := l.bits * 64 + n % 64
      match l.more with
      | 0 => Char.ofNat bits :: decode none bs
      | m + 1 => decode (some ⟨bits, 0x80, 0xBF, m⟩) bs
    else if n < 0x80 then replacement :: Char.ofNat n :: decode none bs
    else match lead? n with
      | some l => replacement :: decode (some l) bs
      | none => replacement :: replacement :: decode none bs

/-- The text of a list of bytes, with replacement characters where they are not UTF-8. -/
def decodeLossy (bytes : List UInt8) : String := String.ofList (decode none bytes)

end TenantReports.Utf8
