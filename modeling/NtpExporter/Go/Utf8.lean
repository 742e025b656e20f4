import Mathlib.Data.List.Basic

/-!
# Go strings and their runes

A Go `string` holds bytes. `for _, r := range s` reads it as UTF-8 one rune at a time, as
`utf8.DecodeRuneInString` does: a byte that starts no complete, shortest and in-range sequence
gives `utf8.RuneError`, U+FFFD, and the loop moves on by that one byte. `string(r)` encodes a rune
as `utf8.EncodeRune` does, with `RuneError` for a surrogate half or a value beyond U+10FFFF. Both
are modelled after the standard library, with runes as natural numbers and bytes as `UInt8`.
Decoding inverts encoding on every scalar value, so writing back the runes of a string gives its
bytes exactly when they are UTF-8.
-/

namespace NtpExporter

namespace Utf8

/-- `utf8.RuneError`. -/
def runeError : Nat := 0xFFFD

/-- A continuation byte, `0x80` to `0xBF`. -/
def isContinuation (b : UInt8) : Bool := 0x80 ≤ b.toNat && b.toNat ≤ 0xBF

/-- `utf8.DecodeRuneInString` on a string of first byte `b0`: the first rune and the bytes it
takes. The second byte's accepted range depends on the first, which rules out overlong forms,
surrogate halves and values beyond U+10FFFF; anything else gives `RuneError` and one byte. -/
def decodeRune (b0 : UInt8) (rest : List UInt8) : Nat × Nat :=
  let x := b0.toNat
  if x < 0x80 then (x, 1)
  else if x < 0xC2 then (runeError, 1)
  else if x < 0xE0 then
    match rest with
    | b1 :: _ =>
        if isContinuation b1 then ((x - 0xC0) * 64 + (b1.toNat - 0x80), 2) else (runeError, 1)
    | [] => (runeError, 1)
  else if x < 0xF0 then
    match rest with
    | b1 :: b2 :: _ =>
        let lo := if x = 0xE0 then 0xA0 else 0x80
        let hi := if x = 0xED then 0x9F else 0xBF
        if lo ≤ b1.toNat ∧ b1.toNat ≤ hi ∧ isContinuation b2 then
          ((x - 0xE0) * 4096 + (b1.toNat - 0x80) * 64 + (b2.toNat - 0x80), 3)
        else (runeError, 1)
    | _ => (runeError, 1)
  else if x < 0xF5 then
    match rest with
    | b1 :: b2 :: b3 :: _ =>
        let lo := if x = 0xF0 then 0x90 else 0x80
        let hi := if x = 0xF4 then 0x8F else 0xBF
        if lo ≤ b1.toNat ∧ b1.toNat ≤ hi ∧ isContinuation b2 ∧ isContinuation b3 then
          ((x - 0xF0) * 262144 + (b1.toNat - 0x80) * 4096 + (b2.toNat - 0x80) * 64 +
            (b3.toNat - 0x80), 4)
        else (runeError, 1)
    | _ => (runeError, 1)
  else (runeError, 1)

/-- `for _, r := range s`: the runes of `s`, in order. -/
def runes : List UInt8 → List Nat
  | [] => []
  | b0 :: rest => (decodeRune b0 rest).1 :: runes (rest.drop ((decodeRune b0 rest).2 - 1))
termination_by s => s.length
decreasing_by simp_wf; omega

/-- `utf8.EncodeRune`: one byte up to U+007F, two up to U+07FF, three up to U+FFFF and four
beyond, with `RuneError` written for a surrogate half or a value beyond U+10FFFF. -/
def encodeRune (r : Nat) : List UInt8 :=
  if r ≤ 0x7F then [r.toUInt8]
  else if r ≤ 0x7FF then [(0xC0 + r / 64).toUInt8, (0x80 + r % 64).toUInt8]
  else
    let r := if 0x10FFFF < r ∨ (0xD800 ≤ r ∧ r ≤ 0xDFFF) then runeError else r
    if r ≤ 0xFFFF then
      [(0xE0 + r / 4096).toUInt8, (0x80 + r / 64 % 64).toUInt8, (0x80 + r % 64).toUInt8]
    else
      [(0xF0 + r / 262144).toUInt8, (0x80 + r / 4096 % 64).toUInt8,
        (0x80 + r / 64 % 64).toUInt8, (0x80 + r % 64).toUInt8]

/-- The bytes Go keeps for a text: each character encoded in turn. -/
def bytesOf (t : String) : List UInt8 := t.data.flatMap fun c => encodeRune c.toNat

/-- The text a Go string stands for when it is kept as a string value: its runes in order. -/
def textOf (s : List UInt8) : String := ⟨(runes s).map Char.ofNat⟩

/-- What writing back the runes read from `s` gives: `s` with each byte that starts no valid
sequence replaced by the three bytes of `RuneError`. -/
def reencode (s : List UInt8) : List UInt8 := (runes s).flatMap encodeRune

example : bytesOf "é," = [0xC3, 0xA9, 0x2C] := by decide

/-! ## Decoding inverts encoding -/

/-- A Unicode scalar value: not a surrogate half, and at most U+10FFFF. -/
def IsScalar (r : Nat) : Prop := r < 0xD800 ∨ (0xDFFF < r ∧ r < 0x110000)

theorem isScalar_toNat (c : Char) : IsScalar c.toNat := c.valid

theorem toNat_toUInt8 {n : Nat} (small : n < 256) : n.toUInt8.toNat = n :=
  UInt8.toNat_ofNat_of_lt small

@[simp]
theorem runes_nil : runes [] = [] := by
  rw [runes.eq_def]

theorem runes_cons (b0 : UInt8) (rest : List UInt8) :
    runes (b0 :: rest) =
      (decodeRune b0 rest).1 :: runes (rest.drop ((decodeRune b0 rest).2 - 1)) := by
  rw [runes.eq_def]

/-- A continuation byte written by `utf8.EncodeRune`: `0x80` plus six bits. -/
theorem isContinuation_six_bits {n : Nat} (six : n < 64) : isContinuation (0x80 + n).toUInt8 := by
  simp only [isContinuation, toNat_toUInt8 (show 0x80 + n < 256 by omega), Bool.and_eq_true,
    decide_eq_true_eq]
  omega

/-- A lead byte `0xC2` to `0xDF` and a continuation byte make one two-byte rune. -/
theorem decodeRune_two {b0 b1 : UInt8} (rest : List UInt8)
    (lead : 0xC2 ≤ b0.toNat ∧ b0.toNat < 0xE0) (cont : isContinuation b1) :
    decodeRune b0 (b1 :: rest) = ((b0.toNat - 0xC0) * 64 + (b1.toNat - 0x80), 2) := by
  simp only [decodeRune, if_neg (show ¬ b0.toNat < 0x80 by omega),
    if_neg (show ¬ b0.toNat < 0xC2 by omega), if_pos lead.2, if_pos cont]

/-- A lead byte `0xE0` to `0xEF`, a second byte in the range it allows and a continuation byte
make one three-byte rune. -/
theorem decodeRune_three {b0 b1 b2 : UInt8} (rest : List UInt8)
    (lead : 0xE0 ≤ b0.toNat ∧ b0.toNat < 0xF0)
    (second : (if b0.toNat = 0xE0 then 0xA0 else 0x80) ≤ b1.toNat ∧
      b1.toNat ≤ if b0.toNat = 0xED then 0x9F else 0xBF)
    (cont : isContinuation b2) :
    decodeRune b0 (b1 :: b2 :: rest) =
      ((b0.toNat - 0xE0) * 4096 + (b1.toNat - 0x80) * 64 + (b2.toNat - 0x80), 3) := by
  simp only [decodeRune, if_neg (show ¬ b0.toNat < 0x80 by omega),
    if_neg (show ¬ b0.toNat < 0xC2 by omega), if_neg (show ¬ b0.toNat < 0xE0 by omega),
    if_pos lead.2, if_pos (And.intro second.1 (And.intro second.2 cont))]

/-- A lead byte `0xF0` to `0xF4`, a second byte in the range it allows and two continuation
bytes make one four-byte rune. -/
theorem decodeRune_four {b0 b1 b2 b3 : UInt8} (rest : List UInt8)
    (lead : 0xF0 ≤ b0.toNat ∧ b0.toNat < 0xF5)
    (second : (if b0.toNat = 0xF0 then 0x90 else 0x80) ≤ b1.toNat ∧
      b1.toNat ≤ if b0.toNat = 0xF4 then 0x8F else 0xBF)
    (cont2 : isContinuation b2) (cont3 : isContinuation b3) :
    decodeRune b0 (b1 :: b2 :: b3 :: rest) =
      ((b0.toNat - 0xF0) * 262144 + (b1.toNat - 0x80) * 4096 + (b2.toNat - 0x80) * 64 +
        (b3.toNat - 0x80), 4) := by
  simp only [decodeRune, if_neg (show ¬ b0.toNat < 0x80 by omega),
    if_neg (show ¬ b0.toNat < 0xC2 by omega), if_neg (show ¬ b0.toNat < 0xE0 by omega),
    if_neg (show ¬ b0.toNat < 0xF0 by omega), if_pos lead.2,
    if_pos (And.intro second.1 (And.intro second.2 (And.intro cont2 cont3)))]

/-- The first rune of a scalar's encoding, followed by anything, is the scalar, and it takes the
encoding's bytes. -/
theorem decodeRune_encodeRune {r : Nat} (scalar : IsScalar r) (rest : List UInt8) :
    ∃ b0 tail,
      encodeRune r = b0 :: tail ∧ decodeRune b0 (tail ++ rest) = (r, tail.length + 1) := by
  unfold IsScalar at scalar
  unfold encodeRune
  have sixBits := Nat.div_div_eq_div_mul r 64 64
  have twelveBits := Nat.div_div_eq_div_mul r 4096 64
  have digits3 : r / 4096 * 4096 + r / 64 % 64 * 64 + r % 64 = r := by omega
  have digits4 : r / 262144 * 262144 + r / 4096 % 64 * 4096 + r / 64 % 64 * 64 + r % 64 = r := by
    omega
  have low := toNat_toUInt8 (show 0x80 + r % 64 < 256 by omega)
  have middle := toNat_toUInt8 (show 0x80 + r / 64 % 64 < 256 by omega)
  by_cases one : r ≤ 0x7F
  · refine ⟨_, [], if_pos one, ?_⟩
    simp [decodeRune, toNat_toUInt8 (show r < 256 by omega), show r < 0x80 by omega]
  by_cases two : r ≤ 0x7FF
  · have lead := toNat_toUInt8 (show 0xC0 + r / 64 < 256 by omega)
    refine ⟨_, [_], by rw [if_neg one, if_pos two], ?_⟩
    rw [List.singleton_append, decodeRune_two _ (by omega) (isContinuation_six_bits (by omega)),
      lead, low]
    simp only [Nat.add_sub_cancel_left, Nat.div_add_mod', List.length_singleton]
  have keep : ¬ (0x10FFFF < r ∨ (0xD800 ≤ r ∧ r ≤ 0xDFFF)) := by omega
  by_cases three : r ≤ 0xFFFF
  · have lead := toNat_toUInt8 (show 0xE0 + r / 4096 < 256 by omega)
    refine ⟨_, [_, _], by simp only [if_neg one, if_neg two, if_neg keep, if_pos three]; rfl,
      ?_⟩
    rw [List.cons_append, List.singleton_append, decodeRune_three _ (by omega)
      (by rw [lead, middle]; constructor <;> split <;> omega) (isContinuation_six_bits (by omega)),
      lead, middle, low]
    simp only [Nat.add_sub_cancel_left, digits3, List.length_cons, List.length_nil]
  · have lead := toNat_toUInt8 (show 0xF0 + r / 262144 < 256 by omega)
    have upper := toNat_toUInt8 (show 0x80 + r / 4096 % 64 < 256 by omega)
    refine ⟨_, [_, _, _], by simp only [if_neg one, if_neg two, if_neg keep, if_neg three]; rfl,
      ?_⟩
    rw [List.cons_append, List.cons_append, List.singleton_append, decodeRune_four _ (by omega)
      (by rw [lead, upper]; constructor <;> split <;> omega) (isContinuation_six_bits (by omega))
      (isContinuation_six_bits (by omega)), lead, upper, middle, low]
    simp only [Nat.add_sub_cancel_left, digits4, List.length_cons, List.length_nil]

/-- Reading a scalar's encoding, followed by anything, gives the scalar and then the runes of
what follows. -/
theorem runes_encodeRune_append {r : Nat} (scalar : IsScalar r) (rest : List UInt8) :
    runes (encodeRune r ++ rest) = r :: runes rest := by
  obtain ⟨b0, tail, encoded, decoded⟩ := decodeRune_encodeRune scalar rest
  rw [encoded, List.cons_append, runes_cons, decoded, Nat.add_sub_cancel, List.drop_left]

/-- The runes of a text's bytes are its characters. -/
theorem runes_bytesOf (t : String) : runes (bytesOf t) = t.data.map Char.toNat := by
  obtain ⟨chars⟩ := t
  induction chars with
  | nil => simp [bytesOf]
  | cons c chars ih =>
      simp only [bytesOf, List.flatMap_cons, List.map_cons] at ih ⊢
      rw [runes_encodeRune_append (isScalar_toNat c), ih]

/-- The bytes of a text come back unchanged through its runes. -/
theorem reencode_bytesOf (t : String) : reencode (bytesOf t) = bytesOf t := by
  rw [reencode, runes_bytesOf, List.flatMap_map, bytesOf]

/-- Decoding only ever gives a scalar: `RuneError` is one, and the accepted ranges exclude
surrogate halves and values beyond U+10FFFF. -/
theorem isScalar_decodeRune (b0 : UInt8) (rest : List UInt8) : IsScalar (decodeRune b0 rest).1 := by
  have lead : b0.toNat < 256 := b0.toNat_lt_size
  unfold IsScalar
  simp only [decodeRune, runeError, isContinuation, Bool.and_eq_true, decide_eq_true_eq]
  by_cases one : b0.toNat < 0x80
  · rw [if_pos one]
    omega
  rw [if_neg one]
  by_cases bad : b0.toNat < 0xC2
  · rw [if_pos bad]
    omega
  rw [if_neg bad]
  by_cases two : b0.toNat < 0xE0
  · rw [if_pos two]
    split
    · split_ifs <;> omega
    · omega
  rw [if_neg two]
  by_cases three : b0.toNat < 0xF0
  · rw [if_pos three]
    split
    · split_ifs <;> omega
    · omega
  rw [if_neg three]
  by_cases four : b0.toNat < 0xF5
  · rw [if_pos four]
    split
    · split_ifs <;> omega
    · omega
  · rw [if_neg four]
    omega

theorem isScalar_of_mem_runes (s : List UInt8) : ∀ r ∈ runes s, IsScalar r := by
  induction s using runes.induct with
  | case1 => simp
  | case2 b0 rest ih =>
      intro r mem
      rw [runes_cons, List.mem_cons] at mem
      rcases mem with rfl | mem
      · exact isScalar_decodeRune b0 rest
      · exact ih r mem

theorem toNat_ofNat_of_isScalar {r : Nat} (scalar : IsScalar r) : (Char.ofNat r).toNat = r := by
  unfold Char.ofNat
  rw [dif_pos (show r.isValidChar from scalar)]
  rfl

/-- Writing back the runes of `s` gives `s` exactly when `s` is the bytes of some text. -/
theorem reencode_eq_self_iff (s : List UInt8) : reencode s = s ↔ ∃ t, s = bytesOf t := by
  constructor
  · intro same
    refine ⟨⟨(runes s).map Char.ofNat⟩, ?_⟩
    rw [bytesOf, List.flatMap_map]
    refine same.symm.trans (List.flatMap_congr fun r mem => ?_)
    rw [toNat_ofNat_of_isScalar (isScalar_of_mem_runes s r mem)]
  · rintro ⟨t, rfl⟩
    exact reencode_bytesOf t

/-- Reading back the bytes of a text gives the text. -/
theorem textOf_bytesOf (t : String) : textOf (bytesOf t) = t := by
  rw [textOf, runes_bytesOf, List.map_map]
  simp [Function.comp_def, Char.ofNat_toNat]

end Utf8

end NtpExporter
