import Mathlib.Data.List.DropRight
import NtpExporter.Go.Utf8

/-!
# Comma-separated environment values

`NTP_SERVERS` and `ALLOWED_ORIGINS` are read by `parseCommaSeparated`: `splitByComma` ranges over
the value's runes and rebuilds each piece with `current += string(char)`, `trim` strips blanks at
both ends by byte index, and empty pieces are dropped. Rebuilding from runes turns a byte that
starts no valid UTF-8 sequence into the three bytes of U+FFFD, so the result is the plain byte
procedure `commaFields` applied to the value as its runes write it back, `Utf8.reencode`; on the
bytes of any text the two agree.
-/

namespace NtpExporter

namespace Config

open Utf8

/-! ## The source's functions -/

/-- The bytes `trim` strips: `' '`, `'\t'` and `'\n'`. -/
def isBlank (b : UInt8) : Bool := b == 0x20 || b == 0x09 || b == 0x0A

/-- `trim`'s first loop: `start` moves past blanks while it is below `end`. -/
def trimStart (s : List UInt8) (stop start : Nat) : Nat :=
  if start < stop ∧ isBlank (s.getD start 0) then trimStart s stop (start + 1) else start
termination_by stop - start

/-- `trim`'s second loop: `end` moves back over blanks while it is above `start`. -/
def trimEnd (s : List UInt8) (start : Nat) : Nat → Nat
  | 0 => 0
  | stop + 1 =>
      if start < stop + 1 ∧ isBlank (s.getD stop 0) then trimEnd s start stop else stop + 1

/-- `trim`: `s[start:end]` once both loops have stopped. -/
def trim (s : List UInt8) : List UInt8 :=
  let start := trimStart s s.length 0
  ((s.take (trimEnd s start s.length)).drop start)

/-- One turn of `splitByComma`'s loop on a rune: a comma closes the current piece, any other
rune is appended to it encoded. -/
def splitByCommaStep : List (List UInt8) × List UInt8 → Nat → List (List UInt8) × List UInt8
  | (parts, current), char =>
      if char = 0x2C then (parts ++ [current], []) else (parts, current ++ encodeRune char)

/-- `splitByComma`: the pieces between commas, the last one kept only when it is not empty. -/
def splitByComma (s : List UInt8) : List (List UInt8) :=
  let (parts, current) := (runes s).foldl splitByCommaStep ([], [])
  if current ≠ [] then parts ++ [current] else parts

/-- `parseCommaSeparated`: the trimmed pieces that are not empty. -/
def parseCommaSeparated (s : List UInt8) : List (List UInt8) :=
  ((splitByComma s).map trim).filter (· ≠ [])

/-! ## The byte procedure -/

/-- Strip blanks at both ends. -/
def strip (s : List UInt8) : List UInt8 := (s.dropWhile isBlank).rdropWhile isBlank

/-- Split at every comma byte, strip each piece, and drop the empty ones. -/
def commaFields (s : List UInt8) : List (List UInt8) :=
  ((s.splitOn 0x2C).map strip).filter (· ≠ [])

/-! ## `trim` strips -/

theorem getD_of_lt {s : List UInt8} {i : Nat} (inside : i < s.length) : s.getD i 0 = s[i] := by
  rw [List.getD_eq_getElem?_getD, List.getElem?_eq_getElem inside, Option.getD_some]

/-- The first loop stops after the run of blanks that starts at `start`. -/
theorem trimStart_eq (s : List UInt8) (start : Nat) :
    trimStart s s.length start = start + ((s.drop start).takeWhile isBlank).length := by
  induction start using trimStart.induct s s.length with
  | case1 start guard ih =>
      have inside := guard.1
      rw [trimStart, if_pos guard, ih, List.drop_eq_getElem_cons inside, List.takeWhile_cons,
        ← getD_of_lt inside, if_pos guard.2, List.length_cons]
      omega
  | case2 start guard =>
      rw [trimStart, if_neg guard]
      by_cases inside : start < s.length
      · have blank : isBlank s[start] = false := by
          simpa [getD_of_lt inside, inside] using guard
        rw [List.drop_eq_getElem_cons inside, List.takeWhile_cons, if_neg (by simp [blank])]
        rfl
      · rw [List.drop_of_length_le (by omega)]
        rfl

/-- The second loop stops after the run of blanks that ends at `end`, never below `start`. -/
theorem trimEnd_eq (s : List UInt8) (start : Nat) :
    ∀ stop, start ≤ stop → stop ≤ s.length →
      trimEnd s start stop = start + (((s.take stop).drop start).rdropWhile isBlank).length
  | 0, low, _ => by simp [trimEnd, show start = 0 by omega]
  | stop + 1, low, high => by
      have last : s.take (stop + 1) = s.take stop ++ [s[stop]] := by
        rw [List.take_succ, List.getElem?_eq_getElem (by omega), Option.toList_some]
      have kept : (s.take stop).length = stop := List.length_take_of_le (by omega)
      rw [trimEnd, getD_of_lt (by omega), last]
      by_cases guard : start < stop + 1 ∧ isBlank s[stop]
      · rw [if_pos guard, trimEnd_eq s start stop (by omega) (by omega),
          List.drop_append_of_le_length (by omega), List.rdropWhile_concat_pos _ _ _ guard.2]
      · rw [if_neg guard]
        by_cases empty : start = stop + 1
        · subst empty
          have short : (s.take stop ++ [s[stop]]).length ≤ stop + 1 := by
            rw [List.length_append, kept, List.length_singleton]
          rw [List.drop_of_length_le short, List.rdropWhile_nil, List.length_nil, Nat.add_zero]
        · have blank : ¬ isBlank s[stop] = true := fun blank => guard ⟨by omega, blank⟩
          rw [List.drop_append_of_le_length (by omega), List.rdropWhile_concat_neg _ _ _ blank,
            List.length_append, List.length_drop, kept, List.length_singleton]
          omega

@[simp]
theorem trim_eq_strip (s : List UInt8) : trim s = strip s := by
  have dropped := @List.drop_left' _ (s.takeWhile isBlank) (s.dropWhile isBlank) _ rfl
  rw [List.takeWhile_append_dropWhile] at dropped
  have start := trimStart_eq s 0
  rw [List.drop_zero, Nat.zero_add] at start
  rw [trim, start, trimEnd_eq s _ s.length (List.takeWhile_prefix isBlank).length_le le_rfl,
    List.take_length, ← List.take_drop, dropped, strip]
  exact (List.prefix_iff_eq_take.mp (List.rdropWhile_prefix _ _)).symm

/-! ## Splitting the runes and splitting their bytes -/

theorem encodeRune_of_le {r : Nat} (small : r ≤ 0x7F) : encodeRune r = [r.toUInt8] :=
  if_pos small

/-- Every byte of a rune beyond U+007F has its top bit set. -/
theorem le_toNat_of_mem_encodeRune {r : Nat} (wide : 0x7F < r) {b : UInt8}
    (mem : b ∈ encodeRune r) : 0x80 ≤ b.toNat := by
  unfold encodeRune at mem
  rw [if_neg (by omega)] at mem
  by_cases two : r ≤ 0x7FF
  · rw [if_pos two] at mem
    simp only [List.mem_cons, List.mem_singleton, List.not_mem_nil, or_false] at mem
    rcases mem with rfl | rfl <;> rw [toNat_toUInt8 (by omega)] <;> omega
  rw [if_neg two] at mem
  have bound :
      (if 0x10FFFF < r ∨ (0xD800 ≤ r ∧ r ≤ 0xDFFF) then runeError else r) ≤ 0x10FFFF := by
    unfold runeError
    split <;> omega
  generalize (if 0x10FFFF < r ∨ (0xD800 ≤ r ∧ r ≤ 0xDFFF) then runeError else r) = w
    at mem bound
  simp only at mem
  split at mem <;> simp only [List.mem_cons, List.mem_singleton, List.not_mem_nil, or_false] at mem
  · rcases mem with rfl | rfl | rfl <;> rw [toNat_toUInt8 (by omega)] <;> omega
  · rcases mem with rfl | rfl | rfl | rfl <;> rw [toNat_toUInt8 (by omega)] <;> omega

/-- Only the comma encodes to a comma byte. -/
theorem eq_comma_of_mem_encodeRune {r : Nat} (comma : (0x2C : UInt8) ∈ encodeRune r) :
    r = 0x2C := by
  by_cases small : r ≤ 0x7F
  · rw [encodeRune_of_le small, List.mem_singleton] at comma
    have byte := congrArg UInt8.toNat comma
    rw [toNat_toUInt8 (by omega)] at byte
    exact byte.symm
  · exact absurd (le_toNat_of_mem_encodeRune (by omega) comma) (by decide)

theorem modifyHead_nil_append (pieces : List (List UInt8)) :
    pieces.modifyHead ([] ++ ·) = pieces := by
  cases pieces <;> rfl

theorem map_modifyHead {α β : Type} (f : α → β) (g : α → α) (h : β → β)
    (commute : ∀ a, f (g a) = h (f a)) (l : List α) :
    (l.modifyHead g).map f = (l.map f).modifyHead h := by
  cases l <;> simp [commute]

/-- A piece with no comma in front of a list joins the list's first piece. -/
theorem splitOn_append_of_not_mem {l : List UInt8} (free : (0x2C : UInt8) ∉ l) (m : List UInt8) :
    (l ++ m).splitOn 0x2C = (m.splitOn 0x2C).modifyHead (l ++ ·) := by
  induction l with
  | nil => exact (modifyHead_nil_append _).symm
  | cons b l ih =>
      have ne : b ≠ 0x2C := fun eq => free (eq ▸ List.mem_cons_self _ _)
      have rest := ih fun mem => free (List.mem_cons_of_mem _ mem)
      simp only [List.splitOn] at rest ⊢
      rw [List.cons_append, List.splitOnP_cons, if_neg (by simpa using ne), rest,
        List.modifyHead_modifyHead]
      rfl

/-- Encoding the runes and splitting the bytes at commas is splitting the runes at commas and
encoding each piece. -/
theorem splitOn_flatMap_encodeRune (rs : List Nat) :
    (rs.flatMap encodeRune).splitOn 0x2C = (rs.splitOn 0x2C).map (·.flatMap encodeRune) := by
  induction rs with
  | nil => rfl
  | cons r rs ih =>
      rw [List.flatMap_cons]
      by_cases comma : r = 0x2C
      · subst comma
        simp only [List.splitOn] at ih ⊢
        rw [List.splitOnP_cons, if_pos (by rfl)]
        exact congrArg ([] :: ·) ih
      · rw [splitOn_append_of_not_mem (fun mem => comma (eq_comma_of_mem_encodeRune mem)), ih]
        simp only [List.splitOn] at ih ⊢
        rw [List.splitOnP_cons, if_neg (by simpa using comma)]
        exact (map_modifyHead _ _ _ (fun piece => List.flatMap_cons r piece encodeRune) _).symm

/-! ## `splitByComma`'s loop -/

/-- The pieces a loop state stands for: the closed pieces and the current one. -/
def closePieces (state : List (List UInt8) × List UInt8) : List (List UInt8) :=
  state.1 ++ [state.2]

/-- The loop over runes adds the runes' comma-separated pieces, encoded, the first one joined
to the current piece. -/
theorem closePieces_foldl (rs : List Nat) :
    ∀ parts current, closePieces (rs.foldl splitByCommaStep (parts, current)) =
      parts ++ ((rs.splitOn 0x2C).map (·.flatMap encodeRune)).modifyHead (current ++ ·) := by
  induction rs with
  | nil => intro parts current; simp [closePieces]
  | cons r rs ih =>
      intro parts current
      rw [List.foldl_cons]
      simp only [List.splitOn] at ih ⊢
      rw [List.splitOnP_cons]
      by_cases comma : r = 0x2C
      · rw [splitByCommaStep, if_pos comma, ih, if_pos (by simp [comma]), modifyHead_nil_append]
        simp
      · rw [splitByCommaStep, if_neg comma, ih, if_neg (by simpa using comma),
          map_modifyHead _ _ _ (fun piece => List.flatMap_cons r piece encodeRune),
          List.modifyHead_modifyHead]
        congr 2
        funext piece
        exact List.append_assoc _ _ _

/-- Keeping only the pieces that trim to something, `splitByComma` and the pieces of its loop
state agree: the last piece is dropped only when it is empty. -/
theorem trimmed_splitByComma (s : List UInt8) :
    ((splitByComma s).map trim).filter (· ≠ []) =
      ((closePieces ((runes s).foldl splitByCommaStep ([], []))).map trim).filter (· ≠ []) := by
  rw [splitByComma]
  obtain ⟨parts, current⟩ := (runes s).foldl splitByCommaStep ([], [])
  by_cases empty : current = []
  · subst empty
    simp [closePieces, strip]
  · simp [closePieces, empty]

/-- `parseCommaSeparated` is the byte procedure on the value as its runes write it back. -/
theorem parseCommaSeparated_eq (s : List UInt8) :
    parseCommaSeparated s = commaFields (reencode s) := by
  have loop := closePieces_foldl (runes s) [] []
  rw [List.nil_append, modifyHead_nil_append] at loop
  rw [parseCommaSeparated, trimmed_splitByComma, loop, reencode, commaFields,
    splitOn_flatMap_encodeRune, funext trim_eq_strip]

example :
    parseCommaSeparated (bytesOf " a, b ,,c\n") = [bytesOf "a", bytesOf "b", bytesOf "c"] := by
  rw [parseCommaSeparated_eq, reencode_bytesOf]
  decide

/-! ## What the entries are -/

/-- The first piece of a split is a prefix of the list, and every later piece lies inside it. -/
theorem splitOnP_pieces {α : Type} (P : α → Bool) (s : List α) :
    ∃ first rest,
      s.splitOnP P = first :: rest ∧ first <+: s ∧ ∀ piece ∈ rest, piece <:+: s := by
  induction s with
  | nil => exact ⟨[], [], List.splitOnP_nil P, List.nil_prefix, by simp⟩
  | cons b s ih =>
      obtain ⟨first, rest, split, leading, inner⟩ := ih
      rw [List.splitOnP_cons, split]
      by_cases cut : P b = true
      · refine ⟨[], first :: rest, if_pos cut, List.nil_prefix, ?_⟩
        intro piece mem
        rcases List.mem_cons.mp mem with rfl | mem
        · exact List.infix_cons leading.isInfix
        · exact List.infix_cons (inner piece mem)
      · exact ⟨b :: first, rest, if_neg cut, (List.prefix_cons_inj b).mpr leading,
          fun piece mem => List.infix_cons (inner piece mem)⟩

/-- Every field of the byte procedure is a run of bytes of its input. -/
theorem infix_of_mem_commaFields {s entry : List UInt8} (mem : entry ∈ commaFields s) :
    entry <:+: s := by
  obtain ⟨piece, split, rfl⟩ := List.mem_map.mp (List.mem_filter.mp mem).1
  have stripped : strip piece <:+: piece :=
    (List.rdropWhile_prefix _ _).isInfix.trans (List.dropWhile_suffix _).isInfix
  refine stripped.trans ?_
  obtain ⟨first, rest, pieces, leading, inner⟩ := splitOnP_pieces (· == (0x2C : UInt8)) s
  rw [List.splitOn, pieces] at split
  rcases List.mem_cons.mp split with rfl | split
  · exact leading.isInfix
  · exact inner piece split

/-- `parseCommaSeparated` splits, strips and filters the value as its runes write it back, which
is the value itself exactly when it is valid UTF-8; its entries are runs of those bytes. -/
theorem parseCommaSeparated_reencodes :
    (∀ s, parseCommaSeparated s = commaFields (reencode s) ∧
      ∀ entry ∈ parseCommaSeparated s, entry <:+: reencode s) ∧
    (∀ s, reencode s = s ↔ ∃ t, s = bytesOf t) ∧
    ∀ t, parseCommaSeparated (bytesOf t) = commaFields (bytesOf t) ∧
      ∀ entry ∈ parseCommaSeparated (bytesOf t), entry <:+: bytesOf t := by
  have fields : ∀ s, parseCommaSeparated s = commaFields (reencode s) ∧
      ∀ entry ∈ parseCommaSeparated s, entry <:+: reencode s := fun s =>
    ⟨parseCommaSeparated_eq s, fun _ mem =>
      infix_of_mem_commaFields (parseCommaSeparated_eq s ▸ mem)⟩
  refine ⟨fields, reencode_eq_self_iff, fun t => ?_⟩
  simpa only [reencode_bytesOf] using fields (bytesOf t)

/-- A lone `0xFF` byte comes back as U+FFFD: the only entry is `EF BF BD`, which the byte
procedure does not give and which is not a run of the input's bytes. -/
theorem parseCommaSeparated_invalid_byte :
    parseCommaSeparated [0xFF] = [[0xEF, 0xBF, 0xBD]] ∧ commaFields [0xFF] = [[0xFF]] ∧
      ¬ [0xEF, 0xBF, 0xBD] <:+: [(0xFF : UInt8)] := by
  have written : reencode [0xFF] = [0xEF, 0xBF, 0xBD] := by
    rw [reencode, runes_cons, List.drop_nil, runes_nil]
    decide
  refine ⟨?_, by decide, fun inside => absurd inside.length_le (by decide)⟩
  rw [parseCommaSeparated_eq, written]
  decide

end Config

end NtpExporter
