import Mathlib.Algebra.Order.Field.Rat

/-!
# Go durations and instants

A `time.Duration` is a Go `int64` count of nanoseconds. `Duration` carries the two's-complement
range as fields, so an out-of-range value cannot be built, and every operation that can leave the
range wraps modulo `2 ^ 64` as Go's arithmetic does. Readings of the monotonic clock are plain
integers of nanoseconds: `time.Time.Add` saturates instead of wrapping, far outside any run. A
wall-clock `time.Time` taken from a packet is `Time`. Float64 values derived from durations are
kept as the exact rationals that the floats round.
-/

namespace NtpExporter

/-- Reduce an integer into the `int64` range, as Go's two's-complement arithmetic does. -/
def wrap64 (value : Int) : Int := (value + 2 ^ 63) % 2 ^ 64 - 2 ^ 63

theorem wrap64_ge (value : Int) : -2 ^ 63 ≤ wrap64 value := by
  have := Int.emod_nonneg (value + 2 ^ 63) (by decide : (2 : Int) ^ 64 ≠ 0)
  unfold wrap64
  omega

theorem wrap64_lt (value : Int) : wrap64 value < 2 ^ 63 := by
  have := Int.emod_lt_of_pos (value + 2 ^ 63) (by decide : (0 : Int) < 2 ^ 64)
  unfold wrap64
  omega

/-- A value already in the `int64` range is left alone. -/
theorem wrap64_of_mem {value : Int} (lower : -2 ^ 63 ≤ value) (upper : value < 2 ^ 63) :
    wrap64 value = value := by
  unfold wrap64
  rw [Int.emod_eq_of_lt (by omega) (by omega)]
  omega

/-- A Go `time.Duration`: a signed 64-bit count of nanoseconds. -/
@[ext]
structure Duration where
  /-- The count of nanoseconds. -/
  ns : Int
  /-- The count is at least `math.MinInt64`. -/
  ge_min : -2 ^ 63 ≤ ns
  /-- The count is at most `math.MaxInt64`. -/
  lt_max : ns < 2 ^ 63

namespace Duration

instance : DecidableEq Duration := fun a b => decidable_of_iff (a.ns = b.ns) Duration.ext_iff.symm

/-- The conversion `time.Duration(x)`, which is also the result of every overflowing operation. -/
def ofInt (value : Int) : Duration := ⟨wrap64 value, wrap64_ge value, wrap64_lt value⟩

instance (n : Nat) : OfNat Duration n := ⟨ofInt n⟩

instance : Neg Duration := ⟨fun d => ofInt (-d.ns)⟩

instance : Add Duration := ⟨fun a b => ofInt (a.ns + b.ns)⟩

instance : Sub Duration := ⟨fun a b => ofInt (a.ns - b.ns)⟩

instance : LT Duration := ⟨fun a b => a.ns < b.ns⟩

instance : LE Duration := ⟨fun a b => a.ns ≤ b.ns⟩

instance (a b : Duration) : Decidable (a < b) := inferInstanceAs (Decidable (a.ns < b.ns))

instance (a b : Duration) : Decidable (a ≤ b) := inferInstanceAs (Decidable (a.ns ≤ b.ns))

/-- Go's integer division `d / k`, which truncates toward zero. -/
def div (d : Duration) (k : Int) : Duration := ofInt (d.ns.tdiv k)

/-- `d.Seconds()`. -/
def seconds (d : Duration) : ℚ := d.ns / 1000000000

@[simp] theorem ns_ofInt (value : Int) : (ofInt value).ns = wrap64 value := rfl

@[simp] theorem ns_neg (d : Duration) : (-d).ns = wrap64 (-d.ns) := rfl

@[simp] theorem ns_add (a b : Duration) : (a + b).ns = wrap64 (a.ns + b.ns) := rfl

@[simp] theorem ns_div (d : Duration) (k : Int) : (d.div k).ns = wrap64 (d.ns.tdiv k) := rfl

@[simp] theorem lt_iff (a b : Duration) : a < b ↔ a.ns < b.ns := Iff.rfl

@[simp] theorem le_iff (a b : Duration) : a ≤ b ↔ a.ns ≤ b.ns := Iff.rfl

@[simp] theorem ns_zero : (0 : Duration).ns = 0 := rfl

@[simp] theorem seconds_zero : (0 : Duration).seconds = 0 := by
  simp [seconds]

end Duration

/-- A wall-clock `time.Time`: seconds since January 1 of year 1, UTC, and nanoseconds. -/
structure Time where
  /-- Whole seconds since January 1 of year 1. -/
  sec : Int
  /-- Nanoseconds within the second. -/
  nsec : Nat
  deriving DecidableEq

namespace Time

/-- `t.IsZero()`: the zero `time.Time`, which stands for an unknown instant. -/
def isZero (t : Time) : Prop := t.sec = 0 ∧ t.nsec = 0

instance (t : Time) : Decidable t.isZero := inferInstanceAs (Decidable (_ ∧ _))

/-- `t.Unix()`: seconds since January 1, 1970. -/
def unix (t : Time) : Int := t.sec - 62135596800

/-- `t.After(u)`: `t` is a later instant than `u`. -/
def after (t u : Time) : Prop := u.sec < t.sec ∨ (u.sec = t.sec ∧ u.nsec < t.nsec)

instance (t u : Time) : Decidable (t.after u) := inferInstanceAs (Decidable (_ ∨ _))

/-- `t.Add(d)` for a whole number of seconds `d`. -/
def addSeconds (t : Time) (seconds : Int) : Time := { t with sec := t.sec + seconds }

end Time

/-- `mathutil.AbsDuration`: the duration negated when it is negative. -/
def absDuration (d : Duration) : Duration := if d < 0 then -d else d

/-- Two durations of the same magnitude are equal or opposite, also at `math.MinInt64`, which is
its own negation. -/
theorem absDuration_inj {a b : Duration} (same : absDuration a = absDuration b) : a = b ∨ a = -b := by
  have magnitudes := congrArg Duration.ns same
  have := a.ge_min; have := a.lt_max; have := b.ge_min; have := b.lt_max
  simp only [absDuration, Duration.lt_iff, Duration.ns_zero] at magnitudes
  rw [Duration.ext_iff, Duration.ext_iff, Duration.ns_neg]
  split_ifs at magnitudes <;> simp only [Duration.ns_neg, wrap64] at magnitudes ⊢ <;> omega

end NtpExporter
