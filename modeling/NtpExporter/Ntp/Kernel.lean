import NtpExporter.Go.Time
import Mathlib.Tactic.IntervalCases

/-!
# The kernel's clock state

`KernelTimex` of the kernel reader: the state `adjtimex(2)` reports, read with `Modes = 0`, with
the status word rendered as a label. The system call is an input: its answer is the raw `timex`
or the error it failed with. `KernelReader.Read` scales every raw time by a microsecond whatever
the status says. The model keeps the fields that the hybrid collector reads; the PLL constant, the
tolerance, the tick and the PPS counters are copied from the raw state and read by nothing
modelled here.
-/

namespace NtpExporter

/-- The raw `timex` fields the reader converts, as the kernel fills them. -/
structure Timex where
  /-- `Offset`. -/
  offset : Int
  /-- `Freq`: the frequency offset in units of `2⁻¹⁶` ppm. -/
  freq : Int
  /-- `Maxerror`. -/
  maxerror : Int
  /-- `Esterror`. -/
  esterror : Int
  /-- `Status`: the clock status word. -/
  status : BitVec 32
  /-- `Precision`. -/
  precision : Int

/-- `KernelTimex`. -/
structure KernelTimex where
  /-- `Offset`. -/
  offset : Duration
  /-- `Frequency`: in units of `2⁻¹⁶` ppm. -/
  frequency : Int
  /-- `MaxError`. -/
  maxError : Duration
  /-- `EstError`. -/
  estError : Duration
  /-- `Status`: the clock status word. -/
  status : BitVec 32
  /-- `Precision`. -/
  precision : Duration
  /-- `SyncStatus`: the status as a label. -/
  syncStatus : String
  /-- `StatusCode`: the status word again, exported as a number. -/
  statusCode : BitVec 32

namespace KernelTimex

/-- `STA_UNSYNC`. -/
def staUnsync : BitVec 32 := 0x0040

/-- `STA_CLOCKERR`. -/
def staClockErr : BitVec 32 := 0x1000

/-- `STA_INS`: a leap second is to be inserted. -/
def staIns : BitVec 32 := 0x0010

/-- `STA_DEL`: a leap second is to be deleted. -/
def staDel : BitVec 32 := 0x0020

/-- `STA_NANO`: the kernel keeps its times in nanoseconds. -/
def staNano : BitVec 32 := 0x2000

/-- `getStatusString`: the unsynchronized and clock-error bits first, then the leap state of the
low three bits. -/
def getStatusString (status : BitVec 32) : String :=
  if status &&& staUnsync ≠ 0 then "unsynchronized"
  else if status &&& staClockErr ≠ 0 then "clock_error"
  else
    match (status &&& 0x7).toNat with
    | 0 => "synchronized"
    | 1 => "leap_insert_pending"
    | 2 => "leap_delete_pending"
    | 3 => "leap_in_progress"
    | 4 => "leap_occurred"
    | 5 => "error"
    | _ => "unknown"

/-- `IsSynchronized`: the unsynchronized bit is clear. -/
def isSynchronized (k : KernelTimex) : Bool := k.status &&& staUnsync = 0

/-- `HasLeapSecond`: the insert or the delete bit is set. -/
def hasLeapSecond (k : KernelTimex) : Bool := k.status &&& staIns ≠ 0 || k.status &&& staDel ≠ 0

/-- `GetOffsetSeconds`. -/
def getOffsetSeconds (k : KernelTimex) : ℚ := k.offset.seconds

/-- `GetFrequencyPPM`: the frequency scaled down by `65536`. -/
def getFrequencyPPM (k : KernelTimex) : ℚ := k.frequency / 65536

/-- `GetMaxErrorSeconds`. -/
def getMaxErrorSeconds (k : KernelTimex) : ℚ := k.maxError.seconds

/-- `GetEstErrorSeconds`. -/
def getEstErrorSeconds (k : KernelTimex) : ℚ := k.estError.seconds

/-- `GetPrecisionSeconds`. -/
def getPrecisionSeconds (k : KernelTimex) : ℚ := k.precision.seconds

/-! ## What the label reads of the status word -/

/-- Clearing the bits of a mask that another mask does not meet leaves the other mask's bits. -/
theorem and_clear_and {mask other : BitVec 32} (disjoint : ~~~mask &&& other = other)
    (status : BitVec 32) : status &&& ~~~mask &&& other = status &&& other := by
  rw [BitVec.and_assoc, disjoint]

/-- The label does not read the leap bits: a word and the same word with `STA_INS` and `STA_DEL`
cleared get one label. -/
theorem getStatusString_clear_leap (status : BitVec 32) :
    getStatusString (status &&& ~~~(staIns ||| staDel)) = getStatusString status := by
  have unsync : ~~~(staIns ||| staDel) &&& staUnsync = staUnsync := rfl
  have clockErr : ~~~(staIns ||| staDel) &&& staClockErr = staClockErr := rfl
  have low : ~~~(staIns ||| staDel) &&& 7 = 7 := rfl
  simp only [getStatusString, and_clear_and unsync, and_clear_and clockErr, and_clear_and low]

/-- A word with its leap bits cleared has no leap second pending. -/
theorem clear_leap_and_ins (status : BitVec 32) :
    status &&& ~~~(staIns ||| staDel) &&& staIns = 0 ∧
      status &&& ~~~(staIns ||| staDel) &&& staDel = 0 := by
  rw [BitVec.and_assoc, BitVec.and_assoc]
  exact ⟨by rw [show ~~~(staIns ||| staDel) &&& staIns = 0 from rfl]; exact BitVec.and_zero,
    by rw [show ~~~(staIns ||| staDel) &&& staDel = 0 from rfl]; exact BitVec.and_zero⟩

/-- The label is `unsynchronized` exactly when the unsynchronized bit is set. -/
theorem getStatusString_eq_unsynchronized (status : BitVec 32) :
    getStatusString status = "unsynchronized" ↔ status &&& staUnsync ≠ 0 := by
  unfold getStatusString
  split_ifs with unsynchronized clockError
  · exact iff_of_true rfl unsynchronized
  · exact iff_of_false (by decide) unsynchronized
  · refine iff_of_false ?_ unsynchronized
    split <;> decide

/-- On a synchronized word without a clock error, the label is the `TIME_*` state that the
three lowest bits would name: `STA_PLL`, `STA_PPSFREQ` and `STA_PPSTIME`. -/
theorem getStatusString_low_bits {status : BitVec 32} (synchronized : status &&& staUnsync = 0)
    (noError : status &&& staClockErr = 0) :
    (getStatusString status = "synchronized" ↔ status &&& 7 = 0) ∧
      (getStatusString status = "leap_insert_pending" ↔ status &&& 7 = 1) ∧
      (getStatusString status = "leap_delete_pending" ↔ status &&& 7 = 2) := by
  have low : (status &&& 7).toNat < 8 := by
    rw [BitVec.toNat_and]
    exact lt_of_le_of_lt Nat.and_le_right (by decide)
  simp only [getStatusString, synchronized, noError, ne_eq, not_true_eq_false, if_false,
    BitVec.toNat_eq]
  generalize (status &&& 7).toNat = bits at low ⊢
  interval_cases bits <;> decide

end KernelTimex

/-- `time.Duration(x) * time.Microsecond`, wrapping as Go's multiplication does. -/
def microseconds (x : Int) : Duration := Duration.ofInt (x * 1000)

/-- `KernelReader.Read`: refused when the reader is disabled, the system call's error when it
fails, and otherwise its raw state with every time taken as microseconds. -/
def KernelReader.read (enabled : Bool) (syscall : Except String Timex) : Except String KernelTimex :=
  if !enabled then .error "kernel reader is disabled"
  else
    match syscall with
    | .error errno => .error ("adjtimex syscall failed: " ++ errno)
    | .ok tx =>
        .ok { offset := microseconds tx.offset
              frequency := tx.freq
              maxError := microseconds tx.maxerror
              estError := microseconds tx.esterror
              status := tx.status
              precision := microseconds tx.precision
              syncStatus := KernelTimex.getStatusString tx.status
              statusCode := tx.status }

/-- The label `KernelReader.Read` stores is `unsynchronized` exactly when `IsSynchronized` fails.
On a synchronized word without a clock error it is the `TIME_*` state that the three lowest bits
would name, and it is the label of the same word with `STA_INS` and `STA_DEL` cleared, for which
`HasLeapSecond` fails: the label never reads the leap bits. -/
theorem read_syncStatus_ignores_leap_bits (tx : Timex) :
    ∃ k, KernelReader.read true (.ok tx) = .ok k ∧
      (k.syncStatus = "unsynchronized" ↔ k.isSynchronized = false) ∧
      (k.isSynchronized = true → k.status &&& KernelTimex.staClockErr = 0 →
        (k.syncStatus = "synchronized" ↔ k.status &&& 7 = 0) ∧
        (k.syncStatus = "leap_insert_pending" ↔ k.status &&& 7 = 1) ∧
        (k.syncStatus = "leap_delete_pending" ↔ k.status &&& 7 = 2)) ∧
      ∃ cleared, KernelReader.read true
          (.ok { tx with status := tx.status &&& ~~~(KernelTimex.staIns ||| KernelTimex.staDel) }) =
            .ok cleared ∧
        cleared.syncStatus = k.syncStatus ∧ cleared.hasLeapSecond = false := by
  open KernelTimex in
  refine ⟨_, rfl, ?_, fun synchronized noError => ?_, _, rfl, getStatusString_clear_leap tx.status, ?_⟩
  · simpa [isSynchronized] using getStatusString_eq_unsynchronized tx.status
  · exact getStatusString_low_bits (by simpa [isSynchronized] using synchronized) noError
  · simp [hasLeapSecond, clear_leap_and_ins]

/-- The word of a kernel disciplined by a daemon in nanosecond mode, `STA_PLL | STA_NANO`, is
labelled as a pending leap-second insertion, and a word with only `STA_INS` as synchronized. -/
example : KernelTimex.getStatusString 0x2001 = "leap_insert_pending" ∧
    KernelTimex.getStatusString KernelTimex.staIns = "synchronized" := by
  decide

end NtpExporter
