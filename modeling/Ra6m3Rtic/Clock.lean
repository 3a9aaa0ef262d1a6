import Mathlib.Data.UInt

namespace Ra6m3Rtic

-- `fugit` at the rate of the monotonic: 64-bit counts of ticks of 1/30 µs.
abbrev Ticks := UInt64

def clockHz : Nat := 30000000

structure Instant where
  ticks : Ticks
  deriving DecidableEq, Repr

structure Duration where
  ticks : Ticks
  deriving DecidableEq, Repr

namespace Duration
-- The ratios to milliseconds and microseconds are whole numbers of ticks, so
-- rounding up adds nothing and rounding down is a division.
def millis (n : UInt64) : Duration := ⟨n * .ofNat (clockHz / 1000)⟩
def microsAtLeast (n : UInt64) : Duration := ⟨n * .ofNat (clockHz / 1000000)⟩
def toMicros (d : Duration) : UInt64 := d.ticks / .ofNat (clockHz / 1000000)
end Duration

namespace Instant

def addDuration (a : Instant) (d : Duration) : Instant := ⟨a.ticks + d.ticks⟩

def durationSinceEpoch (a : Instant) : Duration := ⟨a.ticks⟩

-- Instants are ordered by their wrapping difference.
def cmp (a b : Instant) : Ordering :=
  if a.ticks = b.ticks then .eq
  else
    let v := a.ticks - b.ticks
    if 0x7fffffffffffffff < v then .lt else if v < 0x7fffffffffffffff then .gt else .eq

def lt (a b : Instant) : Bool := a.cmp b == .lt

-- Less than half the range apart, that order is the order of the counts.
theorem lt_iff {a b : Instant} (above : a.ticks.toNat < b.ticks.toNat + 2 ^ 63)
    (below : b.ticks.toNat < a.ticks.toNat + 2 ^ 63) : a.lt b = true ↔ a.ticks.toNat < b.ticks.toNat := by
  have width : a.ticks.toNat < 2 ^ 64 := a.ticks.toNat_lt
  have difference : (a.ticks - b.ticks).toNat = (2 ^ 64 - b.ticks.toNat + a.ticks.toNat) % 2 ^ 64 :=
    UInt64.toNat_sub _ _
  have half : (0x7fffffffffffffff : UInt64).toNat = 2 ^ 63 - 1 := by decide
  unfold lt cmp
  by_cases equal : a.ticks = b.ticks
  · simp [equal]
  · have apart : a.ticks.toNat ≠ b.ticks.toNat := fun same => equal (UInt64.toNat.inj same)
    have bound : b.ticks.toNat < 2 ^ 64 := b.ticks.toNat_lt
    simp only [if_neg equal,UInt64.lt_iff_toNat_lt,half,difference]
    by_cases less : a.ticks.toNat < b.ticks.toNat
    · rw [Nat.mod_eq_of_lt (by omega),if_pos (by omega)]
      simp [less]
    · have wraps : (2 ^ 64 - b.ticks.toNat + a.ticks.toNat) % 2 ^ 64 = a.ticks.toNat - b.ticks.toNat := by omega
      rw [wraps,if_neg (by omega)]
      split <;> simp [less]

end Instant

-- smoltcp counts microseconds in 64 bits with a sign.
def smolNow (now : Instant) : Int64 := now.durationSinceEpoch.toMicros.toInt64

def pollDeadline (at_ : Int64) : Instant :=
  let micros := at_ &&& (0xffffffffffffffff : Ticks).toInt64
  let duration := Duration.microsAtLeast micros.toUInt64
  ⟨duration.ticks⟩

-- A tick count in microseconds stays far below the sign bit.
theorem smolNow_toInt (t : Instant) : (smolNow t).toInt = ((t.ticks.toNat / 30 : Nat) : Int) := by
  have width : t.ticks.toNat < 2 ^ 64 := t.ticks.toNat_lt
  have micros : (smolNow t).toBitVec.toNat = t.ticks.toNat / 30 := UInt64.toNat_div _ _
  change (smolNow t).toBitVec.toInt = _
  rw [BitVec.toInt_eq_toNat_of_lt (by omega),micros]

-- The mask is all ones as an i64 and keeps every bit.
theorem and_ticks_max (at_ : Int64) : at_ &&& (0xffffffffffffffff : Ticks).toInt64 = at_ := by
  have ones : (0xffffffffffffffff : Ticks).toInt64 = -1 := by decide
  rw [ones,Int64.and_neg_one]

theorem pollDeadline_ticks {at_ : Int64} (after : 0 ≤ at_) (bounded : at_.toInt ≤ (2 ^ 64 - 1) / 30) :
    (pollDeadline at_).ticks.toNat = 30 * at_.toInt.toNat := by
  have micros : at_.toUInt64.toNat = at_.toInt.toNat := Int64.toNat_toUInt64_of_le after
  have product : (at_.toUInt64 * 30).toNat = at_.toUInt64.toNat * 30 % 2 ^ 64 := UInt64.toNat_mul _ _
  simp only [pollDeadline,and_ticks_max]
  change (at_.toUInt64 * 30).toNat = _
  rw [product,micros]
  omega

-- Rounding down the clock and scaling up the deadline are adjoint.
theorem le_smolNow_iff {at_ : Int64} (after : 0 ≤ at_) (bounded : at_.toInt ≤ (2 ^ 64 - 1) / 30) (t : Instant) :
    at_ ≤ smolNow t ↔ (pollDeadline at_).ticks.toNat ≤ t.ticks.toNat := by
  have positive : 0 ≤ at_.toInt := Int64.le_iff_toInt_le.mp after
  rw [Int64.le_iff_toInt_le,smolNow_toInt,pollDeadline_ticks after bounded]
  omega

end Ra6m3Rtic
