set_option autoImplicit false

namespace Governance

structure Duration where
  nanos : Nat
  deriving DecidableEq, Repr, Inhabited

namespace Duration

def zero : Duration := ⟨0⟩

def ofMillis (millis : Nat) : Duration := ⟨millis * 1000000⟩

def ofParts (seconds nanos : Nat) : Duration := ⟨seconds * 1000000000 + nanos⟩

def millis (d : Duration) : Nat := d.nanos / 1000000

def seconds (d : Duration) : Nat := d.nanos / 1000000000

def subsecondNanos (d : Duration) : Nat := d.nanos % 1000000000

def plus (a b : Duration) : Duration := ⟨a.nanos + b.nanos⟩

def total (ds : List Duration) : Duration := ds.foldl plus zero

theorem millis_ofMillis (n : Nat) : (ofMillis n).millis = n := by
  simp [ofMillis, millis]

end Duration

abbrev Millis := UInt64

namespace Millis

def largest : Millis := 0xFFFFFFFFFFFFFFFF

def clamp (n : Nat) : Millis := if n < UInt64.size then n.toUInt64 else largest

-- What has passed between two readings, zero when the later one is smaller.
def since (now start : Millis) : Millis := if start ≤ now then now - start else 0

def plus (a b : Millis) : Millis := clamp (a.toNat + b.toNat)

theorem toNat_clamp (n : Nat) : (clamp n).toNat = min n (UInt64.size - 1) := by
  unfold clamp
  split
  · rename_i h
    rw [Nat.toUInt64, UInt64.toNat_ofNat_of_lt' h]
    omega
  · rename_i h
    simp only [UInt64.size, largest] at *
    have : (0xFFFFFFFFFFFFFFFF : UInt64).toNat = 18446744073709551615 := rfl
    omega

theorem toNat_since (now start : Millis) : (since now start).toNat = now.toNat - start.toNat := by
  unfold since
  split
  · rename_i h
    rw [UInt64.toNat_sub_of_le _ _ h]
  · rename_i h
    have : now.toNat < start.toNat := by
      simpa [UInt64.le_iff_toNat_le] using h
    simp only [UInt64.toNat_zero]
    omega

theorem toNat_plus (a b : Millis) :
    (plus a b).toNat = min (a.toNat + b.toNat) (UInt64.size - 1) := toNat_clamp _

theorem le_plus_left (a b : Millis) : a ≤ a.plus b := by
  have bound := a.toNat_lt
  rw [UInt64.le_iff_toNat_le, toNat_plus]
  simp only [UInt64.size]
  omega

theorem le_plus_right (a b : Millis) : b ≤ a.plus b := by
  have bound := b.toNat_lt
  rw [UInt64.le_iff_toNat_le, toNat_plus]
  simp only [UInt64.size]
  omega

theorem since_self_plus (now pause : Millis) : (now.since now).plus pause = pause := by
  have bound := pause.toNat_lt
  rw [← UInt64.toNat_inj, toNat_plus, toNat_since]
  simp only [UInt64.size]
  omega

end Millis

namespace Duration

def clockMillis (d : Duration) : Millis := Millis.clamp d.millis

theorem clockMillis_ofMillis (n : UInt64) : (ofMillis n.toNat).clockMillis = n := by
  rw [clockMillis, millis_ofMillis]
  apply UInt64.toNat_inj.1
  have := n.toNat_lt
  rw [Millis.toNat_clamp]
  simp only [UInt64.size]
  omega

theorem ofMillis_clockMillis_le (d : Duration) : (ofMillis d.clockMillis.toNat).nanos ≤ d.nanos := by
  simp only [ofMillis, clockMillis, Millis.toNat_clamp, millis]
  omega

end Duration

structure ManualClock where
  now : Millis
  deriving DecidableEq, Repr, Inhabited

namespace ManualClock

def start : ManualClock := ⟨0⟩

def advance (c : ManualClock) (d : Duration) : ManualClock := ⟨c.now + d.clockMillis⟩

def set (_ : ManualClock) (reading : Millis) : ManualClock := ⟨reading⟩

end ManualClock

inductive Sleeper where
  | moveClock
  | writeDown
  | skip
  deriving DecidableEq, Repr, Inhabited

namespace Sleeper

def sleep (s : Sleeper) (d : Duration) (c : ManualClock) : ManualClock :=
  match s with
  | .moveClock => c.advance d
  | .writeDown | .skip => c

def record (s : Sleeper) (d : Duration) (written : List Duration) : List Duration :=
  match s with
  | .writeDown => written ++ [d]
  | .moveClock | .skip => written

end Sleeper

end Governance
