import Chip8.Layout

namespace Chip8.Host

def second : Nat := 1000000000

def timerPeriod : Nat := second / Layout.timerRate

theorem timerPeriod_pos : 0 < timerPeriod := by decide

def instructionTime (rate : UInt64) : Nat := second / max rate.toNat 1

structure Clock where
  now : Nat
  nextTick : Nat
deriving DecidableEq

namespace Clock

def zero : Clock := ⟨0, timerPeriod⟩

def advance (c : Clock) (time : Nat) : Clock := { c with now := c.now + time }

/-- The number of ticks, one each `period`, that have fallen due, and the clock with the next tick ahead. -/
def collect (period : Nat) (positive : 0 < period) (c : Clock) : Nat × Clock :=
  if c.now < c.nextTick then (0, c)
  else
    let (due, later) := collect period positive { c with nextTick := c.nextTick + period }
    (due + 1, later)
termination_by c.now + 1 - c.nextTick

theorem now_collect (period : Nat) (positive : 0 < period) (c : Clock) :
    (c.collect period positive).2.now = c.now := by
  fun_induction collect period positive c with
  | case1 => rfl
  | case2 c passed due later collected ih => simpa [collected] using ih

theorem nextTick_collect (period : Nat) (positive : 0 < period) (c : Clock) :
    (c.collect period positive).2.nextTick = c.nextTick + (c.collect period positive).1 * period := by
  fun_induction collect period positive c with
  | case1 => simp
  | case2 c passed due later collected ih =>
    simp only [collected] at ih
    rw [ih, Nat.add_mul]
    omega

theorem now_lt_nextTick_collect (period : Nat) (positive : 0 < period) (c : Clock) :
    c.now < (c.collect period positive).2.nextTick := by
  fun_induction collect period positive c with
  | case1 c ahead => exact ahead
  | case2 c passed due later collected ih => simpa [collected] using ih

theorem nextTick_collect_le (period : Nat) (positive : 0 < period) (c : Clock)
    (some_due : 0 < (c.collect period positive).1) :
    (c.collect period positive).2.nextTick ≤ c.now + period := by
  fun_induction collect period positive c with
  | case1 => simp at some_due
  | case2 c passed due later collected ih =>
    simp only [collected] at ih
    by_cases more : 0 < due
    · exact ih more
    · have next := nextTick_collect period positive { c with nextTick := c.nextTick + period }
      have last : due = 0 := by omega
      simp only [collected, last] at next
      simp only [next]
      omega

end Clock

end Chip8.Host
