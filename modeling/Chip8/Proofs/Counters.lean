import Chip8.Host.Loop.Checked
import Chip8.Proofs.TickRate

namespace Chip8.Host

theorem instructionTime_le (rate : UInt64) : instructionTime rate ≤ second := Nat.div_le_self _ _

theorem time_of_instructions_le {n : Nat} (counted : n < UInt64.size) (rate : UInt64) :
    n * instructionTime rate + second ≤ timeRange :=
  calc n * instructionTime rate + second
    _ ≤ n * second + second := Nat.add_le_add_right (Nat.mul_le_mul_left n (instructionTime_le rate)) second
    _ = (n + 1) * second := (Nat.succ_mul n second).symm
    _ ≤ UInt64.size * second := Nat.mul_le_mul_right second counted

theorem timerPeriod_lt_second : timerPeriod < second := by decide

namespace Clock

variable {c : Clock} {period : Nat}

/-- A period is added only while the tick is due, so no sum is further ahead of the time than a period. -/
theorem collectChecked_eq (positive : 0 < period) (fits : c.now + period < timeRange) :
    c.collectChecked period positive = .ok (c.collect period positive) := by
  fun_induction collect period positive c with
  | case1 c ahead =>
    rw [collectChecked, if_pos ahead]
    rfl
  | case2 c passed due later collected ih =>
    have sum : Checked.add timeRange c.nextTick period = .ok (c.nextTick + period) := Checked.add_of_lt (by omega)
    rw [collectChecked, if_neg passed]
    split
    · rename_i nextTick added
      obtain rfl := Checked.eq_of_add added
      rw [ih fits, collected]
      rfl
    · rename_i trap failed
      rw [sum] at failed
      cases failed

theorem waitChecked_eq_ok (c : Clock) (outside : Option Nat) : ∃ wait, c.waitChecked outside = .ok wait := by
  cases outside with
  | none => exact ⟨0, rfl⟩
  | some shown =>
    by_cases ahead : shown < c.now
    · exact ⟨_, (if_pos ahead).trans (Checked.sub_of_le (Nat.le_of_lt ahead))⟩
    · exact ⟨0, if_neg ahead⟩

theorem lt_nextTick_collected (positive : 0 < period) (time : Nat) : time < (collected period time).nextTick := by
  have split := Nat.div_add_mod time period
  have rest := Nat.mod_lt time positive
  show time < (time / period + 1) * period
  rw [Nat.add_mul, Nat.mul_comm]
  omega

theorem nextTick_collected_le (time : Nat) : (collected period time).nextTick ≤ time + period := by
  have whole := Nat.div_mul_le_self time period
  show (time / period + 1) * period ≤ time + period
  rw [Nat.add_mul]
  omega

end Clock

namespace Loop

variable {p : Pace} {outside : Nat → Option Nat} {l l' : Loop} {m : Machine} {fuel : Nat}

theorem settleChecked_eq (counted : l.executed + 1 < UInt64.size)
    (timed : l.clock.now + instructionTime p.rate + timerPeriod < timeRange) (m : Machine) :
    l.settleChecked p outside m = .ok (l.settle p m) := by
  have now : l.clock.advanceChecked (instructionTime p.rate) = .ok (l.clock.advance (instructionTime p.rate)) := by
    rw [Clock.advanceChecked, Checked.add_of_lt (Nat.lt_of_le_of_lt (Nat.le_add_right _ _) timed), Checked.ok_bind]
    rfl
  have ticks : (l.clock.advance (instructionTime p.rate)).collectChecked timerPeriod timerPeriod_pos =
      .ok (l.ticked p) := Clock.collectChecked_eq timerPeriod_pos timed
  obtain ⟨wait, waits⟩ := (l.ticked p).2.waitChecked_eq_ok (outside (l.executed + 1))
  rw [settleChecked, Checked.add_of_lt counted, Checked.ok_bind, now, Checked.ok_bind, ticks, Checked.ok_bind]
  dsimp only
  rw [waits]
  rfl

theorem OnTime.timed (onTime : l.OnTime p) (counted : l.executed + 1 < UInt64.size) :
    l.clock.now + instructionTime p.rate + timerPeriod < timeRange := by
  have now : l.clock.now = l.executed * instructionTime p.rate := congrArg Clock.now onTime
  have latest := time_of_instructions_le counted p.rate
  have period := timerPeriod_lt_second
  rw [Nat.succ_mul] at latest
  omega

theorem turnChecked_eq (onTime : l.OnTime p)
    (counted : p.reached l.executed = false → l.executed + 1 < UInt64.size) :
    l.turnChecked p outside = .ok (l.turn p) := by
  unfold turnChecked turn
  cases room : p.reached l.executed with
  | true => rfl
  | false =>
    rw [if_neg (by decide), if_neg (by decide)]
    rcases l.machine.cycle with ⟨fault | ins | _, m⟩
    · rfl
    · dsimp only
      rw [settleChecked_eq (counted room) (onTime.timed (counted room))]
      rfl
    · rfl

theorem turnChecked_overflows {ins : Instruction} (room : p.reached l.executed = false)
    (executed : l.machine.cycle.1 = .ok (.executed ins)) (full : l.executed + 1 = UInt64.size) :
    l.turnChecked p outside = .error .overflow := by
  have trapped : Checked.add UInt64.size l.executed 1 = .error .overflow := if_neg (by omega)
  unfold turnChecked
  rw [room, if_neg (by decide)]
  cases cycled : l.machine.cycle with
  | mk result m =>
    rw [cycled] at executed
    cases executed
    dsimp only
    rw [settleChecked, trapped]
    rfl

theorem followChecked_eq (onTime : l.OnTime p)
    (counted : ∀ n < l.executed + fuel, p.reached n = false → n + 1 < UInt64.size) :
    l.followChecked p outside fuel = .ok (l.follow p fuel) := by
  induction fuel generalizing l with
  | zero => rfl
  | succ fuel ih =>
    unfold followChecked
    rw [turnChecked_eq onTime (counted l.executed (by omega)), Checked.ok_bind]
    cases turned : l.turn p with
    | mk l' ending =>
      cases ending with
      | none =>
        rw [(follow_of_going turned fuel).1]
        apply ih (onTime.turn turned)
        intro n early
        rw [executed_turn turned] at early
        exact counted n (by omega)
      | some ending =>
        rw [(follow_of_ending turned fuel).1]
        rfl

theorem followChecked_add {k : Nat} (going : l.followChecked p outside k = .ok (l', none)) (fuel : Nat) :
    l.followChecked p outside (k + fuel) = l'.followChecked p outside fuel := by
  induction k generalizing l with
  | zero =>
    cases going
    rw [Nat.zero_add]
  | succ k ih =>
    rw [followChecked] at going
    rw [Nat.succ_add, followChecked]
    rcases turned : l.turnChecked p outside with trap | ⟨next, _ | ending⟩
    · rw [turned] at going
      cases going
    · rw [turned] at going
      exact ih going
    · rw [turned] at going
      cases going

/-- Nothing but the limit keeps the count of instructions in its range. -/
theorem followChecked_overflows (unlimited : p.limit = none)
    (executes : ∀ j < UInt64.size, ∃ ins, (m.after (schedule p.rate j)).cycle.1 = .ok (.executed ins)) :
    (start m).followChecked p outside UInt64.size = .error .overflow := by
  obtain ⟨k, size⟩ : ∃ k, UInt64.size = k + 1 := ⟨18446744073709551615, rfl⟩
  obtain ⟨l, followed, _, executed, _, machine⟩ :=
    follow_schedule (k := k) (fun j _ => reached_of_unlimited unlimited j) fun j early => executes j (by omega)
  have checked : (start m).followChecked p outside k = .ok (l, none) := by
    rw [followChecked_eq (OnTime.start p m), followed]
    intro n early _
    have none_before : (start m).executed = 0 := rfl
    omega
  obtain ⟨ins, cycled⟩ := executes k (by omega)
  rw [← machine] at cycled
  rw [size, followChecked_add checked, followChecked,
    turnChecked_overflows (reached_of_unlimited unlimited _) cycled (by omega)]
  rfl

theorem counters_stay_in_range (p : Pace) (limit : UInt64) (limited : p.limit = some limit) (m : Machine)
    (outside : Nat → Option Nat) (fuel : Nat) :
    let l := ((start m).follow p fuel).1
    l.executed ≤ limit.toNat ∧ l.clock.now = l.executed * (1000000000 / max p.rate.toNat 1) ∧
    l.clock.now < l.clock.nextTick ∧ l.clock.nextTick ≤ l.clock.now + 16666666 ∧
    l.executed < UInt64.size ∧ l.clock.nextTick < UInt64.size * 1000000000 ∧
    (start m).followChecked p outside fuel = .ok ((start m).follow p fuel) := by
  intro l
  have onTime : l.OnTime p := (OnTime.start p m).follow fuel
  have executed : l.executed ≤ limit.toNat := executed_follow_le limited (Nat.zero_le _) fuel
  have now : l.clock.now = l.executed * instructionTime p.rate := congrArg Clock.now onTime
  have ahead : l.clock.now < l.clock.nextTick := by
    rw [now, onTime]
    exact Clock.lt_nextTick_collected timerPeriod_pos _
  have near : l.clock.nextTick ≤ l.clock.now + timerPeriod := by
    rw [now, onTime]
    exact Clock.nextTick_collected_le _
  have counted : l.executed < UInt64.size := Nat.lt_of_le_of_lt executed limit.toNat_lt
  refine ⟨executed, now, ahead, near, counted, ?_, ?_⟩
  · have latest := time_of_instructions_le counted p.rate
    have period := timerPeriod_lt_second
    show l.clock.nextTick < timeRange
    omega
  · apply followChecked_eq (OnTime.start p m)
    intro n _ room
    have below : n < limit.toNat := by
      apply Nat.lt_of_not_le
      intro full
      rw [(reached_iff limited n).mpr full] at room
      cases room
    exact Nat.lt_of_le_of_lt below limit.toNat_lt

/-- A program that jumps to itself. -/
def endless : Machine := (Machine.start Dialect.standard (RandomSource.ofList [])).after [.load [0x12, 0x00]]

theorem spins_endless : endless.Spins := ⟨by decide +kernel, 0x200, by decide +kernel, by decide +kernel⟩

theorem counters_stay_in_range_last_second :
    let p : Pace := ⟨1, some 18446744073709551615⟩
    ∃ l, (start endless).followChecked p (fun _ => some 0) 18446744073709551615 = .ok (l, none) ∧
      l.executed = 18446744073709551615 ∧ l.clock.now = 18446744073709551615 * 1000000000 ∧
      l.clock.now < l.clock.nextTick := by
  intro p
  have room (j : Nat) (early : j < 0 + 18446744073709551615) : p.reached j = false := by
    apply reached_eq_false
    intro limit limited
    cases limited
    rwa [Nat.zero_add] at early
  obtain ⟨l, followed⟩ := follow_of_spins (p := p) (l := start endless) spins_endless room
  have executed : ((start endless).follow p 18446744073709551615).1.executed = 0 + 18446744073709551615 :=
    executed_follow (by rw [followed])
  obtain ⟨_, now, ahead, _, _, _, checked⟩ := counters_stay_in_range p 18446744073709551615 rfl endless
    (fun _ => some 0) 18446744073709551615
  have time : 1000000000 / max p.rate.toNat 1 = 1000000000 := by decide
  rw [executed, Nat.zero_add, time] at now
  rw [followed] at executed now ahead checked
  exact ⟨l, checked, executed, now, ahead⟩

end Loop

end Chip8.Host
