import Chip8.Host.Loop.Requests

namespace Chip8.Host

namespace Clock

/-- The clock at a time when every tick due by then has been collected. -/
def collected (period time : Nat) : Clock := ⟨time, (time / period + 1) * period⟩

variable {period : Nat} (positive : 0 < period)

theorem collect_rounds (c : Clock) :
    let rounds := (c.collect period positive).1
    (∀ j < rounds, c.nextTick + j * period ≤ c.now) ∧ c.now < c.nextTick + rounds * period ∧
      c.collect period positive = (rounds, ⟨c.now, c.nextTick + rounds * period⟩) := by
  intro rounds
  have now : (c.collect period positive).2.now = c.now := now_collect period positive c
  have next : (c.collect period positive).2.nextTick = c.nextTick + rounds * period :=
    nextTick_collect period positive c
  refine ⟨?_, ?_, ?_⟩
  · intro j early
    have due : 0 < rounds := by omega
    have last := nextTick_collect_le period positive c due
    have below : (j + 1) * period ≤ rounds * period := Nat.mul_le_mul_right period early
    rw [next] at last
    rw [Nat.add_mul] at below
    omega
  · rw [← next]
    exact now_lt_nextTick_collect period positive c
  · rw [← now, ← next]

theorem div_eq_of_rounds {before now rounds : Nat} (order : before ≤ now)
    (due : ∀ j < rounds, (before / period + 1) * period + j * period ≤ now)
    (ahead : now < (before / period + 1) * period + rounds * period) : now / period = before / period + rounds := by
  apply Nat.div_eq_of_lt_le
  · cases rounds with
    | zero => exact Nat.le_trans (Nat.div_mul_le_self before period) order
    | succ rounds =>
      have last := due rounds (Nat.lt_succ_self rounds)
      rwa [← Nat.add_mul, Nat.add_assoc, Nat.add_comm 1] at last
  · rwa [← Nat.add_mul, Nat.add_assoc, Nat.add_comm 1, ← Nat.add_assoc] at ahead

theorem collect_advance_collected (before time : Nat) :
    ((collected period before).advance time).collect period positive =
      ((before + time) / period - before / period, collected period (before + time)) := by
  obtain ⟨due, ahead, same⟩ := collect_rounds positive ((collected period before).advance time)
  have quotient := div_eq_of_rounds (Nat.le_add_right before time) due ahead
  have next : ((before + time) / period + 1) * period = (before / period + 1) * period +
      (((collected period before).advance time).collect period positive).1 * period := by
    rw [quotient, ← Nat.add_mul, Nat.add_right_comm]
  rw [same]
  apply Prod.ext
  · dsimp only
    omega
  · exact congrArg (Clock.mk (before + time)) next.symm

end Clock

namespace Loop

variable {p : Pace} {l l' : Loop}

/-- The clock shows the time of the instructions executed, with no tick left to collect. -/
def OnTime (p : Pace) (l : Loop) : Prop :=
  l.clock = Clock.collected timerPeriod (l.executed * instructionTime p.rate)

theorem OnTime.start (p : Pace) (m : Machine) : (start m).OnTime p := by
  simp [OnTime, Loop.start, Clock.zero, Clock.collected]

theorem OnTime.ticked (onTime : l.OnTime p) :
    l.ticked p =
      ((l.executed + 1) * instructionTime p.rate / timerPeriod - l.executed * instructionTime p.rate / timerPeriod,
        Clock.collected timerPeriod ((l.executed + 1) * instructionTime p.rate)) := by
  rw [Loop.ticked, onTime, Clock.collect_advance_collected, ← Nat.succ_mul]

theorem executed_turn (turned : l.turn p = (l', none)) : l'.executed = l.executed + 1 := by
  obtain ⟨_, _, _, rfl⟩ := turn_eq_settle turned
  rfl

theorem OnTime.turn (onTime : l.OnTime p) (turned : l.turn p = (l', none)) : l'.OnTime p := by
  obtain ⟨_, m, _, rfl⟩ := turn_eq_settle turned
  exact congrArg Prod.snd onTime.ticked

theorem executed_turn_ending {ending : Ending} (turned : l.turn p = (l', some ending)) :
    l'.executed = l.executed ∧ l'.clock = l.clock := by
  unfold turn at turned
  split at turned
  · cases turned
    exact ⟨rfl, rfl⟩
  · split at turned
    · cases turned
    · cases turned
      exact ⟨rfl, rfl⟩
    · cases turned
      exact ⟨rfl, rfl⟩

theorem OnTime.follow (onTime : l.OnTime p) (fuel : Nat) : (l.follow p fuel).1.OnTime p := by
  induction fuel generalizing l with
  | zero => exact onTime
  | succ fuel ih =>
    unfold Loop.follow
    cases turned : l.turn p with
    | mk l' ending =>
      cases ending with
      | none => exact ih (onTime.turn turned)
      | some ending =>
        obtain ⟨executed, clock⟩ := executed_turn_ending turned
        simp only [OnTime, executed, clock]
        exact onTime

theorem executed_follow {fuel : Nat} (going : (l.follow p fuel).2 = none) :
    (l.follow p fuel).1.executed = l.executed + fuel := by
  induction fuel generalizing l with
  | zero => rfl
  | succ fuel ih =>
    unfold Loop.follow at going ⊢
    cases turned : l.turn p with
    | mk l' ending =>
      rw [turned] at going
      cases ending with
      | none =>
        have later := ih going
        rw [executed_turn turned] at later
        dsimp only
        omega
      | some ending => cases going

theorem count_tick_requests (onTime : l.OnTime p) (fuel : Nat) :
    l.executed * instructionTime p.rate / timerPeriod + (l.requests p fuel).count .tick =
      (l.follow p fuel).1.executed * instructionTime p.rate / timerPeriod := by
  induction fuel generalizing l with
  | zero => rfl
  | succ fuel ih =>
    unfold requests Loop.follow
    cases turned : l.turn p with
    | mk l' ending =>
      cases ending with
      | none =>
        have later := ih (onTime.turn turned)
        have asked : (l.calls p).count .tick = (l.ticked p).1 := by
          rw [calls, List.count_cons_of_ne (by decide), List.count_cons_of_ne (by decide), List.count_replicate_self]
        have grown : l.executed * instructionTime p.rate / timerPeriod ≤
            (l.executed + 1) * instructionTime p.rate / timerPeriod :=
          Nat.div_le_div_right (Nat.mul_le_mul_right _ (Nat.le_succ _))
        rw [executed_turn turned] at later
        rw [List.count_append, asked, onTime.ticked]
        dsimp only
        omega
      | some ending =>
        have idle : (if p.reached l.executed then [] else [Call.cycle]).count .tick = 0 := by
          split <;> rfl
        rw [idle, (executed_turn_ending turned).1]
        rfl

theorem ticks_eq_div (p : Pace) (m : Machine) (fuel : Nat) :
    let time := 1000000000 / max p.rate.toNat 1
    let period := 16666666
    let l := ((Loop.start m).follow p fuel).1
    let asked := (Loop.start m).requests p fuel
    let ticks := asked.count .tick
    l.machine = m.after asked ∧
    (((Loop.start m).follow p fuel).2 = none → l.executed = fuel) ∧
    ticks = l.executed * time / period ∧
    (ticks * period ≤ l.executed * time ∧ l.executed * time < (ticks + 1) * period) ∧
    ∃ rounds, (∀ j < rounds, l.clock.nextTick + j * period ≤ l.clock.now + time) ∧
      l.clock.now + time < l.clock.nextTick + rounds * period ∧
      l.ticked p = (rounds, ⟨l.clock.now + time, l.clock.nextTick + rounds * period⟩) := by
  intro time period l asked ticks
  have nanoseconds : timerPeriod = period := rfl
  have counted : ticks = l.executed * time / period := by
    have total := count_tick_requests (OnTime.start p m) fuel
    have none_before : (Loop.start m).executed * instructionTime p.rate / timerPeriod = 0 := by
      simp [Loop.start]
    rw [none_before, Nat.zero_add] at total
    exact total
  refine ⟨machine_follow p fuel (Loop.start m), ?_, counted, ⟨?_, ?_⟩, _,
    Clock.collect_rounds timerPeriod_pos (l.clock.advance (instructionTime p.rate))⟩
  · intro going
    have executed := executed_follow going
    rwa [Loop.start, Nat.zero_add] at executed
  · rw [counted]
    exact Nat.div_mul_le_self _ _
  · rw [counted, Nat.mul_comm (_ + 1)]
    exact Nat.lt_mul_div_succ _ timerPeriod_pos

/-- A program that sets the delay timer to 59 and then jumps to itself. -/
def countsDown : Machine :=
  (Machine.start Dialect.standard (RandomSource.ofList [])).after [.load [0x60, 0x3B, 0xF0, 0x15, 0x12, 0x04]]

theorem ticks_eq_div_countsDown :
    (((start countsDown).requests ⟨60, none⟩ 5).count .tick = 5 ∧
      ((start countsDown).follow ⟨60, none⟩ 5).1.machine =
        countsDown.after ((start countsDown).requests ⟨60, none⟩ 5) ∧
      ((start countsDown).follow ⟨60, none⟩ 5).1.machine.state.delay = 59 - 4) ∧
    ((start countsDown).requests ⟨2, none⟩ 2).count .tick = 60 ∧
      ((start countsDown).follow ⟨2, none⟩ 2).1.machine =
        countsDown.after ((start countsDown).requests ⟨2, none⟩ 2) ∧
      ((start countsDown).follow ⟨2, none⟩ 2).1.machine.state.delay = 59 - 30 := by
  have going : ((start countsDown).follow ⟨60, none⟩ 5).2 = none := by decide +kernel
  have going' : ((start countsDown).follow ⟨2, none⟩ 2).2 = none := by decide +kernel
  obtain ⟨machine, executed, counted, _⟩ := ticks_eq_div ⟨60, none⟩ countsDown 5
  obtain ⟨machine', executed', counted', _⟩ := ticks_eq_div ⟨2, none⟩ countsDown 2
  rw [executed going] at counted
  rw [executed' going'] at counted'
  refine ⟨⟨counted, machine, ?_⟩, counted', machine', ?_⟩
  · rw [machine]
    decide +kernel
  · rw [machine']
    decide +kernel

end Loop

end Chip8.Host
