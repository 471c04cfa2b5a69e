import Chip8.Proofs.Countdown
import Chip8.Proofs.Stopping

namespace Chip8

namespace Machine

variable {m : Machine} {c : Call} {calls : List Call}

/-- The machine is about to jump to where it is. -/
def Spins (m : Machine) : Prop :=
  m.state.waiting = none ∧
    ∃ nnn, Instruction.decode? (m.state.memory.word m.state.pc) = some (.jump nnn) ∧ nnn.toWord = m.state.pc

theorem Spins.executes (spins : m.Spins) : ∃ ins, m.cycle.1 = .ok (.executed ins) := by
  obtain ⟨awake, nnn, decoded, _⟩ := spins
  have cycled := (Cycles.executed (t := { m.state.fetched with pc := nnn.toWord }) awake decoded rfl).cycle_eq
  exact ⟨.jump nnn, congrArg Prod.fst cycled⟩

theorem Spins.perform (spins : m.Spins) (noLoad : ∀ program, c ≠ .load program) : (m.perform c).2.Spins := by
  obtain ⟨awake, nnn, decoded, here⟩ := spins
  rcases perform_cases m c with ⟨_, t, serves, after⟩ | ⟨ins, t, _, _, _, decoded', effect, after⟩
  · rw [after]
    cases serves with
    | loaded => exact absurd rfl (noLoad _)
    | answered _ _ waits =>
      rw [awake] at waits
      cases waits
    | _ => exact ⟨awake, nnn, decoded, here⟩
  · rw [after]
    have jumps : ins = .jump nnn := Option.some.inj (decoded'.symm.trans decoded)
    subst jumps
    cases effect
    refine ⟨awake, nnn, ?_, rfl⟩
    rw [← here] at decoded
    exact decoded

theorem Spins.set?_eq_none (spins : m.Spins) (c : Call) (timer : Timer) :
    Exchange.set? ⟨m, c, (m.perform c).1⟩ timer = none := by
  obtain ⟨_, nnn, decoded, _⟩ := spins
  rcases perform_cases m c with ⟨idle, _⟩ | ⟨ins, t, executed, _, _, decoded', _⟩
  · rw [Exchange.set?, idle]
    rfl
  · have jumps : ins = .jump nnn := Option.some.inj (decoded'.symm.trans decoded)
    subst jumps
    rw [Exchange.set?, executed]
    cases timer <;> rfl

theorem Spins.after (spins : m.Spins) (noLoad : ∀ program, .load program ∉ calls) :
    (m.after calls).Spins ∧ ∀ timer : Timer,
      (timer.value (m.after calls).state).toNat = (timer.value m.state).toNat - calls.count .tick := by
  induction calls generalizing m with
  | nil => exact ⟨spins, fun timer => rfl⟩
  | cons c calls ih =>
    have next : (m.perform c).2.Spins := by
      apply spins.perform
      rintro program rfl
      exact noLoad program (.head calls)
    obtain ⟨spins', values⟩ := ih next fun program member => noLoad program (.tail c member)
    refine ⟨spins', fun timer => ?_⟩
    rw [after_cons, values, toNat_value_perform_of_unset (spins.set?_eq_none c timer), Nat.sub_sub, Nat.add_comm,
      List.count_cons]
    simp only [beq_iff_eq]

end Machine

namespace Host

theorem schedule_of_lt {rate : UInt64} {k : Nat} (quick : k * instructionTime rate < timerPeriod) :
    schedule rate k = (List.replicate k [.cycle, .takeFrame]).flatten := by
  induction k with
  | zero => rfl
  | succ k ih =>
    have before : k * instructionTime rate < timerPeriod := by
      rw [Nat.succ_mul] at quick
      omega
    rw [schedule, ih before, Nat.div_eq_of_lt quick, Nat.zero_sub, List.replicate_succ', List.flatten_concat]
    rfl

namespace Loop

variable {p : Pace} {l l' : Loop} {m : Machine} {k : Nat}

theorem load_notMem_requests (p : Pace) (l : Loop) (fuel : Nat) (program : List UInt8) :
    .load program ∉ l.requests p fuel := by
  induction fuel generalizing l with
  | zero => simp [requests]
  | succ fuel ih =>
    cases turned : l.turn p with
    | mk l' ending =>
      cases ending with
      | none => simp [(follow_of_going turned fuel).2, calls, ih]
      | some ending =>
        rw [(follow_of_ending turned fuel).2]
        split <;> simp

theorem machine_of_going (followed : l.follow p k = (l', none)) :
    l'.machine = l.machine.after (l.requests p k) ∧ l'.executed = l.executed + k := by
  have machine := machine_follow p k l
  have executed := executed_follow (congrArg Prod.snd followed)
  rw [followed] at machine executed
  exact ⟨machine, executed⟩

theorem machine_follow_of_spins (spins : l.machine.Spins) (followed : l.follow p k = (l', none)) :
    l'.machine.Spins ∧ ∀ timer : Timer, (timer.value l'.machine.state).toNat =
      (timer.value l.machine.state).toNat - (l.requests p k).count .tick := by
  rw [(machine_of_going followed).1]
  exact spins.after (load_notMem_requests p l k)

theorem follow_of_spins (spins : l.machine.Spins) (room : ∀ j < l.executed + k, p.reached j = false) :
    ∃ l', l.follow p k = (l', none) := by
  induction k generalizing l with
  | zero => exact ⟨l, rfl⟩
  | succ k ih =>
    obtain ⟨ins, executed⟩ := spins.executes
    have turned := turn_of_executed (room l.executed (by omega)) executed
    obtain ⟨spins', _⟩ := machine_follow_of_spins (k := 1) spins (follow_of_going turned 0).1
    rw [(follow_of_going turned k).1]
    apply ih spins'
    intro j early
    rw [executed_turn turned] at early
    exact room j (by omega)

theorem count_tick_window (onTime : l.OnTime p) (followed : l.follow p k = (l', none)) :
    k * instructionTime p.rate / timerPeriod ≤ (l.requests p k).count .tick ∧
      (l.requests p k).count .tick ≤ k * instructionTime p.rate / timerPeriod + 1 := by
  have total := count_tick_requests onTime k
  rw [followed, (machine_of_going followed).2, Nat.add_mul] at total
  have period : timerPeriod = 16666666 := rfl
  rw [period] at total ⊢
  omega

theorem count_tick_first (followed : (start m).follow p k = (l', none)) :
    ((start m).requests p k).count .tick = k * instructionTime p.rate / timerPeriod := by
  have total := count_tick_requests (OnTime.start p m) k
  rw [followed, (machine_of_going followed).2] at total
  simpa [start] using total

theorem ticks_per_second (p : Pace) (m : Machine) :
    let hz := max p.rate.toNat 1
    let second := hz * (1000000000 / hz)
    (∀ k l l', (start m).follow p k = (l, none) → l.follow p hz = (l', none) →
      l'.machine = l.machine.after (l.requests p hz) ∧ l'.executed = l.executed + hz ∧
      (l.requests p hz).count .tick ≤ 61 ∧ (59 * 16666666 ≤ second → 59 ≤ (l.requests p hz).count .tick)) ∧
    (second < 59 * 16666666 → ∀ l, (start m).follow p hz = (l, none) →
      l.machine = m.after ((start m).requests p hz) ∧ l.executed = hz ∧
      ((start m).requests p hz).count .tick < 59) ∧
    (hz < 16949153 → 59 * 16666666 ≤ second) ∧
    (1000000000 < hz → ∀ fuel, ((start m).follow p fuel).1.machine = m.after ((start m).requests p fuel) ∧
      ((start m).requests p fuel).count .tick = 0) := by
  intro hz second
  have seconds : hz * instructionTime p.rate = second := rfl
  have period : timerPeriod = 16666666 := rfl
  refine ⟨?_, ?_, ?_, ?_⟩
  · intro k l l' before followed
    have onTime : l.OnTime p := by
      have later := (OnTime.start p m).follow k
      rwa [before] at later
    have within : second ≤ 1000000000 := Nat.mul_div_le 1000000000 hz
    obtain ⟨machine, executed⟩ := machine_of_going followed
    obtain ⟨least, most⟩ := count_tick_window onTime followed
    rw [seconds, period] at least most
    refine ⟨machine, executed, ?_, ?_⟩ <;> omega
  · intro short l followed
    obtain ⟨machine, executed⟩ := machine_of_going followed
    refine ⟨machine, executed.trans (Nat.zero_add hz), ?_⟩
    rw [count_tick_first followed, seconds, period]
    omega
  · intro slow
    have positive : 0 < hz := by omega
    have lost := Nat.mod_lt 1000000000 positive
    have split : second + 1000000000 % hz = 1000000000 := Nat.div_add_mod 1000000000 hz
    have time : 59 ≤ 1000000000 / hz := (Nat.le_div_iff_mul_le positive).mpr (by omega)
    have least : hz * 59 ≤ second := Nat.mul_le_mul_left hz time
    omega
  · intro fast fuel
    have timeless : instructionTime p.rate = 0 := Nat.div_eq_of_lt fast
    have total := count_tick_requests (OnTime.start p m) fuel
    refine ⟨machine_follow p fuel (start m), ?_⟩
    simpa [timeless] using total

theorem start_countsDown (unlimited : p.limit = none) (quick : 2 * instructionTime p.rate < timerPeriod) :
    ∃ l, (start countsDown).follow p 2 = (l, none) ∧ ((start countsDown).requests p 2).count .tick = 0 ∧
      l.machine.Spins ∧ l.machine.state.delay = 59 := by
  have executes : ∀ j < 2, ∃ ins, (countsDown.after (schedule p.rate j)).cycle.1 = .ok (.executed ins) := by
    intro j early
    have cases : j = 0 ∨ j = 1 := by omega
    rcases cases with rfl | rfl
    · rw [schedule]
      exact ⟨.loadByte 0 59, by decide +kernel⟩
    · rw [schedule_of_lt (by omega)]
      exact ⟨.setDelay 0, by decide +kernel⟩
  obtain ⟨l, followed, asked, _, _, machine⟩ := follow_schedule (fun j _ => reached_of_unlimited unlimited j) executes
  rw [schedule_of_lt quick] at asked machine
  refine ⟨l, followed, ?_, ?_, ?_⟩
  · rw [asked]
    rfl
  · rw [machine]
    exact ⟨by decide +kernel, 0x204, by decide +kernel, by decide +kernel⟩
  · rw [machine]
    decide +kernel

/-- The first two instructions set the delay timer. Where no tick falls due in their time, it shows 59 less the ticks
    from then on. -/
theorem delay_countsDown (unlimited : p.limit = none) (quick : 2 * instructionTime p.rate < timerPeriod)
    (two : 2 ≤ k) :
    ∃ l, (start countsDown).follow p k = (l, none) ∧
      l.machine.state.delay.toNat = 59 - k * instructionTime p.rate / timerPeriod := by
  obtain ⟨k, rfl⟩ := Nat.exists_eq_add_of_le two
  obtain ⟨l, first, untimed, spins, delay⟩ := start_countsDown unlimited quick
  obtain ⟨l', rest⟩ := follow_of_spins (k := k) spins fun j _ => reached_of_unlimited unlimited j
  obtain ⟨whole, asked⟩ := follow_add first k
  obtain ⟨_, values⟩ := machine_follow_of_spins spins rest
  have ticks := count_tick_first (whole.trans rest)
  have left : l'.machine.state.delay.toNat = l.machine.state.delay.toNat - (l.requests p k).count .tick :=
    values .delay
  rw [asked, List.count_append, untimed, Nat.zero_add] at ticks
  rw [delay, ticks] at left
  exact ⟨l', whole.trans rest, left⟩

theorem ticks_per_second_countsDown :
    ∃ l l', (start countsDown).follow ⟨500, none⟩ 7 = (l, none) ∧ l.follow ⟨500, none⟩ 500 = (l', none) ∧
      l'.machine = l.machine.after (l.requests ⟨500, none⟩ 500) ∧
      59 ≤ (l.requests ⟨500, none⟩ 500).count .tick ∧
      l.machine.state.delay.toNat = 59 ∧ l'.machine.state.delay.toNat = 0 := by
  obtain ⟨l, before, delay⟩ := delay_countsDown (p := ⟨500, none⟩) (k := 7) rfl (by decide) (by decide)
  obtain ⟨l', whole, delay'⟩ := delay_countsDown (p := ⟨500, none⟩) (k := 7 + 500) rfl (by decide) (by decide)
  rw [(follow_add before 500).1] at whole
  obtain ⟨windows, _, slow, _⟩ := ticks_per_second ⟨500, none⟩ countsDown
  obtain ⟨machine, _, _, least⟩ := windows 7 l l' before whole
  exact ⟨l, l', before, whole, machine, least (slow (by decide)), delay, delay'⟩

/-- At this rate, the lowest to do so, an instruction takes 58 nanoseconds. The first second has 58 ticks, so the
    delay timer, set to 59 by the second instruction, is still on. -/
theorem ticks_per_second_lost :
    ∃ l, (start countsDown).follow ⟨16949153, none⟩ 16949153 = (l, none) ∧
      l.machine = countsDown.after ((start countsDown).requests ⟨16949153, none⟩ 16949153) ∧
      ((start countsDown).requests ⟨16949153, none⟩ 16949153).count .tick = 58 ∧
      l.machine.state.delay.toNat = 1 := by
  obtain ⟨l, followed, delay⟩ := delay_countsDown (p := ⟨16949153, none⟩) (k := 16949153) rfl (by decide) (by decide)
  obtain ⟨machine, _⟩ := machine_of_going followed
  have ticks : 16949153 * instructionTime 16949153 / timerPeriod = 58 := by decide +kernel
  exact ⟨l, followed, machine, (count_tick_first followed).trans ticks, delay⟩

end Loop

end Host

end Chip8
