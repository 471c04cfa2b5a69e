import Chip8.Proofs.Requests
import Mathlib.Data.List.DropRight

namespace Chip8

inductive Timer where
  | delay
  | sound

namespace Timer

def value : Timer → State → UInt8
  | delay, s => s.delay
  | sound, s => s.sound

def setBy? : Timer → State × Instruction → Option UInt8
  | delay, (s, .setDelay x) => some s.v[x]
  | sound, (s, .setSound x) => some s.v[x]
  | _, _ => none

theorem value_effect {d : Dialect} {r : RandomSource} {s t : State} {ins : Instruction} (timer : Timer)
    (effect : ins.effect d r s = .ok t) : timer.value t = (timer.setBy? (s, ins)).getD (timer.value s) := by
  cases ins with
  | setDelay x | setSound x =>
    cases effect
    cases timer <;> rfl
  | _ =>
    have footprint := Instruction.footprint_effect effect
    cases timer with
    | delay => exact footprint.delay nofun
    | sound => exact footprint.sound nofun

end Timer

namespace Exchange

def set? (e : Exchange) (timer : Timer) : Option UInt8 := e.executed?.bind timer.setBy?

end Exchange

namespace Timer

def lastSet (timer : Timer) (exchanges : List Exchange) : UInt8 :=
  (exchanges.reverse.findSome? (·.set? timer)).getD 0

def ticksSinceSet (timer : Timer) (exchanges : List Exchange) : Nat :=
  (exchanges.rtakeWhile fun e => (e.set? timer).isNone).countP (·.call = .tick)

def left (timer : Timer) (exchanges : List Exchange) : Nat :=
  (timer.lastSet exchanges).toNat - timer.ticksSinceSet exchanges

variable {timer : Timer} {exchanges : List Exchange} {e : Exchange}

theorem left_concat_of_set {b : UInt8} (set : e.set? timer = some b) : timer.left (exchanges ++ [e]) = b.toNat := by
  have last : timer.lastSet (exchanges ++ [e]) = b := by simp [lastSet, set]
  have none : timer.ticksSinceSet (exchanges ++ [e]) = 0 := by simp [ticksSinceSet, set]
  rw [left, last, none, Nat.sub_zero]

theorem left_concat_of_unset (unset : e.set? timer = none) :
    timer.left (exchanges ++ [e]) = timer.left exchanges - if e.call = .tick then 1 else 0 := by
  have last : timer.lastSet (exchanges ++ [e]) = timer.lastSet exchanges := by simp [lastSet, unset]
  have more : timer.ticksSinceSet (exchanges ++ [e]) =
      timer.ticksSinceSet exchanges + if e.call = .tick then 1 else 0 := by
    simp [ticksSinceSet, unset, List.countP_append, List.countP_singleton]
  rw [left, left, last, more, Nat.sub_add_eq]

end Timer

namespace Machine

open Timer

variable {m : Machine} {c : Call}

theorem toNat_tick (b : UInt8) : (if b = 0 then 0 else b - 1).toNat = b.toNat - 1 := by
  split
  · rename_i zero
    subst zero
    rfl
  · rename_i positive
    have bound := b.toNat_lt
    have nonzero : b.toNat ≠ 0 := fun zero => positive (UInt8.toNat_inj.mp zero)
    have one : (1 : UInt8).toNat = 1 := rfl
    rw [UInt8.toNat_sub, one]
    omega

theorem value_perform_of_set {timer : Timer} {b : UInt8}
    (set : Exchange.set? ⟨m, c, (m.perform c).1⟩ timer = some b) : timer.value (m.perform c).2.state = b := by
  rcases perform_cases m c with ⟨idle, _⟩ | ⟨ins, t, executed, _, _, _, effect, after⟩
  · rw [Exchange.set?, idle] at set
    cases set
  · rw [Exchange.set?, executed, Option.bind_some] at set
    rw [after, value_effect timer effect, set]
    rfl

theorem toNat_value_perform_of_unset {timer : Timer}
    (unset : Exchange.set? ⟨m, c, (m.perform c).1⟩ timer = none) :
    (timer.value (m.perform c).2.state).toNat = (timer.value m.state).toNat - if c = .tick then 1 else 0 := by
  rcases perform_cases m c with ⟨_, t, serves, after⟩ | ⟨ins, t, executed, rfl, _, _, effect, after⟩
  · rw [after]
    cases serves with
    | ticked => cases timer <;> exact toNat_tick _
    | kept ignored =>
      have other : c ≠ .tick := by
        rintro rfl
        exact ignored
      rw [if_neg other, Nat.sub_zero]
    | _ => cases timer <;> rfl
  · rw [Exchange.set?, executed, Option.bind_some] at unset
    rw [after, value_effect timer effect, unset]
    cases timer <;> rfl

theorem toNat_value_after (zero : ∀ timer : Timer, timer.value m.state = 0) (timer : Timer) (calls : List Call) :
    (timer.value (m.after calls).state).toNat = timer.left (m.history calls) := by
  induction calls using List.reverseRecOn with
  | nil => rw [after_nil, zero]; rfl
  | append_singleton calls c ih =>
    rw [history_concat, after_append, after_cons, after_nil]
    cases set : Exchange.set? ⟨m.after calls, c, ((m.after calls).perform c).1⟩ timer with
    | some b => rw [value_perform_of_set set, left_concat_of_set set]
    | none => rw [toNat_value_perform_of_unset set, left_concat_of_unset set, ih]

theorem value_after_of_untouched {timer : Timer} {between : List Call}
    (untouched : ∀ e ∈ m.history between, e.call ≠ .tick ∧ e.set? timer = none) :
    timer.value (m.after between).state = timer.value m.state := by
  induction between generalizing m with
  | nil => rfl
  | cons c between ih =>
    obtain ⟨⟨other, unset⟩, rest⟩ := List.forall_mem_cons.mp untouched
    rw [after_cons, ih rest]
    apply UInt8.toNat_inj.mp
    rw [toNat_value_perform_of_unset unset, if_neg other, Nat.sub_zero]

theorem timers_count_down (d : Dialect) (r : RandomSource) (calls : List Call) :
    let m := (start d r).after calls
    let exchanges := (start d r).history calls
    (∀ timer : Timer, (timer.value m.state).toNat =
      (timer.lastSet exchanges).toNat - timer.ticksSinceSet exchanges) ∧
    (∀ timer : Timer, (timer.value (m.perform .tick).2.state).toNat = timer.left exchanges - 1) ∧
    (∀ (timer : Timer) between, (∀ e ∈ m.history between, e.call ≠ .tick ∧ e.set? timer = none) →
      (timer.value (m.after between).state).toNat = timer.left exchanges) ∧
    (∀ x, (m.perform .cycle).1 = .stepped (.executed (.loadDelay x)) →
      (m.perform .cycle).2.state =
        { m.state.fetched with v := m.state.v.put x (UInt8.ofNat (Timer.delay.left exchanges)) }) ∧
    (m.beeping = true ↔ 0 < Timer.sound.left exchanges) := by
  intro m exchanges
  have shows (timer : Timer) : (timer.value m.state).toNat = timer.left exchanges :=
    toNat_value_after (m := start d r) (by rintro (_ | _) <;> rfl) timer calls
  refine ⟨shows, ?_, ?_, ?_, ?_⟩
  · intro timer
    rw [toNat_value_perform_of_unset rfl, if_pos rfl, shows]
  · intro timer between untouched
    rw [value_after_of_untouched untouched, shows]
  · intro x executed
    obtain ⟨_, _, t, effect, after⟩ := perform_of_executed executed
    cases effect
    rw [after, ← shows .delay, UInt8.ofNat_toNat]
    rfl
  · have sounds : m.beeping = true ↔ (0 : UInt8) < Timer.sound.value m.state := decide_eq_true_iff
    rw [sounds, ← shows .sound, UInt8.lt_iff_toNat_lt]
    rfl

/-- The requests up to an instruction that loads the delay timer, with both timers set to 3 before a tick. -/
def setsThenTicks : List Call :=
  [.load [0x60, 0x03, 0xF0, 0x15, 0xF0, 0x18, 0xF1, 0x07], .cycle, .cycle, .cycle, .tick]

theorem timers_count_down_loaded :
    let m := (start Dialect.standard (RandomSource.ofList [])).after setsThenTicks
    (m.perform .cycle).2.state.v[(1 : Register)] = 2 ∧ m.beeping = true ∧
      (Timer.delay.value (m.after [.press 4, .cycle, .takeFrame]).state).toNat = 2 := by
  intro m
  have executed : (m.perform .cycle).1 = .stepped (.executed (.loadDelay 1)) := by decide +kernel
  have untouched : ∀ e ∈ m.history [.press 4, .cycle, .takeFrame], e.call ≠ .tick ∧ e.set? .delay = none := by
    decide +kernel
  have delay : Timer.delay.left ((start Dialect.standard (RandomSource.ofList [])).history setsThenTicks) = 2 := by
    decide +kernel
  have sound : Timer.sound.left ((start Dialect.standard (RandomSource.ofList [])).history setsThenTicks) = 2 := by
    decide +kernel
  obtain ⟨_, _, kept, loads, sounds⟩ := timers_count_down Dialect.standard (RandomSource.ofList []) setsThenTicks
  refine ⟨?_, ?_, ?_⟩
  · rw [loads 1 executed, delay]
    simp
  · rw [sounds, sound]
    decide
  · rw [kept .delay _ untouched, delay]

end Machine

end Chip8
