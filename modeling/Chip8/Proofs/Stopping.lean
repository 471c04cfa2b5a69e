import Chip8.Host.Session
import Chip8.Proofs.KeyWait
import Chip8.Proofs.VirtualClock

namespace Chip8

namespace Machine

variable {m : Machine}

theorem cycle_eq_self {result : Except Fault Step} {m' : Machine} (cycled : m.cycle = (result, m'))
    (idle : ∀ ins, result ≠ .ok (.executed ins)) : m' = m := by
  cases cycles cycled with
  | executed => exact absurd rfl (idle _)
  | _ => rfl

end Machine

namespace Host

/-- What the loop asks of a machine for its first instructions: for each a cycle, the frame, and a tick for every
    timer period that ends in the time of the instruction. -/
def schedule (rate : UInt64) : Nat → List Call
  | 0 => []
  | k + 1 =>
    schedule rate k ++ .cycle :: .takeFrame ::
      List.replicate ((k + 1) * instructionTime rate / timerPeriod - k * instructionTime rate / timerPeriod) .tick

theorem count_cycle_schedule (rate : UInt64) (k : Nat) : (schedule rate k).count .cycle = k := by
  induction k with
  | zero => rfl
  | succ k ih =>
    rw [schedule, List.count_append, ih, List.count_cons_self, List.count_cons_of_ne (by decide), List.count_replicate]
    rfl

def Ending.ofResult : Except Fault Step → Option Ending
  | .ok (.executed _) => none
  | .ok .blocked => some (.stopped .blocked)
  | .error fault => some (.faulted fault)

theorem Ending.executes_of_ofResult_eq_none {result : Except Fault Step} (going : Ending.ofResult result = none) :
    ∃ ins, result = .ok (.executed ins) := by
  rcases result with fault | ins | _
  · cases going
  · exact ⟨ins, rfl⟩
  · cases going

namespace Loop

variable {p : Pace} {l l' : Loop} {m : Machine} {fuel k : Nat}

theorem turn_of_reached (reached : p.reached l.executed = true) : l.turn p = (l, some (.stopped .limit)) := by
  rw [turn, if_pos reached]

theorem turn_of_executed {ins : Instruction} (room : p.reached l.executed = false)
    (executed : l.machine.cycle.1 = .ok (.executed ins)) : l.turn p = (l.settle p l.machine.cycle.2, none) := by
  rw [turn, room]
  cases cycled : l.machine.cycle with
  | mk result m' =>
    rw [cycled] at executed
    cases executed
    rfl

theorem turn_of_ending {ending : Ending} (room : p.reached l.executed = false)
    (ends : Ending.ofResult l.machine.cycle.1 = some ending) : l.turn p = (l, some ending) := by
  rw [turn, room]
  cases cycled : l.machine.cycle with
  | mk result m' =>
    rw [cycled] at ends
    rcases result with fault | ins | _
    · obtain rfl := Machine.cycle_eq_self cycled nofun
      cases ends
      rfl
    · cases ends
    · obtain rfl := Machine.cycle_eq_self cycled nofun
      cases ends
      rfl

theorem follow_of_going (turned : l.turn p = (l', none)) (fuel : Nat) :
    l.follow p (fuel + 1) = l'.follow p fuel ∧ l.requests p (fuel + 1) = l.calls p ++ l'.requests p fuel := by
  simp [follow, requests, turned]

theorem follow_of_ending {ending : Ending} (turned : l.turn p = (l', some ending)) (fuel : Nat) :
    l.follow p (fuel + 1) = (l', some ending) ∧
      l.requests p (fuel + 1) = if p.reached l.executed then [] else [.cycle] := by
  simp [follow, requests, turned]

theorem follow_add (going : l.follow p k = (l', none)) (fuel : Nat) :
    l.follow p (k + fuel) = l'.follow p fuel ∧ l.requests p (k + fuel) = l.requests p k ++ l'.requests p fuel := by
  induction k generalizing l with
  | zero =>
    cases going
    simp [requests]
  | succ k ih =>
    rw [Nat.succ_add]
    cases turned : l.turn p with
    | mk next ending =>
      cases ending with
      | none =>
        obtain ⟨first, asked⟩ := follow_of_going turned k
        obtain ⟨whole, asked'⟩ := follow_of_going turned (k + fuel)
        rw [first] at going
        rw [whole, asked, asked', List.append_assoc]
        obtain ⟨followed, asked''⟩ := ih going
        exact ⟨followed, congrArg (l.calls p ++ ·) asked''⟩
      | some ending =>
        rw [(follow_of_ending turned k).1] at going
        cases going

theorem follow_schedule (room : ∀ j < k, p.reached j = false)
    (executes : ∀ j < k, ∃ ins, (m.after (schedule p.rate j)).cycle.1 = .ok (.executed ins)) :
    ∃ l, (start m).follow p k = (l, none) ∧ (start m).requests p k = schedule p.rate k ∧ l.executed = k ∧
      l.OnTime p ∧ l.machine = m.after (schedule p.rate k) := by
  induction k with
  | zero => exact ⟨start m, rfl, rfl, rfl, OnTime.start p m, rfl⟩
  | succ k ih =>
    obtain ⟨l, followed, asked, executed, onTime, machine⟩ :=
      ih (fun j early => room j (by omega)) (fun j early => executes j (by omega))
    obtain ⟨ins, cycled⟩ := executes k (Nat.lt_succ_self k)
    have turned : l.turn p = (l.settle p l.machine.cycle.2, none) := by
      apply turn_of_executed
      · rw [executed]
        exact room k (Nat.lt_succ_self k)
      · rw [machine]
        exact cycled
    obtain ⟨followed', asked'⟩ := follow_add followed 1
    obtain ⟨one, asked_one⟩ := follow_of_going turned 0
    have calls : l.calls p = .cycle :: .takeFrame :: List.replicate
        ((k + 1) * instructionTime p.rate / timerPeriod - k * instructionTime p.rate / timerPeriod) .tick := by
      rw [Loop.calls, onTime.ticked, executed]
    refine ⟨l.settle p l.machine.cycle.2, ?_, ?_, ?_, onTime.turn turned, ?_⟩
    · rw [followed', one]
      rfl
    · rw [asked', asked, asked_one, calls, schedule, requests, List.append_nil]
    · rw [executed_turn turned, executed]
    · rw [machine_turn turned, machine, calls, schedule, Machine.after_append]

/-- How a loop on a machine ended: after `k` instructions, with `ending`, having asked for `asked`. -/
structure Ended (m : Machine) (p : Pace) (fuel k : Nat) (ending : Ending) (asked : List Call) : Prop where
  ending : ((start m).follow p fuel).2 = some ending
  counted : ((start m).follow p fuel).1.executed = k
  requests : (start m).requests p fuel = asked
  machine : ((start m).follow p fuel).1.machine = m.after (schedule p.rate k)
  executed : (m.executions asked).length = k

theorem executions_calls {ins : Instruction} (cycled : l.machine.cycle.1 = .ok (.executed ins)) :
    l.machine.executions (l.calls p) = [(l.machine.state.fetched, ins)] := by
  have executed : Exchange.executed? ⟨l.machine, .cycle, (l.machine.perform .cycle).1⟩ =
      some (l.machine.state.fetched, ins) :=
    Machine.executed?_eq_some_iff.mpr ⟨Machine.perform_cycle_eq_stepped_iff.mpr cycled, rfl⟩
  rw [calls, Machine.executions_cons, executed, Machine.executions_of_no_cycle (by simp)]
  rfl

theorem executions_ending {ending : Ending} (turned : l.turn p = (l', some ending)) :
    l.machine.executions (if p.reached l.executed then [] else [.cycle]) = [] := by
  cases room : p.reached l.executed with
  | true => rfl
  | false =>
    have idle : Exchange.executed? ⟨l.machine, .cycle, (l.machine.perform .cycle).1⟩ = none := by
      apply Option.eq_none_iff_forall_not_mem.mpr
      intro execution found
      have replied := (Machine.executed?_eq_some_iff.mp found).1
      rw [turn_of_executed room (Machine.perform_cycle_eq_stepped_iff.mp replied)] at turned
      cases turned
    rw [if_neg (by decide), Machine.executions_cons, idle]
    rfl

theorem length_executions_requests (p : Pace) (l : Loop) (fuel : Nat) :
    l.executed + (l.machine.executions (l.requests p fuel)).length = (l.follow p fuel).1.executed := by
  induction fuel generalizing l with
  | zero => rfl
  | succ fuel ih =>
    cases turned : l.turn p with
    | mk l' ending =>
      cases ending with
      | none =>
        obtain ⟨followed, asked⟩ := follow_of_going turned fuel
        obtain ⟨ins, m, cycled, _⟩ := turn_eq_settle turned
        have later := ih l'
        rw [executed_turn turned] at later
        rw [followed, asked, Machine.executions_append, executions_calls (congrArg Prod.fst cycled),
          ← machine_turn turned, List.length_append, List.length_singleton]
        omega
      | some ending =>
        obtain ⟨followed, asked⟩ := follow_of_ending turned fuel
        rw [followed, asked, executions_ending turned, (executed_turn_ending turned).1]
        rfl

theorem Ended.of_schedule {ending : Ending} (room : ∀ j < k, p.reached j = false)
    (executes : ∀ j < k, ∃ ins, (m.after (schedule p.rate j)).cycle.1 = .ok (.executed ins))
    (ends : ∀ l : Loop, l.machine = m.after (schedule p.rate k) → l.executed = k → l.turn p = (l, some ending))
    (enough : k < fuel) : Ended m p fuel k ending (schedule p.rate k ++ if p.reached k then [] else [.cycle]) := by
  obtain ⟨l, followed, asked, executed, _, machine⟩ := follow_schedule room executes
  obtain ⟨rest, rfl⟩ := Nat.exists_eq_add_of_lt enough
  obtain ⟨followed', asked'⟩ := follow_add followed (rest + 1)
  obtain ⟨last, asked_last⟩ := follow_of_ending (ends l machine executed) rest
  rw [last] at followed'
  rw [asked, asked_last, executed] at asked'
  have total := length_executions_requests p (start m) (k + (rest + 1))
  rw [followed', asked', executed] at total
  constructor
  · exact congrArg Prod.snd followed'
  · exact (congrArg (fun r => r.1.executed) followed').trans executed
  · exact asked'
  · exact (congrArg (fun r => r.1.machine) followed').trans machine
  · exact (Nat.zero_add _).symm.trans total

theorem Ended.of_reply {ending : Ending} (room : ∀ j ≤ k, p.reached j = false)
    (executes : ∀ j < k, ∃ ins, (m.after (schedule p.rate j)).cycle.1 = .ok (.executed ins))
    (ends : Ending.ofResult (m.after (schedule p.rate k)).cycle.1 = some ending) (enough : k < fuel) :
    Ended m p fuel k ending (schedule p.rate k ++ [.cycle]) := by
  have last := room k (Nat.le_refl k)
  have ended : Ended m p fuel k ending (schedule p.rate k ++ if p.reached k then [] else [.cycle]) := by
    refine Ended.of_schedule (fun j early => room j (Nat.le_of_lt early)) executes ?_ enough
    intro l machine counted
    apply turn_of_ending
    · rw [counted]
      exact last
    · rw [machine]
      exact ends
  rwa [last] at ended

theorem Ended.of_limit (room : ∀ j < k, p.reached j = false) (full : p.reached k = true)
    (executes : ∀ j < k, ∃ ins, (m.after (schedule p.rate j)).cycle.1 = .ok (.executed ins)) (enough : k < fuel) :
    Ended m p fuel k (.stopped .limit) (schedule p.rate k) := by
  have ended : Ended m p fuel k (.stopped .limit) (schedule p.rate k ++ if p.reached k then [] else [.cycle]) := by
    refine Ended.of_schedule room executes ?_ enough
    intro l _ counted
    apply turn_of_reached
    rw [counted]
    exact full
  rwa [full, if_pos rfl, List.append_nil] at ended

theorem reached_eq_false (below : ∀ limit, p.limit = some limit → k < limit.toNat) : p.reached k = false := by
  unfold Pace.reached
  cases limited : p.limit with
  | none => rfl
  | some limit =>
    have beyond := below limit limited
    exact decide_eq_false (by omega)

theorem reached_of_unlimited (unlimited : p.limit = none) (n : Nat) : p.reached n = false := by
  rw [Pace.reached, unlimited]

theorem reached_iff {limit : UInt64} (limited : p.limit = some limit) (n : Nat) :
    p.reached n = true ↔ limit.toNat ≤ n := by
  simp [Pace.reached, limited]

theorem executed_follow_le {limit : UInt64} (limited : p.limit = some limit) (within : l.executed ≤ limit.toNat)
    (fuel : Nat) : (l.follow p fuel).1.executed ≤ limit.toNat := by
  induction fuel generalizing l with
  | zero => exact within
  | succ fuel ih =>
    cases turned : l.turn p with
    | mk l' ending =>
      cases ending with
      | none =>
        have below : l.executed < limit.toNat := by
          apply Nat.lt_of_not_le
          intro full
          rw [turn_of_reached ((reached_iff limited _).mpr full)] at turned
          cases turned
        rw [(follow_of_going turned fuel).1]
        apply ih
        rw [executed_turn turned]
        exact below
      | some ending =>
        rw [(follow_of_ending turned fuel).1, (executed_turn_ending turned).1]
        exact within

theorem follow_ends {limit : UInt64} (limited : p.limit = some limit) (enough : limit.toNat < fuel) :
    ((start m).follow p fuel).2 ≠ none := by
  intro going
  have counted := executed_follow going
  have within := executed_follow_le (l := start m) limited (Nat.zero_le _) fuel
  rw [counted, start, Nat.zero_add] at within
  omega

theorem turn_congr {q : Pace} (rate : q.rate = p.rate) (reached : q.reached l.executed = p.reached l.executed) :
    l.turn q = l.turn p := by
  unfold turn settle ticked
  rw [rate, reached]

theorem follow_of_looser {q : Pace} {ending : Ending} (rate : q.rate = p.rate)
    (looser : ∀ n, p.reached n = false → q.reached n = false) (ended : l.follow p fuel = (l', some ending))
    (other : ending ≠ .stopped .limit) : l.follow q fuel = (l', some ending) := by
  induction fuel generalizing l with
  | zero => cases ended
  | succ fuel ih =>
    -- As long as `p` allows a turn, so does `q`, and then both paces take the same turn.
    cases room : p.reached l.executed with
    | true =>
      rw [(follow_of_ending (turn_of_reached room) fuel).1] at ended
      cases ended
      exact absurd rfl other
    | false =>
      have same := turn_congr rate ((looser _ room).trans room.symm)
      cases turned : l.turn p with
      | mk next ending' =>
        rw [turned] at same
        cases ending' with
        | none =>
          rw [(follow_of_going turned fuel).1] at ended
          rw [(follow_of_going same fuel).1]
          exact ih ended
        | some ending' =>
          rw [(follow_of_ending turned fuel).1] at ended
          rw [(follow_of_ending same fuel).1, ended]

theorem executions_of_waiting {x : Register} (waits : l.machine.state.waiting = some x) :
    l.machine.executions (l.requests p fuel) = [] := by
  cases fuel with
  | zero => rfl
  | succ fuel =>
    cases turned : l.turn p with
    | mk l' ending =>
      cases ending with
      | none =>
        obtain ⟨ins, m, cycled, _⟩ := turn_eq_settle turned
        cases Machine.cycles cycled with
        | executed awake =>
          rw [waits] at awake
          cases awake
      | some ending => rw [(follow_of_ending turned fuel).2, executions_ending turned]

theorem waiting_turn {x : Register} (cycled : l.machine.cycle.1 = .ok (.executed (.waitKey x)))
    (turned : l.turn p = (l', none)) : l'.machine.state.waiting = some x := by
  obtain ⟨_, started⟩ := Machine.perform_waitKey (Machine.perform_cycle_eq_stepped_iff.mpr cycled)
  have waits : (l.machine.perform .cycle).2.state.waiting = some x := by rw [started]
  have quiet : (l.machine.perform .cycle).2.Unanswering (.takeFrame :: List.replicate (l.ticked p).1 .tick) :=
    Machine.unanswering_of_no_press (by simp)
  obtain ⟨⟨t, paused, after⟩, _⟩ := Machine.after_paused waits quiet
  rw [machine_turn turned, calls, Machine.after_cons, after]
  exact paused.waiting.trans waits

/-- Once an instruction waits for a key nothing more is executed, as the loop presses no key. -/
theorem waitKey_last {before later : List (State × Instruction)} {s : State} {x : Register}
    (executed : l.machine.executions (l.requests p fuel) = before ++ (s, .waitKey x) :: later) : later = [] := by
  induction fuel generalizing l before with
  | zero => simp [requests, Machine.executions, Machine.history] at executed
  | succ fuel ih =>
    cases turned : l.turn p with
    | mk l' ending =>
      cases ending with
      | none =>
        obtain ⟨ins, m, cycled, _⟩ := turn_eq_settle turned
        have cycled := congrArg Prod.fst cycled
        rw [(follow_of_going turned fuel).2, Machine.executions_append, executions_calls cycled,
          ← machine_turn turned, List.singleton_append] at executed
        cases before with
        | nil =>
          cases executed
          exact executions_of_waiting (waiting_turn cycled turned)
        | cons first before => exact ih (List.cons.inj executed).2
      | some ending =>
        rw [(follow_of_ending turned fuel).2, executions_ending turned] at executed
        simp at executed

theorem drive_stops (m : Machine) (rate : UInt64) :
    let reply (k : Nat) := (m.after (schedule rate k)).cycle.1
    let executes (k : Nat) : Prop := ∃ ins, reply k = .ok (.executed ins)
    (∀ k, (schedule rate k).count .cycle = k) ∧
    (∀ limit k, (∀ j < k, executes j) → (∀ n : UInt64, limit = some n → k < n.toNat) → ∀ fuel, k < fuel →
      (reply k = .ok .blocked →
        Ended m ⟨rate, limit⟩ fuel k (.stopped .blocked) (schedule rate k ++ [.cycle])) ∧
      ∀ fault, reply k = .error fault →
        Ended m ⟨rate, limit⟩ fuel k (.faulted fault) (schedule rate k ++ [.cycle])) ∧
    (∀ n : UInt64, (∀ j < n.toNat, executes j) → ∀ fuel, n.toNat < fuel →
      Ended m ⟨rate, some n⟩ fuel n.toNat (.stopped .limit) (schedule rate n.toNat)) ∧
    (∀ (n : UInt64) fuel, n.toNat < fuel → ((start m).follow ⟨rate, some n⟩ fuel).2 ≠ none) ∧
    (∀ (n : UInt64) fuel l ending, (start m).follow ⟨rate, some n⟩ fuel = (l, some ending) →
      ending ≠ .stopped .limit → ∀ limit : Option UInt64, (∀ n', limit = some n' → n ≤ n') →
      (start m).follow ⟨rate, limit⟩ fuel = (l, some ending)) ∧
    ∀ (c : Setup) reading outside, Session.prepare c reading outside = .ok m → ∀ fuel before s x later,
      m.executions ((start m).requests c.pace fuel) = before ++ (s, .waitKey x) :: later → later = [] := by
  intro reply executes
  refine ⟨count_cycle_schedule rate, ?_, ?_, ?_, ?_, ?_⟩
  · intro limit k executed below fuel enough
    have room : ∀ j ≤ k, Pace.reached ⟨rate, limit⟩ j = false := by
      intro j early
      apply reached_eq_false
      intro n limited
      exact Nat.lt_of_le_of_lt early (below n limited)
    constructor
    · intro blocked
      exact Ended.of_reply room executed (congrArg Ending.ofResult blocked) enough
    · intro fault faulted
      exact Ended.of_reply room executed (congrArg Ending.ofResult faulted) enough
  · intro n executed fuel enough
    have full : Pace.reached ⟨rate, some n⟩ n.toNat = true := (reached_iff rfl _).mpr (Nat.le_refl _)
    refine Ended.of_limit ?_ full executed enough
    intro j early
    apply reached_eq_false
    intro n' limited
    cases limited
    exact early
  · intro n fuel enough
    exact follow_ends (p := ⟨rate, some n⟩) rfl enough
  · intro n fuel l ending ended other limit larger
    refine follow_of_looser (p := ⟨rate, some n⟩) rfl ?_ ended other
    intro j room
    have below : ¬n.toNat ≤ j := of_decide_eq_false room
    apply reached_eq_false
    intro n' limited
    have order : n.toNat ≤ n'.toNat := larger n' limited
    omega
  · intro c reading outside _ fuel before s x later executed
    exact waitKey_last (l := start m) executed

/-- A program that executes one instruction and then waits for a key. -/
def waitsAfterOne : Machine :=
  (Machine.start Dialect.standard (RandomSource.ofList [])).after [.load [0x60, 0x05, 0xF1, 0x0A]]

theorem drive_stops_waiting :
    Ended waitsAfterOne ⟨500, none⟩ 5 2 (.stopped .blocked) (schedule 500 2 ++ [.cycle]) ∧
    Ended waitsAfterOne ⟨500, some 2⟩ 5 2 (.stopped .limit) (schedule 500 2) := by
  have first : ((waitsAfterOne.after (schedule 500 0)).perform .cycle).1 = .stepped (.executed (.loadByte 0 5)) := by
    decide +kernel
  have second : ((waitsAfterOne.after (schedule 500 1)).perform .cycle).1 = .stepped (.executed (.waitKey 1)) := by
    decide +kernel
  have third : ((waitsAfterOne.after (schedule 500 2)).perform .cycle).1 = .stepped .blocked := by decide +kernel
  have executed : ∀ j < 2, ∃ ins, (waitsAfterOne.after (schedule 500 j)).cycle.1 = .ok (.executed ins) := by
    intro j early
    have cases : j = 0 ∨ j = 1 := by omega
    rcases cases with rfl | rfl
    · exact ⟨_, Machine.perform_cycle_eq_stepped_iff.mp first⟩
    · exact ⟨_, Machine.perform_cycle_eq_stepped_iff.mp second⟩
  obtain ⟨_, stops, limited, _⟩ := drive_stops waitsAfterOne 500
  have blocked := Machine.perform_cycle_eq_stepped_iff.mp third
  exact ⟨(stops none 2 executed nofun 5 (by decide)).1 blocked, limited 2 executed 5 (by decide)⟩

end Loop

end Host

end Chip8
