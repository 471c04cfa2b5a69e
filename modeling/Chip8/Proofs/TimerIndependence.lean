import Chip8.Proofs.Panel
import Chip8.Proofs.Stopping

namespace Chip8

theorem Panel.after_timers (p : Panel) (delay sound : UInt8) (t : State) (result : Except Fault Step) :
    ∃ delay' sound', Panel.after { p with delay, sound } t result =
      { p.after t result with delay := delay', sound := sound' } := by
  unfold Panel.after
  split <;> exact ⟨_, _, rfl⟩

theorem State.Serves.timers {s t : State} {c : Call} (serves : s.Serves c t) (other : c ≠ .tick)
    (delay sound : UInt8) : State.Serves { s with delay, sound } c { t with delay, sound } := by
  cases serves with
  | kept ignored =>
    apply State.Serves.kept
    cases c <;> exact ignored
  | loaded fits => exact .loaded fits
  | pressed named inert => exact .pressed named inert
  | answered named up waits => exact .answered named up waits
  | released named => exact .released named
  | ticked => exact absurd rfl other
  | taken changed => exact .taken changed

namespace Machine

def withTimers (m : Machine) (delay sound : UInt8) : Machine :=
  { m with state := { m.state with delay := delay, sound := sound } }

def SameButTimers (m n : Machine) : Prop := ∃ delay sound, n = m.withTimers delay sound

variable {m n : Machine} {c : Call} {calls calls' : List Call}

theorem SameButTimers.refl (m : Machine) : m.SameButTimers m := ⟨m.state.delay, m.state.sound, rfl⟩

theorem SameButTimers.withTimers_eq (same : m.SameButTimers n) (delay sound : UInt8) :
    n.withTimers delay sound = m.withTimers delay sound := by
  rcases same with ⟨_, _, rfl⟩
  rfl

theorem SameButTimers.tick_left (same : m.SameButTimers n) : m.tick.SameButTimers n := by
  rcases same with ⟨delay, sound, rfl⟩
  exact ⟨delay, sound, rfl⟩

theorem SameButTimers.tick_right (same : m.SameButTimers n) : m.SameButTimers n.tick := by
  rcases same with ⟨delay, sound, rfl⟩
  exact ⟨_, _, rfl⟩

theorem SameButTimers.cycle (same : m.SameButTimers n) (unread : ∀ x, m.cycle.1 ≠ .ok (.executed (.loadDelay x))) :
    n.cycle.1 = m.cycle.1 ∧ m.cycle.2.SameButTimers n.cycle.2 := by
  rcases same with ⟨delay, sound, rfl⟩
  have cycled : (m.withTimers delay sound).cycle =
      (m.cycle.1, m.cycle.2.withPanel (Panel.after { m.state.panel with delay, sound } m.cycle.2.state m.cycle.1)) := by
    apply cycle_withPanel (p := { m.state.panel with delay, sound })
    · intro x executes
      exact absurd executes (unread x)
    · intro condition _
      exact Condition.holds_withPanel condition fun _ _ => rfl
  obtain ⟨delay', sound', after⟩ := m.state.panel.after_timers delay sound m.cycle.2.state m.cycle.1
  rw [cycled, after, ← panel_cycle]
  exact ⟨rfl, delay', sound', rfl⟩

theorem SameButTimers.perform (same : m.SameButTimers n) (other : c ≠ .tick)
    (unread : ∀ x, (m.perform c).1 ≠ .stepped (.executed (.loadDelay x))) :
    (n.perform c).1 = (m.perform c).1 ∧ (m.perform c).2.SameButTimers (n.perform c).2 := by
  by_cases isCycle : c = .cycle
  · subst isCycle
    obtain ⟨result, after⟩ := same.cycle fun x executes => unread x (perform_cycle_eq_stepped_iff.mpr executes)
    exact ⟨congrArg Reply.ofStep result, after⟩
  · rcases same with ⟨delay, sound, rfl⟩
    obtain ⟨t, serves, after⟩ := serves_perform (m := m) isCycle
    have after' := perform_of_serves (m := m.withTimers delay sound) (serves.timers other delay sound) isCycle
    rw [after, after']
    exact ⟨reply_perform_congr isCycle fun _ => ⟨rfl, rfl⟩, delay, sound, rfl⟩

theorem SameButTimers.ticks (same : m.SameButTimers n) (ticks : ∀ c ∈ calls, c = .tick) :
    m.SameButTimers (n.after calls) := by
  induction calls generalizing n with
  | nil => exact same
  | cons c calls ih =>
    obtain rfl := ticks c (.head calls)
    exact ih same.tick_right fun c member => ticks c (.tail _ member)

end Machine

def Exchange.untimed (e : Exchange) : Exchange := { e with before := e.before.withTimers 0 0 }

namespace Machine

variable {m n : Machine} {c : Call} {calls calls' : List Call}

def Unread (m : Machine) (calls : List Call) : Prop := ∀ s x, (s, .loadDelay x) ∉ m.executions calls

theorem unread_append {first second : List Call} :
    m.Unread (first ++ second) ↔ m.Unread first ∧ (m.after first).Unread second := by
  simp only [Unread, executions_append, List.mem_append, not_or, forall_and]

theorem Unread.tail (unread : m.Unread (c :: calls)) : (m.perform c).2.Unread calls := by
  have split : m.Unread ([c] ++ calls) := unread
  exact (unread_append.mp split).2

theorem Unread.head (unread : m.Unread (c :: calls)) (x : Register) :
    (m.perform c).1 ≠ .stepped (.executed (.loadDelay x)) := by
  intro executed
  have found : Exchange.executed? ⟨m, c, (m.perform c).1⟩ = some (m.state.fetched, .loadDelay x) :=
    executed?_eq_some_iff.mpr ⟨executed, rfl⟩
  apply unread m.state.fetched x
  rw [executions_cons, found]
  exact .head _

def answers (m : Machine) (calls : List Call) : List Exchange := (m.history calls).filter (·.call ≠ .tick)

theorem answers_cons (other : c ≠ .tick) :
    m.answers (c :: calls) = ⟨m, c, (m.perform c).1⟩ :: (m.perform c).2.answers calls := by
  rw [answers, history, List.filter_cons_of_pos (by simpa using other), answers]

theorem answers_append_ticks (ticks : ∀ c ∈ calls', c = .tick) :
    m.answers (calls' ++ calls) = (m.after calls').answers calls := by
  have none : (m.history calls').filter (·.call ≠ .tick) = [] := by
    apply List.filter_eq_nil_iff.mpr
    intro e member
    simp [ticks _ (call_of_mem_history member)]
  rw [answers, history_append, List.filter_append, none, List.nil_append, answers]

theorem SameButTimers.run (same : m.SameButTimers n) (alike : calls.filter (· ≠ .tick) = calls'.filter (· ≠ .tick))
    (unread : m.Unread calls) :
    (m.answers calls).map Exchange.untimed = (n.answers calls').map Exchange.untimed ∧
      (m.after calls).SameButTimers (n.after calls') := by
  induction calls generalizing m n calls' with
  | nil =>
    have ticks : ∀ c ∈ calls', c = .tick := by simpa using List.filter_eq_nil_iff.mp alike.symm
    have none : n.answers (calls' ++ []) = [] := answers_append_ticks ticks
    rw [List.append_nil] at none
    rw [none]
    exact ⟨rfl, same.ticks ticks⟩
  | cons c calls ih =>
    by_cases tick : c = .tick
    · subst tick
      rw [List.filter_cons_of_neg (by simp)] at alike
      have ticks : ∀ c ∈ [Call.tick], c = .tick := by simp
      rw [show Call.tick :: calls = [.tick] ++ calls from rfl, answers_append_ticks ticks]
      exact ih same.tick_left alike unread.tail
    · rw [List.filter_cons_of_pos (by simpa using tick)] at alike
      obtain ⟨ticks, rest, rfl, only, _, alike'⟩ := List.filter_eq_cons_iff.mp alike.symm
      have only : ∀ c ∈ ticks, c = .tick := by simpa using only
      have before := same.ticks only
      obtain ⟨reply, after⟩ := before.perform tick unread.head
      obtain ⟨answered, final⟩ := ih after alike'.symm unread.tail
      rw [answers_append_ticks only, answers_cons tick, answers_cons tick, after_append, List.map_cons,
        List.map_cons, answered, reply, Exchange.untimed, Exchange.untimed, before.withTimers_eq]
      exact ⟨rfl, final⟩

end Machine

namespace Host

namespace Loop

variable {p q : Pace} {l l' : Loop} {fuel : Nat}

/-- Loops that have executed as much, on machines that are the same but for the timers. -/
structure Abreast (l l' : Loop) : Prop where
  machine : l.machine.SameButTimers l'.machine
  executed : l'.executed = l.executed

theorem filter_calls (p : Pace) (l : Loop) : (l.calls p).filter (· ≠ .tick) = [.cycle, .takeFrame] := by
  simp [calls]

theorem unread_cycle (room : p.reached l.executed = false)
    (unread : l.machine.Unread (l.requests p (fuel + 1))) (x : Register) :
    l.machine.cycle.1 ≠ .ok (.executed (.loadDelay x)) := by
  intro executes
  obtain ⟨_, asked⟩ := follow_of_going (turn_of_executed room executes) fuel
  rw [asked] at unread
  exact (Machine.unread_append.mp unread).1.head x (Machine.perform_cycle_eq_stepped_iff.mpr executes)

theorem Abreast.follow (abreast : l.Abreast l') (limit : q.limit = p.limit)
    (unread : l.machine.Unread (l.requests p fuel)) :
    (l.follow p fuel).1.Abreast (l'.follow q fuel).1 ∧ (l'.follow q fuel).2 = (l.follow p fuel).2 := by
  induction fuel generalizing l l' with
  | zero => exact ⟨abreast, rfl⟩
  | succ fuel ih =>
    have reached : q.reached l'.executed = p.reached l.executed := by
      rw [Pace.reached, Pace.reached, limit, abreast.executed]
    cases room : p.reached l.executed with
    | true =>
      rw [room] at reached
      rw [(follow_of_ending (turn_of_reached room) fuel).1, (follow_of_ending (turn_of_reached reached) fuel).1]
      exact ⟨abreast, rfl⟩
    | false =>
      rw [room] at reached
      obtain ⟨result, _⟩ := abreast.machine.cycle (unread_cycle room unread)
      cases ends : Ending.ofResult l.machine.cycle.1 with
      | some ending =>
        have turned := turn_of_ending room ends
        have turned' := turn_of_ending (l := l') reached (by rw [result, ends])
        rw [(follow_of_ending turned fuel).1, (follow_of_ending turned' fuel).1]
        exact ⟨abreast, rfl⟩
      | none =>
        obtain ⟨ins, executes⟩ := Ending.executes_of_ofResult_eq_none ends
        have turned := turn_of_executed room executes
        have turned' := turn_of_executed (l := l') reached (by rw [result, executes])
        obtain ⟨followed, asked⟩ := follow_of_going turned fuel
        rw [asked, Machine.unread_append, ← machine_turn turned] at unread
        rw [followed, (follow_of_going turned' fuel).1]
        refine ih ⟨?_, ?_⟩ unread.2
        · rw [machine_turn turned, machine_turn turned']
          have alike : (l.calls p).filter (· ≠ .tick) = (l'.calls q).filter (· ≠ .tick) := by
            rw [filter_calls, filter_calls]
          exact (abreast.machine.run alike unread.1).2
        · rw [executed_turn turned, executed_turn turned', abreast.executed]

theorem abreast_follow {m : Machine} (rate : UInt64)
    (unread : m.Unread ((start m).requests p fuel)) :
    ((start m).follow p fuel).1.Abreast ((start m).follow { p with rate } fuel).1 ∧
      ((start m).follow { p with rate } fuel).2 = ((start m).follow p fuel).2 := by
  have together : (start m).Abreast (start m) := ⟨.refl m, rfl⟩
  exact together.follow rfl unread

end Loop

namespace Session

open Machine

theorem conclude_eq_of_abreast {l l' : Loop} (abreast : l.Abreast l') : conclude l' = conclude l := by
  rcases abreast.machine with ⟨delay, sound, same⟩
  funext ending
  rw [conclude, same]
  rfl

theorem run_eq_of_rate {c : Setup} {reading : Reading} {outside : RandomSource} {fuel : Nat} (rate : UInt64)
    (unread : ∀ m, prepare c reading outside = .ok m → m.Unread ((Loop.start m).requests c.pace fuel)) :
    run { c with pace := { c.pace with rate } } reading outside fuel = run c reading outside fuel := by
  have prepared : prepare { c with pace := { c.pace with rate } } reading outside = prepare c reading outside := rfl
  unfold run
  rw [prepared]
  cases ready : prepare c reading outside with
  | error failure => rfl
  | ok m =>
    obtain ⟨abreast, ending⟩ := Loop.abreast_follow rate (unread m ready)
    show Option.map (conclude _) _ = Option.map (conclude _) _
    rw [ending, conclude_eq_of_abreast abreast]

theorem timer_noninterference (d : Dialect) (r : RandomSource) (c : Setup) (reading : Reading)
    (outside : RandomSource) :
    (∀ calls calls', calls.filter (· ≠ .tick) = calls'.filter (· ≠ .tick) →
      (start d r).Unread calls →
      ((start d r).answers calls).map Exchange.untimed = ((start d r).answers calls').map Exchange.untimed ∧
      ((start d r).after calls).SameButTimers ((start d r).after calls')) ∧
    ∀ fuel report, run c reading outside fuel = some report →
      (∀ m, prepare c reading outside = .ok m → m.Unread ((Loop.start m).requests c.pace fuel)) →
      ∀ rate, run { c with pace := { c.pace with rate } } reading outside fuel = some report ∧
        ∀ m, prepare c reading outside = .ok m →
          ((Loop.start m).follow { c.pace with rate } fuel).1.executed =
            ((Loop.start m).follow c.pace fuel).1.executed := by
  constructor
  · intro calls calls' alike unread
    exact (SameButTimers.refl (start d r)).run alike unread
  · intro fuel report reported unread rate
    refine ⟨(run_eq_of_rate rate unread).trans reported, ?_⟩
    intro m ready
    exact (Loop.abreast_follow rate (unread m ready)).1.executed

theorem unread_of_executed {m : Machine} {calls : List Call} {executed : List Instruction}
    (listed : (m.executions calls).map Prod.snd = executed) (unread : ∀ x, .loadDelay x ∉ executed) :
    m.Unread calls := by
  intro s x member
  rw [← listed] at unread
  exact unread x (List.mem_map_of_mem member)

/-- A program that sets the delay timer and waits for a key. -/
def setsDelay : List UInt8 := [0x60, 0x05, 0xF0, 0x15, 0xF1, 0x0A]

def setsDelayLoaded : Machine := (Machine.start Dialect.standard (.ofList [])).after [.load setsDelay]

def setsDelayAt (rate : UInt64) : Setup := ⟨"", ⟨rate, none⟩, none, Dialect.standard, "", true⟩

theorem timer_noninterference_sets_delay :
    ((start Dialect.standard (.ofList [])).after [.load setsDelay, .cycle, .cycle]).SameButTimers
      ((start Dialect.standard (.ofList [])).after [.tick, .load setsDelay, .cycle, .tick, .cycle, .tick]) ∧
    run (setsDelayAt 1) (.ok setsDelay) (.ofList []) 5 = run (setsDelayAt 500) (.ok setsDelay) (.ofList []) 5 := by
  obtain ⟨runs, sessions⟩ :=
    timer_noninterference Dialect.standard (.ofList []) (setsDelayAt 500) (.ok setsDelay) (.ofList [])
  constructor
  · have executed : ((start Dialect.standard (.ofList [])).executions [.load setsDelay, .cycle, .cycle]).map Prod.snd =
        [.loadByte 0 5, .setDelay 0] := by
      decide +kernel
    have unread := unread_of_executed executed (by simp)
    exact (runs _ _ (by decide) unread).2
  · have ready : prepare (setsDelayAt 500) (.ok setsDelay) (.ofList []) = .ok setsDelayLoaded := rfl
    have executed : (setsDelayLoaded.executions ((Loop.start setsDelayLoaded).requests ⟨500, none⟩ 5)).map Prod.snd =
        [.loadByte 0 5, .setDelay 0, .waitKey 1] := by
      decide +kernel
    have ended : (run (setsDelayAt 500) (.ok setsDelay) (.ofList []) 5).isSome := by decide +kernel
    obtain ⟨report, reported⟩ := Option.isSome_iff_exists.mp ended
    have unread := unread_of_executed executed (by simp)
    rw [reported]
    apply (sessions 5 report reported _ 1).1
    intro m' ready'
    rw [ready] at ready'
    cases ready'
    exact unread

end Session

end Host

end Chip8
