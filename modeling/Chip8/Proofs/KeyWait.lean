import Chip8.Proofs.Memory
import Chip8.Proofs.Requests

namespace Chip8

namespace Key

def number (k : Key) : UInt8 := UInt8.ofNat k.val

theorem toNat_number (k : Key) : k.number.toNat = k.val := by
  have bound : k.val < 16 := k.isLt
  rw [Key.number, UInt8.toNat_ofNat']
  omega

theorem eq_number_of_toNat {k : Key} {named : UInt8} (same : named.toNat = k.val) : named = k.number := by
  apply UInt8.toNat_inj.mp
  rw [same, k.toNat_number]

theorem number_inj {k l : Key} : k.number = l.number ↔ k = l := by
  rw [← UInt8.toNat_inj, k.toNat_number, l.toNat_number, Fin.ext_iff]

theorem ne_number_of_le {named : UInt8} (outside : 16 ≤ named.toNat) (k : Key) : named ≠ k.number := by
  intro same
  have bound : k.val < 16 := k.isLt
  rw [same, k.toNat_number] at outside
  omega

end Key

def Machine.awaitsKey (m : Machine) : Bool := m.state.waiting.isSome

namespace Exchange

def after (e : Exchange) : Machine := (e.before.perform e.call).2

def Unanswering (e : Exchange) : Prop := ∀ k : Key, e.call = .press k.number → e.before.state.keys[k] = true

def keysDown (e : Exchange) : List Key :=
  (List.finRange 16).filter fun k => !e.before.state.keys[k] && e.after.state.keys[k]

def startsWait (e : Exchange) : Bool :=
  match e.reply with
  | .stepped (.executed (.waitKey _)) => true
  | _ => false

def endsWait (e : Exchange) : Bool := e.before.awaitsKey && !e.after.awaitsKey

end Exchange

namespace State

/-- What a host may change of a state while a register waits and no key answers it. -/
def Paused (s t : State) : Prop := ∃ memory delay sound keys redraw, t = { s with memory, delay, sound, keys, redraw }

variable {s t : State}

theorem Paused.refl (s : State) : s.Paused s := ⟨s.memory, s.delay, s.sound, s.keys, s.redraw, rfl⟩

theorem Paused.trans {u : State} (first : s.Paused t) (second : t.Paused u) : s.Paused u := by
  obtain ⟨_, _, _, _, _, rfl⟩ := first
  obtain ⟨memory, delay, sound, keys, redraw, rfl⟩ := second
  exact ⟨memory, delay, sound, keys, redraw, rfl⟩

theorem Paused.waiting (paused : s.Paused t) : t.waiting = s.waiting := by
  obtain ⟨_, _, _, _, _, rfl⟩ := paused
  rfl

end State

namespace Machine

def Unanswering (m : Machine) (calls : List Call) : Prop := ∀ e ∈ m.history calls, e.Unanswering

variable {m : Machine} {c : Call} {x : Register} {k : Key}

theorem getElem_put_key (keys : Vector Bool 16) (k l : Key) (down : Bool) :
    (keys.put l down)[k] = if l.number = k.number then down else keys[k] := by
  by_cases same : l = k
  · simp [same]
  · simp [Key.number_inj, same, Fin.val_ne_of_ne same]

theorem keys_perform (m : Machine) (c : Call) (k : Key) :
    (m.perform c).2.state.keys[k] =
      if c = .press k.number then true else if c = .release k.number then false else m.state.keys[k] := by
  rcases perform_cases m c with ⟨_, t, serves, after⟩ | ⟨ins, t, _, isCycle, _, _, effect, after⟩
  · rw [after]
    cases serves with
    | kept ignored =>
      cases c with
      | press number => simp [Key.ne_number_of_le ignored k]
      | release number => simp [Key.ne_number_of_le ignored k]
      | _ => simp
    | pressed named | answered named | released named =>
      obtain rfl := Key.eq_number_of_toNat named
      refine (getElem_put_key m.state.keys k _ _).trans ?_
      simp
    | _ => simp
  · rw [after, isCycle]
    simp [(Instruction.footprint_effect effect).keys, State.fetched]

theorem goes_down_iff {e : Exchange} :
    (!e.before.state.keys[k] && e.after.state.keys[k]) = true ↔
      e.call = .press k.number ∧ e.before.state.keys[k] = false := by
  rw [Exchange.after, keys_perform]
  by_cases pressed : e.call = .press k.number
  · simp [pressed]
  · by_cases released : e.call = .release k.number
    · simp [released]
    · simp [pressed, released]

theorem keysDown_of_press {e : Exchange} (pressed : e.call = .press k.number)
    (up : e.before.state.keys[k] = false) : e.keysDown = [k] := by
  have single : ∀ k : Key, (List.finRange 16).filter (fun l => l == k) = [k] := by decide
  rw [← single k]
  apply List.filter_congr
  intro l _
  rw [Bool.eq_iff_iff, goes_down_iff, beq_iff_eq, pressed, Call.press.injEq, Key.number_inj]
  constructor
  · intro down
    exact down.1.symm
  · intro same
    subst same
    exact ⟨rfl, up⟩

theorem keysDown_of_unanswering {e : Exchange} (quiet : e.Unanswering) : e.keysDown = [] := by
  apply List.filter_eq_nil_iff.mpr
  intro k _ down
  obtain ⟨pressed, up⟩ := goes_down_iff.mp down
  rw [quiet k pressed] at up
  cases up

theorem unanswering_or_press (e : Exchange) :
    e.Unanswering ∨ ∃ k : Key, e.call = .press k.number ∧ e.before.state.keys[k] = false := by
  by_cases quiet : e.Unanswering
  · exact .inl quiet
  · obtain ⟨k, loud⟩ := Classical.not_forall.mp quiet
    obtain ⟨pressed, up⟩ := Classical.not_imp.mp loud
    exact .inr ⟨k, pressed, Bool.not_eq_true _ ▸ up⟩

theorem unanswering_of_no_press {calls : List Call} (noPress : ∀ number, .press number ∉ calls) :
    m.Unanswering calls := by
  intro e member k pressed
  have listed := call_of_mem_history member
  rw [pressed] at listed
  exact absurd listed (noPress _)

theorem perform_press (m : Machine) (k : Key) : m.perform (.press k.number) = (.done, m.keyDown k) := by
  have bound : k.val < 16 := k.isLt
  have named : key? k.number = .ok k := by
    simp [key?, k.toNat_number]
  simp only [perform, press, onKey, named]
  rfl

theorem perform_press_answers (waits : m.state.waiting = some x) (up : m.state.keys[k] = false) :
    m.perform (.press k.number) =
      (.done, { m with
        state := { m.state with
          v := m.state.v.put x k.number
          keys := m.state.keys.put k true
          waiting := none } }) := by
  rw [perform_press, keyDown, up, waits]
  rfl

theorem perform_paused (waits : m.state.waiting = some x)
    (quiet : Exchange.Unanswering ⟨m, c, (m.perform c).1⟩) :
    (∃ t, m.state.Paused t ∧ (m.perform c).2 = { m with state := t }) ∧
      (c = .cycle → (m.perform c).1 = .stepped .blocked) := by
  constructor
  · rcases perform_cases m c with ⟨_, t, serves, after⟩ | ⟨_, _, _, _, awake, _⟩
    · refine ⟨t, ?_, after⟩
      cases serves with
      | kept => exact State.Paused.refl _
      | loaded => exact ⟨_, m.state.delay, m.state.sound, m.state.keys, m.state.redraw, rfl⟩
      | pressed | released => exact ⟨m.state.memory, m.state.delay, m.state.sound, _, m.state.redraw, rfl⟩
      | answered named up =>
        obtain rfl := Key.eq_number_of_toNat named
        have down := quiet _ rfl
        rw [up] at down
        cases down
      | ticked => exact ⟨m.state.memory, _, _, m.state.keys, m.state.redraw, rfl⟩
      | taken => exact ⟨m.state.memory, m.state.delay, m.state.sound, m.state.keys, false, rfl⟩
    · rw [waits] at awake
      cases awake
  · intro isCycle
    subst isCycle
    simp [perform, cycle, waits, Reply.ofStep]

theorem after_paused {calls : List Call} (waits : m.state.waiting = some x) (quiet : m.Unanswering calls) :
    (∃ t, m.state.Paused t ∧ m.after calls = { m with state := t }) ∧
      ∀ e ∈ m.history calls, e.call = .cycle → e.reply = .stepped .blocked := by
  induction calls generalizing m with
  | nil =>
    refine ⟨⟨m.state, State.Paused.refl _, rfl⟩, ?_⟩
    intro e member
    cases member
  | cons c calls ih =>
    obtain ⟨first, rest⟩ := List.forall_mem_cons.mp quiet
    obtain ⟨⟨t, paused, after⟩, blocked⟩ := perform_paused waits first
    have waits' : (m.perform c).2.state.waiting = some x := by
      rw [after]
      exact paused.waiting.trans waits
    obtain ⟨⟨u, paused', after'⟩, blocked'⟩ := ih waits' rest
    constructor
    · refine ⟨u, ?_, ?_⟩
      · rw [after] at paused'
        exact paused.trans paused'
      · rw [after_cons, after', after]
    · intro e member
      rcases List.mem_cons.mp member with rfl | member
      · exact blocked
      · exact blocked' e member

theorem perform_waitKey (executed : (m.perform c).1 = .stepped (.executed (.waitKey x))) :
    m.state.waiting = none ∧
      (m.perform c).2 = { m with state := { m.state.fetched with waiting := some x } } := by
  obtain ⟨awake, _, t, effect, after⟩ := perform_of_executed executed
  cases effect
  exact ⟨awake, after⟩

theorem waitKey_of_waiting_perform (awake : m.state.waiting = none)
    (waits : (m.perform c).2.state.waiting = some x) :
    (m.perform c).1 = .stepped (.executed (.waitKey x)) ∧ c = .cycle := by
  rcases perform_cases m c with ⟨_, t, serves, after⟩ | ⟨ins, t, executed, isCycle, _, _, effect, after⟩
  · rw [after] at waits
    have asleep : t.waiting = none := by
      cases serves with
      | answered => rfl
      | _ => exact awake
    rw [asleep] at waits
    cases waits
  · refine ⟨?_, isCycle⟩
    rw [after] at waits
    have replied : (m.perform c).1 = .stepped (.executed ins) := (executed?_eq_some_iff.mp executed).1
    by_cases starts : ∃ y, ins = .waitKey y
    · obtain ⟨y, rfl⟩ := starts
      cases effect
      cases waits
      exact replied
    · have other : ∀ y, ins ≠ .waitKey y := fun y same => starts ⟨y, same⟩
      rw [(Instruction.footprint_effect effect).waiting other] at waits
      rw [State.fetched, awake] at waits
      cases waits

/-- The register waits since the instruction at an address was executed, and no key has gone down since. -/
def WaitsSince (m : Machine) (x : Register) (a : UInt16) : Prop :=
  ∃ (n : Machine) (calls : List Call), n.Reachable ∧ n.state.pc = a ∧
    (n.perform .cycle).1 = .stepped (.executed (.waitKey x)) ∧ (n.perform .cycle).2.Unanswering calls ∧
    m = (n.perform .cycle).2.after calls

theorem WaitsSince.after {calls : List Call} {a : UInt16} (since : m.WaitsSince x a) (quiet : m.Unanswering calls) :
    (m.after calls).WaitsSince x a := by
  obtain ⟨n, earlier, reached, pc, executed, quiets, rfl⟩ := since
  refine ⟨n, earlier ++ calls, reached, pc, executed, ?_, (after_append _ _ _).symm⟩
  intro e member
  rw [history_append] at member
  rcases List.mem_append.mp member with member | member
  · exact quiets e member
  · exact quiet e member

theorem Reachable.waitsSince (reached : m.Reachable) (waits : m.state.waiting = some x) :
    ∃ a, m.WaitsSince x a := by
  induction reached with
  | start d r => cases waits
  | @perform m reached c ih =>
    cases before : m.state.waiting with
    | none =>
      obtain ⟨executed, rfl⟩ := waitKey_of_waiting_perform before waits
      refine ⟨m.state.pc, m, [], reached, rfl, executed, ?_, rfl⟩
      intro e member
      cases member
    | some y =>
      rcases unanswering_or_press ⟨m, c, (m.perform c).1⟩ with quiet | ⟨k, pressed, up⟩
      · obtain ⟨⟨t, paused, after⟩, _⟩ := perform_paused before quiet
        have same : y = x := by
          rw [after, paused.waiting.trans before] at waits
          exact Option.some.inj waits
        subst same
        obtain ⟨a, since⟩ := ih before
        have quiets : m.Unanswering [c] := List.forall_mem_singleton.mpr quiet
        exact ⟨a, since.after quiets⟩
      · dsimp only at pressed up
        rw [pressed, perform_press_answers before up] at waits
        cases waits

theorem WaitsSince.pc {a : UInt16} (since : m.WaitsSince x a) :
    m.state.waiting = some x ∧ m.state.pc = (a + 2) % 4096 := by
  obtain ⟨n, calls, _, rfl, executed, quiet, rfl⟩ := since
  obtain ⟨_, started⟩ := perform_waitKey executed
  have waits : (n.perform .cycle).2.state.waiting = some x := by rw [started]
  obtain ⟨⟨t, ⟨_, _, _, _, _, rfl⟩, after⟩, _⟩ := after_paused waits quiet
  rw [after]
  refine ⟨waits, ?_⟩
  rw [started, ← wrap_eq_mod]
  rfl

/-- The next cycle fetches the opcode at an address: it is noted with the registers of the time, and what is
    executed is its instruction. -/
structure FetchesAt (m : Machine) (a : UInt16) : Prop where
  noted : m.cycleEvents.head? = some (.fetched (m.state.memory.word a) m.state.v m.state.index a)
  executed : ∀ ins, m.cycle.1 = .ok (.executed ins) → Instruction.decode? (m.state.memory.word a) = some ins

theorem fetchesAt_pc (awake : m.state.waiting = none) : m.FetchesAt m.state.pc := by
  cases cycled : m.cycle with
  | mk result m' =>
    cases cycles cycled with
    | blocked waits =>
      rw [awake] at waits
      cases waits
    | undecoded | faulted =>
      constructor
      · simp [cycleEvents, cycled]
      · simp [cycled]
    | @executed ins _ _ decoded =>
      constructor
      · rw [cycleEvents, cycled]
        cases ins <;> rfl
      · rw [cycled]
        intro other same
        cases same
        exact decoded

theorem after_without_cycle {calls : List Call} (awake : m.state.waiting = none) (idle : .cycle ∉ calls) :
    (m.after calls).state.waiting = none ∧ (m.after calls).state.pc = m.state.pc := by
  induction calls generalizing m with
  | nil => exact ⟨awake, rfl⟩
  | cons c calls ih =>
    have other : c ≠ .cycle := fun same => idle (same ▸ .head calls)
    have rest : .cycle ∉ calls := fun member => idle (.tail c member)
    obtain ⟨t, serves, after⟩ := serves_perform (m := m) other
    have kept : t.waiting = none ∧ t.pc = m.state.pc := by
      cases serves with
      | answered => exact ⟨rfl, rfl⟩
      | _ => exact ⟨awake, rfl⟩
    rw [after_cons, after]
    obtain ⟨awake', pc⟩ := ih (m := { m with state := t }) kept.1 rest
    exact ⟨awake', pc.trans kept.2⟩

theorem WaitsSince.fetchesAt {a : UInt16} {between : List Call} (since : m.WaitsSince x a)
    (up : m.state.keys[k] = false) (idle : .cycle ∉ between) :
    ((m.perform (.press k.number)).2.after between).FetchesAt ((a + 2) % 4096) := by
  obtain ⟨waits, pc⟩ := since.pc
  have answered := perform_press_answers waits up
  have awake : (m.perform (.press k.number)).2.state.waiting = none := by rw [answered]
  have stays : (m.perform (.press k.number)).2.state.pc = (a + 2) % 4096 := by
    rw [answered]
    exact pc
  obtain ⟨awake', pc'⟩ := after_without_cycle awake idle
  rw [← stays, ← pc']
  exact fetchesAt_pc awake'

theorem startsWait_eq (m : Machine) (c : Call) :
    Exchange.startsWait ⟨m, c, (m.perform c).1⟩ = (!m.awaitsKey && (m.perform c).2.awaitsKey) := by
  rw [Bool.eq_iff_iff]
  constructor
  · intro starts
    unfold Exchange.startsWait at starts
    split at starts
    · rename_i x replied
      obtain ⟨awake, after⟩ := perform_waitKey replied
      rw [awaitsKey, awake, after]
      rfl
    · cases starts
  · intro becomes
    obtain ⟨asleep, waits⟩ := Bool.and_eq_true_iff.mp becomes
    have awake : m.state.waiting = none := by simpa [awaitsKey] using asleep
    obtain ⟨x, waits⟩ := Option.isSome_iff_exists.mp waits
    obtain ⟨executed, _⟩ := waitKey_of_waiting_perform awake waits
    simp [Exchange.startsWait, executed]

/-- A wait that was there before or starts in a run either ends in it or is there after it. -/
theorem countP_startsWait (m : Machine) (calls : List Call) :
    m.awaitsKey.toNat + (m.history calls).countP Exchange.startsWait =
      (m.history calls).countP Exchange.endsWait + (m.after calls).awaitsKey.toNat := by
  induction calls generalizing m with
  | nil => simp [history]
  | cons c calls ih =>
    -- What one request adds to either side depends only on whether a register waits before and after it.
    have balance : ∀ before after : Bool,
        before.toNat + (if (!before && after) = true then 1 else 0) =
          (if (before && !after) = true then 1 else 0) + after.toNat := by decide
    have step := balance m.awaitsKey (m.perform c).2.awaitsKey
    have rest := ih (m.perform c).2
    rw [history, List.countP_cons, List.countP_cons, after_cons, startsWait_eq, Exchange.endsWait, Exchange.after]
    dsimp only
    omega

theorem length_keysDown (waits : m.state.waiting = some x) (c : Call) :
    (Exchange.keysDown ⟨m, c, (m.perform c).1⟩).length =
      if Exchange.endsWait ⟨m, c, (m.perform c).1⟩ then 1 else 0 := by
  rcases unanswering_or_press ⟨m, c, (m.perform c).1⟩ with quiet | ⟨k, pressed, up⟩
  · obtain ⟨⟨t, paused, after⟩, _⟩ := perform_paused waits quiet
    simp [keysDown_of_unanswering quiet, Exchange.endsWait, Exchange.after, awaitsKey, after, paused.waiting, waits]
  · have answered : Exchange.endsWait ⟨m, c, (m.perform c).1⟩ = true := by
      dsimp only at pressed up
      simp [Exchange.endsWait, Exchange.after, awaitsKey, pressed, perform_press_answers waits up, waits]
    rw [keysDown_of_press pressed up, answered]
    rfl

theorem countP_endsWait (m : Machine) (calls : List Call) :
    (m.history calls).countP Exchange.endsWait =
      (((m.history calls).filter fun e => e.before.awaitsKey).flatMap Exchange.keysDown).length := by
  induction calls generalizing m with
  | nil => rfl
  | cons c calls ih =>
    rw [history, List.countP_cons, List.filter_cons, ih]
    cases waits : m.state.waiting with
    | none => simp [Exchange.endsWait, awaitsKey, waits]
    | some x =>
      have blocked : m.awaitsKey = true := by simp [awaitsKey, waits]
      rw [if_pos blocked, List.flatMap_cons, List.length_append, length_keysDown waits, Nat.add_comm]

theorem keys_after {calls : List Call} (down : m.state.keys[k] = true) (held : .release k.number ∉ calls) :
    (m.after calls).state.keys[k] = true := by
  induction calls generalizing m with
  | nil => exact down
  | cons c calls ih =>
    have other : c ≠ .release k.number := fun same => held (same ▸ .head calls)
    refine ih ?_ fun member => held (.tail c member)
    rw [keys_perform, if_neg other, down, ite_self]

theorem waiting_perform_held (waits : m.state.waiting = some x) (down : m.state.keys[k] = true) :
    (m.perform (.press k.number)).2.state.waiting = some x := by
  have quiet : Exchange.Unanswering ⟨m, .press k.number, (m.perform (.press k.number)).1⟩ := by
    intro l pressed
    rw [Call.press.injEq, Key.number_inj] at pressed
    exact pressed ▸ down
  obtain ⟨⟨t, paused, after⟩, _⟩ := perform_paused waits quiet
  rw [after]
  exact paused.waiting.trans waits

theorem after_release_press (waits : m.state.waiting = some x) (k : Key) :
    (m.after [.release k.number, .press k.number]).state.waiting = none ∧
      (m.after [.release k.number, .press k.number]).state.v[x] = k.number := by
  have quiet : Exchange.Unanswering ⟨m, .release k.number, (m.perform (.release k.number)).1⟩ := nofun
  obtain ⟨⟨t, paused, after⟩, _⟩ := perform_paused waits quiet
  have waits' : (m.perform (.release k.number)).2.state.waiting = some x := by
    rw [after]
    exact paused.waiting.trans waits
  have up : (m.perform (.release k.number)).2.state.keys[k] = false := by
    rw [keys_perform]
    simp
  rw [after_cons, after_cons, after_nil, perform_press_answers waits' up]
  simp

theorem key_answers_wait (reached : m.Reachable) :
    (∀ x, m.state.waiting = some x → ∃ a, m.WaitsSince x a ∧ ∀ calls, m.Unanswering calls →
      (∃ memory delay sound keys redraw,
        m.after calls = { m with state := { m.state with memory, delay, sound, keys, redraw } }) ∧
      (∀ e ∈ m.history calls, e.call = .cycle → e.reply = .stepped .blocked) ∧
      ∀ k : Key, (m.after calls).state.keys[k] = false →
        let w := m.after calls
        w.perform (.press k.number) =
          (.done, { w with
            state := { w.state with
              v := w.state.v.put x k.number
              keys := w.state.keys.put k true
              waiting := none } }) ∧
        ∀ between, .cycle ∉ between →
          ((w.perform (.press k.number)).2.after between).FetchesAt ((a + 2) % 4096)) ∧
    (∀ calls,
      (m.history calls).countP Exchange.endsWait =
        (((m.history calls).filter fun e => e.before.awaitsKey).flatMap Exchange.keysDown).length ∧
      m.awaitsKey.toNat + (m.history calls).countP Exchange.startsWait =
        (m.history calls).countP Exchange.endsWait + (m.after calls).awaitsKey.toNat ∧
      ∀ e ∈ m.history calls, ∀ (x : Register) (k : Key), e.before.state.waiting = some x → k ∈ e.keysDown →
        e.keysDown = [k] ∧ e.endsWait = true ∧ e.after.state.v[x] = k.number) ∧
    ∀ (x : Register) (k : Key) (calls : List Call),
      (m.perform .cycle).1 = .stepped (.executed (.waitKey x)) → m.state.keys[k] = true →
      (m.perform .cycle).2.Unanswering calls →
      let w := (m.perform .cycle).2.after calls
      (.release k.number ∉ calls → (w.perform (.press k.number)).2.state.waiting = some x) ∧
      (w.after [.release k.number, .press k.number]).state.waiting = none ∧
      (w.after [.release k.number, .press k.number]).state.v[x] = k.number := by
  refine ⟨?_, ?_, ?_⟩
  · intro x waits
    obtain ⟨a, since⟩ := reached.waitsSince waits
    refine ⟨a, since, ?_⟩
    intro calls quiet
    obtain ⟨⟨t, paused, after⟩, blocked⟩ := after_paused waits quiet
    obtain ⟨memory, delay, sound, keys, redraw, rfl⟩ := paused
    refine ⟨⟨memory, delay, sound, keys, redraw, after⟩, blocked, ?_⟩
    intro k up w
    have since' : w.WaitsSince x a := since.after quiet
    refine ⟨perform_press_answers since'.pc.1 up, ?_⟩
    intro between idle
    exact since'.fetchesAt up idle
  · intro calls
    refine ⟨countP_endsWait m calls, countP_startsWait m calls, ?_⟩
    intro e member x k waits down
    obtain ⟨before, c, reply⟩ := e
    obtain rfl : reply = (before.perform c).1 := reply_of_mem_history member
    obtain ⟨pressed, up⟩ := goes_down_iff.mp (List.mem_filter.mp down).2
    dsimp only at pressed up waits
    refine ⟨keysDown_of_press pressed up, ?_, ?_⟩
    · simp [Exchange.endsWait, Exchange.after, awaitsKey, pressed, perform_press_answers waits up, waits]
    · simp [Exchange.after, pressed, perform_press_answers waits up]
  · intro x k calls executed down quiet w
    obtain ⟨_, started⟩ := perform_waitKey executed
    have waits : (m.perform .cycle).2.state.waiting = some x := by rw [started]
    obtain ⟨⟨t, paused, after⟩, _⟩ := after_paused waits quiet
    have waits' : w.state.waiting = some x := by
      simp only [w, after]
      exact paused.waiting.trans waits
    refine ⟨?_, after_release_press waits' k⟩
    intro held
    refine waiting_perform_held waits' (keys_after ?_ held)
    rw [keys_perform]
    exact down

def heldKey : Machine :=
  (start Dialect.standard (RandomSource.ofList [])).after [.load [0xF1, 0x0A, 0x61, 0x01], .press 3]

theorem key_answers_wait_held :
    (heldKey.perform .cycle).1 = .stepped (.executed (.waitKey 1)) ∧
    (((heldKey.perform .cycle).2.after [.cycle, .press 3]).perform (.press (Key.number 3))).2.state.waiting = some 1 ∧
    (((heldKey.perform .cycle).2.after [.cycle, .press 3]).perform (.press (Key.number 5))).2.FetchesAt 0x202 := by
  have reached : heldKey.Reachable := (Reachable.start _ _).after _
  have executed : (heldKey.perform .cycle).1 = .stepped (.executed (.waitKey 1)) := by decide +kernel
  have down : heldKey.state.keys[(3 : Key)] = true := by decide +kernel
  have waits : (heldKey.perform .cycle).2.state.waiting = some 1 := by decide +kernel
  have quiet : (heldKey.perform .cycle).2.Unanswering [.cycle, .press 3] := by
    have presses : ∀ e ∈ (heldKey.perform .cycle).2.history [.cycle, .press 3], ∀ k : Key,
        e.call = .press k.number → e.before.state.keys[k] = true := by decide +kernel
    exact presses
  have up : ((heldKey.perform .cycle).2.after [.cycle, .press 3]).state.keys[(5 : Key)] = false := by decide +kernel
  have next : (heldKey.perform .cycle).2.state.pc = 0x202 := by decide +kernel
  obtain ⟨_, _, held⟩ := key_answers_wait reached
  obtain ⟨resumes, _, _⟩ := key_answers_wait (reached.perform .cycle)
  obtain ⟨a, since, answers⟩ := resumes 1 waits
  have fetches := ((answers _ quiet).2.2 5 up).2 [] nofun
  rw [← since.pc.2, next] at fetches
  exact ⟨executed, (held 1 3 _ executed down quiet).1 (by decide), fetches⟩

end Machine

end Chip8
