import Chip8.Proofs.KeyWait

namespace Chip8

structure Panel where
  delay : UInt8
  sound : UInt8
  keys : Vector Bool 16
  redraw : Bool

namespace State

def panel (s : State) : Panel := ⟨s.delay, s.sound, s.keys, s.redraw⟩

def withPanel (s : State) (p : Panel) : State :=
  { s with delay := p.delay, sound := p.sound, keys := p.keys, redraw := p.redraw }

end State

namespace Panel

def after (p : Panel) (t : State) : Except Fault Step → Panel
  | .ok (.executed (.setDelay _)) => { p with delay := t.delay }
  | .ok (.executed (.setSound _)) => { p with sound := t.sound }
  | .ok (.executed .clear) | .ok (.executed (.draw _ _ _)) => { p with redraw := t.redraw }
  | _ => p

def setKey (keys : Vector Bool 16) (number : UInt8) (down : Bool) : Vector Bool 16 :=
  if named : number.toNat < 16 then keys.set number.toNat down else keys

def serve (p : Panel) : Call → Panel
  | .press number => { p with keys := setKey p.keys number true }
  | .release number => { p with keys := setKey p.keys number false }
  | .tick =>
    { p with
      delay := if p.delay = 0 then 0 else p.delay - 1
      sound := if p.sound = 0 then 0 else p.sound - 1 }
  | .takeFrame => { p with redraw := false }
  | .load _ | .cycle => p

end Panel

theorem Condition.holds_withPanel {s : State} {p : Panel} (condition : Condition)
    (same : ∀ x, condition = .keyDown x ∨ condition = .keyUp x →
      p.keys[Fin.ofNat 16 s.v[x].toNat] = s.keys[Fin.ofNat 16 s.v[x].toNat]) :
    condition.holds (s.withPanel p) = condition.holds s := by
  cases condition with
  | keyDown x => exact same x (.inl rfl)
  | keyUp x => exact congrArg (!·) (same x (.inr rfl))
  | _ => rfl

namespace Instruction

variable {s : State} {ins : Instruction}

/-- Of the panel, an instruction reads no more than the delay timer to load it or a key to test it. -/
theorem effect_withPanel (d : Dialect) (r : RandomSource) {p : Panel}
    (unread : ∀ x, ins = loadDelay x → p.delay = s.delay)
    (untested : ∀ condition, ins = skip condition → condition.holds (s.withPanel p) = condition.holds s) :
    ins.effect d r (s.withPanel p) =
      (ins.effect d r s).map fun t => t.withPanel (p.after t (.ok (.executed ins))) := by
  cases ins with
  | ret => exact State.ret_map (·.withPanel p) rfl rfl rfl fun _ _ _ => rfl
  | call nnn => exact State.call_map (·.withPanel p) rfl rfl rfl (fun _ _ _ => rfl) nnn
  | skip condition =>
    simp only [effect, untested condition rfl, State.skipIf]
    split <;> rfl
  | loadDelay x =>
    have delay : (s.withPanel p).delay = s.delay := unread x rfl
    simp only [effect, delay]
    rfl
  | addIndex x =>
    simp only [effect, State.addIndex]
    split <;> rfl
  | arith op x y => cases op <;> rfl
  | _ => rfl

end Instruction

namespace Machine

variable {m : Machine} {c : Call}

def withPanel (m : Machine) (p : Panel) : Machine := { m with state := m.state.withPanel p }

theorem cycle_withPanel {p : Panel}
    (unread : ∀ x, m.cycle.1 = .ok (.executed (.loadDelay x)) → p.delay = m.state.delay)
    (untested : ∀ condition, m.cycle.1 = .ok (.executed (.skip condition)) →
      condition.holds (m.state.fetched.withPanel p) = condition.holds m.state.fetched) :
    (m.withPanel p).cycle = (m.cycle.1, m.cycle.2.withPanel (p.after m.cycle.2.state m.cycle.1)) := by
  cases cycled : m.cycle with
  | mk result m' =>
    rw [cycled] at unread untested
    cases cycles cycled with
    | blocked waiting => exact (Cycles.blocked (m := m.withPanel p) waiting).cycle_eq
    | undecoded awake unknown => exact (Cycles.undecoded (m := m.withPanel p) awake unknown).cycle_eq
    | @faulted ins fault awake decoded faulted =>
      have effect : ins.effect m.dialect m.random (m.state.fetched.withPanel p) = .error fault := by
        rw [Instruction.effect_withPanel, faulted]
        · rfl
        · rintro x rfl
          cases faulted
        · rintro condition rfl
          cases faulted
      exact (Cycles.faulted (m := m.withPanel p) awake decoded effect).cycle_eq
    | @executed ins t awake decoded executed =>
      have effect : ins.effect m.dialect m.random (m.state.fetched.withPanel p) =
          .ok (t.withPanel (p.after t (.ok (.executed ins)))) := by
        rw [Instruction.effect_withPanel, executed]
        · rfl
        · rintro x rfl
          exact unread x rfl
        · rintro condition rfl
          exact untested condition rfl
      exact (Cycles.executed (m := m.withPanel p) awake decoded effect).cycle_eq

theorem panel_cycle (m : Machine) : m.cycle.2.state.panel = m.state.panel.after m.cycle.2.state m.cycle.1 := by
  have same : m.cycle = (m.cycle.1, m.cycle.2.withPanel (m.state.panel.after m.cycle.2.state m.cycle.1)) :=
    cycle_withPanel (p := m.state.panel) (fun _ _ => rfl) (fun _ _ => rfl)
  exact congrArg (fun outcome => outcome.2.state.panel) same

theorem perform_eq_withPanel (noCycle : c ≠ .cycle) (noLoad : ∀ program, c ≠ .load program)
    (unanswering : ∀ k : Key, c = .press k.number → m.state.keys[k] = false → m.state.waiting = none) :
    (m.perform c).2 = m.withPanel (m.state.panel.serve c) := by
  obtain ⟨t, serves, after⟩ := serves_perform (m := m) noCycle
  suffices same : t = m.state.withPanel (m.state.panel.serve c) by rw [after, same, withPanel]
  cases serves with
  | kept ignored =>
    cases c with
    | load program => exact absurd rfl (noLoad program)
    | cycle => exact absurd rfl noCycle
    | press number | release number =>
      have unnamed : ¬number.toNat < 16 := Nat.not_lt.mpr ignored
      simp [Panel.serve, Panel.setKey, State.withPanel, State.panel, unnamed]
    | tick => exact absurd ignored id
    | takeFrame =>
      have kept : m.state.redraw = false := ignored
      simp [Panel.serve, State.withPanel, State.panel, ← kept]
  | loaded => exact absurd rfl (noLoad _)
  | pressed named | released named => simp [Panel.serve, Panel.setKey, State.withPanel, State.panel, named]
  | answered named up waits =>
    obtain rfl := Key.eq_number_of_toNat named
    rw [unanswering _ rfl up] at waits
    cases waits
  | ticked | taken => rfl

theorem reply_perform_congr {n : Machine} (noCycle : c ≠ .cycle)
    (picture : c = .takeFrame → n.state.redraw = m.state.redraw ∧ n.state.frame = m.state.frame) :
    (n.perform c).1 = (m.perform c).1 := by
  cases c with
  | cycle => exact absurd rfl noCycle
  | load program =>
    simp only [perform, load]
    split <;> rfl
  | press number | release number =>
    simp only [perform, press, release, onKey]
    cases key? number <;> rfl
  | tick => rfl
  | takeFrame =>
    obtain ⟨redraw, frame⟩ := picture rfl
    simp only [perform, takeFrame, redraw, frame]
    split <;> rfl

theorem perform_congr_state {n : Machine} (noCycle : c ≠ .cycle) (same : n.state = m.state) :
    ∃ reply t, m.perform c = (reply, { m with state := t }) ∧ n.perform c = (reply, { n with state := t }) := by
  obtain ⟨t, serves, after⟩ := serves_perform (m := m) noCycle
  have replies : (n.perform c).1 = (m.perform c).1 := by
    apply reply_perform_congr noCycle
    intro _
    rw [same]
    exact ⟨rfl, rfl⟩
  refine ⟨(m.perform c).1, t, Prod.ext rfl after, Prod.ext replies ?_⟩
  rw [← same] at serves
  exact perform_of_serves serves noCycle

end Machine

end Chip8
