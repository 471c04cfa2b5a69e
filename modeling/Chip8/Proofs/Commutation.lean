import Chip8.Proofs.Panel
import Chip8.Proofs.Screen

namespace Chip8

namespace Panel

variable {p : Panel} {t : State} {result : Except Fault Step} {c : Call}

theorem after_serve
    (untimed : c = .tick → ∀ x, result ≠ .ok (.executed (.setDelay x)) ∧ result ≠ .ok (.executed (.setSound x)))
    (unpainted : c = .takeFrame → ∀ ins, result = .ok (.executed ins) → ins.paints = false) :
    (p.serve c).after t result = (p.after t result).serve c := by
  unfold after
  split
  · rename_i x
    cases c with
    | tick => exact absurd rfl (untimed rfl x).1
    | _ => rfl
  · rename_i x
    cases c with
    | tick => exact absurd rfl (untimed rfl x).2
    | _ => rfl
  · cases c with
    | takeFrame => cases unpainted rfl _ rfl
    | _ => rfl
  · cases c with
    | takeFrame => cases unpainted rfl _ rfl
    | _ => rfl
  · rfl

theorem redraw_after (unpainted : ∀ ins, result = .ok (.executed ins) → ins.paints = false) :
    (p.after t result).redraw = p.redraw := by
  unfold after
  split
  · rfl
  · rfl
  · cases unpainted _ rfl
  · cases unpainted _ rfl
  · rfl

end Panel

namespace Machine

variable {m : Machine} {c : Call} {k : Key}

def Executes (m : Machine) (ins : Instruction) : Prop := m.cycle.1 = .ok (.executed ins)

def TestsKey (m : Machine) (k : Key) : Prop :=
  ∃ x, (m.Executes (.skip (.keyDown x)) ∨ m.Executes (.skip (.keyUp x))) ∧ m.state.v[x].toNat % 16 = k.val

/-- The requests for which it may matter whether they come before the next cycle or after it. -/
def Races (m : Machine) : Call → Prop
  | .tick => ∃ x, m.Executes (.loadDelay x) ∨ m.Executes (.setDelay x) ∨ m.Executes (.setSound x)
  | .press number =>
    ∃ k : Key, number = k.number ∧ m.state.keys[k] = false ∧
      (m.state.waiting.isSome ∨ (∃ x, m.Executes (.waitKey x)) ∨ m.TestsKey k)
  | .release number => ∃ k : Key, number = k.number ∧ m.state.keys[k] = true ∧ m.TestsKey k
  | .takeFrame => m.Executes .clear ∨ ∃ x y n, m.Executes (.draw x y n)
  | .load _ | .cycle => True

theorem noCycle_of_free (free : ¬m.Races c) : c ≠ .cycle := by
  rintro rfl
  exact free trivial

theorem noLoad_of_free (free : ¬m.Races c) (program : List UInt8) : c ≠ .load program := by
  rintro rfl
  exact free trivial

theorem unpainted_of_free (free : ¬m.Races .takeFrame) (ins : Instruction)
    (executes : m.cycle.1 = .ok (.executed ins)) : ins.paints = false := by
  cases ins with
  | clear => exact absurd (.inl executes) free
  | draw x y n => exact absurd (.inr ⟨x, y, n, executes⟩) free
  | _ => rfl

theorem keys_perform_of_free (free : ¬m.Races c) (tests : m.TestsKey k) :
    (m.perform c).2.state.keys[k] = m.state.keys[k] := by
  rw [keys_perform]
  by_cases pressed : c = .press k.number
  · subst pressed
    cases held : m.state.keys[k] with
    | true => simp
    | false => exact absurd ⟨k, rfl, held, .inr (.inr tests)⟩ free
  · by_cases released : c = .release k.number
    · subst released
      cases held : m.state.keys[k] with
      | true => exact absurd ⟨k, rfl, held, tests⟩ free
      | false => simp
    · rw [if_neg pressed, if_neg released]

theorem perform_of_free (free : ¬m.Races c) : (m.perform c).2 = m.withPanel (m.state.panel.serve c) := by
  apply perform_eq_withPanel (noCycle_of_free free) (noLoad_of_free free)
  rintro k rfl up
  cases waits : m.state.waiting with
  | none => rfl
  | some x => exact absurd ⟨k, rfl, up, .inl (by simp [waits])⟩ free

theorem perform_cycle_of_free (free : ¬m.Races c) :
    (m.cycle.2.perform c).2 = m.cycle.2.withPanel (m.cycle.2.state.panel.serve c) := by
  apply perform_eq_withPanel (noCycle_of_free free) (noLoad_of_free free)
  rintro k rfl up
  have keys : m.cycle.2.state.keys[k] = m.state.keys[k] := keys_perform m .cycle k
  rw [keys] at up
  cases later : m.cycle.2.state.waiting with
  | none => rfl
  | some x =>
    cases waits : m.state.waiting with
    | none =>
      obtain ⟨executed, _⟩ := waitKey_of_waiting_perform (c := .cycle) waits later
      exact absurd ⟨k, rfl, up, .inr (.inl ⟨x, perform_cycle_eq_stepped_iff.mp executed⟩)⟩ free
    | some y => exact absurd ⟨k, rfl, up, .inl (by simp [waits])⟩ free

theorem cycle_perform_of_free (free : ¬m.Races c) :
    (m.perform c).2.cycle =
      (m.cycle.1, m.cycle.2.withPanel ((m.state.panel.serve c).after m.cycle.2.state m.cycle.1)) := by
  have served := perform_of_free free
  rw [served]
  apply cycle_withPanel
  · intro x executes
    cases c with
    | tick => exact absurd ⟨x, .inl executes⟩ free
    | _ => rfl
  · intro condition executes
    apply Condition.holds_withPanel
    intro x tests
    have tested : m.TestsKey (Fin.ofNat 16 m.state.v[x].toNat) := by
      refine ⟨x, ?_, rfl⟩
      rcases tests with rfl | rfl
      · exact .inl executes
      · exact .inr executes
    have keys := keys_perform_of_free free tested
    rw [served] at keys
    exact keys

theorem perform_cycle_comm (free : ¬m.Races c) :
    ((m.perform c).2.perform .cycle).2 = ((m.perform .cycle).2.perform c).2 ∧
    ((m.perform c).2.perform .cycle).1 = (m.perform .cycle).1 ∧
    (m.perform c).1 = ((m.perform .cycle).2.perform c).1 := by
  have cycled := cycle_perform_of_free free
  have result : (m.perform c).2.cycle.1 = m.cycle.1 := by rw [cycled]
  refine ⟨?_, congrArg Reply.ofStep result, ?_⟩
  · have swapped : (m.state.panel.serve c).after m.cycle.2.state m.cycle.1 =
        (m.state.panel.after m.cycle.2.state m.cycle.1).serve c := by
      apply Panel.after_serve
      · rintro rfl x
        exact ⟨fun executes => free ⟨x, .inr (.inl executes)⟩, fun executes => free ⟨x, .inr (.inr executes)⟩⟩
      · rintro rfl
        exact unpainted_of_free free
    calc ((m.perform c).2.perform .cycle).2
        = m.cycle.2.withPanel ((m.state.panel.serve c).after m.cycle.2.state m.cycle.1) := congrArg Prod.snd cycled
      _ = m.cycle.2.withPanel (m.cycle.2.state.panel.serve c) := by rw [swapped, panel_cycle]
      _ = ((m.perform .cycle).2.perform c).2 := (perform_cycle_of_free free).symm
  · symm
    apply reply_perform_congr (noCycle_of_free free)
    rintro rfl
    have unpainted := unpainted_of_free free
    constructor
    · exact (congrArg Panel.redraw (panel_cycle m)).trans (Panel.redraw_after unpainted)
    · apply frame_perform (c := .cycle)
      intro s ins executed
      exact unpainted ins (perform_cycle_eq_stepped_iff.mp (executed?_eq_some_iff.mp executed).1)

/-- A program that tests the key named by V1, which is key 0. -/
def testsKeyZero : Machine := (start Dialect.standard (RandomSource.ofList [])).after [.load [0xE1, 0x9E]]

theorem perform_cycle_comm_other_key :
    (testsKeyZero.perform .cycle).1 = .stepped (.executed (.skip (.keyDown 1))) ∧
    testsKeyZero.after [.press 5, .cycle] = testsKeyZero.after [.cycle, .press 5] := by
  have executes : testsKeyZero.Executes (.skip (.keyDown 1)) := by
    have replied : (testsKeyZero.perform .cycle).1 = .stepped (.executed (.skip (.keyDown 1))) := by decide +kernel
    exact perform_cycle_eq_stepped_iff.mp replied
  have zero : testsKeyZero.state.v[(1 : Register)].toNat = 0 := by decide +kernel
  have awake : testsKeyZero.state.waiting = none := by decide +kernel
  have free : ¬testsKeyZero.Races (.press 5) := by
    rintro ⟨k, named, _, waits | ⟨x, waits⟩ | ⟨x, tests, same⟩⟩
    · simp [awake] at waits
    · rw [Executes, executes] at waits
      cases waits
    · rw [Executes, Executes, executes] at tests
      rcases tests with tests | tests
      · cases tests
        rw [zero] at same
        have number := congrArg UInt8.toNat named
        rw [k.toNat_number, ← same] at number
        cases number
      · cases tests
  exact ⟨perform_cycle_eq_stepped_iff.mpr executes, (perform_cycle_comm free).1⟩

end Machine

end Chip8
