import Chip8.Proofs.Screen

namespace Chip8

namespace Exchange

def paints (e : Exchange) : Bool := e.executed?.any fun execution => execution.2.paints

def taken? (e : Exchange) : Option Frame :=
  match e.reply with
  | .frame taken => taken
  | _ => none

end Exchange

namespace Machine

variable {m : Machine} {c : Call}

def sinceTake (exchanges : List Exchange) : List Exchange := exchanges.rtakeWhile fun e => e.call ≠ .takeFrame

/-- What a host shows that starts with a dark frame and replaces it by each frame it is given. -/
def shown (exchanges : List Exchange) : Frame := exchanges.foldl (fun f e => e.taken?.getD f) Frame.dark

theorem perform_takeFrame (m : Machine) :
    m.perform .takeFrame =
      (.frame (if m.state.redraw then some m.state.frame else none),
        { m with state := { m.state with redraw := false } }) := by
  obtain ⟨s, random, dialect⟩ := m
  cases redraw : s.redraw with
  | true => simp [perform, takeFrame, redraw]
  | false =>
    have same : { s with redraw := false } = s := by rw [← redraw]
    simp [perform, takeFrame, redraw, same]

theorem taken?_eq_none (other : c ≠ .takeFrame) : Exchange.taken? ⟨m, c, (m.perform c).1⟩ = none := by
  have settled (result : Except Fault Unit) : Exchange.taken? ⟨m, c, Reply.ofUnit result⟩ = none := by
    cases result <;> rfl
  have stepped (result : Except Fault Step) : Exchange.taken? ⟨m, c, Reply.ofStep result⟩ = none := by
    cases result <;> rfl
  cases c with
  | load program => exact settled (m.load program).1
  | cycle => exact stepped m.cycle.1
  | press number => exact settled (m.press number).1
  | release number => exact settled (m.release number).1
  | tick => rfl
  | takeFrame => exact absurd rfl other

theorem frame_of_unpainted (plain : Exchange.paints ⟨m, c, (m.perform c).1⟩ = false) :
    (m.perform c).2.state.frame = m.state.frame := by
  apply frame_perform
  intro s ins executed
  rw [Exchange.paints, executed] at plain
  exact plain

theorem redraw_perform (m : Machine) (c : Call) :
    (m.perform c).2.state.redraw =
      (decide (c ≠ .takeFrame) && (m.state.redraw || Exchange.paints ⟨m, c, (m.perform c).1⟩)) := by
  rcases perform_cases m c with ⟨idle, t, serves, after⟩ | ⟨ins, t, executed, rfl, _, _, effect, after⟩
  · rw [after, Exchange.paints, idle]
    cases serves with
    | kept ignored =>
      cases c with
      | takeFrame => exact ignored
      | _ => simp
    | _ => simp
  · rw [after, Exchange.paints, executed]
    cases painted : ins.paints with
    | false => simp [(Instruction.footprint_effect effect).redraw painted, painted, State.fetched]
    | true =>
      cases ins with
      | clear | draw =>
        cases effect
        simp [painted, State.draw]
      | _ => cases painted

/-- The mark of a changed frame tells whether something was painted since the host last asked. -/
theorem redraw_after_eq (clean : m.state.redraw = false) (calls : List Call) :
    (m.after calls).state.redraw = (sinceTake (m.history calls)).any Exchange.paints := by
  induction calls using List.reverseRecOn with
  | nil => exact clean
  | append_singleton calls c ih =>
    rw [history_concat, sinceTake, after_append, after_cons, after_nil, redraw_perform, ih]
    by_cases asks : c = .takeFrame
    · rw [List.rtakeWhile_concat_neg _ _ _ (by simp [asks])]
      simp [asks]
    · rw [List.rtakeWhile_concat_pos _ _ _ (by simp [asks]), List.any_append]
      simp [asks, sinceTake]

theorem shown_eq_frame (calls : List Call) (dark : m.state.frame = Frame.dark)
    (unmarked : (m.after calls).state.redraw = false) : shown (m.history calls) = (m.after calls).state.frame := by
  induction calls using List.reverseRecOn with
  | nil => exact dark.symm
  | append_singleton calls c ih =>
    rw [after_append, after_cons, after_nil] at unmarked ⊢
    rw [history_concat, shown, List.foldl_append, ← shown]
    by_cases asks : c = .takeFrame
    · subst asks
      rw [perform_takeFrame]
      cases marked : (m.after calls).state.redraw with
      | true => rfl
      | false => exact ih marked
    · rw [redraw_perform] at unmarked
      obtain ⟨before, plain⟩ : (m.after calls).state.redraw = false ∧
          Exchange.paints ⟨m.after calls, c, ((m.after calls).perform c).1⟩ = false := by
        simpa [asks] using unmarked
      rw [frame_of_unpainted plain, List.foldl_cons, List.foldl_nil, taken?_eq_none asks]
      exact ih before

theorem redraw_after_of_unpainted {calls : List Call} (clean : m.state.redraw = false)
    (plain : ∀ e ∈ m.history calls, e.paints = false) : (m.after calls).state.redraw = false := by
  rw [redraw_after_eq clean, List.any_eq_false]
  intro e member
  simp [plain e ((List.rtakeWhile_suffix _ _).mem member)]

theorem takeFrame_loses_no_change (d : Dialect) (r : RandomSource) (calls : List Call) :
    let first := start d r
    let m := first.after calls
    let asked := m.perform .takeFrame
    asked.1 = .frame
      (if (sinceTake (first.history calls)).any Exchange.paints then some m.state.frame else none) ∧
    (∀ between, (∀ e ∈ asked.2.history between, e.paints = false) →
      ((asked.2.after between).perform .takeFrame).1 = .frame none) ∧
    shown (first.history (calls ++ [.takeFrame])) = (first.after (calls ++ [.takeFrame])).state.frame := by
  intro first m asked
  have taken : asked = (.frame (if m.state.redraw then some m.state.frame else none),
      { m with state := { m.state with redraw := false } }) := perform_takeFrame m
  have clean : asked.2.state.redraw = false := by rw [taken]
  refine ⟨?_, ?_, ?_⟩
  · rw [taken, ← redraw_after_eq rfl]
  · intro between plain
    rw [perform_takeFrame, redraw_after_of_unpainted clean plain]
    rfl
  · apply shown_eq_frame
    · rfl
    · rw [after_append]
      exact clean

def glyphDrawn : List Call := [.load [0xA0, 0x50, 0xD0, 0x05], .cycle, .cycle]

theorem takeFrame_loses_no_change_glyph :
    let m := (start Dialect.standard (RandomSource.ofList [])).after glyphDrawn
    (m.perform .takeFrame).1 = .frame (some m.state.frame) ∧
    (((m.perform .takeFrame).2.after [.tick, .press 3]).perform .takeFrame).1 = .frame none := by
  have painted : (sinceTake ((start Dialect.standard (RandomSource.ofList [])).history glyphDrawn)).any
      Exchange.paints = true := by decide +kernel
  have plain : ∀ e ∈ (((start Dialect.standard (RandomSource.ofList [])).after glyphDrawn).perform
      .takeFrame).2.history [.tick, .press 3], e.paints = false := by decide +kernel
  obtain ⟨first, second, _⟩ :=
    takeFrame_loses_no_change Dialect.standard (RandomSource.ofList []) glyphDrawn
  rw [painted] at first
  exact ⟨first, second _ plain⟩

end Machine

end Chip8
