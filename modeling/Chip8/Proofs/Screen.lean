import Chip8.Proofs.Requests
import Chip8.Proofs.Sprites
import Mathlib.Algebra.Ring.Parity
import Mathlib.Data.List.DropRight

namespace Chip8

namespace Screen

def drawsOver (c : Cell) : State × Instruction → Bool
  | (s, .draw x y n) => s.covers x y n c
  | _ => false

def sinceClear (executions : List (State × Instruction)) : List (State × Instruction) :=
  executions.rtakeWhile fun e => e.2 ≠ .clear

def paint (c : Cell) (pixel : UInt8) (e : State × Instruction) : UInt8 :=
  if e.2 = .clear then 0 else if drawsOver c e then pixel ^^^ 1 else pixel

theorem drawsOver_of_plain {c : Cell} {s : State} {ins : Instruction} (plain : ins.paints = false) :
    drawsOver c (s, ins) = false := by
  cases ins with
  | draw x y n => cases plain
  | _ => rfl

theorem foldl_paint (c : Cell) (executions : List (State × Instruction)) :
    executions.foldl (paint c) 0 = if Odd ((sinceClear executions).countP (drawsOver c)) then 1 else 0 := by
  induction executions using List.reverseRecOn with
  | nil => rfl
  | append_singleton executions e ih =>
    rw [List.foldl_append, ih]
    by_cases clears : e.2 = .clear
    · simp [paint, sinceClear, clears]
    · have grown : sinceClear (executions ++ [e]) = sinceClear executions ++ [e] :=
        List.rtakeWhile_concat_pos _ _ _ (by simpa using clears)
      rw [grown, List.countP_append, List.countP_singleton]
      by_cases drawn : drawsOver c e
      · by_cases odd : Odd ((sinceClear executions).countP (drawsOver c))
        · simp [paint, clears, drawn, odd, Nat.odd_add_one]
        · simp [paint, clears, drawn, odd, Nat.odd_add_one]
      · simp [paint, clears, drawn]

end Screen

namespace Machine

open Screen

theorem frame_serves {s t : State} {c : Call} (serves : s.Serves c t) : t.frame = s.frame := by
  cases serves <;> rfl

theorem frame_perform {m : Machine} {c : Call}
    (plain : ∀ s ins, Exchange.executed? ⟨m, c, (m.perform c).1⟩ = some (s, ins) → ins.paints = false) :
    (m.perform c).2.state.frame = m.state.frame := by
  rcases perform_cases m c with ⟨_, t, serves, after⟩ | ⟨ins, t, executed, _, _, _, effect, after⟩
  · rw [after]
    exact frame_serves serves
  · rw [after]
    exact (Instruction.footprint_effect effect).frame (plain _ _ executed)

theorem pixel_effect {d : Dialect} {r : RandomSource} {s t : State} {ins : Instruction}
    (effect : ins.effect d r s = .ok t) (c : Cell) : t.frame.pixel c = paint c (s.frame.pixel c) (s, ins) := by
  cases plain : ins.paints with
  | false =>
    have other : ins ≠ .clear := by
      intro clears
      subst clears
      cases plain
    rw [(Instruction.footprint_effect effect).frame plain]
    simp [paint, other, drawsOver_of_plain plain]
  | true =>
    cases ins with
    | clear =>
      obtain rfl := Except.ok.inj effect
      simp [paint, Frame.dark, Frame.pixel]
    | draw x y n =>
      obtain rfl := Except.ok.inj effect
      rw [paint, if_neg (by simp)]
      exact State.pixel_draw s x y n c
    | _ => cases plain

/-- What a request makes of a pixel is what its execution, if there is one, paints. -/
theorem pixel_perform (m : Machine) (c : Call) (cell : Cell) :
    (m.perform c).2.state.frame.pixel cell =
      (Exchange.executed? ⟨m, c, (m.perform c).1⟩).toList.foldl (paint cell) (m.state.frame.pixel cell) := by
  rcases perform_cases m c with ⟨idle, t, serves, after⟩ | ⟨ins, t, executed, _, _, _, effect, after⟩
  · rw [after, idle, frame_serves serves]
    rfl
  · rw [after, executed]
    exact pixel_effect effect cell

theorem pixel_after (m : Machine) (calls : List Call) (cell : Cell) :
    (m.after calls).state.frame.pixel cell = (m.executions calls).foldl (paint cell) (m.state.frame.pixel cell) := by
  induction calls generalizing m with
  | nil => rfl
  | cons c calls ih => rw [after_cons, ih, executions_cons, List.foldl_append, pixel_perform]

theorem isLit_after_iff_odd (d : Dialect) (r : RandomSource) (calls : List Call) (cell : Cell) :
    let m := start d r
    ((m.after calls).state.frame.isLit cell ↔
      Odd ((sinceClear (m.executions calls)).countP (drawsOver cell))) ∧
    ∀ e ∈ m.history calls, (∀ s ins, e.executed? = some (s, ins) → ins.paints = false) →
      (e.before.perform e.call).2.state.frame = e.before.state.frame := by
  intro m
  constructor
  · have dark : m.state.frame.pixel cell = 0 := by simp [m, start, State.initial, Frame.dark, Frame.pixel]
    rw [Frame.isLit, pixel_after, dark, foldl_paint]
    split
    · rename_i odd
      simp [odd]
    · rename_i even
      simp [even]
  · intro e member plain
    obtain ⟨before, c, reply⟩ := e
    obtain rfl : reply = (before.perform c).1 := reply_of_mem_history member
    exact frame_perform plain

/-- A program that draws the glyph of 0 in the top left corner. -/
def drawsZero : List Call := [.load [0xA0, 0x50, 0xD0, 0x05], .cycle, .cycle]

theorem isLit_after_iff_odd_glyph :
    ((start Dialect.standard (RandomSource.ofList [])).after drawsZero).state.frame.isLit (0, 0) ∧
    ((start Dialect.standard (RandomSource.ofList [])).perform .tick).2.state.frame = Frame.dark := by
  obtain ⟨lit, _⟩ := isLit_after_iff_odd Dialect.standard (RandomSource.ofList []) drawsZero (0, 0)
  obtain ⟨_, plain⟩ := isLit_after_iff_odd Dialect.standard (RandomSource.ofList []) [.tick] (0, 0)
  exact ⟨lit.mpr (by decide +kernel), plain _ (.head _) nofun⟩

end Machine

end Chip8
