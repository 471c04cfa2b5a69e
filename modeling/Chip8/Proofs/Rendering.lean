import Chip8.Host.Screen
import Chip8.Proofs.Bounds
import Chip8.Proofs.Drawing
import Chip8.Proofs.Screen

namespace Chip8.Host.Screen

def charPixel (c : Char) : UInt8 := if c = '█' then 1 else 0

/-- The frame that a text shows inside its border, dark where the text has no character. -/
def frameOf (text : String) : Frame :=
  let lines := text.toList.splitOn '\n'
  Vector.ofFn fun row => Vector.ofFn fun column => charPixel ((lines.getD (row.val + 1) []).getD (column.val + 1) ' ')

variable {f g : Frame}

theorem charPixel_pixelChar (b : UInt8) : charPixel (pixelChar b) = if b = 1 then 1 else 0 := by
  unfold pixelChar
  split <;> rfl

theorem newline_notMem_rowLine (row : Vector UInt8 64) : '\n' ∉ rowLine row := by
  have shown (b : UInt8) : pixelChar b ≠ '\n' := by
    unfold pixelChar
    split <;> decide
  simp [rowLine, shown]

theorem length_rowLine (row : Vector UInt8 64) : (rowLine row).length = 66 := by
  simp [rowLine]

theorem eq_of_mem_lines {line : List Char} (member : line ∈ lines f) : line = border ∨ ∃ row, line = rowLine row := by
  simp only [lines, List.cons_append, List.mem_cons, List.mem_append, List.mem_map, List.not_mem_nil, or_false]
    at member
  rcases member with first | ⟨row, _, same⟩ | last
  · exact .inl first
  · exact .inr ⟨row, same.symm⟩
  · exact .inl last

/-- No line has a line feed of its own, so the line feeds between them are the only ones. -/
theorem splitOn_render (f : Frame) : (render f).toList.splitOn '\n' = lines f := by
  have text : (render f).toList = ['\n'].intercalate (lines f) := by
    rw [render, String.toList_intercalate, List.map_map]
    simp
  rw [text]
  apply List.splitOn_intercalate
  · intro line member
    rcases eq_of_mem_lines member with rfl | ⟨row, rfl⟩
    · decide
    · exact newline_notMem_rowLine row
  · simp [lines]

theorem getElem?_lines (f : Frame) (row : Fin 32) : (lines f)[row.val + 1]? = some (rowLine f[row]) := by
  have inside : row.val < (f.toList.map rowLine).length := by simp
  rw [lines, List.cons_append, List.getElem?_cons_succ, List.getElem?_append_left inside]
  simp

theorem getElem?_rowLine (row : Vector UInt8 64) (column : Fin 64) :
    (rowLine row)[column.val + 1]? = some (pixelChar row[column]) := by
  have inside : column.val < (row.toList.map pixelChar).length := by simp
  rw [rowLine, List.cons_append, List.getElem?_cons_succ, List.getElem?_append_left inside]
  simp

theorem pixel_frameOf_render (f : Frame) (c : Cell) :
    (frameOf (render f)).pixel c = if f.pixel c = 1 then 1 else 0 := by
  obtain ⟨row, column⟩ := c
  have line : (lines f).getD (row.val + 1) [] = rowLine f[row] := by
    rw [List.getD_eq_getElem?_getD, getElem?_lines]
    rfl
  have char : (rowLine f[row]).getD (column.val + 1) ' ' = pixelChar f[row][column] := by
    rw [List.getD_eq_getElem?_getD, getElem?_rowLine]
    rfl
  have read : (frameOf (render f)).pixel (row, column) = charPixel (pixelChar f[row][column]) := by
    rw [← char, ← line, ← splitOn_render]
    simp [frameOf, Frame.pixel]
  exact read.trans (charPixel_pixelChar _)

theorem frameOf_render (binary : f.Binary) : frameOf (render f) = f := by
  apply Frame.ext_pixel
  intro c
  rw [pixel_frameOf_render]
  rcases binary c with off | on
  · rw [off]
    rfl
  · rw [on]
    rfl

theorem render_inj (binary : f.Binary) (binary' : g.Binary) : render f = render g ↔ f = g := by
  constructor
  · intro same
    rw [← frameOf_render binary, same, frameOf_render binary']
  · rintro rfl
    rfl

theorem render_loses_nothing :
    (∀ f : Frame,
      let lines := (render f).toList.splitOn '\n'
      let edge := '+' :: List.replicate 64 '-' ++ ['+']
      (render f).toList = ['\n'].intercalate lines ∧ lines.length = 34 ∧ (∀ line ∈ lines, line.length = 66) ∧
      lines[0]? = some edge ∧ lines[33]? = some edge ∧
      ∀ row : Fin 32, ∃ chars, lines[row.val + 1]? = some chars ∧ chars[0]? = some '|' ∧ chars[65]? = some '|' ∧
        ∀ column : Fin 64, chars[column.val + 1]? = some (if f.pixel (row, column) = 1 then '█' else ' ')) ∧
    (∀ f : Frame, f.Binary → frameOf (render f) = f) ∧
    (∀ f g : Frame, f.Binary → g.Binary → (render f = render g ↔ f = g)) ∧
    ∀ m m' : Machine, m.Reachable → m'.Reachable →
      (render m.state.frame = render m'.state.frame ↔ m.state.frame = m'.state.frame) := by
  refine ⟨?_, fun f => frameOf_render, fun f g => render_inj, ?_⟩
  · intro f lines edge
    have split : lines = Screen.lines f := splitOn_render f
    refine ⟨(List.intercalate_splitOn '\n').symm, ?_, ?_, ?_, ?_, ?_⟩
    · rw [split]
      simp [Screen.lines]
    · intro line member
      rw [split] at member
      rcases eq_of_mem_lines member with rfl | ⟨row, rfl⟩
      · rfl
      · exact length_rowLine row
    · rw [split]
      rfl
    · have last : (Screen.lines f)[33]? = some border := by simp [Screen.lines]
      rw [split]
      exact last
    · intro row
      rw [split]
      refine ⟨rowLine f[row], getElem?_lines f row, rfl, ?_, ?_⟩
      · simp [rowLine]
      · intro column
        exact getElem?_rowLine f[row] column
  · intro m m' reached reached'
    exact render_inj reached.bounded.frame reached'.bounded.frame

theorem render_loses_nothing_glyph :
    let start := Machine.start Dialect.standard (RandomSource.ofList [])
    let drawn := start.after Machine.drawsZero
    render drawn.state.frame ≠ render start.state.frame ∧ frameOf (render drawn.state.frame) = drawn.state.frame := by
  intro start drawn
  have reached : start.Reachable := .start Dialect.standard (RandomSource.ofList [])
  have lit : drawn.state.frame.pixel (0, 0) = 1 := by decide +kernel
  have dark : start.state.frame.pixel (0, 0) ≠ 1 := by decide +kernel
  obtain ⟨_, reads, _, apart⟩ := render_loses_nothing
  refine ⟨?_, reads _ (reached.after Machine.drawsZero).bounded.frame⟩
  intro same
  rw [(apart drawn start (reached.after Machine.drawsZero) reached).mp same] at lit
  exact dark lit

end Chip8.Host.Screen
