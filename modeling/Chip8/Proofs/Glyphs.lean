import Chip8.Proofs.Screen
import Chip8.Proofs.WriteSets
import Chip8.Proofs.Writes

namespace Chip8

def glyphCovers (digit top left : Nat) (c : Cell) : Bool :=
  let down := c.1 - Fin.ofNat 32 top
  let right := c.2 - Fin.ofNat 64 left
  down.val < 5 && right.val < 8 && (glyphs.getD (5 * digit + down.val) 0).toNat.testBit (7 - right.val)

theorem State.covers_eq_glyphCovers {s : State} {digit : Nat}
    (rows : ∀ row < 5, s.memory[Fin.ofNat 4096 (s.index.toNat + row)] = glyphs.getD (5 * digit + row) 0)
    (x y : Register) (c : Cell) : s.covers x y 5 c = glyphCovers digit s.v[y].toNat s.v[x].toNat c := by
  rw [Bool.eq_iff_iff]
  simp only [State.covers, glyphCovers, Bool.and_eq_true, decide_eq_true_eq, and_assoc]
  apply and_congr_right
  intro inside
  rw [rows _ inside]

namespace Machine

variable {m : Machine} {c : Call} {a : Address}

theorem memory_perform_of_spared (below : a.val < 0x200)
    (spared : ∀ e, Exchange.executed? ⟨m, c, (m.perform c).1⟩ = some e → ¬e.2.WritesCell e.1 a) :
    (m.perform c).2.state.memory[a] = m.state.memory[a] := by
  rcases perform_cases m c with ⟨_, t, serves, after⟩ | ⟨ins, t, executed, _, _, _, effect, after⟩
  · rw [after]
    cases serves with
    | @loaded program fits =>
      have inside : Layout.programStart + program.length ≤ 4096 := Nat.add_le_add_left fits Layout.programStart
      have before : ¬Layout.programStart ≤ a.val := Nat.not_le.mpr below
      rw [Memory.getElem_write_ofNat _ inside, if_neg before]
    | _ => rfl
  · rw [after]
    exact Instruction.getElem_memory_effect (s := m.state.fetched) (spared _ executed) effect

theorem memory_after_of_spared {calls : List Call} (below : a.val < 0x200)
    (spared : ∀ e ∈ m.executions calls, ¬e.2.WritesCell e.1 a) :
    (m.after calls).state.memory[a] = m.state.memory[a] := by
  induction calls generalizing m with
  | nil => rfl
  | cons c calls ih =>
    rw [executions_cons, List.forall_mem_append] at spared
    obtain ⟨first, rest⟩ := spared
    rw [after_cons, ih rest]
    exact memory_perform_of_spared below fun e executed => first e (Option.mem_toList.mpr executed)

theorem index_after_of_no_cycle {calls : List Call} (idle : .cycle ∉ calls) :
    (m.after calls).state.index = m.state.index := by
  induction calls generalizing m with
  | nil => rfl
  | cons c calls ih =>
    have other : c ≠ .cycle := fun same => idle (same ▸ .head calls)
    obtain ⟨t, serves, after⟩ := serves_perform (m := m) other
    rw [after_cons, ih fun member => idle (.tail c member), after]
    cases serves <;> rfl

/-- No instruction has stored a byte among those of the font. -/
def FontSpared (m : Machine) (calls : List Call) : Prop :=
  ∀ e ∈ m.executions calls, ∀ j < e.2.stored,
    (e.1.index.toNat + j) % 4096 < 0x050 ∨ 0x0A0 ≤ (e.1.index.toNat + j) % 4096

instance decidableFontSpared (m : Machine) (calls : List Call) : Decidable (m.FontSpared calls) :=
  inferInstanceAs (Decidable (∀ e ∈ m.executions calls, ∀ j < e.2.stored, _ ∨ _))

theorem memory_after_of_fontSpared {d : Dialect} {r : RandomSource} {calls : List Call}
    (spared : (start d r).FontSpared calls) (above : 0x050 ≤ a.val) (below : a.val < 0x0A0) :
    ((start d r).after calls).state.memory[a] = glyphs.getD (a.val - 0x050) 0 := by
  have unwritten : ∀ e ∈ (start d r).executions calls, ¬e.2.WritesCell e.1 a := by
    rintro e member ⟨j, inside, met⟩
    have outside := spared e member j inside
    omega
  rw [memory_after_of_spared (by omega) unwritten]
  refine (Memory.getElem_initial a).trans ?_
  rw [Memory.fontByte, if_pos ⟨above, below⟩]

theorem perform_loadGlyph {x : Register} (executed : (m.perform c).1 = .stepped (.executed (.loadGlyph x))) :
    (m.perform c).2.state.index.toNat = 0x050 + 5 * (m.state.v[x].toNat % 16) ∧
      (m.perform c).2.state.memory = m.state.memory := by
  obtain ⟨_, _, t, effect, after⟩ := perform_of_executed executed
  cases effect
  rw [after]
  refine ⟨?_, rfl⟩
  have register : m.state.fetched.v = m.state.v := rfl
  simp only [Layout.fontStart, Layout.glyphSize, register, UInt16.toNat_ofNat']
  omega

theorem pixel_perform_draw {x y : Register} {n : Nibble}
    (executed : (m.perform c).1 = .stepped (.executed (.draw x y n))) (cell : Cell) :
    (m.perform c).2.state.frame.pixel cell =
      if m.state.covers x y n cell then m.state.frame.pixel cell ^^^ 1 else m.state.frame.pixel cell := by
  obtain ⟨_, _, t, effect, after⟩ := perform_of_executed executed
  cases effect
  rw [after]
  exact State.pixel_draw m.state.fetched x y n cell

theorem glyphs_stay_addressable (d : Dialect) (r : RandomSource) (calls : List Call)
    (spared : (start d r).FontSpared calls) :
    let m := (start d r).after calls
    ∀ x, (m.perform .cycle).1 = .stepped (.executed (.loadGlyph x)) →
      let digit := m.state.v[x].toNat % 16
      let pointed := (m.perform .cycle).2
      let start := pointed.state.index.toNat
      start + 4 ≤ 0x09F ∧
      (∀ row < 5, pointed.state.memory[Fin.ofNat 4096 (start + row)] = glyphs.getD (5 * digit + row) 0) ∧
      ∀ between x' y', .cycle ∉ between →
        let n := pointed.after between
        (n.perform .cycle).1 = .stepped (.executed (.draw x' y' 5)) → ∀ cell : Cell,
        (n.perform .cycle).2.state.frame.pixel cell =
          if glyphCovers digit n.state.v[y'].toNat n.state.v[x'].toNat cell then n.state.frame.pixel cell ^^^ 1
          else n.state.frame.pixel cell := by
  intro m x executed digit pointed start
  obtain ⟨index, memory⟩ := perform_loadGlyph executed
  have index : start = 0x050 + 5 * digit := index
  have low : digit < 16 := Nat.mod_lt _ (by decide)
  have rows (row : Nat) (inside : row < 5) :
      pointed.state.memory[Fin.ofNat 4096 (start + row)] = glyphs.getD (5 * digit + row) 0 := by
    have cell : (Fin.ofNat 4096 (start + row)).val = 0x050 + (5 * digit + row) := by
      rw [index, Fin.val_ofNat]
      omega
    rw [show pointed.state.memory = m.state.memory from memory, memory_after_of_fontSpared spared (by omega) (by omega),
      cell, Nat.add_sub_cancel_left]
  refine ⟨by omega, rows, ?_⟩
  intro between x' y' idle n drawn cell
  have sameIndex : n.state.index = pointed.state.index := index_after_of_no_cycle idle
  have sprite (row : Nat) (inside : row < 5) :
      n.state.memory[Fin.ofNat 4096 (n.state.index.toNat + row)] = glyphs.getD (5 * digit + row) 0 := by
    have below : (Fin.ofNat 4096 (start + row)).val < 0x200 := Nat.lt_of_le_of_lt (Nat.mod_le _ _) (by omega)
    rw [sameIndex, ← rows row inside]
    apply memory_after_of_spared below
    rw [executions_of_no_cycle idle]
    exact nofun
  rw [pixel_perform_draw drawn, State.covers_eq_glyphCovers sprite]

/-- The requests up to an instruction that points the index register at the glyph of 7, the low digit of 0xA7. Two
    bytes are stored before, in the last cell and in the first one. -/
def pointsAtSeven : List Call :=
  [.load [0x60, 0xA7, 0xAF, 0xFF, 0xF1, 0x55, 0xF0, 0x29, 0xD1, 0x25], .cycle, .cycle, .cycle]

theorem glyphs_stay_addressable_seven :
    let m := (start Dialect.standard (RandomSource.ofList [])).after pointsAtSeven
    let n := (m.perform .cycle).2.after [.load [0x00, 0xE0], .tick]
    (m.perform .cycle).1 = .stepped (.executed (.loadGlyph 0)) ∧
      (m.perform .cycle).2.state.memory[Fin.ofNat 4096 ((m.perform .cycle).2.state.index.toNat + 4)] = 0x40 ∧
      (n.perform .cycle).1 = .stepped (.executed (.draw 1 2 5)) ∧
      (n.perform .cycle).2.state.frame.pixel (0, 3) = 1 ∧ (n.perform .cycle).2.state.frame.pixel (4, 0) = 0 := by
  have spared : (start Dialect.standard (RandomSource.ofList [])).FontSpared pointsAtSeven := by decide +kernel
  have executed : (((start Dialect.standard (RandomSource.ofList [])).after pointsAtSeven).perform .cycle).1 =
      .stepped (.executed (.loadGlyph 0)) := by decide +kernel
  have drawn : (((((start Dialect.standard (RandomSource.ofList [])).after pointsAtSeven).perform .cycle).2.after
      [.load [0x00, 0xE0], .tick]).perform .cycle).1 = .stepped (.executed (.draw 1 2 5)) := by decide +kernel
  obtain ⟨_, rows, pixels⟩ := glyphs_stay_addressable _ _ _ spared 0 executed
  have pixel := pixels [.load [0x00, 0xE0], .tick] 1 2 (by decide) drawn
  refine ⟨executed, (rows 4 (by decide)).trans ?_, drawn, (pixel (0, 3)).trans ?_, (pixel (4, 0)).trans ?_⟩
  all_goals decide +kernel

end Machine

end Chip8
