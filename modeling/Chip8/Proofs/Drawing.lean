import Chip8.Proofs.Sprites
import Chip8.Proofs.WriteSets
import Mathlib.Tactic.Linarith

namespace Chip8

theorem val_sub_ofNat {k : Nat} [NeZero k] (i : Fin k) (a : Nat) :
    (i - Fin.ofNat k a).val = (((i.val : Int) - a) % k).toNat := by
  have below : a % k ≤ k := Nat.le_of_lt (Nat.mod_lt a (Nat.pos_of_neZero k))
  have parts : (a : Int) = a % k + k * (a / k) := (Int.emod_add_mul_ediv a k).symm
  have around : ((k - a % k + i.val : Nat) : Int) = (i.val - a) + k * (1 + a / k) := by
    rw [Nat.cast_add, Nat.cast_sub below, Int.natCast_mod]
    linarith
  have same : (((k - a % k + i.val) % k : Nat) : Int) = ((i.val : Int) - a) % k := by
    rw [Int.natCast_mod, around, Int.add_mul_emod_self_left]
  rw [← same]
  rfl

namespace Frame

def cross (drawn : Frame × Bool) (c : Cell) : Frame × Bool := (drawn.1.flip c, drawn.2 || drawn.1.isLit c)

/-- Cells that differ may be looked at while they are flipped: none of them is looked at after its flip. -/
theorem foldl_cross (f : Frame) (met : Bool) {cells : List Cell} (distinct : cells.Nodup) :
    cells.foldl cross (f, met) = (f.flipAll cells, met || cells.any f.isLit) := by
  induction cells generalizing f met with
  | nil => simp [flipAll]
  | cons c cells ih =>
    rw [List.nodup_cons] at distinct
    have later : cells.any (f.flip c).isLit = cells.any f.isLit := by
      rw [Bool.eq_iff_iff, List.any_eq_true, List.any_eq_true]
      refine exists_congr fun c' => and_congr_right fun member => ?_
      have apart : c ≠ c' := fun same => distinct.1 (same ▸ member)
      rw [isLit, isLit, pixel_flip, if_neg apart]
    rw [List.foldl_cons, cross, ih _ _ distinct.2, later, List.any_cons, Bool.or_assoc]
    rfl

theorem ext_pixel {f g : Frame} (same : ∀ c, f.pixel c = g.pixel c) : f = g := by
  apply Vector.ext
  intro row inside
  apply Vector.ext
  intro column inside'
  exact same (⟨row, inside⟩, ⟨column, inside'⟩)

end Frame

namespace State

variable {s : State} {x y : Register} {n : Nibble}

theorem covers_iff {row : Fin 32} {column : Fin 64} :
    s.covers x y n (row, column) ↔
      (((row.val : Int) - s.v[y].toNat) % 32).toNat < n.val ∧
      (((column.val : Int) - s.v[x].toNat) % 64).toNat < 8 ∧
      s.memory[Fin.ofNat 4096 (s.index.toNat + (((row.val : Int) - s.v[y].toNat) % 32).toNat)].toNat.testBit
        (7 - (((column.val : Int) - s.v[x].toNat) % 64).toNat) := by
  simp only [covers, val_sub_ofNat, Nat.cast_ofNat, Bool.and_eq_true, decide_eq_true_eq, and_assoc]

theorem put_out_iff (c : Cell) :
    s.frame.pixel c = 1 ∧ (s.draw x y n).frame.pixel c = 0 ↔ s.covers x y n c ∧ s.frame.isLit c := by
  rw [pixel_draw, Frame.isLit, beq_iff_eq]
  by_cases covered : s.covers x y n c
  · simp only [covered, if_true, true_and]
    constructor
    · intro out
      exact out.1
    · intro lit
      exact ⟨lit, by rw [lit]; rfl⟩
  · simp only [covered, Bool.false_eq_true, if_false, false_and, iff_false]
    intro out
    rw [out.1] at out
    exact absurd out.2 (by decide)

def meets (s : State) (x y : Register) (n : Nibble) : Bool :=
  (Sprite.cells s.v[y].toNat s.v[x].toNat (s.memory.read s.index n.val)).any s.frame.isLit

theorem flag_draw : (s.draw x y n).v[(0xF : Register)] = (s.meets x y n).toUInt8 := getElem_setFlag_self _

theorem meets_iff : s.meets x y n ↔ ∃ c, s.frame.pixel c = 1 ∧ (s.draw x y n).frame.pixel c = 0 := by
  rw [meets, List.any_eq_true]
  apply exists_congr
  intro c
  rw [put_out_iff, mem_cells_iff_covers]

theorem covers_draw (left : x ≠ 0xF) (top : y ≠ 0xF) (c : Cell) :
    (s.draw x y n).covers x y n c = s.covers x y n c := by
  have column : (s.draw x y n).v[x] = s.v[x] := getElem_setFlag_of_ne left _
  have row : (s.draw x y n).v[y] = s.v[y] := getElem_setFlag_of_ne top _
  rw [covers, column, row]
  rfl

theorem frame_draw_draw (left : x ≠ 0xF) (top : y ≠ 0xF) : ((s.draw x y n).draw x y n).frame = s.frame := by
  apply Frame.ext_pixel
  intro c
  rw [pixel_draw, covers_draw left top, pixel_draw]
  by_cases covered : s.covers x y n c
  · rw [if_pos covered, if_pos covered, UInt8.xor_assoc, UInt8.xor_self, UInt8.xor_zero]
  · rw [if_neg covered, if_neg covered]

end State

namespace Instruction

theorem draw_flips_covered (d : Dialect) (r : RandomSource) (s : State) (x y : Register) (n : Nibble) :
    ∃ t, (draw x y n).execute d s r = .ok (t, r) ∧
      (∀ (row : Fin 32) (column : Fin 64),
        let down := (((row.val : Int) - s.v[y].toNat) % 32).toNat
        let right := (((column.val : Int) - s.v[x].toNat) % 64).toNat
        let sprite := s.memory[Fin.ofNat 4096 (s.index.toNat + down)]
        t.frame.pixel (row, column) =
          if down < n.val ∧ right < 8 ∧ sprite.toNat.testBit (7 - right) then s.frame.pixel (row, column) ^^^ 1
          else s.frame.pixel (row, column)) ∧
      ((∃ c, s.frame.pixel c = 1 ∧ t.frame.pixel c = 0) → t.v[(0xF : Register)] = 1) ∧
      ((¬∃ c, s.frame.pixel c = 1 ∧ t.frame.pixel c = 0) → t.v[(0xF : Register)] = 0) ∧
      t.redraw = true ∧ (∀ z : Register, z ≠ 0xF → t.v[z] = s.v[z]) ∧
      t = { s with v := t.v, frame := t.frame, redraw := t.redraw } := by
  refine ⟨s.draw x y n, rfl, ?_, ?_, ?_, rfl, ?_, rfl⟩
  · intro row column down right sprite
    have drawn := State.pixel_draw s x y n (row, column)
    simp only [State.covers_iff] at drawn
    exact drawn
  · intro out
    rw [State.flag_draw, State.meets_iff.mpr out]
    rfl
  · intro untouched
    have unmet : s.meets x y n = false := Bool.eq_false_iff.mpr (mt State.meets_iff.mp untouched)
    rw [State.flag_draw, unmet]
    rfl
  · intro z other
    exact State.getElem_setFlag_of_ne other _

theorem draw_twice_restores (d : Dialect) (r : RandomSource) (s : State) {x y : Register} (n : Nibble)
    (left : x ≠ 0xF) (top : y ≠ 0xF) :
    ∃ t u, (draw x y n).execute d s r = .ok (t, r) ∧ (draw x y n).execute d t r = .ok (u, r) ∧
      u.frame = s.frame ∧
      ((∃ c, s.frame.pixel c = 0 ∧ t.frame.pixel c = 1) → u.v[(0xF : Register)] = 1) ∧
      ((¬∃ c, s.frame.pixel c = 0 ∧ t.frame.pixel c = 1) → u.v[(0xF : Register)] = 0) ∧
      (∀ z : Register, z ≠ 0xF → u.v[z] = s.v[z]) ∧ u = { s with v := u.v, redraw := true } := by
  have restored : ((s.draw x y n).draw x y n).frame = s.frame := State.frame_draw_draw left top
  have flag : ((s.draw x y n).draw x y n).v[(0xF : Register)] = ((s.draw x y n).meets x y n).toUInt8 := State.flag_draw
  have lit : (s.draw x y n).meets x y n ↔ ∃ c, s.frame.pixel c = 0 ∧ (s.draw x y n).frame.pixel c = 1 := by
    rw [State.meets_iff, restored]
    exact exists_congr fun c => and_comm
  refine ⟨s.draw x y n, (s.draw x y n).draw x y n, rfl, rfl, restored, ?_, ?_, ?_, ?_⟩
  · intro seen
    rw [flag, lit.mpr seen]
    rfl
  · intro unseen
    rw [flag, Bool.eq_false_iff.mpr (mt lit.mp unseen)]
    rfl
  · intro z other
    exact (State.getElem_setFlag_of_ne other _).trans (State.getElem_setFlag_of_ne other _)
  · rw [← restored]
    rfl

/-- A sprite of two rows, the one in the last cell of memory and the other in the first, is to be drawn in the lower
    right corner of a frame where one pixel is lit. -/
def cornered : State :=
  { State.initial with
    v := Vector.ofFn fun r => if r = 1 then 62 else if r = 2 then 31 else 0
    index := 0xFFFF
    memory := (Memory.zero.put 0xFFF 0x81).put 0 0xC0
    frame := Frame.dark.flip (31, 5) }

theorem draw_twice_restores_cornered :
    ∃ t u, (draw 1 2 2).execute Dialect.standard cornered (RandomSource.ofList []) = .ok (t, RandomSource.ofList []) ∧
      (draw 1 2 2).execute Dialect.standard t (RandomSource.ofList []) = .ok (u, RandomSource.ofList []) ∧
      t.frame.pixel (31, 5) = 0 ∧ t.frame.pixel (0, 63) = 1 ∧ u.frame = cornered.frame ∧ u.v[(0xF : Register)] = 1 := by
  obtain ⟨t, u, first, second, restored, flagged, _⟩ :=
    draw_twice_restores Dialect.standard (RandomSource.ofList []) cornered (x := 1) (y := 2) 2 (by decide) (by decide)
  have drawn : t = cornered.draw 1 2 2 := (congrArg Prod.fst (Except.ok.inj first)).symm
  have out : t.frame.pixel (31, 5) = 0 := by
    rw [drawn]
    decide +kernel
  have lit : t.frame.pixel (0, 63) = 1 := by
    rw [drawn]
    decide +kernel
  have dark : cornered.frame.pixel (0, 63) = 0 := by decide +kernel
  exact ⟨t, u, first, second, out, lit, restored, flagged ⟨(0, 63), dark, lit⟩⟩

example :
    let s := { State.initial with v := State.initial.v.put 0xF 8, memory := Memory.zero.put 0 0x80 }
    ((s.draw 0xF 0 1).draw 0xF 0 1).frame ≠ s.frame := by decide +kernel

end Instruction

end Chip8
