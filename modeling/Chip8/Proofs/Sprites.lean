import Chip8.Machine.Basic
import Chip8.Proofs.Memory
import Mathlib.Data.List.Nodup

namespace Chip8

namespace Sprite

theorem mem_cells {top left : Nat} {rows : List UInt8} {c : Cell} :
    c ∈ cells top left rows ↔ ∃ row down right, rows[down]? = some row ∧ right < 8 ∧ sets row right ∧
      (Fin.ofNat 32 (top + down), Fin.ofNat 64 (left + right)) = c := by
  simp only [cells, List.mem_flatMap, Prod.exists, List.mk_mem_zipIdx_iff_getElem?, List.mem_map, List.mem_filter,
    List.mem_range]
  constructor
  · intro covered
    obtain ⟨row, down, present, right, ⟨narrow, set⟩, same⟩ := covered
    exact ⟨row, down, right, present, narrow, set, same⟩
  · intro covered
    obtain ⟨row, down, right, present, narrow, set, same⟩ := covered
    exact ⟨row, down, present, right, ⟨narrow, set⟩, same⟩

theorem mem_cells_iff {top left : Nat} {rows : List UInt8} (short : rows.length ≤ 32) {c : Cell} :
    c ∈ cells top left rows ↔ ∃ row, rows[(c.1 - Fin.ofNat 32 top).val]? = some row ∧
      (c.2 - Fin.ofNat 64 left).val < 8 ∧ sets row (c.2 - Fin.ofNat 64 left).val := by
  obtain ⟨i, j⟩ := c
  have rowBound : i.val < 32 := i.isLt
  have columnBound : j.val < 64 := j.isLt
  rw [mem_cells]
  constructor
  · intro covered
    obtain ⟨row, down, right, present, narrow, set, same⟩ := covered
    obtain ⟨inside, _⟩ := List.getElem?_eq_some_iff.mp present
    simp only [Prod.mk.injEq, Fin.ext_iff, Fin.ofNat, Layout.frameHeight, Layout.frameWidth] at same
    have atRow : (i - Fin.ofNat 32 top).val = down := by
      simp only [Fin.sub_def, Fin.ofNat, Layout.frameHeight]
      omega
    have atColumn : (j - Fin.ofNat 64 left).val = right := by
      simp only [Fin.sub_def, Fin.ofNat, Layout.frameWidth]
      omega
    rw [atRow, atColumn]
    exact ⟨row, present, narrow, set⟩
  · intro covered
    obtain ⟨row, present, narrow, set⟩ := covered
    refine ⟨row, _, _, present, narrow, set, ?_⟩
    simp only [Prod.mk.injEq, Fin.ext_iff, Fin.sub_def, Fin.ofNat, Layout.frameHeight, Layout.frameWidth]
    omega

/-- The cells of a sprite differ as long as it does not reach around the frame to itself. -/
theorem nodup_cells (top left : Nat) {rows : List UInt8} (short : rows.length ≤ 32) :
    (cells top left rows).Nodup := by
  refine List.nodup_flatMap.mpr ⟨?_, ?_⟩
  · intro indexed _
    obtain ⟨row, down⟩ := indexed
    refine List.Nodup.map_on ?_ (List.nodup_range.filter _)
    intro right member right' member' same
    have narrow := List.mem_range.mp (List.mem_of_mem_filter member)
    have narrow' := List.mem_range.mp (List.mem_of_mem_filter member')
    simp only [Prod.mk.injEq, true_and, Fin.ext_iff, Fin.ofNat, Layout.frameHeight, Layout.frameWidth] at same
    omega
  · have ascending : rows.zipIdx.Pairwise fun a b => a.2 < b.2 := by
      rw [← List.pairwise_map, List.zipIdx_map_snd]
      exact List.pairwise_lt_range'
    refine ascending.imp_of_mem ?_
    intro indexed indexed' member member' above
    obtain ⟨row, down⟩ := indexed
    obtain ⟨row', down'⟩ := indexed'
    have inside := (List.getElem?_eq_some_iff.mp (List.mk_mem_zipIdx_iff_getElem?.mp member)).1
    have inside' := (List.getElem?_eq_some_iff.mp (List.mk_mem_zipIdx_iff_getElem?.mp member')).1
    intro c covered covered'
    obtain ⟨right, _, rfl⟩ := List.mem_map.mp covered
    obtain ⟨right', _, same⟩ := List.mem_map.mp covered'
    simp only [Prod.mk.injEq, Fin.ext_iff, Fin.ofNat, Layout.frameHeight, Layout.frameWidth] at same
    dsimp only at above
    omega

end Sprite

namespace State

/-- Whether the sprite of a draw instruction covers a cell. Around the frame, the cell lies `down` rows below the
    top of the sprite and `right` columns from its left edge; the sprite has eight columns, and its rows lie in
    memory from the index register on. -/
def covers (s : State) (x y : Register) (n : Nibble) (c : Cell) : Bool :=
  let down := c.1 - Fin.ofNat 32 s.v[y].toNat
  let right := c.2 - Fin.ofNat 64 s.v[x].toNat
  down.val < n.val && right.val < 8 &&
    s.memory[Fin.ofNat 4096 (s.index.toNat + down.val)].toNat.testBit (7 - right.val)

theorem length_sprite_le (s : State) (n : Nibble) : (s.memory.read s.index n.val).length ≤ 32 := by
  rw [Memory.length_read]
  omega

theorem nodup_sprite_cells (s : State) (x y : Register) (n : Nibble) :
    (Sprite.cells s.v[y].toNat s.v[x].toNat (s.memory.read s.index n.val)).Nodup :=
  Sprite.nodup_cells _ _ (s.length_sprite_le n)

theorem mem_cells_iff_covers (s : State) (x y : Register) (n : Nibble) (c : Cell) :
    c ∈ Sprite.cells s.v[y].toNat s.v[x].toNat (s.memory.read s.index n.val) ↔ s.covers x y n c := by
  rw [Sprite.mem_cells_iff (s.length_sprite_le n)]
  simp only [covers, Bool.and_eq_true, decide_eq_true_eq]
  constructor
  · intro covered
    obtain ⟨row, present, narrow, set⟩ := covered
    obtain ⟨inside, _⟩ := List.getElem?_eq_some_iff.mp present
    rw [Memory.length_read] at inside
    rw [Memory.getElem?_read _ _ inside, Memory.byte_add] at present
    cases present
    exact ⟨⟨inside, narrow⟩, set⟩
  · intro covered
    obtain ⟨⟨inside, narrow⟩, set⟩ := covered
    refine ⟨_, Memory.getElem?_read _ _ inside, narrow, ?_⟩
    rw [Memory.byte_add]
    exact set

theorem pixel_draw (s : State) (x y : Register) (n : Nibble) (c : Cell) :
    (s.draw x y n).frame.pixel c = if s.covers x y n c then s.frame.pixel c ^^^ 1 else s.frame.pixel c := by
  have drawn := Frame.pixel_flipAll s.frame (s.nodup_sprite_cells x y n) c
  simp only [List.contains_iff_mem, mem_cells_iff_covers] at drawn
  exact drawn

end State

end Chip8
