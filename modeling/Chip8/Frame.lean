import Chip8.Indexing
import Chip8.Layout

namespace Chip8

abbrev Frame := Vector (Vector UInt8 Layout.frameWidth) Layout.frameHeight

abbrev Cell := Fin Layout.frameHeight × Fin Layout.frameWidth

namespace Frame

def dark : Frame := Vector.replicate Layout.frameHeight (Vector.replicate Layout.frameWidth 0)

def pixel (f : Frame) (c : Cell) : UInt8 := f[c.1][c.2]

def isLit (f : Frame) (c : Cell) : Bool := f.pixel c == 1

def flip (f : Frame) (c : Cell) : Frame := f.put c.1 (f[c.1].put c.2 (f.pixel c ^^^ 1))

def flipAll (f : Frame) (cells : List Cell) : Frame := cells.foldl flip f

theorem pixel_flip (f : Frame) (c d : Cell) :
    (f.flip c).pixel d = if c = d then f.pixel d ^^^ 1 else f.pixel d := by
  obtain ⟨row, column⟩ := c
  obtain ⟨row', column'⟩ := d
  simp only [flip, pixel, Vector.getElem_index, Vector.put_eq_set, Vector.getElem_set, Prod.mk.injEq, Fin.ext_iff]
  by_cases sameRow : row.val = row'.val
  · by_cases sameColumn : column.val = column'.val
    · simp [sameRow, sameColumn]
    · simp [sameRow, sameColumn]
  · simp [sameRow]

theorem pixel_flipAll (f : Frame) {cells : List Cell} (distinct : cells.Nodup) (d : Cell) :
    (f.flipAll cells).pixel d = if cells.contains d then f.pixel d ^^^ 1 else f.pixel d := by
  induction cells generalizing f with
  | nil => rfl
  | cons c cells ih =>
    rw [List.nodup_cons] at distinct
    have step : f.flipAll (c :: cells) = (f.flip c).flipAll cells := rfl
    rw [step, ih (f.flip c) distinct.2, pixel_flip]
    by_cases first : c = d
    · subst first
      simp [distinct.1]
    · have first' : d ≠ c := fun same => first same.symm
      simp [first, first']

end Frame

namespace Sprite

/-- Whether a sprite row sets the pixel at an offset from its left end, which is the highest bit. -/
def sets (row : UInt8) (offset : Nat) : Bool := row.toNat.testBit (7 - offset)

/-- The cells that a sprite covers with its top left corner at row `top` and column `left`, past an edge of the
    frame continuing at the opposite one. -/
def cells (top left : Nat) (rows : List UInt8) : List Cell :=
  rows.zipIdx.flatMap fun (row, down) =>
    ((List.range 8).filter (sets row)).map fun right =>
      (Fin.ofNat Layout.frameHeight (top + down), Fin.ofNat Layout.frameWidth (left + right))

end Sprite

end Chip8
