import Chip8.Memory

namespace Chip8

abbrev Nibble := Fin 16

abbrev Register := Fin 16

abbrev Opcode := UInt16

namespace Opcode

def group (op : Opcode) : Nibble := Fin.ofNat 16 (op.toNat / 4096)

def x (op : Opcode) : Register := Fin.ofNat 16 (op.toNat / 256)

def y (op : Opcode) : Register := Fin.ofNat 16 (op.toNat / 16)

def n (op : Opcode) : Nibble := Fin.ofNat 16 op.toNat

def kk (op : Opcode) : UInt8 := UInt8.ofNat op.toNat

def nnn (op : Opcode) : Address := Address.ofWord op

def ofNibbles (a b c d : Nibble) : Opcode := UInt16.ofNat (4096 * a.val + 256 * b.val + 16 * c.val + d.val)

def ofByte (a b : Nibble) (kk : UInt8) : Opcode := UInt16.ofNat (4096 * a.val + 256 * b.val + kk.toNat)

def ofAddress (a : Nibble) (nnn : Address) : Opcode := UInt16.ofNat (4096 * a.val + nnn.val)

theorem ofNibbles_fields (op : Opcode) : ofNibbles op.group op.x op.y op.n = op := by
  apply UInt16.toNat_inj.mp
  have h := op.toNat_lt
  simp only [ofNibbles, group, x, y, n, Fin.ofNat, UInt16.toNat_ofNat']
  omega

end Opcode

end Chip8
