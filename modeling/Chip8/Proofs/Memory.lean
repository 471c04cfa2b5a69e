import Chip8.Memory

namespace Chip8

theorem ofNat_le_of_le {n : Nat} (bound : n ≤ 0xFFF) : UInt16.ofNat n ≤ 0xFFF := by
  rw [UInt16.le_iff_toNat_le, UInt16.toNat_ofNat']
  exact Nat.le_trans (Nat.mod_le _ _) bound

theorem Address.toWord_le (a : Address) : a.toWord ≤ 0xFFF := ofNat_le_of_le (by omega)

theorem wrap_le (a : UInt16) : wrap a ≤ 0xFFF := (Address.ofWord a).toWord_le

theorem toNat_and_mask (a : UInt16) : (a &&& 0x0FFF).toNat = a.toNat % 4096 := by
  rw [UInt16.toNat_and]
  exact Nat.and_two_pow_sub_one_eq_mod a.toNat 12

theorem wrap_eq_and (a : UInt16) : wrap a = a &&& 0x0FFF := by
  apply UInt16.toNat_inj.mp
  rw [toNat_wrap, toNat_and_mask]

theorem wrap_eq_mod (a : UInt16) : wrap a = a % 4096 := by
  apply UInt16.toNat_inj.mp
  rw [toNat_wrap, UInt16.toNat_mod]
  rfl

namespace Memory

theorem byte_add (m : Memory) (a : UInt16) (offset : Nat) :
    m.byte (a + UInt16.ofNat offset) = m[Fin.ofNat 4096 (a.toNat + offset)] := by
  have same : Address.ofWord (a + UInt16.ofNat offset) = Fin.ofNat 4096 (a.toNat + offset) := by
    apply Fin.ext
    simp only [Address.ofWord, Fin.ofNat, UInt16.toNat_add, UInt16.toNat_ofNat']
    omega
  exact congrArg (fun cell : Address => m[cell]) same

theorem word_eq (m : Memory) (a : UInt16) :
    m.word a = UInt16.ofNat
      (256 * m[Fin.ofNat 4096 a.toNat].toNat + m[Fin.ofNat 4096 (a.toNat + 1)].toNat) := by
  rw [← byte_add]
  rfl

/-- Around the end of memory, a cell lies as far from the first one written as its byte from the first byte. -/
theorem getElem_write_eq (m : Memory) (a : UInt16) {bytes : List UInt8} (fits : bytes.length ≤ 4096) (c : Address) :
    (m.write a bytes)[c] = bytes[(c - Address.ofWord a).val]?.getD m[c] := by
  have bound := c.isLt
  have offset : (c - Address.ofWord a).val = (4096 - a.toNat % 4096 + c.val) % 4096 := rfl
  by_cases inside : (c - Address.ofWord a).val < bytes.length
  · rw [List.getElem?_eq_getElem inside]
    exact getElem_write m a bytes fits c _ inside (by omega)
  · rw [List.getElem?_eq_none (by omega)]
    apply getElem_write_of_forall_ne
    intro j early same
    omega

theorem getElem_write_ofNat (m : Memory) {start : Nat} {bytes : List UInt8} (fits : start + bytes.length ≤ 4096)
    (c : Address) :
    (m.write (UInt16.ofNat start) bytes)[c] = if start ≤ c.val then bytes[c.val - start]?.getD m[c] else m[c] := by
  have bound := c.isLt
  rw [getElem_write_eq m _ (by omega)]
  have offset : (c - Address.ofWord (UInt16.ofNat start)).val = (4096 - start % 65536 % 4096 + c.val) % 4096 := by
    rw [← UInt16.toNat_ofNat']
    rfl
  split
  · rename_i above
    by_cases empty : start = 4096
    · subst empty
      omega
    · have same : (c - Address.ofWord (UInt16.ofNat start)).val = c.val - start := by omega
      rw [same]
  · rename_i below
    rw [List.getElem?_eq_none (by omega)]
    rfl

end Memory

end Chip8
