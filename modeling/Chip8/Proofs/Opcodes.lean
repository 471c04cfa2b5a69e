import Chip8.InstructionSet.Encoding

namespace Chip8

namespace Opcode

theorem group_val (op : Opcode) : op.group.val = op.toNat / 4096 := by
  have bound := op.toNat_lt
  simp only [group, Fin.ofNat]
  omega

theorem ofByte_fields (op : Opcode) : ofByte op.group op.x op.kk = op := by
  apply UInt16.toNat_inj.mp
  have bound := op.toNat_lt
  simp only [ofByte, group, x, kk, Fin.ofNat, UInt16.toNat_ofNat', UInt8.toNat_ofNat']
  omega

theorem ofAddress_fields (op : Opcode) : ofAddress op.group op.nnn = op := by
  apply UInt16.toNat_inj.mp
  have bound := op.toNat_lt
  simp only [ofAddress, group, nnn, Address.ofWord, Fin.ofNat, UInt16.toNat_ofNat']
  omega

theorem toWord_nnn (op : Opcode) : op.nnn.toWord = op % 4096 := by
  apply UInt16.toNat_inj.mp
  rw [Address.toNat_toWord, UInt16.toNat_mod]
  rfl

theorem kk_of_digits {op : Opcode} {c d : Nibble} (third : op.y = c) (last : op.n = d) :
    op.kk = UInt8.ofNat (16 * c.val + d.val) := by
  subst third last
  apply UInt8.toNat_inj.mp
  simp only [kk, y, n, Fin.ofNat, UInt8.toNat_ofNat']
  omega

theorem ofNibbles_eq {op : Opcode} {a d : Nibble} (group : op.group.val = a.val) (last : op.n = d) :
    ofNibbles a op.x op.y d = op := by
  rw [← Fin.ext group, ← last]
  exact ofNibbles_fields op

theorem ofByte_eq {op : Opcode} {a : Nibble} {low : UInt8} (group : op.group.val = a.val) (last : op.kk = low) :
    ofByte a op.x low = op := by
  rw [← Fin.ext group, ← last]
  exact ofByte_fields op

theorem ofAddress_eq {op : Opcode} {a : Nibble} (group : op.group.val = a.val) : ofAddress a op.nnn = op := by
  rw [← Fin.ext group]
  exact ofAddress_fields op

theorem toNat_ofNibbles (a b c d : Nibble) :
    (ofNibbles a b c d).toNat = 4096 * a.val + 256 * b.val + 16 * c.val + d.val := by
  rw [ofNibbles, UInt16.toNat_ofNat']
  omega

theorem toNat_ofByte (a b : Nibble) (kk : UInt8) :
    (ofByte a b kk).toNat = 4096 * a.val + 256 * b.val + kk.toNat := by
  have bound := kk.toNat_lt
  rw [ofByte, UInt16.toNat_ofNat']
  omega

theorem toNat_ofAddress (a : Nibble) (nnn : Address) : (ofAddress a nnn).toNat = 4096 * a.val + nnn.val := by
  have bound := nnn.isLt
  rw [ofAddress, UInt16.toNat_ofNat']
  omega

variable (a b c d : Nibble) (kk : UInt8) (nnn : Address)

@[simp]
theorem group_ofNibbles : (ofNibbles a b c d).group = a := by
  apply Fin.ext
  rw [group_val, toNat_ofNibbles]
  omega

@[simp]
theorem x_ofNibbles : (ofNibbles a b c d).x = b := by
  apply Fin.ext
  simp only [x, Fin.ofNat, toNat_ofNibbles]
  omega

@[simp]
theorem y_ofNibbles : (ofNibbles a b c d).y = c := by
  apply Fin.ext
  simp only [y, Fin.ofNat, toNat_ofNibbles]
  omega

@[simp]
theorem n_ofNibbles : (ofNibbles a b c d).n = d := by
  apply Fin.ext
  simp only [n, Fin.ofNat, toNat_ofNibbles]
  omega

@[simp]
theorem group_ofByte : (ofByte a b kk).group = a := by
  apply Fin.ext
  have bound := kk.toNat_lt
  rw [group_val, toNat_ofByte]
  omega

@[simp]
theorem x_ofByte : (ofByte a b kk).x = b := by
  apply Fin.ext
  have bound := kk.toNat_lt
  simp only [x, Fin.ofNat, toNat_ofByte]
  omega

@[simp]
theorem y_ofByte : (ofByte a b kk).y = Fin.ofNat 16 (kk.toNat / 16) := by
  apply Fin.ext
  simp only [y, Fin.ofNat, toNat_ofByte]
  omega

@[simp]
theorem n_ofByte : (ofByte a b kk).n = Fin.ofNat 16 kk.toNat := by
  apply Fin.ext
  simp only [n, Fin.ofNat, toNat_ofByte]
  omega

@[simp]
theorem kk_ofByte : (ofByte a b kk).kk = kk := by
  apply UInt8.toNat_inj.mp
  have bound := kk.toNat_lt
  simp only [Opcode.kk, UInt8.toNat_ofNat', toNat_ofByte]
  omega

@[simp]
theorem group_ofAddress : (ofAddress a nnn).group = a := by
  apply Fin.ext
  rw [group_val, toNat_ofAddress]
  omega

@[simp]
theorem nnn_ofAddress : (ofAddress a nnn).nnn = nnn := by
  apply Fin.ext
  simp only [Opcode.nnn, Address.ofWord, toNat_ofAddress]
  omega

end Opcode

namespace Instruction

open Opcode

theorem arith_or_shift_of_decodeArith? {x y : Register} {d : Nibble} {ins : Instruction}
    (decoded : decodeArith? x y d = some ins) :
    (∃ op : Arith, op.nibble = d ∧ ins = arith op x y) ∨
      ∃ direction : Shift, direction.nibble = d ∧ ins = shift direction x := by
  unfold decodeArith? at decoded
  split at decoded
  · rename_i op found
    cases decoded
    exact .inl ⟨op, by simpa using List.find?_some found, rfl⟩
  · obtain ⟨direction, found, rfl⟩ := Option.map_eq_some_iff.mp decoded
    exact .inr ⟨direction, by simpa using List.find?_some found, rfl⟩

theorem encodeWith_of_decodeMisc? {x : Register} {kk : UInt8} {ins : Instruction}
    (decoded : decodeMisc? x kk = some ins) (spare : Nibble) : ins.encodeWith spare = ofByte 0xF x kk := by
  unfold decodeMisc? at decoded
  split at decoded
  case h_10 => cases decoded
  all_goals
    rename_i low
    cases decoded
    simp only [encodeWith, ofByte, low]
    rfl

theorem encodeWith_of_decode? {op : Opcode} {ins : Instruction} (decoded : decode? op = some ins) :
    ins.encodeWith op.y = op := by
  unfold decode? at decoded
  split at decoded
  case h_17 => cases decoded
  all_goals rename_i group
  case h_1 =>
    split at decoded
    · rename_i same
      cases decoded
      exact same.symm
    · split at decoded
      · rename_i same
        cases decoded
        exact same.symm
      · cases decoded
  case h_2 | h_3 | h_11 | h_12 =>
    cases decoded
    exact ofAddress_eq group
  case h_4 | h_5 | h_7 | h_8 | h_13 =>
    cases decoded
    exact ofByte_eq group rfl
  case h_6 | h_10 =>
    split at decoded
    · rename_i last
      cases decoded
      exact ofNibbles_eq group last
    · cases decoded
  case h_9 =>
    rcases arith_or_shift_of_decodeArith? decoded with ⟨op', last, rfl⟩ | ⟨direction, last, rfl⟩
    · exact ofNibbles_eq group last.symm
    · exact ofNibbles_eq group last.symm
  case h_14 =>
    cases decoded
    exact ofNibbles_eq group rfl
  case h_15 =>
    split at decoded
    · rename_i last
      cases decoded
      exact ofByte_eq group last
    · split at decoded
      · rename_i last
        cases decoded
        exact ofByte_eq group last
      · cases decoded
  case h_16 => exact (encodeWith_of_decodeMisc? decoded op.y).trans (ofByte_eq group rfl)

theorem decodeArith?_nibble (op : Arith) (x y : Register) : decodeArith? x y op.nibble = some (arith op x y) := by
  cases op <;> rfl

theorem decodeArith?_shift (direction : Shift) (x y : Register) :
    decodeArith? x y direction.nibble = some (shift direction x) := by
  cases direction <;> rfl

@[simp]
theorem decode?_encodeWith (ins : Instruction) (spare : Nibble) : decode? (ins.encodeWith spare) = some ins := by
  cases ins with
  | clear | ret =>
    simp only [encodeWith]
    rfl
  | skip condition =>
    cases condition
    all_goals
      simp only [encodeWith, decode?, group_ofByte, x_ofByte, kk_ofByte, group_ofNibbles, x_ofNibbles, y_ofNibbles,
        n_ofNibbles]
      rfl
  | jump | call | jumpOffset | loadIndex =>
    simp only [encodeWith, decode?, group_ofAddress, nnn_ofAddress]
    rfl
  | arith op x y =>
    simp only [encodeWith, decode?, group_ofNibbles, x_ofNibbles, y_ofNibbles, n_ofNibbles]
    exact decodeArith?_nibble op x y
  | shift direction x =>
    simp only [encodeWith, decode?, group_ofNibbles, x_ofNibbles, y_ofNibbles, n_ofNibbles]
    exact decodeArith?_shift direction x spare
  | draw =>
    simp only [encodeWith, decode?, group_ofNibbles, x_ofNibbles, y_ofNibbles, n_ofNibbles]
    rfl
  | _ =>
    simp only [encodeWith, decode?, group_ofByte, x_ofByte, kk_ofByte]
    rfl

theorem decode?_eq_ret_iff {op : Opcode} : decode? op = some ret ↔ op = 0x00EE := by
  constructor
  · intro decoded
    exact (encodeWith_of_decode? decoded).symm
  · intro same
    subst same
    rfl

theorem decode?_eq_call_iff {op : Opcode} {nnn : Address} :
    decode? op = some (call nnn) ↔ op.toNat / 4096 = 2 ∧ nnn = op.nnn := by
  constructor
  · intro decoded
    have encoded : ofAddress 0x2 nnn = op := encodeWith_of_decode? decoded
    have bound := nnn.isLt
    have value : op.toNat = 8192 + nnn.val := by
      rw [← encoded, toNat_ofAddress]
      rfl
    refine ⟨by omega, Fin.ext ?_⟩
    simp only [Opcode.nnn, Address.ofWord, value]
    omega
  · intro called
    obtain ⟨two, rfl⟩ := called
    simp [decode?, group_val, two]

theorem group_eq_two_iff {op : Opcode} : op.toNat / 4096 = 2 ↔ decode? op = some (call op.nnn) := by
  rw [decode?_eq_call_iff, and_iff_left rfl]

end Instruction

end Chip8
