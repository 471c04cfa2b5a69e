import Chip8.Proofs.Opcodes

namespace Chip8

/-- One of the four digits of a format: a fixed one, or a letter for a digit of the field of that name. -/
inductive Digit where
  | is (d : Nibble)
  | x
  | y
  | n
  | k
deriving DecidableEq

namespace Digit

def Admits : Digit → Nibble → Prop
  | is d, e => e = d
  | _, _ => True

end Digit

/-- The digits of an opcode, the highest first, and the instruction whose fields they hold. -/
structure Format where
  first : Digit
  second : Digit
  third : Digit
  fourth : Digit
  read : Opcode → Instruction

namespace Format

def Matches (f : Format) (op : Opcode) : Prop :=
  f.first.Admits op.group ∧ f.second.Admits op.x ∧ f.third.Admits op.y ∧ f.fourth.Admits op.n

end Format

namespace Instruction

def format : Instruction → Format
  | clear => ⟨.is 0x0, .is 0x0, .is 0xE, .is 0x0, fun _ => clear⟩
  | ret => ⟨.is 0x0, .is 0x0, .is 0xE, .is 0xE, fun _ => ret⟩
  | jump _ => ⟨.is 0x1, .n, .n, .n, fun op => jump op.nnn⟩
  | call _ => ⟨.is 0x2, .n, .n, .n, fun op => call op.nnn⟩
  | skip (.equalByte _ _) => ⟨.is 0x3, .x, .k, .k, fun op => skip (.equalByte op.x op.kk)⟩
  | skip (.notEqualByte _ _) => ⟨.is 0x4, .x, .k, .k, fun op => skip (.notEqualByte op.x op.kk)⟩
  | skip (.equalRegister _ _) => ⟨.is 0x5, .x, .y, .is 0x0, fun op => skip (.equalRegister op.x op.y)⟩
  | loadByte _ _ => ⟨.is 0x6, .x, .k, .k, fun op => loadByte op.x op.kk⟩
  | addByte _ _ => ⟨.is 0x7, .x, .k, .k, fun op => addByte op.x op.kk⟩
  | arith .move _ _ => ⟨.is 0x8, .x, .y, .is 0x0, fun op => arith .move op.x op.y⟩
  | arith .or _ _ => ⟨.is 0x8, .x, .y, .is 0x1, fun op => arith .or op.x op.y⟩
  | arith .and _ _ => ⟨.is 0x8, .x, .y, .is 0x2, fun op => arith .and op.x op.y⟩
  | arith .xor _ _ => ⟨.is 0x8, .x, .y, .is 0x3, fun op => arith .xor op.x op.y⟩
  | arith .add _ _ => ⟨.is 0x8, .x, .y, .is 0x4, fun op => arith .add op.x op.y⟩
  | arith .subtract _ _ => ⟨.is 0x8, .x, .y, .is 0x5, fun op => arith .subtract op.x op.y⟩
  | shift .right _ => ⟨.is 0x8, .x, .y, .is 0x6, fun op => shift .right op.x⟩
  | arith .subtractFrom _ _ => ⟨.is 0x8, .x, .y, .is 0x7, fun op => arith .subtractFrom op.x op.y⟩
  | shift .left _ => ⟨.is 0x8, .x, .y, .is 0xE, fun op => shift .left op.x⟩
  | skip (.notEqualRegister _ _) => ⟨.is 0x9, .x, .y, .is 0x0, fun op => skip (.notEqualRegister op.x op.y)⟩
  | loadIndex _ => ⟨.is 0xA, .n, .n, .n, fun op => loadIndex op.nnn⟩
  | jumpOffset _ => ⟨.is 0xB, .n, .n, .n, fun op => jumpOffset op.nnn⟩
  | random _ _ => ⟨.is 0xC, .x, .k, .k, fun op => random op.x op.kk⟩
  | draw _ _ _ => ⟨.is 0xD, .x, .y, .n, fun op => draw op.x op.y op.n⟩
  | skip (.keyDown _) => ⟨.is 0xE, .x, .is 0x9, .is 0xE, fun op => skip (.keyDown op.x)⟩
  | skip (.keyUp _) => ⟨.is 0xE, .x, .is 0xA, .is 0x1, fun op => skip (.keyUp op.x)⟩
  | loadDelay _ => ⟨.is 0xF, .x, .is 0x0, .is 0x7, fun op => loadDelay op.x⟩
  | waitKey _ => ⟨.is 0xF, .x, .is 0x0, .is 0xA, fun op => waitKey op.x⟩
  | setDelay _ => ⟨.is 0xF, .x, .is 0x1, .is 0x5, fun op => setDelay op.x⟩
  | setSound _ => ⟨.is 0xF, .x, .is 0x1, .is 0x8, fun op => setSound op.x⟩
  | addIndex _ => ⟨.is 0xF, .x, .is 0x1, .is 0xE, fun op => addIndex op.x⟩
  | loadGlyph _ => ⟨.is 0xF, .x, .is 0x2, .is 0x9, fun op => loadGlyph op.x⟩
  | storeDecimal _ => ⟨.is 0xF, .x, .is 0x3, .is 0x3, fun op => storeDecimal op.x⟩
  | storeRegisters _ => ⟨.is 0xF, .x, .is 0x5, .is 0x5, fun op => storeRegisters op.x⟩
  | loadRegisters _ => ⟨.is 0xF, .x, .is 0x6, .is 0x5, fun op => loadRegisters op.x⟩

open Opcode

variable {op : Opcode} {ins : Instruction}

theorem format_read (ins : Instruction) (op : Opcode) : (ins.format.read op).format = ins.format := by
  cases ins with
  | skip condition => cases condition <;> rfl
  | arith operation => cases operation <;> rfl
  | shift direction => cases direction <;> rfl
  | _ => rfl

theorem encodeWith_read (has : ins.format.Matches op) : (ins.format.read op).encodeWith op.y = op := by
  obtain ⟨first, second, third, fourth⟩ := has
  cases ins with
  | clear | ret =>
    rw [← ofNibbles_fields op, first, second, third, fourth]
    rfl
  | jump | call | loadIndex | jumpOffset => exact ofAddress_eq (congrArg Fin.val first)
  | loadByte | addByte | random => exact ofByte_eq (congrArg Fin.val first) rfl
  | draw => exact ofNibbles_eq (congrArg Fin.val first) rfl
  | arith operation => cases operation <;> exact ofNibbles_eq (congrArg Fin.val first) fourth
  | shift direction => cases direction <;> exact ofNibbles_eq (congrArg Fin.val first) fourth
  | skip condition =>
    cases condition with
    | equalByte | notEqualByte => exact ofByte_eq (congrArg Fin.val first) rfl
    | equalRegister | notEqualRegister => exact ofNibbles_eq (congrArg Fin.val first) fourth
    | keyDown | keyUp => exact ofByte_eq (congrArg Fin.val first) (kk_of_digits third fourth)
  | _ => exact ofByte_eq (congrArg Fin.val first) (kk_of_digits third fourth)

theorem matches_digits (a b c d : Nibble) (read : Opcode → Instruction) :
    Format.Matches ⟨.is a, .is b, .is c, .is d, read⟩ (ofNibbles a b c d) :=
  ⟨group_ofNibbles a b c d, x_ofNibbles a b c d, y_ofNibbles a b c d, n_ofNibbles a b c d⟩

theorem matches_ofByte (a x : Nibble) (kk : UInt8) (read : Opcode → Instruction) :
    Format.Matches ⟨.is a, .x, .is (Fin.ofNat 16 (kk.toNat / 16)), .is (Fin.ofNat 16 kk.toNat), read⟩ (ofByte a x kk) :=
  ⟨group_ofByte a x kk, trivial, y_ofByte a x kk, n_ofByte a x kk⟩

theorem matches_ofNibbles (a x y d : Nibble) (read : Opcode → Instruction) :
    Format.Matches ⟨.is a, .x, .y, .is d, read⟩ (ofNibbles a x y d) :=
  ⟨group_ofNibbles a x y d, trivial, trivial, n_ofNibbles a x y d⟩

theorem matches_encodeWith (ins : Instruction) (spare : Nibble) : ins.format.Matches (ins.encodeWith spare) := by
  cases ins with
  | clear => exact matches_digits 0x0 0x0 0xE 0x0 _
  | ret => exact matches_digits 0x0 0x0 0xE 0xE _
  | jump | call | loadIndex | jumpOffset => exact ⟨group_ofAddress _ _, trivial, trivial, trivial⟩
  | loadByte | addByte | random => exact ⟨group_ofByte _ _ _, trivial, trivial, trivial⟩
  | draw => exact ⟨group_ofNibbles _ _ _ _, trivial, trivial, trivial⟩
  | arith operation => cases operation <;> exact matches_ofNibbles _ _ _ _ _
  | shift direction => cases direction <;> exact matches_ofNibbles _ _ _ _ _
  | skip condition =>
    cases condition with
    | equalByte | notEqualByte => exact ⟨group_ofByte _ _ _, trivial, trivial, trivial⟩
    | equalRegister | notEqualRegister => exact matches_ofNibbles _ _ _ _ _
    | keyDown | keyUp => exact matches_ofByte _ _ _ _
  | _ => exact matches_ofByte _ _ _ _

theorem read_encodeWith (ins : Instruction) (spare : Nibble) : ins.format.read (ins.encodeWith spare) = ins := by
  cases ins with
  | arith operation => cases operation <;> simp [format, encodeWith]
  | shift direction => cases direction <;> simp [format, encodeWith]
  | skip condition => cases condition <;> simp [format, encodeWith]
  | _ => simp [format, encodeWith]

theorem decode?_eq_some_iff : decode? op = some ins ↔ ins.format.Matches op ∧ ins.format.read op = ins := by
  constructor
  · intro decoded
    have has := matches_encodeWith ins op.y
    have read := read_encodeWith ins op.y
    rw [encodeWith_of_decode? decoded] at has read
    exact ⟨has, read⟩
  · intro holds
    obtain ⟨has, read⟩ := holds
    have encoded := encodeWith_read has
    rw [read] at encoded
    rw [← encoded]
    exact decode?_encodeWith ins op.y

theorem decode?_read (has : ins.format.Matches op) : decode? op = some (ins.format.read op) := by
  apply decode?_eq_some_iff.mpr
  rw [format_read]
  exact ⟨has, rfl⟩

theorem decode?_eq_none_iff : decode? op = none ↔ ∀ ins : Instruction, ¬ins.format.Matches op := by
  constructor
  · intro unknown ins has
    rw [decode?_read has] at unknown
    cases unknown
  · intro formless
    cases decoded : decode? op with
    | none => rfl
    | some ins => exact absurd (decode?_eq_some_iff.mp decoded).1 (formless ins)

theorem decode_eq_ok_iff {address : UInt16} : decode op address = .ok ins ↔ decode? op = some ins := by
  unfold decode
  cases decode? op <;> simp

theorem decode_eq_error_iff {address : UInt16} {fault : Fault} :
    decode op address = .error fault ↔ decode? op = none ∧ fault = .unknownOpcode op address := by
  unfold decode
  cases decode? op <;> simp [eq_comm]

theorem encodeWith_congr (ins : Instruction) (spare spare' : Nibble) :
    ins.encodeWith spare = ins.encodeWith spare' ∨ ∃ direction x, ins = shift direction x := by
  cases ins with
  | shift direction x => exact .inr ⟨direction, x, rfl⟩
  | skip condition => cases condition <;> exact .inl rfl
  | _ => exact .inl rfl

theorem decode?_eq_shift_iff {direction : Shift} {x : Register} :
    decode? op = some (shift direction x) ↔ op.group = 0x8 ∧ op.n = direction.nibble ∧ op.x = x := by
  rw [decode?_eq_some_iff]
  cases direction <;> simp [format, Format.Matches, Digit.Admits, Shift.nibble, and_assoc]

theorem encodeWith_eq_or_shift (decoded : decode? op = some ins) :
    (∀ spare, ins.encodeWith spare = op) ∨ ∃ direction, ins = shift direction op.x := by
  by_cases shifts : ∃ direction x, ins = shift direction x
  · obtain ⟨direction, x, rfl⟩ := shifts
    obtain ⟨_, _, rfl⟩ := decode?_eq_shift_iff.mp decoded
    exact .inr ⟨direction, rfl⟩
  · left
    intro spare
    have same := (encodeWith_congr ins spare op.y).resolve_right shifts
    exact same.trans (encodeWith_of_decode? decoded)

theorem eq_iff_of_decode? {op' : Opcode} {ins' : Instruction} (decoded : decode? op = some ins)
    (decoded' : decode? op' = some ins') :
    ins = ins' ↔ op = op' ∨
      (op.group = 0x8 ∧ op'.group = 0x8 ∧ op.x = op'.x ∧ op.n = op'.n ∧ (op.n = 0x6 ∨ op.n = 0xE)) := by
  constructor
  · rintro rfl
    rcases encodeWith_congr ins op.y op'.y with same | ⟨direction, x, rfl⟩
    · rw [encodeWith_of_decode? decoded, encodeWith_of_decode? decoded'] at same
      exact .inl same
    · obtain ⟨group, last, rfl⟩ := decode?_eq_shift_iff.mp decoded
      obtain ⟨group', last', same⟩ := decode?_eq_shift_iff.mp decoded'
      refine .inr ⟨group, group', same.symm, last.trans last'.symm, ?_⟩
      cases direction with
      | left => exact .inr last
      | right => exact .inl last
  · rintro (rfl | ⟨group, group', register, last, kind⟩)
    · exact Option.some.inj (decoded.symm.trans decoded')
    · obtain ⟨direction, nibble⟩ : ∃ direction : Shift, op.n = direction.nibble :=
        kind.elim (fun right => ⟨.right, right⟩) (fun left => ⟨.left, left⟩)
      have shifts := decode?_eq_shift_iff.mpr ⟨group, nibble, register⟩
      have shifts' := decode?_eq_shift_iff.mpr ⟨group', last.symm.trans nibble, rfl⟩
      exact Option.some.inj (decoded.symm.trans (shifts.trans (shifts'.symm.trans decoded')))

theorem decode?_eq_none_of_group_zero (zero : op.group = 0x0) (notClear : op ≠ 0x00E0) (notReturn : op ≠ 0x00EE) :
    decode? op = none := by
  simp [decode?, zero, notClear, notReturn]

theorem decode_inverts_encoding (op : Opcode) (address : UInt16) :
    (∀ ins, decode op address = .ok ins ↔ ins.format.Matches op ∧ ins.format.read op = ins) ∧
    (∀ ins, decode op address = .ok ins → ins.encodeWith op.y = op ∧
      ((∀ spare, ins.encodeWith spare = op) ∨ ∃ direction, ins = shift direction op.x)) ∧
    (∀ op' address' ins ins', decode op address = .ok ins → decode op' address' = .ok ins' →
      (ins = ins' ↔ op = op' ∨
        (op.group = 0x8 ∧ op'.group = 0x8 ∧ op.x = op'.x ∧ op.n = op'.n ∧ (op.n = 0x6 ∨ op.n = 0xE)))) ∧
    (∀ ins spare, decode (ins.encodeWith spare) address = .ok ins) ∧
    (∀ fault, decode op address = .error fault ↔
      (∀ ins : Instruction, ¬ins.format.Matches op) ∧ fault = .unknownOpcode op address) ∧
    (op.group = 0x0 → op ≠ 0x00E0 → op ≠ 0x00EE → decode op address = .error (.unknownOpcode op address)) := by
  refine ⟨?_, ?_, ?_, ?_, ?_, ?_⟩
  · intro ins
    rw [decode_eq_ok_iff, decode?_eq_some_iff]
  · intro ins decoded
    have known := decode_eq_ok_iff.mp decoded
    exact ⟨encodeWith_of_decode? known, encodeWith_eq_or_shift known⟩
  · intro op' address' ins ins' decoded decoded'
    exact eq_iff_of_decode? (decode_eq_ok_iff.mp decoded) (decode_eq_ok_iff.mp decoded')
  · intro ins spare
    exact decode_eq_ok_iff.mpr (decode?_encodeWith ins spare)
  · intro fault
    rw [decode_eq_error_iff, decode?_eq_none_iff]
  · intro zero notClear notReturn
    exact decode_eq_error_iff.mpr ⟨decode?_eq_none_of_group_zero zero notClear notReturn, rfl⟩

theorem decode_inverts_encoding_shift :
    decode 0x8126 0x200 = .ok (shift .right 0x1) ∧ (shift .right 0x1).encodeWith 0x2 = 0x8126 ∧
    decode 0x0123 0x200 = .error (.unknownOpcode 0x0123 0x200) := by
  have decoded : decode 0x8126 0x200 = .ok (shift .right 0x1) := rfl
  obtain ⟨_, inverts, _⟩ := decode_inverts_encoding 0x8126 0x200
  obtain ⟨_, _, _, _, _, unknown⟩ := decode_inverts_encoding 0x0123 0x200
  exact ⟨decoded, (inverts _ decoded).1, unknown (by decide) (by decide) (by decide)⟩

end Instruction

end Chip8
