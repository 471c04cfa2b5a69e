import Chip8.Proofs.RegisterTransfer

namespace Chip8

namespace Instruction

variable {d : Dialect} {r : RandomSource} {s t stored loaded : State} {x m z : Register}

theorem le_nine_of_mem_digits {b digit : UInt8} (member : digit ∈ digits b) : digit ≤ 9 := by
  have bound := b.toNat_lt
  have nine : (9 : UInt8).toNat = 9 := rfl
  have ten : (10 : UInt8).toNat = 10 := rfl
  have hundred : (100 : UInt8).toNat = 100 := rfl
  rw [UInt8.le_iff_toNat_le, nine]
  simp only [digits, List.mem_cons, List.not_mem_nil, or_false] at member
  rcases member with rfl | rfl | rfl
  · rw [UInt8.toNat_div, hundred]
    omega
  · rw [UInt8.toNat_mod, ten]
    omega
  · rw [UInt8.toNat_mod, ten]
    omega

theorem value_of_digits {b hundreds tens ones : UInt8} (decimal : digits b = [hundreds, tens, ones]) :
    100 * hundreds.toNat + 10 * tens.toNat + ones.toNat = b.toNat := by
  cases decimal
  have ten : (10 : UInt8).toNat = 10 := rfl
  have hundred : (100 : UInt8).toNat = 100 := rfl
  rw [UInt8.toNat_div, UInt8.toNat_mod, UInt8.toNat_mod, UInt8.toNat_div, ten, hundred]
  omega

theorem storeDecimal_eq (executed : (storeDecimal x).effect d r s = .ok t) : t = { s with memory := t.memory } := by
  obtain rfl := Except.ok.inj executed
  rfl

theorem getElem_memory_storeDecimal (executed : (storeDecimal x).effect d r s = .ok t) {j : Nat} (first : j < 3) :
    (digits s.v[x])[j]? = some t.memory[Fin.ofNat 4096 (s.index.toNat + j)] := by
  obtain rfl := Except.ok.inj executed
  have length : (digits s.v[x]).length = 3 := rfl
  have inside : j < (digits s.v[x]).length := by omega
  rw [List.getElem?_eq_getElem inside]
  exact congrArg some (Memory.getElem_write s.memory s.index _ (by omega) _ j inside rfl).symm

theorem getElem_v_of_digits (stores : (storeDecimal x).effect d r s = .ok stored)
    (loads : (loadRegisters m).effect d r stored = .ok loaded) (three : 2 ≤ m) (first : z ≤ 2) :
    (digits s.v[x])[z.val]? = some loaded.v[z] := by
  have within : z ≤ m := Nat.le_trans first three
  have index : stored.index = s.index := by rw [storeDecimal_eq stores]
  rw [getElem_v_loadRegisters loads, if_pos within, index]
  exact getElem_memory_storeDecimal stores (Nat.lt_succ_of_le first)

/-- No two of sixteen cells in a row are the same, so a cell past the third one is none of the first three. -/
theorem getElem_memory_past_digits (stores : (storeDecimal x).effect d r s = .ok stored) (past : 2 < z) :
    stored.memory[Fin.ofNat 4096 (s.index.toNat + z.val)] = s.memory[Fin.ofNat 4096 (s.index.toNat + z.val)] := by
  apply getElem_memory_effect _ stores
  rintro ⟨j, early, met⟩
  have third : j < 3 := early
  have beyond : 2 < z.val := past
  have last := z.isLt
  simp only [Fin.ofNat] at met
  omega

theorem digits_load_back (d : Dialect) (r : RandomSource) (s : State) (x m : Register) (three : 2 ≤ m) :
    ∃ stored loaded, (storeDecimal x).execute d s r = .ok (stored, r) ∧
      (loadRegisters m).execute d stored r = .ok (loaded, r) ∧
      (∀ z : Register, z ≤ 2 → loaded.v[z] ≤ 9) ∧
      100 * loaded.v[(0 : Register)].toNat + 10 * loaded.v[(1 : Register)].toNat + loaded.v[(2 : Register)].toNat =
        s.v[x].toNat ∧
      (∀ z : Register, 2 < z → z ≤ m → loaded.v[z] = s.memory[Fin.ofNat 4096 (s.index.toNat + z.val)]) ∧
      (∀ z : Register, m < z → loaded.v[z] = s.v[z]) ∧
      (∀ a : Address, (∀ j < 3, (s.index.toNat + j) % 4096 ≠ a.val) → loaded.memory[a] = s.memory[a]) ∧
      loaded = { s with v := loaded.v, memory := loaded.memory } := by
  obtain ⟨stored, stores⟩ : ∃ stored, (storeDecimal x).effect d r s = .ok stored := ⟨_, rfl⟩
  obtain ⟨loaded, loads⟩ : ∃ loaded, (loadRegisters m).effect d r stored = .ok loaded := ⟨_, rfl⟩
  have kept := storeDecimal_eq stores
  have kept' := loadRegisters_eq loads
  have digit (z : Register) (first : z ≤ 2) : (digits s.v[x])[z.val]? = some loaded.v[z] :=
    getElem_v_of_digits stores loads three first
  refine ⟨stored, loaded, execute_of_effect stores, execute_of_effect loads, ?_, ?_, ?_, ?_, ?_, ?_⟩
  · intro z first
    exact le_nine_of_mem_digits (List.mem_of_getElem? (digit z first))
  · apply value_of_digits
    rw [← Option.some.inj (digit 0 (by decide)), ← Option.some.inj (digit 1 (by decide)),
      ← Option.some.inj (digit 2 (by decide))]
    rfl
  · intro z past within
    have index : stored.index = s.index := by rw [kept]
    rw [getElem_v_loadRegisters loads, if_pos within, index]
    exact getElem_memory_past_digits stores past
  · intro z beyond
    rw [getElem_v_loadRegisters loads, if_neg (Fin.not_le.mpr beyond), kept]
  · intro a missed
    have memory : loaded.memory = stored.memory := by rw [kept']
    rw [memory]
    apply getElem_memory_effect _ stores
    rintro ⟨j, within, met⟩
    exact missed j within met
  · rw [kept', kept]

def atEnd : State := { State.initial with v := State.initial.v.put 1 254, index := 0xFFFE }

theorem digits_load_back_around_end :
    ∃ stored loaded, (storeDecimal 1).execute Dialect.standard atEnd (RandomSource.ofList []) =
        .ok (stored, RandomSource.ofList []) ∧
      (loadRegisters 4).execute Dialect.standard stored (RandomSource.ofList []) =
        .ok (loaded, RandomSource.ofList []) ∧
      100 * loaded.v[(0 : Register)].toNat + 10 * loaded.v[(1 : Register)].toNat + loaded.v[(2 : Register)].toNat =
        254 ∧
      loaded.v[(3 : Register)] = atEnd.memory[(1 : Address)] ∧ loaded.memory[(0x50 : Address)] = 0xF0 := by
  obtain ⟨stored, loaded, stores, loads, _, value, bytes, _, cells, _⟩ :=
    digits_load_back Dialect.standard (RandomSource.ofList []) atEnd 1 4 (by decide)
  have held : atEnd.v[(1 : Register)].toNat = 254 := by decide
  have glyph : atEnd.memory[(0x50 : Address)] = 0xF0 := by decide +kernel
  refine ⟨stored, loaded, stores, loads, value.trans held, bytes 3 (by decide) (by decide), ?_⟩
  rw [cells 0x50 (by decide)]
  exact glyph

end Instruction

end Chip8
