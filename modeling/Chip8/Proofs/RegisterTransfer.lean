import Chip8.Proofs.Memory
import Chip8.Proofs.WriteSets

namespace Chip8

namespace Memory

theorem write_read (m : Memory) (a : UInt16) (count : Nat) : m.write a (m.read a count) = m := by
  induction count generalizing a with
  | zero => rfl
  | succ count ih =>
    have own : m.put (Address.ofWord a) (m.byte a) = m := Vector.set_getElem_self (Address.ofWord a).isLt
    rw [read, write, own]
    exact ih (a + 1)

end Memory

namespace Instruction

variable {d : Dialect} {r : RandomSource} {s t : State} {x : Register}

theorem loadRegisters_eq (executed : (loadRegisters x).effect d r s = .ok t) : t = { s with v := t.v } := by
  obtain rfl := Except.ok.inj executed
  rfl

theorem storeRegisters_eq (executed : (storeRegisters x).effect d r s = .ok t) :
    t = { s with memory := t.memory } := by
  obtain rfl := Except.ok.inj executed
  rfl

theorem getElem_v_loadRegisters (executed : (loadRegisters x).effect d r s = .ok t) (z : Register) :
    t.v[z] = if z ≤ x then s.memory[Fin.ofNat 4096 (s.index.toNat + z.val)] else s.v[z] := by
  obtain rfl := Except.ok.inj executed
  rw [← Memory.byte_add]
  simp

theorem getElem_memory_storeRegisters (executed : (storeRegisters x).effect d r s = .ok t) {z : Register}
    (within : z ≤ x) : t.memory[Fin.ofNat 4096 (s.index.toNat + z.val)] = s.v[z] := by
  obtain rfl := Except.ok.inj executed
  have length : (s.v.toList.take (x.val + 1)).length = x.val + 1 := s.v.length_take_index x
  have inside : z.val < (s.v.toList.take (x.val + 1)).length := by
    rw [length]
    exact Nat.lt_succ_of_le within
  refine (Memory.getElem_write s.memory s.index _ (by omega) _ z.val inside rfl).trans ?_
  simp

theorem take_v_loadRegisters (executed : (loadRegisters x).effect d r s = .ok t) :
    t.v.toList.take (x.val + 1) = s.memory.read s.index (x.val + 1) := by
  apply List.ext_getElem?
  intro j
  by_cases inside : j < x.val + 1
  · have small : j < 16 := by omega
    have within : (⟨j, small⟩ : Register) ≤ x := Nat.le_of_lt_succ inside
    have loaded := getElem_v_loadRegisters executed ⟨j, small⟩
    rw [if_pos within, ← Memory.byte_add] at loaded
    rw [List.getElem?_take_of_lt inside, Vector.getElem?_toList, Vector.getElem?_eq_getElem small,
      Memory.getElem?_read _ _ inside]
    exact congrArg some loaded
  · rw [List.getElem?_eq_none, List.getElem?_eq_none]
    · rw [Memory.length_read]
      omega
    · rw [List.length_take]
      omega

theorem store_and_load_are_inverse (d : Dialect) (r : RandomSource) (s : State) (x : Register) :
    (∃ stored, (storeRegisters x).execute d s r = .ok (stored, r) ∧ stored = { s with memory := stored.memory } ∧
      (∀ a : Address, (∀ j ≤ x.val, (s.index.toNat + j) % 4096 ≠ a.val) → stored.memory[a] = s.memory[a]) ∧
      ∀ later : State, later.index = s.index →
        (∀ j ≤ x.val, later.memory[Fin.ofNat 4096 (s.index.toNat + j)] =
          stored.memory[Fin.ofNat 4096 (s.index.toNat + j)]) →
        ∀ d' r', ∃ loaded, (loadRegisters x).execute d' later r' = .ok (loaded, r') ∧
          (∀ z ≤ x, loaded.v[z] = s.v[z]) ∧ (∀ z, x < z → loaded.v[z] = later.v[z]) ∧
          loaded = { later with v := loaded.v }) ∧
    ∃ loaded stored, (loadRegisters x).execute d s r = .ok (loaded, r) ∧
      (storeRegisters x).execute d loaded r = .ok (stored, r) ∧ stored.memory = s.memory ∧ stored = loaded := by
  constructor
  · obtain ⟨stored, stores⟩ : ∃ stored, (storeRegisters x).effect d r s = .ok stored := ⟨_, rfl⟩
    refine ⟨stored, execute_of_effect stores, storeRegisters_eq stores, ?_, ?_⟩
    · intro a missed
      apply getElem_memory_effect _ stores
      rintro ⟨j, within, met⟩
      exact missed j (Nat.le_of_lt_succ within) met
    · intro later index bytes d' r'
      obtain ⟨loaded, loads⟩ : ∃ loaded, (loadRegisters x).effect d' r' later = .ok loaded := ⟨_, rfl⟩
      refine ⟨loaded, execute_of_effect loads, ?_, ?_, loadRegisters_eq loads⟩
      · intro z within
        rw [getElem_v_loadRegisters loads, if_pos within, index, bytes z.val within]
        exact getElem_memory_storeRegisters stores within
      · intro z beyond
        rw [getElem_v_loadRegisters loads, if_neg (Fin.not_le.mpr beyond)]
  · obtain ⟨loaded, loads⟩ : ∃ loaded, (loadRegisters x).effect d r s = .ok loaded := ⟨_, rfl⟩
    have registers := take_v_loadRegisters loads
    have memory : loaded.memory = s.memory := by rw [loadRegisters_eq loads]
    have index : loaded.index = s.index := by rw [loadRegisters_eq loads]
    have same : loaded.memory.write loaded.index (loaded.v.toList.take (x.val + 1)) = loaded.memory := by
      rw [registers, index, memory]
      exact Memory.write_read _ _ _
    have stores : (storeRegisters x).effect d r loaded = .ok loaded := by rw [effect, same]
    exact ⟨loaded, loaded, execute_of_effect loads, execute_of_effect stores, memory, rfl⟩

def straddling : State := { State.initial with v := Vector.ofFn fun r => UInt8.ofNat (10 + r.val), index := 0xFFFE }

/-- Four registers lie in memory around its end while all of them are overwritten, and the cell after them too. -/
theorem store_and_load_are_inverse_straddling :
    ∃ stored loaded,
      (storeRegisters 3).execute Dialect.standard straddling (RandomSource.ofList []) =
        .ok (stored, RandomSource.ofList []) ∧
      (loadRegisters 3).execute Dialect.standard
          { stored with v := Vector.replicate 16 9, memory := stored.memory.put 2 9 } (RandomSource.ofList []) =
        .ok (loaded, RandomSource.ofList []) ∧
      loaded.v[(3 : Register)] = 13 ∧ loaded.v[(4 : Register)] = 9 := by
  obtain ⟨⟨stored, stores, kept, _, loads⟩, _⟩ :=
    store_and_load_are_inverse Dialect.standard (RandomSource.ofList []) straddling 3
  have index : stored.index = straddling.index := by rw [kept]
  have bytes (j : Nat) (within : j ≤ 3) :
      (stored.memory.put 2 9)[Fin.ofNat 4096 (straddling.index.toNat + j)] =
        stored.memory[Fin.ofNat 4096 (straddling.index.toNat + j)] := by
    have apart : 2 ≠ (0xFFFE + j) % 4096 := by omega
    exact Vector.getElem_set_ne _ _ apart
  obtain ⟨loaded, loading, registers, others, _⟩ :=
    loads { stored with v := Vector.replicate 16 9, memory := stored.memory.put 2 9 } index bytes Dialect.standard
      (RandomSource.ofList [])
  have third : straddling.v[(3 : Register)] = 13 := by decide
  exact ⟨stored, loaded, stores, loading, (registers 3 (by decide)).trans third, others 4 (by decide)⟩

end Instruction

end Chip8
