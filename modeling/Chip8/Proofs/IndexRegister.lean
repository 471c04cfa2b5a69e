import Chip8.Proofs.Memory
import Chip8.Proofs.WriteSets

namespace Chip8

theorem toNat_add_mod_congr {a b : UInt16} (same : a.toNat % 4096 = b.toNat % 4096) (offset : UInt16) :
    (a + offset).toNat % 4096 = (b + offset).toNat % 4096 := by
  rw [UInt16.toNat_add, UInt16.toNat_add]
  omega

namespace Memory

variable {a b : UInt16}

theorem byte_congr (m : Memory) (same : a.toNat % 4096 = b.toNat % 4096) : m.byte a = m.byte b :=
  congrArg (fun cell : Address => m[cell]) (Fin.ext same)

theorem read_congr (m : Memory) (same : a.toNat % 4096 = b.toNat % 4096) (count : Nat) :
    m.read a count = m.read b count := by
  induction count generalizing a b with
  | zero => rfl
  | succ count ih => rw [read, read, m.byte_congr same, ih (toNat_add_mod_congr same 1)]

theorem write_congr (m : Memory) (same : a.toNat % 4096 = b.toNat % 4096) (bytes : List UInt8) :
    m.write a bytes = m.write b bytes := by
  induction bytes generalizing m a b with
  | nil => rfl
  | cons byte bytes ih =>
    have cell : Address.ofWord a = Address.ofWord b := Fin.ext same
    rw [write, write, cell]
    exact ih _ (toNat_add_mod_congr same 1)

end Memory

namespace State

variable {s : State} {d : Dialect} {b : UInt8} {i : UInt16}

def withIndex (s : State) (i : UInt16) : State := { s with index := i }

theorem index_addIndex : (s.addIndex d b).index = UInt16.ofNat ((s.index.toNat + b.toNat) % 4096) := by
  rw [addIndex_eq]

theorem toNat_index_addIndex : (s.addIndex d b).index.toNat = (s.index.toNat + b.toNat) % 4096 := by
  rw [index_addIndex, UInt16.toNat_ofNat']
  omega

theorem getElem_addIndex_flag (flagged : d.indexOverflowFlag = true) :
    (s.addIndex d b).v[(0xF : Register)] = if 0xFFF < s.index.toNat + b.toNat then 1 else 0 := by
  simp only [addIndex, flagged, if_true, getElem_setFlag_self]
  by_cases wrapped : 0xFFF < s.index.toNat + b.toNat
  · rw [if_pos wrapped, decide_eq_true (Nat.succ_le_of_lt wrapped)]
    rfl
  · rw [if_neg wrapped, decide_eq_false (mt Nat.lt_of_succ_le wrapped)]
    rfl

theorem index_addIndex_withIndex (same : i.toNat % 4096 = s.index.toNat % 4096) :
    ((s.withIndex i).addIndex d b).index = (s.addIndex d b).index := by
  have sum : (i.toNat + b.toNat) % 4096 = (s.index.toNat + b.toNat) % 4096 := by omega
  rw [index_addIndex, index_addIndex]
  exact congrArg UInt16.ofNat sum

theorem addIndex_withIndex (same : i.toNat % 4096 = s.index.toNat % 4096) :
    (s.withIndex i).addIndex d b = { s.addIndex d b with v := ((s.withIndex i).addIndex d b).v } := by
  rw [addIndex_eq, ← index_addIndex, index_addIndex_withIndex same, @addIndex_eq s]
  rfl

end State

namespace Instruction

variable {d : Dialect} {r : RandomSource} {s t : State} {ins : Instruction} {i : UInt16} {x : Register}

def points : Instruction → Bool
  | loadIndex _ | addIndex _ | loadGlyph _ => true
  | _ => false

/-- Apart from an addition that stores a flag, no instruction tells index registers apart that name the same cell. -/
theorem effect_withIndex (same : i.toNat % 4096 = s.index.toNat % 4096)
    (unflagged : ∀ x, ins = addIndex x → d.indexOverflowFlag = false) :
    ins.effect d r (s.withIndex i) =
      (ins.effect d r s).map fun t => if ins.points then t else t.withIndex i := by
  have index : (s.withIndex i).index = i := rfl
  have memory : (s.withIndex i).memory = s.memory := rfl
  cases ins with
  | ret => exact State.ret_map (·.withIndex i) rfl rfl rfl fun _ _ _ => rfl
  | call nnn => exact State.call_map (·.withIndex i) rfl rfl rfl (fun _ _ _ => rfl) nnn
  | skip condition =>
    have holds : condition.holds (s.withIndex i) = condition.holds s := by cases condition <;> rfl
    simp only [effect, holds, State.skipIf]
    split <;> rfl
  | arith op x y => cases op <;> rfl
  | addIndex x =>
    have registers : ((s.withIndex i).addIndex d s.v[x]).v = (s.addIndex d s.v[x]).v := by
      rw [State.v_addIndex (unflagged x rfl), State.v_addIndex (unflagged x rfl)]
      rfl
    have sum := State.addIndex_withIndex (d := d) (b := s.v[x]) same
    rw [registers] at sum
    exact congrArg Except.ok sum
  | draw x y n =>
    simp only [effect, State.draw, index, memory, s.memory.read_congr same n.val]
    rfl
  | storeDecimal x =>
    simp only [effect, index, memory, s.memory.write_congr same]
    rfl
  | storeRegisters x =>
    simp only [effect, index, memory, s.memory.write_congr same]
    rfl
  | loadRegisters x =>
    have byte (offset : UInt16) : s.memory.byte (i + offset) = s.memory.byte (s.index + offset) :=
      s.memory.byte_congr (toNat_add_mod_congr same offset)
    simp only [effect, index, memory, byte]
    rfl
  | _ => rfl

theorem index_of_points_eq_false (pointless : ins.points = false) (executed : ins.effect d r s = .ok t) :
    t.index = s.index := by
  apply index_effect _ _ _ executed
  · rintro nnn rfl
    cases pointless
  · rintro x rfl
    cases pointless
  · rintro x rfl
    cases pointless

theorem execute_withIndex (same : i.toNat % 4096 = s.index.toNat % 4096)
    (unflagged : ∀ x, ins = addIndex x → d.indexOverflowFlag = false) :
    (∃ fault, ins.execute d s r = .error fault ∧ ins.execute d (s.withIndex i) r = .error fault) ∨
    ∃ t later, ins.execute d s r = .ok (t, later) ∧ (ins.points = false → t.index = s.index) ∧
      ins.execute d (s.withIndex i) r = .ok (if ins.points then t else t.withIndex i, later) := by
  have effect' := effect_withIndex (r := r) same unflagged
  cases effect : ins.effect d r s with
  | error fault =>
    rw [effect] at effect'
    exact .inl ⟨fault, execute_eq_error_iff.mpr effect, execute_eq_error_iff.mpr effect'⟩
  | ok t =>
    rw [effect] at effect'
    exact .inr ⟨t, _, execute_of_effect effect, fun pointless => index_of_points_eq_false pointless effect,
      execute_of_effect effect'⟩

theorem index_names_cell (d : Dialect) (r : RandomSource) (ins : Instruction) (s : State) (i : UInt16)
    (same : i.toNat % 4096 = s.index.toNat % 4096) :
    let s' := { s with index := i }
    (∃ fault, ins.execute d s r = .error fault ∧ ins.execute d s' r = .error fault) ∨
    ∃ t t' later, ins.execute d s r = .ok (t, later) ∧ ins.execute d s' r = .ok (t', later) ∧
      t' = { t with index := t'.index, v := t'.v } ∧ t'.index.toNat % 4096 = t.index.toNat % 4096 ∧
      (ins.points = true → t'.index = t.index) ∧ (ins.points = false → t.index = s.index ∧ t'.index = i) ∧
      ((∀ x, ins = addIndex x → d.indexOverflowFlag = false) → t'.v = t.v) ∧
      ∀ x, ins = addIndex x → d.indexOverflowFlag = true →
        (∀ z : Register, z ≠ 0xF → t'.v[z] = t.v[z]) ∧
        t.v[(0xF : Register)] = (if 0xFFF < s.index.toNat + s.v[x].toNat then 1 else 0) ∧
        t'.v[(0xF : Register)] = if 0xFFF < i.toNat + s.v[x].toNat then 1 else 0 := by
  intro s'
  by_cases special : ∃ x, ins = addIndex x ∧ d.indexOverflowFlag = true
  · obtain ⟨x, rfl, flagged⟩ := special
    have index : (s'.addIndex d s.v[x]).index = (s.addIndex d s.v[x]).index := State.index_addIndex_withIndex same
    right
    refine ⟨s.addIndex d s.v[x], s'.addIndex d s.v[x], r, rfl, rfl, ?_, ?_, fun _ => index, nofun, ?_, ?_⟩
    · rw [index]
      exact State.addIndex_withIndex same
    · rw [index]
    · intro unflagged
      exact absurd (unflagged x rfl) (ne_false_of_eq_true flagged)
    · rintro y adds flagged
      cases adds
      refine ⟨?_, State.getElem_addIndex_flag flagged, State.getElem_addIndex_flag flagged⟩
      intro z other
      rw [State.getElem_addIndex_of_ne other, State.getElem_addIndex_of_ne other]
  · have plain (x : Register) (adds : ins = addIndex x) : d.indexOverflowFlag ≠ true :=
      fun flagged => special ⟨x, adds, flagged⟩
    have unflagged (x : Register) (adds : ins = addIndex x) : d.indexOverflowFlag = false :=
      Bool.eq_false_iff.mpr (plain x adds)
    rcases execute_withIndex (r := r) same unflagged with faults | ⟨t, later, executed, kept, executed'⟩
    · exact .inl faults
    · refine .inr ⟨t, _, later, executed, executed', ?_⟩
      cases points : ins.points with
      | true =>
        exact ⟨rfl, rfl, fun _ => rfl, nofun, fun _ => rfl, fun x adds flagged => absurd flagged (plain x adds)⟩
      | false =>
        have index : t.index = s.index := kept points
        have cells : i.toNat % 4096 = t.index.toNat % 4096 := by rw [index, same]
        exact ⟨rfl, cells, nofun, fun _ => ⟨index, rfl⟩, fun _ => rfl,
          fun x adds flagged => absurd flagged (plain x adds)⟩

theorem index_names_cell_five :
    let s := { State.initial with index := 0x0005 }
    (0xF005 : UInt16).toNat % 4096 = s.index.toNat % 4096 ∧
    ∃ t t' later, (addIndex 0).execute ⟨true, false⟩ s (RandomSource.ofList []) = .ok (t, later) ∧
      (addIndex 0).execute ⟨true, false⟩ { s with index := 0xF005 } (RandomSource.ofList []) = .ok (t', later) ∧
      t'.index = t.index ∧ t.v[(0xF : Register)] = 0 ∧ t'.v[(0xF : Register)] = 1 := by
  intro s
  have same : (0xF005 : UInt16).toNat % 4096 = s.index.toNat % 4096 := by decide
  refine ⟨same, ?_⟩
  rcases index_names_cell ⟨true, false⟩ (RandomSource.ofList []) (addIndex 0) s 0xF005 same with
    ⟨fault, faulted, _⟩ | ⟨t, t', later, executed, executed', _, _, index, _, _, flags⟩
  · cases faulted
  · obtain ⟨_, flag, flag'⟩ := flags 0 rfl rfl
    exact ⟨t, t', later, executed, executed', index rfl, flag.trans (by decide), flag'.trans (by decide)⟩

/-- Executes an instruction so many times in a row and gives the states that it leads to, one after the other. -/
def trail (d : Dialect) (ins : Instruction) : Nat → State → RandomSource → Except Fault (List State)
  | 0, _, _ => .ok []
  | k + 1, s, r => do
    let (t, later) ← ins.execute d s r
    let states ← trail d ins k t later
    return t :: states

theorem trail_succ {k : Nat} {later : RandomSource} {states : List State}
    (executed : ins.execute d s r = .ok (t, later)) (rest : ins.trail d k t later = .ok states) :
    ins.trail d (k + 1) s r = .ok (t :: states) := by
  simp only [trail, executed, rest, bind, Except.bind, pure, Except.pure]

end Instruction

namespace State

variable {s : State} {d : Dialect} {x : Register}

def sums (s : State) (d : Dialect) (x : Register) : Nat → List State
  | 0 => []
  | k + 1 => s.addIndex d s.v[x] :: (s.addIndex d s.v[x]).sums d x k

theorem trail_addIndex (s : State) (d : Dialect) (x : Register) (k : Nat) (r : RandomSource) :
    (Instruction.addIndex x).trail d k s r = .ok (s.sums d x k) := by
  induction k generalizing s with
  | zero => rfl
  | succ k ih => exact Instruction.trail_succ rfl (ih _)

theorem length_sums (s : State) (d : Dialect) (x : Register) (k : Nat) : (s.sums d x k).length = k := by
  induction k generalizing s with
  | zero => rfl
  | succ k ih => rw [sums, List.length_cons, ih]

theorem getElem_addIndex_self (kept : d.indexOverflowFlag = false ∨ x ≠ 0xF) (b : UInt8) :
    (s.addIndex d b).v[x] = s.v[x] := by
  rcases kept with unflagged | other
  · rw [v_addIndex unflagged]
  · exact getElem_addIndex_of_ne other

theorem index_sums (bound : s.index.toNat < 4096) (kept : d.indexOverflowFlag = false ∨ x ≠ 0xF) (k : Nat) :
    ((s.sums d x k).getLastD s).index.toNat = (s.index.toNat + k * s.v[x].toNat) % 4096 := by
  induction k generalizing s with
  | zero =>
    rw [Nat.zero_mul, Nat.add_zero, Nat.mod_eq_of_lt bound]
    rfl
  | succ k ih =>
    have next := @toNat_index_addIndex s d s.v[x]
    have rest := ih (s := s.addIndex d s.v[x]) (by omega)
    rw [getElem_addIndex_self kept, next] at rest
    rw [sums, List.getLastD_cons, rest, Nat.succ_mul]
    omega

theorem countP_sums (bound : s.index.toNat < 4096) (flagged : d.indexOverflowFlag = true) (other : x ≠ 0xF) (k : Nat) :
    (s.sums d x k).countP (fun t => t.v[(0xF : Register)] = 1) = (s.index.toNat + k * s.v[x].toNat) / 4096 := by
  induction k generalizing s with
  | zero =>
    rw [Nat.zero_mul, Nat.add_zero, Nat.div_eq_of_lt bound]
    rfl
  | succ k ih =>
    have small := s.v[x].toNat_lt
    have next := @toNat_index_addIndex s d s.v[x]
    have flag := getElem_addIndex_flag (s := s) (b := s.v[x]) flagged
    have rest := ih (s := s.addIndex d s.v[x]) (by omega)
    rw [getElem_addIndex_of_ne other, next] at rest
    rw [sums, List.countP_cons, rest, flag, Nat.succ_mul]
    by_cases wrapped : 0xFFF < s.index.toNat + s.v[x].toNat
    · simp only [if_pos wrapped, decide_true, if_true]
      omega
    · have unset : ¬(0 : UInt8) = 1 := by decide
      simp only [if_neg wrapped, unset, decide_false, Bool.false_eq_true, if_false]
      omega

theorem flag_of_mem_sums (flagged : d.indexOverflowFlag = true) {k : Nat} {t : State} (member : t ∈ s.sums d x k) :
    t.v[(0xF : Register)] = 1 ∨ t.v[(0xF : Register)] = 0 := by
  induction k generalizing s with
  | zero => cases member
  | succ k ih =>
    rcases List.mem_cons.mp member with rfl | later
    · rw [getElem_addIndex_flag flagged]
      split
      · exact .inl rfl
      · exact .inr rfl
    · exact ih later

theorem v_of_mem_sums (unflagged : d.indexOverflowFlag = false) {k : Nat} {t : State} (member : t ∈ s.sums d x k) :
    t.v = s.v := by
  induction k generalizing s with
  | zero => cases member
  | succ k ih =>
    rcases List.mem_cons.mp member with rfl | later
    · exact v_addIndex unflagged
    · exact (ih later).trans (v_addIndex unflagged)

end State

namespace Instruction

theorem additions_count_wraps (d : Dialect) (r : RandomSource) (s : State) (bound : s.index ≤ 0xFFF) :
    (∀ (x : Register) (k : Nat), d.indexOverflowFlag = false ∨ x ≠ 0xF →
      ∃ states, (addIndex x).trail d k s r = .ok states ∧ states.length = k ∧
        (states.getLastD s).index.toNat = (s.index.toNat + k * s.v[x].toNat) % 4096 ∧
        (d.indexOverflowFlag = true →
          states.countP (fun t => t.v[(0xF : Register)] = 1) = (s.index.toNat + k * s.v[x].toNat) / 4096 ∧
          ∀ t ∈ states, t.v[(0xF : Register)] ≠ 1 → t.v[(0xF : Register)] = 0) ∧
        (d.indexOverflowFlag = false → ∀ t ∈ states, t.v = s.v)) ∧
    (d.indexOverflowFlag = true →
      ∃ t, (addIndex 0xF).execute d s r = .ok (t, r) ∧
        t.index.toNat = (s.index.toNat + s.v[(0xF : Register)].toNat) % 4096 ∧
        t.v[(0xF : Register)] = if 0xFFF < s.index.toNat + s.v[(0xF : Register)].toNat then 1 else 0) := by
  have inside : s.index.toNat < 4096 := Nat.lt_succ_of_le (UInt16.le_iff_toNat_le.mp bound)
  constructor
  · intro x k kept
    refine ⟨s.sums d x k, s.trail_addIndex d x k r, s.length_sums d x k, State.index_sums inside kept k, ?_, ?_⟩
    · intro flagged
      have other : x ≠ 0xF := kept.resolve_left (ne_false_of_eq_true flagged)
      refine ⟨State.countP_sums inside flagged other k, ?_⟩
      intro t member unset
      exact (State.flag_of_mem_sums flagged member).resolve_left unset
    · intro unflagged t member
      exact State.v_of_mem_sums unflagged member
  · intro flagged
    exact ⟨_, rfl, State.toNat_index_addIndex, State.getElem_addIndex_flag flagged⟩

theorem additions_count_wraps_seven :
    let s := { State.initial with index := 0xFFF, v := State.initial.v.put 1 255 }
    s.index ≤ 0xFFF ∧
    ∃ states, (addIndex 1).trail ⟨true, false⟩ 100 s (RandomSource.ofList []) = .ok states ∧
      (states.getLastD s).index.toNat = 923 ∧ states.countP (fun t => t.v[(0xF : Register)] = 1) = 7 := by
  intro s
  have bound : s.index ≤ 0xFFF := by decide
  have added : s.v[(1 : Register)].toNat = 255 := by decide
  have first : s.index.toNat = 4095 := rfl
  obtain ⟨sums, _⟩ := additions_count_wraps ⟨true, false⟩ (RandomSource.ofList []) s bound
  obtain ⟨states, run, _, index, flags, _⟩ := sums 1 100 (.inr (by decide))
  have count := (flags rfl).1
  rw [added, first] at index count
  exact ⟨bound, states, run, index, count⟩

end Instruction

end Chip8
