import Chip8.Host.Session
import Chip8.Proofs.KeyWait

namespace Chip8.Host

theorem toLower_eq_self_or (c : Char) : c.toLower = c ∨ c.toLower.toUpper = c := by
  by_cases capital : 65 ≤ c.val ∧ c.val ≤ 90
  · right
    have lower : c.toLower.val = c.val + 32 := congrArg Char.val (dif_pos capital)
    have small : 97 ≤ c.toLower.val ∧ c.toLower.val ≤ 122 := by
      rw [lower]
      simp only [UInt32.le_iff_toNat_le, UInt32.toNat_add, UInt32.reduceToNat] at capital ⊢
      omega
    have back : (32 : UInt32) + ('A'.val - 'a'.val) = 0 := by decide
    refine (dif_pos small).trans (Char.ext ?_)
    show c.toLower.val + ('A'.val - 'a'.val) = c.val
    rw [lower, UInt32.add_assoc, back, UInt32.add_zero]
  · exact .inl (dif_neg capital)

theorem keyOf?_eq_some_iff {c : Char} {k : Key} :
    keyOf? c = some k ↔ c = keyboard[k] ∨ c = keyboard[k].toUpper := by
  have listed : ∀ k : Key, keyOf? keyboard[k] = some k ∧ keyOf? keyboard[k].toUpper = some k := by decide +kernel
  constructor
  · intro found
    rw [keyOf?, Vector.finIdxOf?, Option.map_eq_some_iff] at found
    obtain ⟨i, found, rfl⟩ := found
    have lower : keyboard[i.cast keyboard.size_toArray] = c.toLower := (Array.finIdxOf?_eq_some_iff.mp found).1
    rw [lower]
    rcases toLower_eq_self_or c with same | raised
    · exact .inl same.symm
    · exact .inr raised.symm
  · rintro (rfl | rfl)
    · exact (listed k).1
    · exact (listed k).2

theorem isSome_keyOf?_iff {c : Char} :
    (keyOf? c).isSome = true ↔ c ∈ "1234qwerasdfzxcvQWERASDFZXCV".toList := by
  have listed : ∀ k : Key, keyboard[k] ∈ "1234qwerasdfzxcvQWERASDFZXCV".toList ∧
      keyboard[k].toUpper ∈ "1234qwerasdfzxcvQWERASDFZXCV".toList := by decide
  constructor
  · intro mapped
    obtain ⟨k, found⟩ := Option.isSome_iff_exists.mp mapped
    rcases keyOf?_eq_some_iff.mp found with rfl | rfl
    · exact (listed k).1
    · exact (listed k).2
  · have mapped : ∀ c ∈ "1234qwerasdfzxcvQWERASDFZXCV".toList, (keyOf? c).isSome = true :=
      List.all_eq_true.mp (by decide +kernel)
    exact mapped c

def pressing (keys : Vector Bool 16) (held : List Char) : Vector Bool 16 :=
  Vector.ofFn fun k => keys[k] || held.any (keyOf? · = some k)

theorem getElem_pressing_iff {keys : Vector Bool 16} {held : List Char} {k : Key} :
    (pressing keys held)[k] = true ↔ keys[k] = true ∨ ∃ c ∈ held, keyOf? c = some k := by
  simp [pressing]

theorem keys_ext {keys keys' : Vector Bool 16} (same : ∀ k : Key, keys[k] = true ↔ keys'[k] = true) :
    keys = keys' := by
  apply Vector.ext
  intro i bound
  exact Bool.eq_iff_iff.mpr (same ⟨i, bound⟩)

theorem pressing_cons {keys : Vector Bool 16} {c : Char} {held : List Char} {k : Key} (mapped : keyOf? c = some k) :
    pressing keys (c :: held) = pressing (keys.put k true) held := by
  apply keys_ext
  intro l
  have put : (keys.put k true)[l] = true ↔ k = l ∨ keys[l] = true := by
    rw [Machine.getElem_put_key]
    simp [Key.number_inj]
  simp only [getElem_pressing_iff, put, List.mem_cons, exists_eq_or_imp, mapped, Option.some_inj, or_assoc,
    or_left_comm]

namespace Session

variable {m : Machine} {held : List Char}

theorem keyDown_of_awake (awake : m.state.waiting = none) (k : Key) :
    m.keyDown k = { m with state := { m.state with keys := m.state.keys.put k true } } := by
  unfold Machine.keyDown
  rw [awake]
  cases m.state.keys[k] <;> rfl

theorem hold_of_mapped (awake : m.state.waiting = none) (mapped : ∀ c ∈ held, (keyOf? c).isSome = true) :
    hold m held = .ok { m with state := { m.state with keys := pressing m.state.keys held } } := by
  induction held generalizing m with
  | nil =>
    have same : pressing m.state.keys [] = m.state.keys := by simp [pressing]
    rw [hold, same]
  | cons c held ih =>
    obtain ⟨first, rest⟩ := List.forall_mem_cons.mp mapped
    obtain ⟨k, found⟩ := Option.isSome_iff_exists.mp first
    rw [hold, found, pressing_cons found]
    dsimp only
    rw [keyDown_of_awake awake]
    exact ih awake rest

theorem hold_of_unmapped {before after : List Char} {c : Char} (mapped : ∀ c ∈ before, (keyOf? c).isSome = true)
    (unmapped : keyOf? c = none) : hold m (before ++ c :: after) = .error (.unmappedKey c) := by
  induction before generalizing m with
  | nil => rw [List.nil_append, hold, unmapped]
  | cons b before ih =>
    obtain ⟨first, rest⟩ := List.forall_mem_cons.mp mapped
    obtain ⟨k, found⟩ := Option.isSome_iff_exists.mp first
    rw [List.cons_append, hold, found]
    exact ih rest

theorem hold_eq_ok_iff : (∃ m', hold m held = .ok m') ↔ ∀ c ∈ held, (keyOf? c).isSome = true := by
  induction held generalizing m with
  | nil => simp [hold]
  | cons c held ih =>
    rw [List.forall_mem_cons, hold]
    cases keyOf? c with
    | some k => simp [ih]
    | none => simp

variable {c : Setup} {outside : RandomSource} {program : List UInt8}

def loaded (c : Setup) (outside : RandomSource) (program : List UInt8) : Machine :=
  (Machine.start c.dialect (randomSource c outside)).after [.load program]

theorem loaded_of_fits (fits : program.length ≤ 3584) :
    loaded c outside program =
      ⟨{ State.initial with memory := Memory.initial.write (UInt16.ofNat 0x200) program }, randomSource c outside,
        c.dialect⟩ := by
  rw [loaded, Machine.after_cons, Machine.after_nil, Machine.perform_load, if_pos fits]
  rfl

theorem prepare_of_fits (fits : program.length ≤ 3584) :
    prepare c (.ok program) outside = hold (loaded c outside program) c.held.toList := by
  have short : program.length ≤ Layout.programCapacity := fits
  rw [loaded_of_fits fits]
  simp only [prepare, Machine.load, if_pos short]
  rfl

theorem prepare_of_long (long : 3584 < program.length) :
    prepare c (.ok program) outside = .error (.unloadable c.path (.programTooLong program.length)) := by
  have large : ¬program.length ≤ Layout.programCapacity := Nat.not_le.mpr long
  simp only [prepare, Machine.load, if_neg large]

theorem prepare_of_mapped (fits : program.length ≤ 3584) (mapped : ∀ ch ∈ c.held.toList, (keyOf? ch).isSome = true) :
    prepare c (.ok program) outside =
      .ok { loaded c outside program with
        state := { (loaded c outside program).state with
          keys := pressing (Vector.replicate 16 false) c.held.toList } } := by
  rw [prepare_of_fits fits, loaded_of_fits fits]
  exact hold_of_mapped rfl mapped

theorem prepare_congr_held {held : String} (mapped : ∀ ch ∈ c.held.toList, (keyOf? ch).isSome = true)
    (mapped' : ∀ ch ∈ held.toList, (keyOf? ch).isSome = true)
    (same : pressing (Vector.replicate 16 false) held.toList = pressing (Vector.replicate 16 false) c.held.toList)
    (reading : Reading) : prepare { c with held } reading outside = prepare c reading outside := by
  cases reading with
  | error error => rfl
  | ok program =>
    by_cases fits : program.length ≤ 3584
    · rw [prepare_of_mapped fits mapped, prepare_of_mapped fits mapped', same]
      rfl
    · rw [prepare_of_long (Nat.not_le.mp fits), prepare_of_long (Nat.not_le.mp fits)]

theorem run_of_failure {reading : Reading} {failure : Failure} (failed : prepare c reading outside = .error failure)
    (fuel : Nat) : run c reading outside fuel = some ⟨"", .error failure⟩ := by
  rw [run, failed]

theorem held_keys_are_a_set (c : Setup) (outside : RandomSource) :
    let layout := "1234qwerasdfzxcvQWERASDFZXCV".toList
    let mapped (held : String) : Prop := ∀ ch ∈ held.toList, (keyOf? ch).isSome = true
    let holds (held : String) (k : Key) : Prop := ∃ ch ∈ held.toList, keyOf? ch = some k
    (∀ program : List UInt8, program.length ≤ 3584 → mapped c.held →
      let loaded := (Machine.start c.dialect (randomSource c outside)).after [.load program]
      ∃ keys : Vector Bool 16, (∀ k : Key, keys[k] = true ↔ holds c.held k) ∧
        prepare c (.ok program) outside = .ok { loaded with state := { loaded.state with keys } }) ∧
    (∀ held, mapped c.held → mapped held → (∀ k, holds c.held k ↔ holds held k) → ∀ reading fuel,
      run { c with held } reading outside fuel = run c reading outside fuel) ∧
    (∀ program : List UInt8, program.length ≤ 3584 →
      ((∃ m, prepare c (.ok program) outside = .ok m) ↔ ∀ ch ∈ c.held.toList, ch ∈ layout)) ∧
    ∀ (program : List UInt8) before ch after, program.length ≤ 3584 → c.held.toList = before ++ ch :: after →
      (∀ b ∈ before, b ∈ layout) → ch ∉ layout → ∀ fuel,
      run c (.ok program) outside fuel = some ⟨"", .error (.unmappedKey ch)⟩ := by
  intro layout mapped holds
  have pressed (held : String) (k : Key) :
      (pressing (Vector.replicate 16 false) held.toList)[k] = true ↔ holds held k := by
    refine getElem_pressing_iff.trans ?_
    simp [holds]
  refine ⟨?_, ?_, ?_, ?_⟩
  · intro program fits allMapped loaded
    exact ⟨_, pressed c.held, prepare_of_mapped fits allMapped⟩
  · intro held allMapped allMapped' same reading fuel
    have keys : pressing (Vector.replicate 16 false) held.toList =
        pressing (Vector.replicate 16 false) c.held.toList := by
      apply keys_ext
      intro k
      rw [pressed, pressed, same]
    rw [run, run, prepare_congr_held allMapped allMapped' keys]
  · intro program fits
    rw [prepare_of_fits fits, hold_eq_ok_iff]
    simp only [isSome_keyOf?_iff, layout]
  · intro program before ch after fits split early offends fuel
    apply run_of_failure
    rw [prepare_of_fits fits, split]
    apply hold_of_unmapped
    · intro b member
      exact isSome_keyOf?_iff.mpr (early b member)
    · rwa [← Option.not_isSome_iff_eq_none, isSome_keyOf?_iff]

def holding (held : String) : Setup := ⟨"game", ⟨500, some 3⟩, some 1, Dialect.standard, held, false⟩

/-- A program that shows what a key does: it skips a clearing of the frame while the key is down. -/
def skipsOnKey : List UInt8 := [0x60, 0x04, 0xE0, 0x9E, 0x00, 0xE0, 0x12, 0x00]

theorem held_keys_are_a_set_repeated :
    let outside := RandomSource.ofList []
    (∀ fuel, run (holding "Wq") (.ok skipsOnKey) outside fuel = run (holding "qQwq") (.ok skipsOnKey) outside fuel) ∧
    (∃ m, prepare (holding "qQwq") (.ok skipsOnKey) outside = .ok m) ∧
    ∀ fuel, run (holding "sſS") (.ok skipsOnKey) outside fuel = some ⟨"", .error (.unmappedKey 'ſ')⟩ := by
  intro outside
  have mapped : ∀ ch ∈ "qQwq".toList, (keyOf? ch).isSome = true := List.all_eq_true.mp (by decide +kernel)
  have mapped' : ∀ ch ∈ "Wq".toList, (keyOf? ch).isSome = true := List.all_eq_true.mp (by decide +kernel)
  have same : ∀ k, (∃ ch ∈ "qQwq".toList, keyOf? ch = some k) ↔ ∃ ch ∈ "Wq".toList, keyOf? ch = some k := by
    have held : ∀ k, "qQwq".toList.any (keyOf? · = some k) = "Wq".toList.any (keyOf? · = some k) := by decide +kernel
    intro k
    have both := Bool.eq_iff_iff.mp (held k)
    simpa only [List.any_eq_true, decide_eq_true_eq] using both
  obtain ⟨_, equal, accepted, _⟩ := held_keys_are_a_set (holding "qQwq") outside
  obtain ⟨_, _, _, refused⟩ := held_keys_are_a_set (holding "sſS") outside
  refine ⟨equal "Wq" mapped mapped' same (.ok skipsOnKey), (accepted skipsOnKey (by decide)).mpr ?_, ?_⟩
  · exact fun ch member => isSome_keyOf?_iff.mp (mapped ch member)
  · have early : ∀ b ∈ ['s'], b ∈ "1234qwerasdfzxcvQWERASDFZXCV".toList := List.forall_mem_singleton.mpr (by decide)
    exact refused skipsOnKey ['s'] 'ſ' ['S'] (by decide) (by decide) early (by decide)

end Session

end Chip8.Host
