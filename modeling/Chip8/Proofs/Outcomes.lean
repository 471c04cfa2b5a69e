import Chip8.Proofs.Faults
import Chip8.Proofs.HeldKeys
import Chip8.Proofs.Stopping

namespace Chip8

theorem Fault.message_programTooLong (length : Nat) :
    (programTooLong length).message =
      "Address out of range: " ++ toString length ++ " bytes at 0x200 would run past the end of memory" := by
  have start : Text.hex0x 3 Layout.programStart = "0x200" := by decide +kernel
  have joined : " bytes at " ++ ("0x200" ++ " would run past the end of memory") =
      " bytes at 0x200 would run past the end of memory" := by decide +kernel
  rw [← joined, ← String.append_assoc, ← String.append_assoc, ← start]
  rfl

namespace Host

namespace Loop

variable {p : Pace} {m : Machine} {fuel k : Nat}

def endingAt (p : Pace) (m : Machine) (k : Nat) : Option Ending :=
  if p.reached k then some (.stopped .limit) else Ending.ofResult (m.after (schedule p.rate k)).cycle.1

theorem executes_of_endingAt_eq_none (going : endingAt p m k = none) :
    p.reached k = false ∧ ∃ ins, (m.after (schedule p.rate k)).cycle.1 = .ok (.executed ins) := by
  unfold endingAt at going
  cases room : p.reached k with
  | true => simp [room] at going
  | false =>
    rw [room, if_neg (by decide)] at going
    exact ⟨rfl, Ending.executes_of_ofResult_eq_none going⟩

theorem follow_of_going_on (going : ∀ j < fuel, endingAt p m j = none) : ((start m).follow p fuel).2 = none := by
  have goes (j : Nat) (early : j < fuel) := executes_of_endingAt_eq_none (going j early)
  obtain ⟨l, followed, _⟩ := follow_schedule (fun j early => (goes j early).1) (fun j early => (goes j early).2)
  rw [followed]

theorem follow_of_endingAt {ending : Ending} (going : ∀ j < k, endingAt p m j = none)
    (ends : endingAt p m k = some ending) (enough : k < fuel) :
    ((start m).follow p fuel).2 = some ending ∧
      ((start m).follow p fuel).1.machine = m.after (schedule p.rate k) := by
  have goes (j : Nat) (early : j < k) := executes_of_endingAt_eq_none (going j early)
  have executes : ∀ j < k, ∃ ins, (m.after (schedule p.rate j)).cycle.1 = .ok (.executed ins) :=
    fun j early => (goes j early).2
  unfold endingAt at ends
  cases reached : p.reached k with
  | true =>
    rw [reached, if_pos rfl] at ends
    cases ends
    have ended := Ended.of_limit (fun j early => (goes j early).1) reached executes enough
    exact ⟨ended.ending, ended.machine⟩
  | false =>
    rw [reached, if_neg (by decide)] at ends
    have room : ∀ j ≤ k, p.reached j = false := by
      intro j upTo
      rcases Nat.lt_or_eq_of_le upTo with early | rfl
      · exact (goes j early).1
      · exact reached
    have ended := Ended.of_reply room executes ends enough
    exact ⟨ended.ending, ended.machine⟩

theorem goes_on_or_ends (p : Pace) (m : Machine) (fuel : Nat) :
    (∀ j < fuel, endingAt p m j = none) ∨
      ∃ k < fuel, (∀ j < k, endingAt p m j = none) ∧ ∃ ending, endingAt p m k = some ending := by
  induction fuel with
  | zero => exact .inl nofun
  | succ fuel ih =>
    rcases ih with going | ⟨k, early, ends⟩
    · cases ends : endingAt p m fuel with
      | some ending => exact .inr ⟨fuel, Nat.lt_succ_self fuel, going, ending, ends⟩
      | none =>
        left
        intro j early
        rcases Nat.lt_succ_iff_lt_or_eq.mp early with early | rfl
        · exact going j early
        · exact ends
    · exact .inr ⟨k, Nat.lt_succ_of_lt early, ends⟩

theorem fault_of_endingAt {fault : Fault} (ends : endingAt p m k = some (.faulted fault)) :
    (∃ opcode address, fault = .unknownOpcode opcode address) ∨
    (∃ target address, fault = .stackOverflow target address) ∨ ∃ address, fault = .stackUnderflow address := by
  unfold endingAt at ends
  split at ends
  · cases ends
  · cases cycled : (m.after (schedule p.rate k)).cycle.1 with
    | error fault' =>
      rw [cycled] at ends
      cases ends
      exact State.kind_of_fault? (Machine.cycle_eq_error_iff.mp cycled).2
    | ok step =>
      rw [cycled] at ends
      cases step <;> cases ends

end Loop

namespace Session

open Loop

variable {c : Setup} {outside : RandomSource} {reading : Reading} {m : Machine} {held : List Char} {fuel : Nat}

theorem run_of_prepared (prepared : prepare c reading outside = .ok m) (fuel : Nat) :
    run c reading outside fuel =
      ((Loop.start m).follow c.pace fuel).2.map (conclude ((Loop.start m).follow c.pace fuel).1) := by
  rw [run, prepared]

theorem run_eq_some_iff {report : Report} (prepared : prepare c reading outside = .ok m) :
    run c reading outside fuel = some report ↔
      ∃ k < fuel, (∀ j < k, endingAt c.pace m j = none) ∧ ∃ ending, endingAt c.pace m k = some ending ∧
        report = ⟨Screen.render (m.after (schedule c.pace.rate k)).state.frame ++ "\n", result ending⟩ := by
  rw [run_of_prepared prepared]
  have concluded {k : Nat} {ending : Ending} (enough : k < fuel) (going : ∀ j < k, endingAt c.pace m j = none)
      (ends : endingAt c.pace m k = some ending) :
      ((Loop.start m).follow c.pace fuel).2.map (conclude ((Loop.start m).follow c.pace fuel).1) =
        some ⟨Screen.render (m.after (schedule c.pace.rate k)).state.frame ++ "\n", result ending⟩ := by
    obtain ⟨ended, machine⟩ := follow_of_endingAt going ends enough
    rw [ended, Option.map_some, conclude, machine]
  constructor
  · intro reported
    rcases goes_on_or_ends c.pace m fuel with going | ⟨k, enough, going, ending, ends⟩
    · rw [follow_of_going_on going] at reported
      cases reported
    · rw [concluded enough going ends] at reported
      exact ⟨k, enough, going, ending, ends, (Option.some.inj reported).symm⟩
  · rintro ⟨k, enough, going, ending, ends, rfl⟩
    exact concluded enough going ends

theorem run_ne_none {limit : UInt64} (prepared : prepare c reading outside = .ok m)
    (limited : c.pace.limit = some limit) (enough : limit.toNat < fuel) : run c reading outside fuel ≠ none := by
  rw [run_of_prepared prepared, Ne, Option.map_eq_none_iff]
  exact follow_ends limited enough

def opening (c : Setup) (program : List UInt8) : List Call :=
  .load program :: (c.held.toList.filterMap keyOf?).map fun k => .press k.number

theorem hold_eq_after (mapped : ∀ ch ∈ held, (keyOf? ch).isSome = true) :
    hold m held = .ok (m.after ((held.filterMap keyOf?).map fun k => .press k.number)) := by
  induction held generalizing m with
  | nil => rfl
  | cons ch held ih =>
    obtain ⟨first, rest⟩ := List.forall_mem_cons.mp mapped
    obtain ⟨k, found⟩ := Option.isSome_iff_exists.mp first
    rw [hold, found, List.filterMap_cons_some found, List.map_cons, Machine.after_cons, Machine.perform_press]
    exact ih rest

theorem reply_of_presses {keys : List Key} {e : Exchange}
    (member : e ∈ m.history (keys.map fun k => .press k.number)) : e.reply = .done := by
  obtain ⟨k, _, pressed⟩ := List.mem_map.mp (Machine.call_of_mem_history member)
  rw [Machine.reply_of_mem_history member, ← pressed, Machine.perform_press]

theorem reply_of_opening {program : List UInt8} (fits : program.length ≤ 3584) {e : Exchange}
    (member : e ∈ m.history (opening c program)) : e.reply = .done := by
  rcases List.mem_cons.mp member with rfl | later
  · rw [Machine.perform_load, if_pos fits]
  · exact reply_of_presses later

theorem prepare_eq_after {program : List UInt8} (fits : program.length ≤ 3584)
    (mapped : ∀ ch ∈ c.held.toList, (keyOf? ch).isSome = true) :
    prepare c (.ok program) outside =
      .ok ((Machine.start c.dialect (randomSource c outside)).after (opening c program)) := by
  rw [prepare_of_fits fits, hold_eq_after mapped]
  rfl

theorem hold_eq_error {failure : Failure} (failed : hold m held = .error failure) :
    ∃ ch, failure = .unmappedKey ch := by
  induction held generalizing m with
  | nil => cases failed
  | cons ch held ih =>
    unfold hold at failed
    split at failed
    · exact ih failed
    · cases failed
      exact ⟨ch, rfl⟩

theorem prepare_eq_error {failure : Failure} (failed : prepare c reading outside = .error failure) :
    (∃ error, failure = .unreadable c.path error) ∨
    (∃ length, failure = .unloadable c.path (.programTooLong length)) ∨ ∃ ch, failure = .unmappedKey ch := by
  cases reading with
  | error error =>
    cases failed
    exact .inl ⟨error, rfl⟩
  | ok program =>
    right
    by_cases fits : program.length ≤ 3584
    · rw [prepare_of_fits fits] at failed
      exact .inr (hold_eq_error failed)
    · rw [prepare_of_long (Nat.not_le.mp fits)] at failed
      cases failed
      exact .inl ⟨_, rfl⟩

theorem session_outcome (c : Setup) (outside : RandomSource) (fuel : Nat) :
    (∀ error, run c (.error error) outside fuel = some ⟨"", .error (.unreadable c.path error)⟩) ∧
    (∀ program : List UInt8, 3584 < program.length → run c (.ok program) outside fuel =
      some ⟨"", .error (.unloadable c.path (.programTooLong program.length))⟩) ∧
    (∀ (program : List UInt8) before ch after, program.length ≤ 3584 → c.held.toList = before ++ ch :: after →
      (∀ b ∈ before, (keyOf? b).isSome = true) → keyOf? ch = none →
      run c (.ok program) outside fuel = some ⟨"", .error (.unmappedKey ch)⟩) ∧
    (∀ program : List UInt8, program.length ≤ 3584 → (∀ ch ∈ c.held.toList, (keyOf? ch).isSome = true) →
      let fresh := Machine.start c.dialect (randomSource c outside)
      let m := fresh.after (opening c program)
      prepare c (.ok program) outside = .ok m ∧ (∀ e ∈ fresh.history (opening c program), e.reply = .done) ∧
      (∀ report, run c (.ok program) outside fuel = some report ↔
        ∃ k < fuel, (∀ j < k, endingAt c.pace m j = none) ∧ ∃ ending, endingAt c.pace m k = some ending ∧
          report = ⟨Screen.render (m.after (schedule c.pace.rate k)).state.frame ++ "\n", result ending⟩) ∧
      ∀ limit, c.pace.limit = some limit → limit.toNat < fuel → run c (.ok program) outside fuel ≠ none) ∧
    (∀ reading report failure, run c reading outside fuel = some report → report.result = .error failure →
      (∃ error, failure = .unreadable c.path error) ∨
      (∃ length, failure = .unloadable c.path (.programTooLong length)) ∨ (∃ ch, failure = .unmappedKey ch) ∨
      ∃ fault, failure = .faulted fault ∧ failure.chain = [fault.message] ∧
        ((∃ opcode address, fault = .unknownOpcode opcode address) ∨
          (∃ target address, fault = .stackOverflow target address) ∨ ∃ address, fault = .stackUnderflow address)) ∧
    (∀ path error, (Failure.unreadable path error).chain = ["unable to read rom " ++ path, error.message]) ∧
    ∀ path length, (Failure.unloadable path (.programTooLong length)).chain =
      ["unable to load rom " ++ path,
        "Address out of range: " ++ toString length ++ " bytes at 0x200 would run past the end of memory"] := by
  refine ⟨fun error => rfl, ?_, ?_, ?_, ?_, fun _ _ => rfl, ?_⟩
  · intro program long
    exact run_of_failure (prepare_of_long long) fuel
  · intro program before ch after fits split early offends
    apply run_of_failure
    rw [prepare_of_fits fits, split]
    exact hold_of_unmapped early offends
  · intro program fits mapped fresh m
    have prepared : prepare c (.ok program) outside = .ok m := prepare_eq_after fits mapped
    exact ⟨prepared, fun e member => reply_of_opening fits member, fun report => run_eq_some_iff prepared,
      fun limit limited enough => run_ne_none prepared limited enough⟩
  · intro reading report failure reported failed
    cases prepared : prepare c reading outside with
    | error failure' =>
      rw [run_of_failure prepared] at reported
      cases reported
      cases failed
      rcases prepare_eq_error prepared with unreadable | unloadable | unmapped
      · exact .inl unreadable
      · exact .inr (.inl unloadable)
      · exact .inr (.inr (.inl unmapped))
    | ok m =>
      obtain ⟨k, _, _, ending, ends, rfl⟩ := (run_eq_some_iff prepared).mp reported
      cases ending with
      | stopped why => cases failed
      | faulted fault =>
        cases failed
        exact .inr (.inr (.inr ⟨fault, rfl, rfl, fault_of_endingAt ends⟩))
  · intro path length
    rw [Failure.chain, Fault.message_programTooLong]

/-- A program that draws the glyph of 0 and then returns without a call. -/
def drawsThenReturns : List UInt8 := [0xF0, 0x29, 0xD0, 0x05, 0x00, 0xEE]

def unlimited (held : String) : Setup := ⟨"game", ⟨60, none⟩, some 7, Dialect.standard, held, true⟩

theorem session_outcome_stray_return :
    let outside := RandomSource.ofList []
    let m := (Machine.start Dialect.standard (randomSource (unlimited "Q") outside)).after
      (opening (unlimited "Q") drawsThenReturns)
    run (unlimited "Q") (.ok drawsThenReturns) outside 3 =
      some ⟨Screen.render (m.after (schedule 60 2)).state.frame ++ "\n", .error (.faulted (.stackUnderflow 0x204))⟩ ∧
    run (unlimited "pq") (.ok drawsThenReturns) outside 3 = some ⟨"", .error (.unmappedKey 'p')⟩ ∧
    run (unlimited "pq") (.ok (List.replicate 3585 0)) outside 3 =
      some ⟨"", .error (.unloadable "game" (.programTooLong 3585))⟩ := by
  intro outside m
  have going : ∀ j < 2, endingAt (unlimited "Q").pace m j = none := by decide +kernel
  have ends : endingAt (unlimited "Q").pace m 2 = some (.faulted (.stackUnderflow 0x204)) := by decide +kernel
  obtain ⟨_, _, _, started, _⟩ := session_outcome (unlimited "Q") outside 3
  obtain ⟨_, long, unmapped, _⟩ := session_outcome (unlimited "pq") outside 3
  have mapped : ∀ ch ∈ "Q".toList, (keyOf? ch).isSome = true := List.all_eq_true.mp (by decide +kernel)
  obtain ⟨_, _, reports, _⟩ := started drawsThenReturns (by decide) mapped
  refine ⟨(reports _).mpr ⟨2, by decide, going, _, ends, rfl⟩, ?_, ?_⟩
  · exact unmapped drawsThenReturns [] 'p' ['q'] (by decide) (by decide) nofun (by decide +kernel)
  · have length : (List.replicate 3585 (0 : UInt8)).length = 3585 := List.length_replicate
    have refused := long (List.replicate 3585 0) (by rw [length]; decide)
    rw [length] at refused
    exact refused

end Session

end Host

end Chip8
