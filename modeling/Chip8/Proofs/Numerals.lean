import Chip8.Text.Decimal
import Mathlib.Data.List.Induction

namespace Chip8.Text

structure Numeral where
  value : UInt64
  plus : Bool
  zeros : Nat
deriving DecidableEq

namespace Numeral

def digits (n : Numeral) : List Char := List.replicate n.zeros '0' ++ Nat.toDigits 10 n.value.toNat

def text (n : Numeral) : String := String.ofList (if n.plus then '+' :: n.digits else n.digits)

end Numeral

theorem digitChar_of_isDigit {c : Char} (digit : c.isDigit = true) : (c.toNat - 48).digitChar = c := by
  have range : 48 ≤ c.toNat ∧ c.toNat ≤ 57 := Char.isDigit_iff_toNat.mp digit
  apply Char.toNat_inj.mp
  rw [Nat.toNat_digitChar_of_lt_ten (by omega)]
  omega

theorem ofDigits_concat (digits : List Char) (c : Char) :
    ofDigits (digits ++ [c]) = 10 * ofDigits digits + (c.toNat - 48) := by
  rw [ofDigits, List.foldl_append]
  rfl

/-- A text of digits is the numeral of its value with zeros in front. -/
theorem eq_toDigits_ofDigits {digits : List Char} (some_digit : digits ≠ []) (all : ∀ c ∈ digits, c.isDigit = true) :
    ∃ zeros, digits = List.replicate zeros '0' ++ Nat.toDigits 10 (ofDigits digits) := by
  induction digits using List.reverseRecOn with
  | nil => exact absurd rfl some_digit
  | append_singleton digits c ih =>
    have digit : c.isDigit = true := all c (by simp)
    have below : c.toNat - 48 < 10 := by
      have range : 48 ≤ c.toNat ∧ c.toNat ≤ 57 := Char.isDigit_iff_toNat.mp digit
      omega
    have single : Nat.toDigits 10 (c.toNat - 48) = [c] := by
      rw [Nat.toDigits_of_lt_base below, digitChar_of_isDigit digit]
    rw [ofDigits_concat]
    cases digits with
    | nil =>
      refine ⟨0, ?_⟩
      rw [ofDigits, List.foldl_nil, Nat.mul_zero, Nat.zero_add, single]
      rfl
    | cons first rest =>
      obtain ⟨zeros, front⟩ := ih (List.cons_ne_nil first rest) fun c member => all c (List.mem_append_left _ member)
      rcases Nat.eq_zero_or_pos (ofDigits (first :: rest)) with zero | positive
      · -- What stands before the last digit is one more zero in front.
        rw [zero, Nat.toDigits_zero, ← List.replicate_succ'] at front
        exact ⟨zeros + 1, by rw [zero, Nat.mul_zero, Nat.zero_add, single, ← front]⟩
      · refine ⟨zeros, ?_⟩
        rw [← Nat.toDigits_append_toDigits (by decide) positive below, single, ← List.append_assoc, ← front]

theorem isDigit_of_mem_numeral {zeros n : Nat} {c : Char}
    (member : c ∈ List.replicate zeros '0' ++ Nat.toDigits 10 n) : c.isDigit = true := by
  rcases List.mem_append.mp member with zero | digit
  · rw [List.eq_of_mem_replicate zero]
    rfl
  · exact Nat.isDigit_of_mem_toDigits (by decide) (by decide) digit

theorem ofDigits_numeral (zeros n : Nat) : ofDigits (List.replicate zeros '0' ++ Nat.toDigits 10 n) = n := by
  show Nat.ofDigitChars 10 _ 0 = n
  rw [Nat.ofDigitChars_append, Nat.ofDigitChars_replicate_zero, Nat.mul_zero, Nat.ofDigitChars_ten_toDigits]

theorem decimal?_eq_some_iff {digits : List Char} {n : Nat} :
    decimal? digits = some n ↔ ∃ zeros, digits = List.replicate zeros '0' ++ Nat.toDigits 10 n := by
  constructor
  · intro read
    unfold decimal? at read
    split at read
    · rename_i numeral
      cases read
      rw [Bool.and_eq_true, Bool.not_eq_true', List.isEmpty_eq_false_iff, List.all_eq_true] at numeral
      exact eq_toDigits_ofDigits numeral.1 numeral.2
    · cases read
  · rintro ⟨zeros, rfl⟩
    have digits : (List.replicate zeros '0' ++ Nat.toDigits 10 n).all Char.isDigit = true :=
      List.all_eq_true.mpr fun c member => isDigit_of_mem_numeral member
    rw [decimal?, digits, ofDigits_numeral]
    simp [Nat.toDigits_ne_nil]

def unsigned (text : List Char) : List Char :=
  match text with
  | '+' :: digits => digits
  | _ => text

theorem unsigned_of_digits {text : List Char} (digits : ∀ c ∈ text, c.isDigit = true) : unsigned text = text := by
  unfold unsigned
  split
  · exact absurd (digits '+' (.head _)) (by decide)
  · rfl

theorem eq_unsigned_or (text : List Char) : text = unsigned text ∨ text = '+' :: unsigned text := by
  unfold unsigned
  split
  · exact .inr rfl
  · exact .inl rfl

theorem Numeral.head_text_ne_dash (n : Numeral) : n.text.toList.head? ≠ some '-' := by
  rw [Numeral.text, String.toList_ofList]
  cases n.plus with
  | true => simp
  | false =>
    intro dash
    have digit : '-'.isDigit = true := isDigit_of_mem_numeral (List.mem_of_head? dash)
    cases digit

theorem uint64?_eq_some_iff_decimal? {text : List Char} {value : UInt64} :
    uint64? text = some value ↔ decimal? (unsigned text) = some value.toNat := by
  have read : uint64? text = (decimal? (unsigned text)).bind fun n =>
      if n < UInt64.size then some (UInt64.ofNat n) else none := by
    unfold uint64? unsigned
    dsimp only
    generalize decimal? _ = read
    cases read <;> rfl
  rw [read]
  cases decimal? (unsigned text) with
  | none => simp
  | some n =>
    by_cases small : n < UInt64.size
    · have back : (UInt64.ofNat n).toNat = n := UInt64.toNat_ofNat_of_lt' small
      simp [small, ← UInt64.toNat_inj, back]
    · have different : n ≠ value.toNat := fun same => small (same ▸ value.toNat_lt)
      simp [small, different]

theorem uint64?_eq_some_iff {text : String} {value : UInt64} :
    uint64? text.toList = some value ↔ ∃ n : Numeral, n.value = value ∧ n.text = text := by
  rw [uint64?_eq_some_iff_decimal?, decimal?_eq_some_iff]
  constructor
  · rintro ⟨zeros, digits⟩
    have signed := eq_unsigned_or text.toList
    rw [digits] at signed
    rcases signed with plain | plus
    · exact ⟨⟨value, false, zeros⟩, rfl, String.toList_inj.mp (by simp [Numeral.text, Numeral.digits, plain])⟩
    · exact ⟨⟨value, true, zeros⟩, rfl, String.toList_inj.mp (by simp [Numeral.text, Numeral.digits, plus])⟩
  · rintro ⟨n, rfl, rfl⟩
    refine ⟨n.zeros, ?_⟩
    cases plus : n.plus with
    | true => simp [Numeral.text, plus, unsigned, Numeral.digits]
    | false =>
      have digits : unsigned n.digits = n.digits := unsigned_of_digits fun c member => isDigit_of_mem_numeral member
      simp only [Numeral.text, plus, String.toList_ofList, Bool.false_eq_true, if_false, digits]
      rfl

theorem isSome_uint64?_iff {text : String} :
    (uint64? text.toList).isSome = true ↔ ∃ n : Numeral, n.text = text := by
  rw [Option.isSome_iff_exists]
  constructor
  · rintro ⟨value, read⟩
    obtain ⟨n, _, spelled⟩ := uint64?_eq_some_iff.mp read
    exact ⟨n, spelled⟩
  · rintro ⟨n, spelled⟩
    exact ⟨n.value, uint64?_eq_some_iff.mpr ⟨n, rfl, spelled⟩⟩

end Chip8.Text
