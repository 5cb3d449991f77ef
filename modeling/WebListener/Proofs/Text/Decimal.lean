import WebListener.Text.Decimal
-- Reading decimal digits. Any run of digits has the value that its places give it, however many
-- zeros it starts with, and a number that is written reads as itself.
namespace WebListener.Text

variable {c : Char} {cs : List Char} {n value : Nat}

theorem isDigit_char (c : Char) : isDigit c = c.isDigit := by
  unfold isDigit digitOf? Char.isDigit
  split <;> simp_all [Char.le_def]

theorem digitOf_exact {digit : Nat} :
    digitOf? c = some digit ↔ c.isDigit = true ∧ c.toNat - '0'.toNat = digit := by
  rw [← isDigit_char]
  unfold isDigit digitOf?
  split <;> simp

theorem decimalOnto_exact : decimalOnto value cs = some n ↔
    (∀ c ∈ cs, c.isDigit = true) ∧ Nat.ofDigitChars 10 cs value = n := by
  induction cs generalizing value with
  | nil => simp [decimalOnto, Nat.ofDigitChars]
  | cons first rest ih =>
    have place (digit : Nat) : Nat.ofDigitChars 10 rest (value * 10 + digit) =
        Nat.ofDigitChars 10 rest (10 * value + digit) := by rw [Nat.mul_comm]
    simp only [decimalOnto, Option.bind_eq_some_iff, digitOf_exact, ih, List.forall_mem_cons]
    constructor
    · rintro ⟨_, ⟨digit, rfl⟩, others, read⟩
      exact ⟨⟨digit, others⟩, (place _).symm.trans read⟩
    · rintro ⟨⟨digit, others⟩, read⟩
      exact ⟨_, ⟨digit, rfl⟩, others, (place _).trans read⟩

theorem decimalOnto_grows (read : decimalOnto value cs = some n) : value ≤ n := by
  induction cs generalizing value with
  | nil => exact Nat.le_of_eq (Option.some.inj read)
  | cons first rest ih =>
    obtain ⟨digit, -, later⟩ := Option.bind_eq_some_iff.mp read
    have grown := ih later
    omega

theorem decimal_exact : decimal? cs = some n ↔
    cs ≠ [] ∧ (∀ c ∈ cs, c.isDigit = true) ∧ Nat.ofDigitChars 10 cs 0 = n := by
  cases cs with
  | nil => simp [decimal?]
  | cons first rest => simp [decimal?, decimalOnto_exact]

theorem decimal_written (n : Nat) : decimal? (decimalChars n) = some n :=
  decimal_exact.mpr ⟨Nat.toDigits_ne_nil,
    fun _ digit => Nat.isDigit_of_mem_toDigits (by decide) (by decide) digit,
    Nat.ofDigitChars_toDigits (by decide) (by decide)⟩

end WebListener.Text
