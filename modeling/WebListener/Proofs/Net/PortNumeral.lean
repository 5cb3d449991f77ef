import WebListener.Net.Port
import WebListener.Proofs.Text.Decimal
-- Ports as they are written: a plus or nothing in front, then decimal digits, as many zeros first
-- as one likes, with a value that fits into sixteen bits.
namespace WebListener.Net

variable {c : Char} {cs : List Char} {port : Port}

-- A number that is too large is the value of no port.
inductive PortNumeral : List Char → Port → Prop where
  | plain {digits : List Char} {port : Port} (given : digits ≠ [])
      (decimal : ∀ c ∈ digits, c.isDigit = true)
      (value : Nat.ofDigitChars 10 digits 0 = port.toNat) : PortNumeral digits port
  | signed {digits : List Char} {port : Port} (given : digits ≠ [])
      (decimal : ∀ c ∈ digits, c.isDigit = true)
      (value : Nat.ofDigitChars 10 digits 0 = port.toNat) : PortNumeral ('+' :: digits) port

def unsigned (cs : List Char) : List Char :=
  match cs with
  | '+' :: digits => digits
  | _ => cs

theorem port_unsigned :
    Port.ofChars? cs = some port ↔ Text.decimal? (unsigned cs) = some port.toNat := by
  have bound := port.toNat_lt
  unfold Port.ofChars?
  extract_lets digits
  have peeled : digits = unsigned cs := rfl
  rw [← peeled]
  cases Text.decimal? digits with
  | none => simp
  | some n =>
    simp only [Option.ite_none_right_eq_some, Option.some.injEq, ← UInt16.toNat_inj,
      UInt16.toNat_ofNat']
    omega

theorem port_exact : Port.ofChars? cs = some port ↔ PortNumeral cs port := by
  rw [port_unsigned, Text.decimal_exact]
  unfold unsigned
  split
  · rename_i digits
    constructor
    · rintro ⟨given, decimal, value⟩
      exact .signed given decimal value
    · intro numeral
      cases numeral with
      | plain given decimal value => exact absurd (decimal '+' List.mem_cons_self) (by decide)
      | signed given decimal value => exact ⟨given, decimal, value⟩
  · rename_i plain
    constructor
    · rintro ⟨given, decimal, value⟩
      exact .plain given decimal value
    · intro numeral
      cases numeral with
      | plain given decimal value => exact ⟨given, decimal, value⟩
      | signed given decimal value => exact absurd rfl (plain _)

theorem port_none : Port.ofChars? cs = none ↔ ¬∃ port, PortNumeral cs port := by
  simp only [← port_exact, Option.eq_none_iff_forall_ne_some, not_exists, ne_eq]

theorem port_written (port : Port) : Port.ofChars? (Text.decimalChars port.toNat) = some port := by
  obtain ⟨given, decimal, value⟩ := Text.decimal_exact.mp (Text.decimal_written port.toNat)
  exact port_exact.mpr (.plain given decimal value)

theorem digit_range (digit : c.isDigit = true) : 0x30 ≤ c.toNat ∧ c.toNat ≤ 0x39 := by
  simp only [Char.isDigit, Bool.and_eq_true, decide_eq_true_eq] at digit
  exact digit

theorem PortNumeral.range (numeral : PortNumeral cs port) :
    ∀ c ∈ cs, 0x2B ≤ c.toNat ∧ c.toNat ≤ 0x39 := by
  have digits {own : List Char} (decimal : ∀ c ∈ own, c.isDigit = true) :
      ∀ c ∈ own, 0x2B ≤ c.toNat ∧ c.toNat ≤ 0x39 := by
    intro c present
    have bounds := digit_range (decimal c present)
    omega
  cases numeral with
  | plain given decimal value => exact digits decimal
  | signed given decimal value =>
    intro c present
    rcases List.mem_cons.mp present with rfl | later
    · decide
    · exact digits decimal c later

end WebListener.Net
