import WebListener.Proofs.Net.PortNumeral
-- Reading a port in sixteen bits, digit by digit. Every step is checked before it is taken, so a
-- number that does not fit is given up and never comes back as a smaller one.
namespace WebListener.Net

variable {cs : List Char} {digit n other : Nat} {last next port : Port}

theorem digit_small {c : Char} (read : Text.digitOf? c = some digit) : digit < 10 := by
  obtain ⟨isDigit, value⟩ := Text.digitOf_exact.mp read
  have range := digit_range isDigit
  have zero : '0'.toNat = 48 := rfl
  omega

namespace Port

def times? (port factor : Port) : Option Port :=
  if port.toNat * factor.toNat < 65536 then some (port * factor) else none

def plus? (port more : Port) : Option Port :=
  if port.toNat + more.toNat < 65536 then some (port + more) else none

def push? (port : Port) (digit : Nat) : Option Port := do
  let tenfold ← port.times? 10
  tenfold.plus? (.ofNat digit)

def digitsOnto? (port : Port) : List Char → Option Port
  | [] => some port
  | c :: rest => do
    let digit ← Text.digitOf? c
    let next ← port.push? digit
    next.digitsOnto? rest

def byDigits? (cs : List Char) : Option Port :=
  match unsigned cs with
  | [] => none
  | digits => digitsOnto? 0 digits

theorem push_exact (small : digit < 10) :
    port.push? digit = some next ↔ port.toNat * 10 + digit = next.toNat := by
  have bound := next.toNat_lt
  have ten : (10 : Port).toNat = 10 := rfl
  have unit : (UInt16.ofNat digit).toNat = digit := by
    rw [UInt16.toNat_ofNat']
    omega
  unfold push? times? plus?
  by_cases tens : port.toNat * 10 < 65536
  · have tenfold : (port * 10).toNat = port.toNat * 10 := by
      rw [UInt16.toNat_mul, ten]
      omega
    simp only [ten, tens, if_true, Option.bind_eq_bind, Option.bind_some, unit, tenfold,
      Option.ite_none_right_eq_some, Option.some.injEq, ← UInt16.toNat_inj, UInt16.toNat_add]
    omega
  · simp only [ten, tens, if_false, Option.bind_eq_bind, Option.bind_none, reduceCtorEq, false_iff]
    omega

theorem push_none (small : digit < 10) (refused : port.push? digit = none) :
    65536 ≤ port.toNat * 10 + digit := by
  apply Classical.byContradiction
  intro smaller
  have room : (UInt16.ofNat (port.toNat * 10 + digit)).toNat = port.toNat * 10 + digit := by
    rw [UInt16.toNat_ofNat']
    omega
  rw [(push_exact small).mpr room.symm] at refused
  cases refused

-- Where a step is refused, the digits that are left could only make the number larger.
theorem digitsOnto_exact :
    port.digitsOnto? cs = some last ↔ Text.decimalOnto port.toNat cs = some last.toNat := by
  induction cs generalizing port with
  | nil => simp [digitsOnto?, Text.decimalOnto, UInt16.toNat_inj]
  | cons c rest ih =>
    cases read : Text.digitOf? c with
    | none => simp [digitsOnto?, Text.decimalOnto, read]
    | some digit =>
      have small := digit_small read
      simp only [digitsOnto?, Text.decimalOnto, read, Option.bind_eq_bind, Option.bind_some]
      cases pushed : port.push? digit with
      | some next =>
        rw [(push_exact small).mp pushed, Option.bind_some]
        exact ih
      | none =>
        have beyond := push_none small pushed
        have bound := last.toNat_lt
        rw [Option.bind_none]
        constructor
        · intro impossible
          cases impossible
        · intro later
          have grown := Text.decimalOnto_grows later
          omega

theorem byDigits_exact (cs : List Char) : byDigits? cs = Port.ofChars? cs := by
  apply Option.ext
  intro port
  rw [port_unsigned, byDigits?]
  cases unsigned cs with
  | nil => simp [Text.decimal?]
  | cons c rest => exact digitsOnto_exact

end Port

def Numeral (cs : List Char) (n : Nat) : Prop :=
  ∃ digits, (cs = digits ∨ cs = '+' :: digits) ∧ digits ≠ [] ∧
    (∀ c ∈ digits, c.isDigit = true) ∧ Nat.ofDigitChars 10 digits 0 = n

theorem numeral_exact : Numeral cs n ↔ Text.decimal? (unsigned cs) = some n := by
  rw [Text.decimal_exact]
  constructor
  · rintro ⟨digits, written, given, decimal, value⟩
    have own : unsigned cs = digits := by
      rcases written with rfl | rfl
      · unfold unsigned
        split
        · exact absurd (decimal '+' List.mem_cons_self) (by decide)
        · rfl
      · rfl
    rw [own]
    exact ⟨given, decimal, value⟩
  · intro read
    refine ⟨unsigned cs, ?_, read⟩
    unfold unsigned
    split
    · exact .inr rfl
    · exact .inl rfl

theorem port_numeral : Port.ofChars? cs = some port ↔ Numeral cs port.toNat := by
  rw [port_unsigned, numeral_exact]

theorem Numeral.unique (numeral : Numeral cs n) (again : Numeral cs other) : n = other := by
  rw [numeral_exact] at numeral again
  rw [numeral] at again
  exact Option.some.inj again

theorem Numeral.fitting (numeral : Numeral cs n) (fits : n ≤ 65535) :
    Port.ofChars? cs = some (.ofNat n) := by
  have value : (UInt16.ofNat n).toNat = n := by
    rw [UInt16.toNat_ofNat']
    omega
  apply port_numeral.mpr
  rwa [value]

theorem Numeral.beyond (numeral : Numeral cs n) (large : 65536 ≤ n) : Port.ofChars? cs = none := by
  cases read : Port.ofChars? cs with
  | none => rfl
  | some port =>
    have same := numeral.unique (port_numeral.mp read)
    have bound := port.toNat_lt
    omega

theorem unlike_numeral (unlike : ∀ n, ¬Numeral cs n) : Port.ofChars? cs = none := by
  cases read : Port.ofChars? cs with
  | none => rfl
  | some port => exact absurd (port_numeral.mp read) (unlike port.toNat)

end WebListener.Net
