import Mathlib.Data.List.TakeWhile
import WebListener.Net.SocketAddress.Reader
-- The readers of numeric addresses only take from the front, so what they leave, down to the port,
-- is the end of the text.
namespace WebListener.Net.SocketAddress

open Text (Reader readChar)

variable {cs rest digits : List Char} {address : SocketAddress} {port : Port}

-- Whatever a reader leaves is a suffix of what it was given.
def Leaves (reader : Reader α) : Prop :=
  ∀ cs value rest, reader cs = some (value, rest) → rest <:+ cs

theorem readChar_exact {c : Char} {done : Unit} :
    readChar c cs = some (done, rest) ↔ cs = c :: rest := by
  cases cs with
  | nil => simp [readChar]
  | cons x cs => simp [readChar]

theorem readChar_leaves (c : Char) : Leaves (readChar c) := by
  intro cs value rest read
  rw [readChar_exact.mp read]
  exact List.suffix_cons c rest

theorem readByte_leaves : Leaves readByte := by
  intro cs value rest read
  unfold readByte at read
  dsimp only at read
  split at read
  · split at read
    · cases read
      exact List.drop_suffix _ _
    · cases read
  · cases read

theorem readDecimal_leaves (limit : Nat) : Leaves (readDecimal limit) := by
  intro cs value rest read
  unfold readDecimal at read
  split at read
  · split at read
    · cases read
      exact List.dropWhile_suffix _
    · cases read
  · cases read

theorem readIpv4_leaves : Leaves readIpv4 := by
  intro cs value rest read
  obtain ⟨⟨a, one⟩, first, read⟩ := Option.bind_eq_some_iff.mp read
  obtain ⟨⟨_, two⟩, dot, read⟩ := Option.bind_eq_some_iff.mp read
  obtain ⟨⟨b, three⟩, second, read⟩ := Option.bind_eq_some_iff.mp read
  obtain ⟨⟨_, four⟩, point, read⟩ := Option.bind_eq_some_iff.mp read
  obtain ⟨⟨c, five⟩, third, read⟩ := Option.bind_eq_some_iff.mp read
  obtain ⟨⟨_, six⟩, stop, read⟩ := Option.bind_eq_some_iff.mp read
  obtain ⟨⟨d, left⟩, fourth, ⟨⟩⟩ := Option.bind_eq_some_iff.mp read
  have front : two <:+ cs := (readChar_leaves '.' _ _ _ dot).trans (readByte_leaves _ _ _ first)
  have middle : four <:+ two :=
    (readChar_leaves '.' _ _ _ point).trans (readByte_leaves _ _ _ second)
  have back : six <:+ four := (readChar_leaves '.' _ _ _ stop).trans (readByte_leaves _ _ _ third)
  exact (((readByte_leaves _ _ _ fourth).trans back).trans middle).trans front

theorem readGroup_leaves : Leaves readGroup := by
  intro cs value rest read
  unfold readGroup at read
  dsimp only at read
  split at read
  · cases read
    exact List.drop_suffix _ _
  · cases read

theorem readGroups_suffix (limit : Nat) (first : Bool) (cs : List Char) :
    (readGroups limit first cs).2.2 <:+ cs := by
  induction limit generalizing first cs with
  | zero => exact List.suffix_rfl
  | succ limit ih =>
    unfold readGroups
    dsimp only
    split
    · exact List.suffix_rfl
    · rename_i _ after opened
      have within : after <:+ cs := by
        split at opened
        · cases opened
          exact List.suffix_rfl
        · exact readChar_leaves ':' _ _ _ opened
      split
      · rename_i v4 rest embedded
        split at embedded
        · cases embedded
        · exact (readIpv4_leaves _ _ _ embedded).trans within
      · split
        · rename_i group rest read
          exact ((ih false rest).trans (readGroup_leaves _ _ _ read)).trans within
        · exact List.suffix_rfl

theorem readIpv6_leaves : Leaves readIpv6 := by
  intro cs value rest read
  have front := readGroups_suffix 8 true cs
  unfold readIpv6 at read
  dsimp only at read
  split at read
  · cases read
    exact front
  · split at read
    · cases read
    · obtain ⟨⟨_, one⟩, colon, read⟩ := Option.bind_eq_some_iff.mp read
      obtain ⟨⟨_, two⟩, other, read⟩ := Option.bind_eq_some_iff.mp read
      cases read
      have colons := (readChar_leaves ':' _ _ _ other).trans (readChar_leaves ':' _ _ _ colon)
      exact ((readGroups_suffix _ true two).trans colons).trans front

theorem readScope_leaves : Leaves readScope := by
  intro cs value rest read
  unfold readScope at read
  split at read
  · rename_i _ after percent
    obtain ⟨⟨n, left⟩, decimal, same⟩ := Option.map_eq_some_iff.mp read
    cases same
    exact (readDecimal_leaves _ _ _ _ decimal).trans (readChar_leaves '%' _ _ _ percent)
  · cases read
    exact List.suffix_rfl

theorem readPort_ends (read : readPort cs = some (port, [])) :
    ∃ digits n, cs = ':' :: digits ∧ (∀ c ∈ digits, Text.isDigit c = true) ∧
      Text.decimal? digits = some n ∧ n < 65536 ∧ port = .ofNat n := by
  obtain ⟨⟨_, digits⟩, colon, read⟩ := Option.bind_eq_some_iff.mp read
  obtain ⟨⟨n, left⟩, decimal, read⟩ := Option.bind_eq_some_iff.mp read
  cases read
  unfold readDecimal at decimal
  split at decimal
  · rename_i value found
    split at decimal
    · rename_i bound
      obtain ⟨rfl, ended⟩ : value = n ∧ digits.dropWhile Text.isDigit = [] := by
        simpa using decimal
      have all := List.dropWhile_eq_nil_iff.mp ended
      rw [List.takeWhile_eq_self_iff.mpr all] at found
      exact ⟨digits, value, readChar_exact.mp colon, all, found, bound, rfl⟩
    · cases decimal
  · cases decimal

theorem readV4_ported (read : readV4 cs = some (address, rest)) :
    ∃ after, after <:+ cs ∧ readPort after = some (address.port, rest) := by
  obtain ⟨⟨ip, after⟩, own, read⟩ := Option.bind_eq_some_iff.mp read
  obtain ⟨⟨port, left⟩, found, ⟨⟩⟩ := Option.bind_eq_some_iff.mp read
  exact ⟨after, readIpv4_leaves _ _ _ own, found⟩

theorem readV6_ported (read : readV6 cs = some (address, rest)) :
    ∃ after, after <:+ cs ∧ readPort after = some (address.port, rest) := by
  obtain ⟨⟨_, opened⟩, bracket, read⟩ := Option.bind_eq_some_iff.mp read
  obtain ⟨⟨ip, zoned⟩, own, read⟩ := Option.bind_eq_some_iff.mp read
  obtain ⟨⟨scope, unclosed⟩, zone, read⟩ := Option.bind_eq_some_iff.mp read
  obtain ⟨⟨_, after⟩, closed, read⟩ := Option.bind_eq_some_iff.mp read
  obtain ⟨⟨port, left⟩, found, ⟨⟩⟩ := Option.bind_eq_some_iff.mp read
  have within : after <:+ cs :=
    (((readChar_leaves ']' _ _ _ closed).trans (readScope_leaves _ _ _ zone)).trans
      (readIpv6_leaves _ _ _ own)).trans (readChar_leaves '[' _ _ _ bracket)
  exact ⟨after, within, found⟩

theorem ofChars_ported (read : ofChars? cs = some address) :
    ∃ before digits n, cs = before ++ ':' :: digits ∧ (∀ c ∈ digits, Text.isDigit c = true) ∧
      Text.decimal? digits = some n ∧ n < 65536 ∧ address.port = .ofNat n := by
  unfold ofChars? at read
  split at read
  · rename_i found whole
    cases read
    have ported : ∃ after, after <:+ cs ∧ readPort after = some (address.port, []) := by
      cases numeric : readV4 cs with
      | some parts =>
        rw [numeric] at whole
        cases whole
        exact readV4_ported numeric
      | none =>
        rw [numeric] at whole
        exact readV6_ported whole
    obtain ⟨after, ⟨before, same⟩, port⟩ := ported
    obtain ⟨digits, n, rfl, decimal⟩ := readPort_ends port
    exact ⟨before, digits, n, same.symm, decimal⟩
  · cases read

end WebListener.Net.SocketAddress
