import WebListener.Text.Utf8
-- What is read as UTF-8 is spelled by exactly the bytes it was read from, and a byte below 0x80
-- never belongs to a longer spelling.
namespace WebListener.Text

variable {b : UInt8} {c : Char} {cs : List Char} {bytes : List UInt8}

theorem utf8_exact (s : String) : utf8 s = s.toUTF8.data.toList := by
  have spelled : s.toUTF8 = (s.toList.flatMap String.utf8EncodeChar).toByteArray :=
    String.utf8Encode_toList.symm
  rw [spelled, List.toList_data_toByteArray, utf8]

theorem utf8_inj {s t : String} : utf8 s = utf8 t ↔ s = t := by
  rw [utf8_exact, utf8_exact, Array.toList_inj, ← ByteArray.ext_iff]
  exact String.toByteArray_inj

theorem utf8_ofList (cs : List Char) : utf8 (.ofList cs) = cs.flatMap String.utf8EncodeChar := by
  rw [utf8, String.toList_ofList]

theorem encoded_byte (present : b ∈ String.utf8EncodeChar c) :
    c.toNat = b.toNat ∧ b.toNat < 0x80 ∨ 0x80 ≤ c.toNat ∧ 0x80 ≤ b.toNat := by
  have same : c.val.toNat = c.toNat := rfl
  simp only [String.utf8EncodeChar, same] at present
  split at present
  · left
    obtain rfl := List.mem_singleton.mp present
    simp only [UInt8.toNat_ofNat']
    omega
  · right
    refine ⟨by omega, ?_⟩
    split at present
    · simp only [List.mem_cons, List.not_mem_nil, or_false] at present
      rcases present with rfl | rfl <;> simp only [UInt8.toNat_ofNat'] <;> omega
    · split at present
      · simp only [List.mem_cons, List.not_mem_nil, or_false] at present
        rcases present with rfl | rfl | rfl <;> simp only [UInt8.toNat_ofNat'] <;> omega
      · simp only [List.mem_cons, List.not_mem_nil, or_false] at present
        rcases present with rfl | rfl | rfl | rfl <;> simp only [UInt8.toNat_ofNat'] <;> omega

theorem ofNat_value {n : Nat} (valid : n < 0xD800 ∨ 0xE000 ≤ n ∧ n < 0x110000) :
    (Char.ofNat n).val.toNat = n := by
  have same : n.isValidChar := by
    unfold Nat.isValidChar
    omega
  rw [Char.ofNat, dif_pos same]
  rfl

theorem continuation_exact : continuation b = some low ↔ b.toNat = 0x80 + low ∧ low < 64 := by
  simp only [continuation, Option.ite_none_right_eq_some, Option.some.injEq]
  omega

-- One lemma for each length of a spelling, from one byte to four.
section Spellings

variable {first second third fourth : UInt8} {n y z w : Nat}

theorem spell_one (low : first.toNat < 0x80) :
    String.utf8EncodeChar (.ofNat first.toNat) = [first] := by
  have value : (Char.ofNat first.toNat).val.toNat = first.toNat := ofNat_value (by omega)
  simp only [String.utf8EncodeChar, value]
  rw [if_pos (by omega), UInt8.ofNat_toNat]

theorem spell_two (low : 0xC2 ≤ first.toNat) (high : first.toNat < 0xE0)
    (tail : continuation second = some y) (code : n = first.toNat % 32 * 64 + y) :
    String.utf8EncodeChar (.ofNat n) = [first, second] := by
  obtain ⟨tail, bound⟩ := continuation_exact.mp tail
  have value : (Char.ofNat n).val.toNat = n := ofNat_value (by omega)
  simp only [String.utf8EncodeChar, value]
  rw [if_neg (by omega), if_pos (by omega)]
  simp only [List.cons.injEq, ← UInt8.toNat_inj, UInt8.toNat_ofNat', and_true]
  omega

theorem spell_three (low : 0xE0 ≤ first.toNat) (high : first.toNat < 0xF0)
    (middle : continuation second = some y) (tail : continuation third = some z)
    (code : n = (first.toNat % 16 * 64 + y) * 64 + z)
    (valid : ¬(n < 0x800 ∨ 0xD800 ≤ n ∧ n < 0xE000)) :
    String.utf8EncodeChar (.ofNat n) = [first, second, third] := by
  obtain ⟨middle, bound⟩ := continuation_exact.mp middle
  obtain ⟨tail, under⟩ := continuation_exact.mp tail
  have value : (Char.ofNat n).val.toNat = n := ofNat_value (by omega)
  simp only [String.utf8EncodeChar, value]
  rw [if_neg (by omega), if_neg (by omega), if_pos (by omega)]
  simp only [List.cons.injEq, ← UInt8.toNat_inj, UInt8.toNat_ofNat', and_true]
  omega

theorem spell_four (low : 0xF0 ≤ first.toNat) (high : first.toNat < 0xF5)
    (middle : continuation second = some y) (next : continuation third = some z)
    (tail : continuation fourth = some w)
    (code : n = ((first.toNat % 8 * 64 + y) * 64 + z) * 64 + w)
    (valid : ¬(n < 0x10000 ∨ 0x110000 ≤ n)) :
    String.utf8EncodeChar (.ofNat n) = [first, second, third, fourth] := by
  obtain ⟨middle, bound⟩ := continuation_exact.mp middle
  obtain ⟨next, under⟩ := continuation_exact.mp next
  obtain ⟨tail, below⟩ := continuation_exact.mp tail
  have value : (Char.ofNat n).val.toNat = n := ofNat_value (by omega)
  simp only [String.utf8EncodeChar, value]
  rw [if_neg (by omega), if_neg (by omega), if_neg (by omega)]
  simp only [List.cons.injEq, ← UInt8.toNat_inj, UInt8.toNat_ofNat', and_true]
  omega

end Spellings

theorem decodeUtf8_spells (read : decodeUtf8 bytes = some cs) :
    bytes = cs.flatMap String.utf8EncodeChar := by
  induction bytes using decodeUtf8.induct generalizing cs with
  | case1 => cases read; rfl
  | case2 first rest low ih =>
    unfold decodeUtf8 at read
    simp only [low, if_true, Option.map_eq_some_iff] at read
    obtain ⟨later, more, rfl⟩ := read
    rw [List.flatMap_cons, spell_one low, ← ih more]
    rfl
  | case4 first one two high second rest ih =>
    unfold decodeUtf8 at read
    simp only [one, two, high, if_false, if_true] at read
    obtain ⟨y, tail, read⟩ := Option.bind_eq_some_iff.mp read
    obtain ⟨later, more, ⟨⟩⟩ := Option.bind_eq_some_iff.mp read
    rw [List.flatMap_cons, spell_two (by omega) high tail rfl, ← ih more]
    rfl
  | case6 first one two three high second third rest ih =>
    unfold decodeUtf8 at read
    simp only [one, two, three, high, if_false, if_true] at read
    obtain ⟨y, middle, read⟩ := Option.bind_eq_some_iff.mp read
    obtain ⟨z, tail, read⟩ := Option.bind_eq_some_iff.mp read
    split at read
    · cases read
    · rename_i valid
      obtain ⟨later, more, ⟨⟩⟩ := Option.bind_eq_some_iff.mp read
      rw [List.flatMap_cons, spell_three (by omega) high middle tail rfl (by simpa using valid),
        ← ih more]
      rfl
  | case8 first one two three four high second third fourth rest ih =>
    unfold decodeUtf8 at read
    simp only [one, two, three, four, high, if_false, if_true] at read
    obtain ⟨y, middle, read⟩ := Option.bind_eq_some_iff.mp read
    obtain ⟨z, next, read⟩ := Option.bind_eq_some_iff.mp read
    obtain ⟨w, tail, read⟩ := Option.bind_eq_some_iff.mp read
    split at read
    · cases read
    · rename_i valid
      obtain ⟨later, more, ⟨⟩⟩ := Option.bind_eq_some_iff.mp read
      rw [List.flatMap_cons,
        spell_four (by omega) high middle next tail rfl (by simpa using valid), ← ih more]
      rfl
  | case3 first rest one high =>
    unfold decodeUtf8 at read
    simp only [one, high, if_false, if_true] at read
    cases read
  | case5 first rest one two high short =>
    unfold decodeUtf8 at read
    simp only [one, two, high, if_false, if_true] at read
    cases read
  | case7 first rest one two three high short =>
    unfold decodeUtf8 at read
    simp only [one, two, three, high, if_false, if_true] at read
    cases read
  | case9 first rest one two three four high short =>
    unfold decodeUtf8 at read
    simp only [one, two, three, four, high, if_false, if_true] at read
    cases read
  | case10 first rest one two three four high =>
    unfold decodeUtf8 at read
    simp only [one, two, three, four, high, if_false] at read
    cases read

theorem decoded_ascii (read : decodeUtf8 bytes = some cs) (present : c ∈ cs)
    (ascii : c.toNat < 0x80) : ∃ b ∈ bytes, b.toNat = c.toNat := by
  have code : (UInt8.ofNat c.toNat).toNat = c.toNat := by
    simp only [UInt8.toNat_ofNat']
    omega
  have single : String.utf8EncodeChar c = [UInt8.ofNat c.toNat] := by
    have spelled := spell_one (show (UInt8.ofNat c.toNat).toNat < 0x80 by omega)
    rwa [code, Char.ofNat_toNat] at spelled
  refine ⟨UInt8.ofNat c.toNat, ?_, code⟩
  rw [decodeUtf8_spells read]
  exact List.mem_flatMap.mpr ⟨c, present, by simp [single]⟩

end WebListener.Text
