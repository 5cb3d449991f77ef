import WebListener.Text.Split
-- A cut at the first place of a separator loses nothing, and there is no earlier place.
namespace WebListener.Text

variable {separator before after cs : List Char} {c : Char}

theorem splitFirst_eq_none_iff : splitFirst separator cs = none ↔ ¬separator <:+: cs := by
  induction cs with
  | nil => simp [splitFirst]
  | cons x rest ih =>
    rw [splitFirst, List.infix_cons_iff]
    split
    · rename_i here
      simp [List.isPrefixOf_iff_prefix.mp here]
    · rename_i elsewhere
      rw [List.isPrefixOf_iff_prefix] at elsewhere
      simp [ih, elsewhere]

theorem splitFirst_eq_some_iff : splitFirst separator cs = some (before, after) ↔
    cs = before ++ separator ++ after ∧
      ∀ b a, cs = b ++ separator ++ a → before.length ≤ b.length := by
  induction cs generalizing before after with
  | nil =>
    simp only [splitFirst]
    cases separator with
    | nil =>
      constructor
      · rintro ⟨⟩
        simp
      · rintro ⟨shape, -⟩
        obtain ⟨rfl, rfl⟩ : before = [] ∧ after = [] := by simpa using shape.symm
        rfl
    | cons x rest => simp
  | cons x rest ih =>
    rw [splitFirst]
    split
    · rename_i here
      obtain ⟨later, same⟩ := List.isPrefixOf_iff_prefix.mp here
      constructor
      · intro found
        obtain ⟨rfl, rfl⟩ : [] = before ∧ (x :: rest).drop separator.length = after := by
          simpa using found
        rw [← same]
        simp
      · rintro ⟨shape, least⟩
        have start := least [] later (by simpa using same.symm)
        obtain rfl : before = [] := List.eq_nil_of_length_eq_zero (by simpa using start)
        simp [shape]
    · rename_i elsewhere
      rw [List.isPrefixOf_iff_prefix] at elsewhere
      constructor
      · intro found
        obtain ⟨⟨b, a⟩, cut, same⟩ := Option.map_eq_some_iff.mp found
        obtain ⟨rfl, rfl⟩ : x :: b = before ∧ a = after := by simpa using same
        obtain ⟨shape, least⟩ := ih.mp cut
        refine ⟨by simp [shape], ?_⟩
        intro b' a' other
        cases b' with
        | nil => exact absurd ⟨a', other.symm⟩ elsewhere
        | cons y b' =>
          obtain ⟨-, tail⟩ := List.cons.inj other
          have bound := least b' a' tail
          simpa using bound
      · rintro ⟨shape, least⟩
        cases before with
        | nil => exact absurd ⟨after, shape.symm⟩ elsewhere
        | cons y before =>
          obtain ⟨rfl, tail⟩ := List.cons.inj shape
          have cut := ih.mpr ⟨tail, fun b a other => by
            have bound := least (x :: b) a (by simp [other])
            simpa using bound⟩
          simp [cut]

theorem splitFirst_absent (absent : c ∉ before) (rest after : List Char) :
    splitFirst (c :: rest) (before ++ (c :: rest) ++ after) = some (before, after) := by
  rw [splitFirst_eq_some_iff]
  refine ⟨rfl, fun b a other => ?_⟩
  apply Classical.byContradiction
  intro shorter
  -- An earlier place would lie inside what comes before the cut.
  have inside : b ++ [c] <+: before := by
    have early : b ++ [c] <+: before ++ (c :: rest) ++ after := ⟨rest ++ a, by simp [other]⟩
    refine List.prefix_of_prefix_length_le early ⟨(c :: rest) ++ after, by simp⟩ ?_
    rw [List.length_append, List.length_singleton]
    omega
  exact absent (inside.subset (by simp))

theorem splitFirst_single_none : splitFirst [c] cs = none ↔ c ∉ cs := by
  rw [splitFirst_eq_none_iff, not_congr]
  constructor
  · rintro ⟨before, after, rfl⟩
    simp
  · intro present
    obtain ⟨before, after, rfl⟩ := List.append_of_mem present
    exact ⟨before, after, by simp⟩

theorem splitFirst_single_iff : splitFirst [c] cs = some (before, after) ↔
    cs = before ++ c :: after ∧ c ∉ before := by
  constructor
  · intro cut
    obtain ⟨shape, least⟩ := splitFirst_eq_some_iff.mp cut
    simp only [List.append_assoc, List.singleton_append] at shape least
    refine ⟨shape, fun present => ?_⟩
    obtain ⟨b, a, rfl⟩ := List.append_of_mem present
    have bound := least b (a ++ c :: after) (by simp [shape])
    rw [List.length_append, List.length_cons] at bound
    omega
  · rintro ⟨rfl, absent⟩
    have cut := splitFirst_absent absent [] after
    rwa [List.append_assoc] at cut

end WebListener.Text
