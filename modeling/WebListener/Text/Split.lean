-- Cutting text at a separator: at its first place, or at the last place of one character.
namespace WebListener.Text

def splitFirst (separator : List Char) : List Char → Option (List Char × List Char)
  | [] => if separator.isEmpty then some ([], []) else none
  | c :: rest =>
    if separator.isPrefixOf (c :: rest) then some ([], (c :: rest).drop separator.length)
    else (splitFirst separator rest).map fun (before, after) => (c :: before, after)

def splitLast (separator : Char) : List Char → Option (List Char × List Char)
  | [] => none
  | c :: rest =>
    match splitLast separator rest with
    | some (before, after) => some (c :: before, after)
    | none => if c = separator then some ([], rest) else none

def splitAll (separator : Char) : List Char → List (List Char)
  | [] => [[]]
  | c :: rest =>
    match splitAll separator rest with
    | [] => [[c]]
    | piece :: pieces => if c = separator then [] :: piece :: pieces else (c :: piece) :: pieces

theorem splitLast_eq_none_iff {c : Char} {cs : List Char} : splitLast c cs = none ↔ c ∉ cs := by
  induction cs with
  | nil => simp [splitLast]
  | cons x rest ih =>
    cases h : splitLast c rest with
    | some parts =>
      have present : c ∈ rest := Decidable.byContradiction fun absent => by
        rw [ih.2 absent] at h
        cases h
      simp [splitLast, h, present]
    | none =>
      by_cases same : x = c
      · simp [splitLast, h, same]
      · simp [splitLast, h, same, ih.1 h, Ne.symm same]

theorem splitLast_eq_some_iff {c : Char} {cs before after : List Char} :
    splitLast c cs = some (before, after) ↔ cs = before ++ c :: after ∧ c ∉ after := by
  induction cs generalizing before after with
  | nil => simp [splitLast]
  | cons x rest ih =>
    cases h : splitLast c rest with
    | some parts =>
      obtain ⟨b, a⟩ := parts
      obtain ⟨eq, absent⟩ := ih.1 h
      constructor
      · intro found
        simp only [splitLast, h, Option.some.injEq, Prod.mk.injEq] at found
        obtain ⟨rfl, rfl⟩ := found
        exact ⟨by simp [eq], absent⟩
      · rintro ⟨shape, missing⟩
        cases before with
        | nil =>
          obtain ⟨-, rfl⟩ := List.cons.inj shape
          exact absurd (by simp [eq]) missing
        | cons y before =>
          obtain ⟨rfl, tail⟩ := List.cons.inj shape
          have := ih.2 ⟨tail, missing⟩
          simp only [h, Option.some.injEq, Prod.mk.injEq] at this
          obtain ⟨rfl, rfl⟩ := this
          simp [splitLast, h]
    | none =>
      have absent := splitLast_eq_none_iff.1 h
      constructor
      · intro found
        by_cases same : x = c
        · simp only [splitLast, h, same, if_true, Option.some.injEq, Prod.mk.injEq] at found
          obtain ⟨rfl, rfl⟩ := found
          exact ⟨by simp [same], absent⟩
        · simp [splitLast, h, same] at found
      · rintro ⟨shape, missing⟩
        cases before with
        | nil =>
          obtain ⟨rfl, rfl⟩ := List.cons.inj shape
          simp [splitLast, h]
        | cons y before =>
          obtain ⟨-, rfl⟩ := List.cons.inj shape
          exact absurd (by simp) absent

end WebListener.Text
