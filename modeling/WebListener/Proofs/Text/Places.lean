import WebListener.Text.Split
import WebListener.Text.Utf8
-- Places in a text, counted in bytes. A text can be cut between two characters and nowhere else,
-- so a place that was found is one to cut at only with all of the character that stands there.
namespace WebListener.Text

variable {before after cs : List Char} {c : Char}

def byteIndex? (c : Char) : List Char → Option Nat
  | [] => none
  | x :: rest => if x = c then some 0 else (byteIndex? c rest).map (x.utf8Size + ·)

def leading? : Nat → List Char → Option (List Char)
  | 0, _ => some []
  | _ + 1, [] => none
  | size + 1, c :: rest =>
    if c.utf8Size ≤ size + 1 then (leading? (size + 1 - c.utf8Size) rest).map (c :: ·) else none

@[simp] theorem utf8Length_nil : utf8Length [] = 0 := rfl

@[simp] theorem utf8Length_cons (c : Char) (cs : List Char) :
    utf8Length (c :: cs) = c.utf8Size + utf8Length cs := rfl

@[simp] theorem utf8Length_append (front back : List Char) :
    utf8Length (front ++ back) = utf8Length front + utf8Length back := by
  induction front with
  | nil => simp
  | cons x rest ih => simp [ih, Nat.add_assoc]

theorem byteIndex_none : byteIndex? c cs = none ↔ c ∉ cs := by
  induction cs with
  | nil => simp [byteIndex?]
  | cons x rest ih =>
    by_cases same : x = c
    · simp [byteIndex?, same]
    · simp [byteIndex?, same, ih, Ne.symm same]

theorem byteIndex_first (absent : c ∉ before) (after : List Char) :
    byteIndex? c (before ++ c :: after) = some (utf8Length before) := by
  induction before with
  | nil => simp [byteIndex?]
  | cons x rest ih =>
    obtain ⟨other, later⟩ : c ≠ x ∧ c ∉ rest := by simpa using absent
    simp [byteIndex?, Ne.symm other, ih later]

theorem leading_cons (c : Char) (cs : List Char) (size : Nat) :
    leading? (c.utf8Size + size) (c :: cs) = (leading? size cs).map (c :: ·) := by
  obtain ⟨width, positive⟩ := Nat.exists_eq_add_one.mpr c.utf8Size_pos
  have total : c.utf8Size + size = (width + size) + 1 := by omega
  have fits : c.utf8Size ≤ (width + size) + 1 := by omega
  have left : (width + size) + 1 - c.utf8Size = size := by omega
  rw [total, leading?, if_pos fits, left]

theorem leading_whole (before after : List Char) :
    leading? (utf8Length before) (before ++ after) = some before := by
  induction before with
  | nil => simp [leading?]
  | cons x rest ih =>
    rw [utf8Length_cons, List.cons_append, leading_cons, ih]
    rfl

example : leading? 1 ['é'] = none := by decide

theorem splitAll_head (c : Char) (cs : List Char) :
    (splitAll c cs).head? = some (cs.takeWhile (· ≠ c)) := by
  induction cs with
  | nil => rfl
  | cons x rest ih =>
    cases pieces : splitAll c rest with
    | nil => simp [pieces] at ih
    | cons piece others =>
      have first : piece = rest.takeWhile (· ≠ c) := by simpa [pieces] using ih
      by_cases same : x = c
      · simp [splitAll, pieces, same]
      · simp [splitAll, pieces, same, first]

end WebListener.Text
