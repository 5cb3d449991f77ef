import Mathlib.Data.List.DropRight
import Mathlib.Data.List.TakeWhile
import WebListener.Text.Blank
import WebListener.Text.Split
-- Trimming takes blanks from both ends, so a last separator that is not blank stays where it is,
-- and what follows it loses the blanks at the end alone.
namespace WebListener.Text

variable {c : Char} {cs before after : List Char}

theorem blank_range (blank : isBlank c = true) : c.toNat ≤ 0x20 ∨ 0x85 ≤ c.toNat := by
  simp only [isBlank, Bool.or_eq_true, Bool.and_eq_true, decide_eq_true_eq, beq_iff_eq] at blank
  omega

theorem trimmed_parts (cs : List Char) :
    ∃ lead trail, cs = lead ++ trimmed cs ++ trail ∧ (∀ c ∈ lead, isBlank c = true) ∧
      (∀ c ∈ trail, isBlank c = true) := by
  refine ⟨cs.takeWhile isBlank, ((cs.dropWhile isBlank).reverse.takeWhile isBlank).reverse, ?_, ?_,
    ?_⟩
  · have front : cs.takeWhile isBlank ++ cs.dropWhile isBlank = cs :=
      List.takeWhile_append_dropWhile
    have back : trimmed cs ++ ((cs.dropWhile isBlank).reverse.takeWhile isBlank).reverse =
        cs.dropWhile isBlank := by
      rw [trimmed, ← List.reverse_append, List.takeWhile_append_dropWhile, List.reverse_reverse]
    rw [List.append_assoc, back, front]
  · exact List.all_eq_true.mp List.all_takeWhile
  · intro c present
    exact List.all_eq_true.mp List.all_takeWhile c (List.mem_reverse.mp present)

theorem trimmed_last (last : (trimmed cs).getLast? = some c) : isBlank c = false := by
  rw [trimmed, List.getLast?_reverse] at last
  have visible := List.head?_dropWhile_not isBlank (cs.dropWhile isBlank).reverse
  rw [last] at visible
  exact visible

theorem trimmed_first (first : (trimmed cs).head? = some c) : isBlank c = false := by
  obtain ⟨trail, whole⟩ : trimmed cs <+: cs.dropWhile isBlank :=
    List.rdropWhile_prefix isBlank _
  have visible := List.head?_dropWhile_not isBlank cs
  rw [← whole, List.head?_append, first] at visible
  exact visible

theorem trimmed_nil_iff : trimmed cs = [] ↔ ∀ c ∈ cs, isBlank c = true := by
  constructor
  · intro gone
    obtain ⟨lead, trail, whole, leads, trails⟩ := trimmed_parts cs
    rw [gone, List.append_nil] at whole
    rw [whole]
    exact List.forall_mem_append.mpr ⟨leads, trails⟩
  · intro blank
    rw [trimmed, List.dropWhile_eq_nil_iff.mpr blank]
    rfl

theorem trimmed_visible (first : ∀ c, cs.head? = some c → isBlank c = false)
    (last : ∀ c, cs.getLast? = some c → isBlank c = false) : trimmed cs = cs := by
  have kept {text : List Char} (visible : ∀ c, text.head? = some c → isBlank c = false) :
      text.dropWhile isBlank = text := by
    cases text with
    | nil => rfl
    | cons c rest => rw [List.dropWhile_cons_of_neg (by simp [visible c rfl])]
  unfold trimmed
  rw [kept first, kept, List.reverse_reverse]
  intro c ends
  rw [List.head?_reverse] at ends
  exact last c ends

theorem trimmed_around {lead trail : List Char} (leads : ∀ c ∈ lead, isBlank c = true)
    (trails : ∀ c ∈ trail, isBlank c = true) : trimmed (lead ++ cs ++ trail) = trimmed cs := by
  have ends : trail.reverse.dropWhile isBlank = [] :=
    List.dropWhile_eq_nil_iff.mpr fun c present => trails c (List.mem_reverse.mp present)
  unfold trimmed
  rw [List.append_assoc, List.dropWhile_append_of_pos leads, List.dropWhile_append]
  split
  · rename_i blank
    rw [List.isEmpty_iff.mp blank, List.dropWhile_eq_nil_iff.mpr trails]
  · rw [List.reverse_append, List.dropWhile_append, ends]
    rfl

-- The blanks that are lost behind a last separator are all there are at the end of the text.
theorem splitLast_trimmed (visible : isBlank c = false)
    (cut : splitLast c (trimmed cs) = some (before, after)) :
    ∃ lead trail, splitLast c cs = some (lead ++ before, after ++ trail) ∧
      (∀ c ∈ trail, isBlank c = true) ∧
      (trail = [] ↔ ¬∃ last, cs.getLast? = some last ∧ isBlank last = true) := by
  obtain ⟨shape, absent⟩ := splitLast_eq_some_iff.mp cut
  obtain ⟨lead, trail, whole, -, blanks⟩ := trimmed_parts cs
  refine ⟨lead, trail, splitLast_eq_some_iff.mpr ⟨?_, ?_⟩, blanks, ?_, ?_⟩
  · rw [whole, shape]
    simp
  · intro present
    rcases List.mem_append.mp present with own | blank
    · exact absent own
    · rw [blanks c blank] at visible
      cases visible
  · rintro rfl ⟨last, found, blank⟩
    have own : (trimmed cs).getLast? = some last := by
      rw [whole, List.append_nil, shape] at found
      rw [shape]
      simpa using found
    rw [trimmed_last own] at blank
    cases blank
  · intro never
    cases ends : trail.getLast? with
    | none => exact List.getLast?_eq_none_iff.mp ends
    | some last =>
      have found : cs.getLast? = some last := by
        rw [whole, List.getLast?_append, ends]
        rfl
      exact absurd ⟨last, found, blanks last (List.mem_of_getLast? ends)⟩ never

end WebListener.Text
