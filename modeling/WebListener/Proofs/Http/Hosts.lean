import WebListener.Http.Redirect
import WebListener.Proofs.Text.Split
-- Which host a request names, and what is left of it without its port.
namespace WebListener.Http

variable {cs host bare : List Char} {request : Request}

def Visible (b : UInt8) : Prop := 32 ≤ b ∧ b < 127 ∨ b = 9

instance : DecidablePred Visible := fun b => inferInstanceAs (Decidable (32 ≤ b ∧ b < 127 ∨ b = 9))

theorem visibleText_exact {bytes : List UInt8} : visibleText? bytes = some cs ↔
    (∀ b ∈ bytes, Visible b) ∧ cs = bytes.map fun b => Char.ofNat b.toNat := by
  unfold visibleText?
  split
  · rename_i all
    have visible : ∀ b ∈ bytes, Visible b := by simpa [Visible] using all
    simp only [Option.some.injEq]
    exact ⟨fun same => ⟨visible, same.symm⟩, fun found => found.2.symm⟩
  · rename_i hidden
    simp only [reduceCtorEq, false_iff, not_and]
    intro visible
    exact absurd (by simpa [Visible] using visible) hidden

theorem visibleText_none {bytes : List UInt8} (none : visibleText? bytes = none) :
    ∃ b ∈ bytes, ¬Visible b := by
  apply Classical.byContradiction
  intro hidden
  have visible : ∀ b ∈ bytes, Visible b := by
    intro b present
    apply Classical.byContradiction
    intro other
    exact hidden ⟨b, present, other⟩
  rw [visibleText_exact.mpr ⟨visible, rfl⟩] at none
  cases none

inductive Names (request : Request) : List Char → Prop where
  | authority {host : List Char} (own : request.uri.authority? = some host) : Names request host
  | header {value : List UInt8} (without : request.uri.authority? = none) (first : request.header? "host" = some value)
      (given : value ≠ []) (visible : ∀ b ∈ value, Visible b) :
      Names request (value.map fun b => Char.ofNat b.toNat)

def Hostless (request : Request) : Prop :=
  request.uri.authority? = none ∧ ∀ value, request.header? "host" = some value →
    value = [] ∨ ∃ b ∈ value, ¬Visible b

theorem names_exact : request.host? = some host ↔ Names request host := by
  unfold Request.host?
  constructor
  · intro found
    split at found
    · rename_i own authority
      cases found
      exact .authority authority
    · rename_i without
      split at found
      · cases found
      · rename_i filled
        obtain ⟨value, first, text⟩ := Option.bind_eq_some_iff.mp found
        obtain ⟨visible, rfl⟩ := visibleText_exact.mp text
        refine .header without first ?_ visible
        rintro rfl
        exact filled found
  · intro names
    cases names with
    | authority own => simp [own]
    | header without first given visible =>
      rename_i value
      have text := visibleText_exact.mpr ⟨visible, rfl⟩
      simp only [without, first, Option.bind_some, text]
      cases value with
      | nil => exact absurd rfl given
      | cons b rest => rfl

theorem hostless_exact : request.host? = none ↔ Hostless request := by
  unfold Request.host? Hostless
  constructor
  · intro missing
    split at missing
    · cases missing
    · rename_i without
      refine ⟨without, fun value first => ?_⟩
      rw [first, Option.bind_some] at missing
      cases text : visibleText? value with
      | none => exact .inr (visibleText_none text)
      | some cs =>
        rw [text] at missing
        cases cs with
        | cons c cs => cases missing
        | nil => exact .inl (by simpa using (visibleText_exact.mp text).2.symm)
  · rintro ⟨without, refused⟩
    simp only [without]
    cases first : request.header? "host" with
    | none => rfl
    | some value =>
      rcases refused value first with rfl | ⟨b, present, hidden⟩
      · rfl
      · cases text : visibleText? value with
        | none => simp [text]
        | some cs => exact absurd ((visibleText_exact.mp text).1 b present) hidden

-- The part of a host in front of its port. In brackets it ends where they are closed first, and
-- brackets that are never closed keep all.
inductive WithoutPort : List Char → List Char → Prop where
  | bracketed (inside rest : List Char) (first : ']' ∉ inside) :
      WithoutPort ('[' :: inside ++ ']' :: rest) ('[' :: inside ++ [']'])
  | unclosed (inside : List Char) (never : ']' ∉ inside) :
      WithoutPort ('[' :: inside) ('[' :: inside)
  | name (host : List Char) (plain : host.head? ≠ some '[') (whole : ':' ∉ host) :
      WithoutPort host host
  | numbered (host port : List Char) (plain : host.head? ≠ some '[') (first : ':' ∉ host) :
      WithoutPort (host ++ ':' :: port) host

namespace Redirect

theorem takeWhile_absent (absent : ':' ∉ host) (rest : List Char) :
    (host ++ rest).takeWhile (· ≠ ':') = host ++ rest.takeWhile (· ≠ ':') := by
  apply List.takeWhile_append_of_pos
  intro c present
  have other : c ≠ ':' := fun same => absent (same ▸ present)
  simpa using other

theorem stripPort_name (plain : host.head? ≠ some '[') :
    stripPort host = host.takeWhile (· ≠ ':') := by
  unfold stripPort
  split
  · exact absurd rfl plain
  · rfl

theorem stripPort_without (without : WithoutPort host bare) : stripPort host = bare := by
  cases without with
  | bracketed inside rest first =>
    have cut : Text.splitFirst [']'] ('[' :: inside ++ ']' :: rest) = some ('[' :: inside, rest) :=
      Text.splitFirst_single_iff.mpr ⟨rfl, by simpa using first⟩
    rw [List.cons_append] at cut
    simp only [stripPort, List.cons_append, cut]
  | unclosed inside never =>
    have cut : Text.splitFirst [']'] ('[' :: inside) = none :=
      Text.splitFirst_single_none.mpr (by simpa using never)
    simp only [stripPort, cut]
  | name _ plain whole =>
    have taken := takeWhile_absent whole []
    rw [stripPort_name plain]
    simpa using taken
  | numbered _ port plain first =>
    have plainWhole : (bare ++ ':' :: port).head? ≠ some '[' := by
      cases bare with
      | nil => simp
      | cons c bare => simpa using plain
    rw [stripPort_name plainWhole, takeWhile_absent first]
    simp

theorem without_exists (host : List Char) : ∃ bare, WithoutPort host bare := by
  by_cases bracket : host.head? = some '['
  · obtain ⟨inside, rfl⟩ := List.head?_eq_some_iff.mp bracket
    cases cut : Text.splitFirst [']'] inside with
    | none =>
      exact ⟨_, .unclosed inside (Text.splitFirst_single_none.mp cut)⟩
    | some parts =>
      obtain ⟨shape, absent⟩ := Text.splitFirst_single_iff.mp cut
      rw [shape]
      exact ⟨_, .bracketed parts.1 parts.2 absent⟩
  · cases cut : Text.splitFirst [':'] host with
    | none => exact ⟨_, .name host bracket (Text.splitFirst_single_none.mp cut)⟩
    | some parts =>
      obtain ⟨shape, absent⟩ := Text.splitFirst_single_iff.mp cut
      rw [shape] at bracket ⊢
      refine ⟨_, .numbered parts.1 parts.2 ?_ absent⟩
      intro first
      obtain ⟨rest, same⟩ := List.head?_eq_some_iff.mp first
      exact bracket (by simp [same])

theorem stripPort_exact : stripPort host = bare ↔ WithoutPort host bare := by
  constructor
  · rintro rfl
    obtain ⟨bare, without⟩ := without_exists host
    rw [stripPort_without without]
    exact without
  · exact stripPort_without

theorem without_leads (without : WithoutPort host bare) : bare <+: host := by
  cases without with
  | bracketed inside rest first => exact ⟨rest, by simp⟩
  | unclosed | name => exact List.prefix_rfl
  | numbered _ port plain first => exact List.prefix_append _ _

end Redirect

end WebListener.Http
