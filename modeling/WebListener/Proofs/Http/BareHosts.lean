import WebListener.Proofs.Http.Hosts
import WebListener.Proofs.Text.Places
-- A host without its port, for any text at all. It can always be cut off, cutting it again leaves
-- it, and nothing that follows the host moves the cut.
namespace WebListener.Http

variable {host bare : List Char}

namespace WithoutPort

theorem of_name (without : WithoutPort host bare) (plain : host.head? ≠ some '[') :
    bare.head? ≠ some '[' ∧ ':' ∉ bare ∧ (host = bare ∨ ∃ port, host = bare ++ ':' :: port) := by
  cases without with
  | bracketed | unclosed => exact absurd rfl plain
  | name _ own whole => exact ⟨own, whole, .inl rfl⟩
  | numbered _ port own first => exact ⟨own, first, .inr ⟨port, rfl⟩⟩

theorem of_bracket (without : WithoutPort host bare) (bracket : host.head? = some '[') :
    (∃ inside rest, host = '[' :: inside ++ ']' :: rest ∧ ']' ∉ inside ∧
      bare = '[' :: inside ++ [']']) ∨ ']' ∉ host ∧ bare = host := by
  cases without with
  | bracketed inside rest first => exact .inl ⟨inside, rest, rfl, first, rfl⟩
  | unclosed inside never => exact .inr ⟨by simp [never], rfl⟩
  | name _ plain whole => exact absurd bracket plain
  | numbered _ port plain first =>
    cases bare with
    | nil => cases bracket
    | cons c rest => exact absurd bracket plain

theorem again (without : WithoutPort host bare) : WithoutPort bare bare := by
  cases without with
  | bracketed inside rest first => exact .bracketed inside [] first
  | unclosed inside never => exact .unclosed inside never
  | name _ plain whole => exact .name _ plain whole
  | numbered _ port plain first => exact .name bare plain first

theorem numbered_again (without : WithoutPort host bare) (plain : host.head? ≠ some '[')
    (text : List Char) : WithoutPort (host ++ ':' :: text) bare := by
  obtain ⟨own, whole, same | ⟨port, cut⟩⟩ := without.of_name plain
  · rw [same]
    exact .numbered bare text own whole
  · rw [cut, List.append_assoc, List.cons_append]
    exact .numbered bare (port ++ ':' :: text) own whole

theorem closed_before (without : WithoutPort host bare) (bracket : host.head? = some '[')
    (closed : ']' ∈ host) (text : List Char) : WithoutPort (host ++ text) bare := by
  rcases without.of_bracket bracket with ⟨inside, rest, shape, first, kept⟩ | ⟨never, -⟩
  · rw [shape, kept, List.append_assoc, List.cons_append]
    exact .bracketed inside (rest ++ text) first
  · exact absurd closed never

end WithoutPort

namespace Redirect

-- The host by places in bytes: brackets are looked for and cut behind, and of a name the first of
-- the pieces between colons is taken. A place inside a character would leave nothing.
def cutHost? (host : List Char) : Option (List Char) :=
  if host.head? = some '[' then
    match Text.byteIndex? ']' host with
    | some place => Text.leading? (place + 1) host
    | none => some host
  else some ((Text.splitAll ':' host).head?.getD host)

theorem cut_bracket (inside rest : List Char) (first : ']' ∉ inside) :
    cutHost? ('[' :: inside ++ ']' :: rest) = some ('[' :: inside ++ [']']) := by
  have absent : ']' ∉ '[' :: inside := by simp [first]
  have place := Text.byteIndex_first absent rest
  have behind : Text.utf8Length ('[' :: inside) + 1 =
      Text.utf8Length ('[' :: inside ++ [']']) := by
    rw [Text.utf8Length_append]
    rfl
  have shape : '[' :: inside ++ ']' :: rest = ('[' :: inside ++ [']']) ++ rest := by simp
  unfold cutHost?
  rw [if_pos (by simp), place]
  dsimp only
  rw [behind, shape, Text.leading_whole]

theorem cutHost_defined (host : List Char) : cutHost? host = some (stripPort host) := by
  have without : WithoutPort host (stripPort host) := stripPort_exact.mp rfl
  by_cases bracket : host.head? = some '['
  · rcases without.of_bracket bracket with ⟨inside, rest, shape, first, kept⟩ | ⟨never, whole⟩
    · rw [kept, shape]
      exact cut_bracket inside rest first
    · rw [whole, cutHost?, if_pos bracket, Text.byteIndex_none.mpr never]
  · rw [cutHost?, if_neg bracket, Text.splitAll_head, stripPort_name bracket]
    rfl

end Redirect

open Redirect in
-- Of a name all up to its first colon is left, of closed brackets all up to where they close, and
-- of brackets that stay open everything.
theorem bare_host_unmoved (host : List Char) :
    cutHost? host = some (stripPort host) ∧ stripPort host <+: host ∧
    stripPort (stripPort host) = stripPort host ∧
    (':' ∈ stripPort host → host.head? = some '[') ∧
    (host.head? ≠ some '[' →
      (∀ text, stripPort (host ++ ':' :: text) = stripPort host) ∧
      ':' ∉ stripPort host ∧
      (host = stripPort host ∨ ∃ port, host = stripPort host ++ ':' :: port)) ∧
    (host.head? = some '[' → ']' ∈ host →
      (∀ text, stripPort (host ++ text) = stripPort host) ∧
      ∃ before after, host = before ++ ']' :: after ∧ ']' ∉ before ∧
        stripPort host = before ++ [']']) ∧
    (host.head? = some '[' → ']' ∉ host → stripPort host = host) := by
  have without : WithoutPort host (stripPort host) := stripPort_exact.mp rfl
  refine ⟨cutHost_defined host, without_leads without, stripPort_without without.again,
    ?_, ?_, ?_, ?_⟩
  · intro colon
    by_cases bracket : host.head? = some '['
    · exact bracket
    · exact absurd colon (without.of_name bracket).2.1
  · intro plain
    exact ⟨fun text => stripPort_without (without.numbered_again plain text),
      (without.of_name plain).2⟩
  · intro bracket closed
    refine ⟨fun text => stripPort_without (without.closed_before bracket closed text), ?_⟩
    rcases without.of_bracket bracket with ⟨inside, rest, shape, first, kept⟩ | ⟨never, -⟩
    · exact ⟨'[' :: inside, rest, shape, by simp [first], kept⟩
    · exact absurd closed never
  · intro bracket never
    rcases without.of_bracket bracket with ⟨inside, rest, shape, -, -⟩ | ⟨-, whole⟩
    · exact absurd (by simp [shape]) never
    · exact whole

end WebListener.Http
