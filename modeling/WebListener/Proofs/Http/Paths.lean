import WebListener.Proofs.Http.Targets
-- Where the path of an accepted target begins: at a slash, or at the question mark of its query.
-- The lone asterisk is the one exception.
namespace WebListener.Http

-- An empty path can only be followed by a query, so it begins with the mark of one.
def Rooted (cs : List Char) : Prop := cs.head? = some '/' ∨ cs.head? = some '?'

theorem Rooted.slash (rest : List Char) : Rooted ('/' :: rest) := .inl rfl

theorem Rooted.mark (rest : List Char) : Rooted ('?' :: rest) := .inr rfl

theorem Rooted.begins {cs : List Char} (rooted : Rooted cs) :
    ∃ c rest, cs = c :: rest ∧ (c = '/' ∨ c = '?') := by
  rcases rooted with slash | mark
  · obtain ⟨rest, rfl⟩ := List.head?_eq_some_iff.mp slash
    exact ⟨'/', rest, rfl, .inl rfl⟩
  · obtain ⟨rest, rfl⟩ := List.head?_eq_some_iff.mp mark
    exact ⟨'?', rest, rfl, .inr rfl⟩

namespace Uri

variable {cs own rest : List Char} {target : PathQuery} {uri : Uri}

def asterisk : Uri := .path ⟨['*'], none⟩

theorem endsAuthority_exact {c : Char} :
    endsAuthority c = true ↔ c = '/' ∨ c = '?' ∨ c = '#' := by
  simp [endsAuthority, or_assoc]

theorem endsAuthority_false {c : Char} :
    endsAuthority c = false ↔ c ≠ '/' ∧ c ≠ '?' ∧ c ≠ '#' := by
  simp [endsAuthority, and_assoc]

theorem drop_taken (p : Char → Bool) (cs : List Char) :
    cs.drop (cs.takeWhile p).length = cs.dropWhile p := by
  have whole : cs.takeWhile p ++ cs.dropWhile p = cs := List.takeWhile_append_dropWhile
  calc cs.drop (cs.takeWhile p).length
      = (cs.takeWhile p ++ cs.dropWhile p).drop (cs.takeWhile p).length := by rw [whole]
    _ = cs.dropWhile p := List.drop_left

theorem spelled_slash (read : spelled ('/' :: cs) = .ok own) : own.head? = some '/' := by
  unfold spelled at read
  split at read
  · rename_i decoded found
    cases read
    have ascii : (UInt8.ofNat '/'.toNat).toNat < 0x80 := by decide
    rw [List.map_cons] at found
    unfold Text.decodeUtf8 at found
    simp only [ascii, if_true] at found
    obtain ⟨later, -, rfl⟩ := Option.map_eq_some_iff.mp found
    rfl
  · cases read

def endsPath (c : Char) : Bool := c = '?' || c = '#'

theorem readTarget_parts (read : readTarget cs = .ok target) :
    spelled (cs.takeWhile fun c => !endsPath c) = .ok target.path ∧
      ∀ rest, cs.dropWhile (fun c => !endsPath c) = '?' :: rest → target.query ≠ none := by
  have same : (fun c : Char => !endsPath c) = fun c => c ≠ '?' && c ≠ '#' := by
    funext c
    simp [endsPath]
  rw [same]
  unfold readTarget at read
  dsimp only at read
  rw [drop_taken] at read
  split at read
  · cases read
  split at read
  · split at read
    · cases read
    obtain ⟨path, spelledPath, read⟩ := bind_ok_iff.mp read
    obtain ⟨query, -, ⟨⟩⟩ := bind_ok_iff.mp read
    exact ⟨spelledPath, by simp⟩
  · rename_i unmarked
    obtain ⟨path, spelledPath, ⟨⟩⟩ := bind_ok_iff.mp read
    exact ⟨spelledPath, fun rest mark => absurd mark (unmarked rest)⟩

theorem text_rooted (rooted : Rooted (target.path ++ target.queryText)) : Rooted target.text := by
  unfold PathQuery.text
  split
  · exact Rooted.slash []
  · exact rooted

theorem readTarget_rooted (start : ∀ c, cs.head? = some c → endsAuthority c = true)
    (read : readTarget cs = .ok target) : Rooted target.text := by
  obtain ⟨path, query⟩ := readTarget_parts read
  cases cs with
  | nil =>
    cases read
    exact Rooted.slash []
  | cons c rest =>
    rcases endsAuthority_exact.mp (start c rfl) with rfl | rfl | rfl
    · obtain ⟨later, same⟩ := List.head?_eq_some_iff.mp (spelled_slash path)
      apply text_rooted
      rw [same]
      exact Rooted.slash _
    · have bare : target.path = [] := (Except.ok.inj path).symm
      obtain ⟨asked, given⟩ := Option.ne_none_iff_exists'.mp (query rest rfl)
      apply text_rooted
      rw [bare, PathQuery.queryText, given]
      exact Rooted.mark asked
    · cases read
      exact Rooted.slash []

theorem readAuthority_ends (read : readAuthority cs = .ok (own, rest)) :
    ∀ c, rest.head? = some c → endsAuthority c = true := by
  unfold readAuthority at read
  obtain ⟨s, scan, read⟩ := bind_ok_iff.mp read
  obtain ⟨done, finished, ⟨⟩⟩ := bind_ok_iff.mp read
  intro c first
  have ended := List.head?_dropWhile_not (fun c => !endsAuthority c) cs
  rw [drop_taken] at first
  rw [first] at ended
  simpa using ended

theorem ofBytes_rooted {bytes : List UInt8} (read : ofBytes bytes = .ok uri) :
    uri = asterisk ∨ ∀ target, uri.target? = some target → Rooted target.text := by
  cases ofBytes_read read with
  | asterisk whole => exact .inl rfl
  | path slash found =>
    right
    rintro _ ⟨⟩
    apply readTarget_rooted _ found
    rw [slash]
    rintro c ⟨⟩
    rfl
  | authority found =>
    right
    rintro target ⟨⟩
  | absolute marked found given follows =>
    right
    rintro _ ⟨⟩
    exact readTarget_rooted (readAuthority_ends found) follows

end Uri

end WebListener.Http
