import WebListener.Proofs.Http.Locations
-- Authorities by their grammar: perhaps a user and an at sign, a host, perhaps a colon and a port.
-- A redirect keeps what comes before the first colon, and that is where the user is.
namespace WebListener.Http

open Net (Port)

variable {c : Char} {cs : List Char} {request : Request}

def isDelimiter (c : Char) : Bool := [':', '/', '?', '#', '[', ']', '@'].contains c

def Undelimited (cs : List Char) : Prop := ∀ c ∈ cs, isDelimiter c = false

def Colonized (cs : List Char) : Prop := ∀ c ∈ cs, isDelimiter c = true → c = ':'

instance : DecidablePred Undelimited := fun cs =>
  decidable_of_iff (cs.all fun c => !isDelimiter c) (by simp [Undelimited])

instance : DecidablePred Colonized := fun cs =>
  decidable_of_iff (cs.all fun c => !isDelimiter c || c = ':') (by simp [Colonized, Decidable.imp_iff_not_or])

theorem Undelimited.absent (plain : Undelimited cs) (delimits : isDelimiter c = true) : c ∉ cs := by
  intro present
  rw [plain c present] at delimits
  cases delimits

theorem Colonized.absent (colons : Colonized cs) (delimits : isDelimiter c = true)
    (other : c ≠ ':') : c ∉ cs :=
  fun present => other (colons c present delimits)

inductive HostText : List Char → Prop where
  | name {cs : List Char} (plain : Undelimited cs) : HostText cs
  | literal {inside : List Char} (colons : Colonized inside) : HostText ('[' :: inside ++ [']'])

structure Authority where
  user : Option (List Char)
  host : List Char
  port : Option (List Char)
  userText : ∀ cs, user = some cs → Colonized cs
  hostText : HostText host
  portText : ∀ cs, port = some cs → Undelimited cs

namespace Authority

def userPart (authority : Authority) : List Char :=
  match authority.user with
  | none => []
  | some user => user ++ ['@']

def portPart (authority : Authority) : List Char :=
  match authority.port with
  | none => []
  | some port => ':' :: port

def text (authority : Authority) : List Char :=
  authority.userPart ++ authority.host ++ authority.portPart

theorem userPart_absent (authority : Authority) (delimits : isDelimiter c = true)
    (colon : c ≠ ':') (mark : c ≠ '@') : c ∉ authority.userPart := by
  unfold userPart
  split
  · exact List.not_mem_nil
  · rename_i user given
    have own := (authority.userText user given).absent delimits colon
    simp [own, mark]

theorem portPart_absent (authority : Authority) (delimits : isDelimiter c = true)
    (other : c ≠ ':') : c ∉ authority.portPart := by
  unfold portPart
  split
  · exact List.not_mem_nil
  · rename_i port given
    exact List.not_mem_cons_of_ne_of_not_mem other ((authority.portText port given).absent delimits)

theorem host_absent (authority : Authority) (delimits : isDelimiter c = true) (colon : c ≠ ':')
    (opening : c ≠ '[') (closing : c ≠ ']') : c ∉ authority.host := by
  cases authority with
  | mk user host port userText hostText portText =>
    cases hostText with
    | name plain => exact plain.absent delimits
    | literal colons =>
      have inside := colons.absent delimits colon
      simp [opening, closing, inside]

theorem text_absent (authority : Authority) (delimits : isDelimiter c = true) (colon : c ≠ ':')
    (opening : c ≠ '[') (closing : c ≠ ']') (mark : c ≠ '@') : c ∉ authority.text := by
  have user := authority.userPart_absent delimits colon mark
  have host := authority.host_absent delimits colon opening closing
  have port := authority.portPart_absent delimits colon
  simp [text, user, host, port]

theorem text_enclosed (authority : Authority) :
    ∀ c ∈ authority.text, Uri.endsAuthority c = false := by
  intro c present
  rw [Uri.endsAuthority_false]
  refine ⟨?_, ?_, ?_⟩
  all_goals
    rintro rfl
    exact authority.text_absent (by decide) (by decide) (by decide) (by decide) (by decide) present

theorem host_without (authority : Authority) :
    WithoutPort (authority.host ++ authority.portPart) authority.host := by
  cases authority with
  | mk user host port userText hostText portText =>
    cases hostText with
    | literal colons =>
      rename_i inside
      have closed := colons.absent (c := ']') (by decide) (by decide)
      rw [List.append_assoc]
      exact .bracketed inside _ closed
    | name plain =>
      have first : host.head? ≠ some '[' := by
        intro bracket
        have present := List.mem_of_head? bracket
        exact plain.absent (by decide) present
      have whole : ':' ∉ host := plain.absent (by decide)
      cases port with
      | none =>
        rw [portPart, List.append_nil]
        exact .name host first whole
      | some digits => exact .numbered host digits first whole

def afterUser (cs : List Char) : List Char :=
  match Text.splitLast '@' cs with
  | some (_, after) => after
  | none => cs

def readHost (cs : List Char) : List Char := Redirect.stripPort (afterUser cs)

theorem afterUser_text (authority : Authority) :
    afterUser authority.text = authority.host ++ authority.portPart := by
  have absent : '@' ∉ authority.host ++ authority.portPart := by
    rw [List.mem_append, not_or]
    exact ⟨authority.host_absent (by decide) (by decide) (by decide) (by decide),
      authority.portPart_absent (by decide) (by decide)⟩
  unfold afterUser text userPart
  split
  · rename_i before after found
    cases given : authority.user with
    | none =>
      simp only [given, List.nil_append] at found
      obtain ⟨shape, -⟩ := Text.splitLast_eq_some_iff.mp found
      exact absurd (by simp [shape]) absent
    | some user =>
      have own : Text.splitLast '@' (user ++ ['@'] ++ authority.host ++ authority.portPart) =
          some (user, authority.host ++ authority.portPart) :=
        Text.splitLast_eq_some_iff.mpr ⟨by simp, absent⟩
      simp only [given, own] at found
      cases found
      rfl
  · rename_i missing
    cases given : authority.user with
    | none => simp
    | some user =>
      simp only [given] at missing
      exact absurd (by simp) (Text.splitLast_eq_none_iff.mp missing)

theorem readHost_text (authority : Authority) : readHost authority.text = authority.host := by
  rw [readHost, afterUser_text]
  exact Redirect.stripPort_without authority.host_without

theorem host_unique {first second : Authority} (same : first.text = second.text) :
    first.host = second.host := by
  rw [← readHost_text first, ← readHost_text second, same]

theorem stripPort_userless {authority : Authority} (without : authority.user = none) :
    Redirect.stripPort authority.text = authority.host := by
  unfold text userPart
  rw [without]
  exact Redirect.stripPort_without authority.host_without

-- With a user in front, all ends at the first colon, a bracket notwithstanding.
theorem stripPort_user {authority : Authority} {user : List Char}
    (given : authority.user = some user) :
    Redirect.stripPort authority.text = authority.text.takeWhile (· ≠ ':') := by
  have colons := authority.userText user given
  apply Redirect.stripPort_name
  unfold text userPart
  rw [given]
  cases user with
  | nil => simp
  | cons c rest =>
    intro bracket
    obtain rfl : c = '[' := by simpa using bracket
    exact colons.absent (by decide) (by decide) List.mem_cons_self

theorem stripPort_colon {authority : Authority} {user front back : List Char}
    (given : authority.user = some user) (shape : authority.text = front ++ ':' :: back)
    (free : ':' ∉ front) : Redirect.stripPort authority.text = front := by
  rw [stripPort_user given, shape, Redirect.takeWhile_absent free]
  simp

end Authority

end WebListener.Http
