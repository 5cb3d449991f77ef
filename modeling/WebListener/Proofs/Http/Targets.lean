import WebListener.Http.Uri.Reader
import WebListener.Proofs.Outcomes
import WebListener.Proofs.Text.Utf8
-- What an accepted request target is made of: an authority of a few ASCII characters, and a path
-- and query without blanks and controls.
namespace WebListener.Http

def Plain (c : Char) : Prop := 0x21 ≤ c.toNat ∧ c.toNat ≠ 0x7F

instance : DecidablePred Plain := fun c =>
  inferInstanceAs (Decidable (0x21 ≤ c.toNat ∧ c.toNat ≠ 0x7F))

namespace Uri

variable {c : Char} {cs own rest : List Char} {target : PathQuery} {uri : Uri}

theorem isPathChar_plain (allowed : isPathChar c = true) : Plain c := by
  unfold isPathChar at allowed
  simp only [Bool.or_eq_true, Bool.and_eq_true, decide_eq_true_eq] at allowed
  unfold Plain
  rcases allowed with ((((other | rfl) | rfl) | rfl) | other)
  · omega
  all_goals first | decide | omega

theorem isQueryChar_plain (allowed : isQueryChar c = true) : Plain c := by
  unfold isQueryChar at allowed
  simp only [Bool.or_eq_true, Bool.and_eq_true, decide_eq_true_eq] at allowed
  unfold Plain
  omega

theorem isAuthorityChar_plain (allowed : isAuthorityChar c = true) : Plain c := by
  unfold isAuthorityChar at allowed
  rcases (Bool.or_eq_true _ _).mp allowed with letter | mark
  · unfold Char.isAlphanum Char.isAlpha Char.isUpper Char.isLower Char.isDigit at letter
    have same : c.val.toNat = c.toNat := rfl
    simp only [Bool.or_eq_true, Bool.and_eq_true, decide_eq_true_eq, ge_iff_le,
      UInt32.le_iff_toNat_le, Char.reduceVal, UInt32.reduceToNat, same] at letter
    unfold Plain
    omega
  · have listed : ("!#$&'()*+,-./:;=?@[]_~".toList.all fun c => decide (Plain c)) = true := by
      decide
    exact of_decide_eq_true (List.all_eq_true.mp listed c (by simpa using mark))

def Bytes (cs : List Char) : Prop := ∀ c ∈ cs, c.toNat < 0x100

theorem Bytes.suffix (bytes : Bytes cs) (part : rest <:+ cs) : Bytes rest :=
  fun c present => bytes c (part.subset present)

theorem Bytes.taken (bytes : Bytes cs) (p : Char → Bool) : Bytes (cs.takeWhile p) :=
  fun c present => bytes c ((List.takeWhile_prefix p).subset present)

theorem spelled_plain {allowed : Char → Bool} (plain : ∀ c, allowed c = true → Plain c)
    (bytes : Bytes cs) (all : cs.all allowed = true) (read : spelled cs = .ok own) :
    ∀ c ∈ own, Plain c := by
  intro c present
  unfold spelled at read
  split at read
  · rename_i decoded found
    cases read
    by_cases ascii : c.toNat < 0x80
    · obtain ⟨b, inside, code⟩ := Text.decoded_ascii found present ascii
      obtain ⟨written, there, rfl⟩ := List.mem_map.mp inside
      have small := bytes written there
      have same : written.toNat = c.toNat := by
        rw [← code, UInt8.toNat_ofNat']
        omega
      have clean := plain written (List.all_eq_true.mp all written there)
      unfold Plain at clean ⊢
      omega
    · unfold Plain
      omega
  · cases read

theorem readTarget_plain (bytes : Bytes cs) (read : readTarget cs = .ok target) :
    ∀ c ∈ target.path ++ target.queryText, Plain c := by
  unfold readTarget at read
  dsimp only at read
  split at read
  · cases read
  rename_i pathAllowed
  rw [Bool.not_eq_true, Bool.not_eq_false'] at pathAllowed
  have plainPath {path : List Char} :
      spelled (cs.takeWhile fun c => c ≠ '?' && c ≠ '#') = .ok path → ∀ c ∈ path, Plain c :=
    spelled_plain (fun _ => isPathChar_plain) (bytes.taken _) pathAllowed
  split at read
  · rename_i rest dropped
    split at read
    · cases read
    rename_i queryAllowed
    rw [Bool.not_eq_true, Bool.not_eq_false'] at queryAllowed
    have marked : '?' :: rest <:+ cs := by
      rw [← dropped]
      exact List.drop_suffix _ _
    have restBytes : Bytes rest := bytes.suffix ((List.suffix_cons _ _).trans marked)
    obtain ⟨path, spelledPath, read⟩ := bind_ok_iff.mp read
    obtain ⟨query, spelledQuery, ⟨⟩⟩ := bind_ok_iff.mp read
    intro c present
    rcases List.mem_append.mp present with inPath | inQuery
    · exact plainPath spelledPath c inPath
    · rcases List.mem_cons.mp inQuery with rfl | later
      · decide
      · exact spelled_plain (fun _ => isQueryChar_plain) (restBytes.taken _) queryAllowed
          spelledQuery c later
  · obtain ⟨path, spelledPath, ⟨⟩⟩ := bind_ok_iff.mp read
    simpa [PathQuery.queryText] using plainPath spelledPath

theorem step_allowed {s next : AuthorityScan} (step : s.step c = .ok next) :
    isAuthorityChar c = true ∨ c = '%' := by
  unfold AuthorityScan.step at step
  dsimp only at step
  split at step
  · rename_i percent
    exact .inr percent
  · split at step
    · cases step
    · rename_i allowed
      exact .inl (by simpa using allowed)

theorem scan_allowed {s next : AuthorityScan} (scan : own.foldlM AuthorityScan.step s = .ok next) :
    ∀ c ∈ own, isAuthorityChar c = true ∨ c = '%' := by
  induction own generalizing s with
  | nil => simp
  | cons first rest ih =>
    rw [List.foldlM_cons] at scan
    obtain ⟨middle, step, scan⟩ := bind_ok_iff.mp scan
    intro c present
    rcases List.mem_cons.mp present with rfl | later
    · exact step_allowed step
    · exact ih scan c later

theorem readAuthority_parts (read : readAuthority cs = .ok (own, rest)) :
    (∀ c ∈ own, isAuthorityChar c = true ∨ c = '%') ∧ rest <:+ cs := by
  unfold readAuthority at read
  obtain ⟨s, scan, read⟩ := bind_ok_iff.mp read
  obtain ⟨done, finished, ⟨⟩⟩ := bind_ok_iff.mp read
  exact ⟨scan_allowed scan, List.drop_suffix _ _⟩

theorem readScheme_suffix (read : readScheme cs = .ok (.found scheme rest)) : rest <:+ cs := by
  unfold readScheme at read
  split at read
  · rename_i standard found
    cases read
    unfold standardScheme? at found
    obtain ⟨name, listed, same⟩ := List.exists_of_findSome?_eq_some found
    dsimp only at same
    split at same
    · cases same
      exact List.drop_suffix _ _
    · cases same
  · dsimp only at read
    split at read
    · rename_i marked
      split at read
      · cases read
      · split at read
        · cases read
        · cases read
          have suffix : ':' :: '/' :: '/' :: rest <:+ cs := by
            rw [← marked]
            exact List.drop_suffix _ _
          exact (List.suffix_cons_iff.mpr (.inr (List.suffix_cons_iff.mpr (.inr
            (List.suffix_cons _ _))))).trans suffix
    · cases read

structure Clean (uri : Uri) : Prop where
  authority : ∀ own, uri.authority? = some own → ∀ c ∈ own, isAuthorityChar c = true ∨ c = '%'
  target : ∀ target, uri.target? = some target →
    ∀ c ∈ target.path ++ target.queryText, Plain c

-- The four ways in which a text is a request target.
inductive Read (cs : List Char) : Uri → Prop where
  | asterisk (whole : cs = ['*']) : Read cs (.path ⟨['*'], none⟩)
  | path {rest : List Char} {target : PathQuery} (slash : cs = '/' :: rest)
      (found : readTarget cs = .ok target) : Read cs (.path target)
  | authority {own : List Char} (found : readAuthority cs = .ok (own, [])) : Read cs (.authority own)
  | absolute {scheme own after rest : List Char} {target : PathQuery}
      (marked : readScheme cs = .ok (.found scheme after))
      (found : readAuthority after = .ok (own, rest)) (given : own ≠ [])
      (follows : readTarget rest = .ok target) : Read cs (.absolute scheme own target)

theorem readFull_read (read : readFull cs = .ok uri) : Read cs uri := by
  unfold readFull at read
  obtain ⟨scan, scheme, read⟩ := bind_ok_iff.mp read
  cases scan with
  | none =>
    dsimp only at read
    split at read
    · cases read
    obtain ⟨⟨own, rest⟩, authority, read⟩ := bind_ok_iff.mp read
    dsimp only at read
    split at read
    · rename_i ended
      cases read
      obtain rfl := List.isEmpty_iff.mp ended
      exact .authority authority
    · cases read
  | found name after =>
    dsimp only at read
    split at read
    · cases read
    obtain ⟨⟨own, rest⟩, authority, read⟩ := bind_ok_iff.mp read
    dsimp only at read
    split at read
    · cases read
    rename_i filled
    obtain ⟨target, found, ⟨⟩⟩ := bind_ok_iff.mp read
    exact .absolute scheme authority (fun bare => filled (List.isEmpty_iff.mpr bare)) found

theorem readSingle_read (read : readSingle cs = .ok uri) : Read cs uri := by
  unfold readSingle at read
  obtain ⟨⟨own, rest⟩, authority, read⟩ := bind_ok_iff.mp read
  dsimp only at read
  split at read
  · rename_i ended
    cases read
    obtain rfl := List.isEmpty_iff.mp ended
    exact .authority authority
  · cases read

theorem ofBytes_read {bytes : List UInt8} (read : ofBytes bytes = .ok uri) :
    Read (bytes.map fun b => Char.ofNat b.toNat) uri := by
  unfold ofBytes at read
  dsimp only at read
  split at read
  · cases read
  split at read
  · cases read
  · rename_i whole
    cases read
    exact .asterisk whole
  · rename_i rest slash
    cases found : readTarget (bytes.map fun b => Char.ofNat b.toNat) with
    | error fault => rw [found] at read; cases read
    | ok target =>
      rw [found] at read
      cases read
      exact .path slash found
  · exact readSingle_read read
  · exact readFull_read read

theorem Read.clean (read : Read cs uri) (bytes : Bytes cs) : Clean uri := by
  cases read with
  | asterisk whole =>
    refine ⟨by rintro _ ⟨⟩, ?_⟩
    rintro _ ⟨⟩ c present
    obtain rfl := List.mem_singleton.mp present
    decide
  | path slash found =>
    exact ⟨by rintro _ ⟨⟩, by rintro _ ⟨⟩; exact readTarget_plain bytes found⟩
  | authority found =>
    exact ⟨by rintro _ ⟨⟩; exact (readAuthority_parts found).1, by rintro _ ⟨⟩⟩
  | absolute marked found given follows =>
    obtain ⟨allowed, part⟩ := readAuthority_parts found
    have restBytes := bytes.suffix (part.trans (readScheme_suffix marked))
    exact ⟨by rintro _ ⟨⟩; exact allowed, by rintro _ ⟨⟩; exact readTarget_plain restBytes follows⟩

theorem ofBytes_clean {bytes : List UInt8} (read : ofBytes bytes = .ok uri) : Clean uri := by
  apply (ofBytes_read read).clean
  intro c present
  obtain ⟨b, -, rfl⟩ := List.mem_map.mp present
  have bound := b.toNat_lt
  have value : (Char.ofNat b.toNat).toNat = b.toNat := Text.ofNat_value (by omega)
  omega

end Uri

end WebListener.Http
