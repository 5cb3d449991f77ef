import WebListener.Net.KeepAlive
-- The settings of a socket are applied one after another, up to the first that the kernel refuses.
-- The two times of keep-alive probing are the same number, so it takes both or neither.
namespace WebListener.Net

open Kernel (Errno)

namespace Probing

variable {settings before after : List Setting} {setting : Setting}

def Setting.Admitted : Setting → Prop
  | .enabled => True
  | .idle seconds | .interval seconds => 1 ≤ seconds ∧ seconds ≤ longestTime

def Setting.applied (probing : Probing) : Setting → Probing
  | .enabled => { probing with enabled := true }
  | .idle seconds => { probing with idle := some seconds }
  | .interval seconds => { probing with interval := some seconds }

theorem set_admitted (admitted : setting.Admitted) (probing : Probing) :
    probing.set setting = .ok (setting.applied probing) := by
  cases setting with
  | enabled => rfl
  | idle seconds | interval seconds =>
    obtain ⟨least, most⟩ := admitted
    simp [set, timed, Setting.applied, least, most]

theorem set_refused (refused : ¬setting.Admitted) (probing : Probing) :
    probing.set setting = .error (.os Errno.invalidArgument) := by
  cases setting with
  | enabled => exact absurd trivial refused
  | idle seconds | interval seconds =>
    have outside : ¬(1 ≤ seconds ∧ seconds ≤ longestTime) := refused
    simp only [set, timed, Bool.and_eq_true, decide_eq_true_eq, if_neg outside]

theorem setAll_admitted (admitted : ∀ setting ∈ settings, setting.Admitted) (probing : Probing) :
    probing.setAll settings = (settings.foldl Setting.applied probing, none) := by
  induction settings generalizing probing with
  | nil => rfl
  | cons setting rest ih =>
    obtain ⟨own, others⟩ := List.forall_mem_cons.mp admitted
    rw [setAll, set_admitted own]
    exact ih others _

theorem setAll_refused (admitted : ∀ setting ∈ before, setting.Admitted)
    (refused : ¬setting.Admitted) (probing : Probing) :
    probing.setAll (before ++ setting :: after) =
      (before.foldl Setting.applied probing, some (.os Errno.invalidArgument)) := by
  induction before generalizing probing with
  | nil => rw [List.nil_append, setAll, set_refused refused]; rfl
  | cons first rest ih =>
    obtain ⟨own, others⟩ := List.forall_mem_cons.mp admitted
    rw [List.cons_append, setAll, set_admitted own]
    exact ih others _

end Probing

namespace KeepAlive

def word (millis : Nat) : Int := (Int32.ofNat (seconds millis)).toInt

theorem word_exact (millis : Nat) : word millis = min (millis / 1000) 2147483647 := by
  have bound : seconds millis < 2 ^ 31 := by
    unfold seconds
    omega
  rw [word, Int32.toInt_ofNat_of_lt bound, seconds]

variable {millis : Nat}

theorem seconds_taken (taken : 1 ≤ millis / 1000 ∧ millis / 1000 ≤ 32767) :
    seconds millis = millis / 1000 := by
  unfold seconds
  omega

theorem idle_admitted_iff : (Probing.Setting.idle (seconds millis)).Admitted ↔
    1 ≤ millis / 1000 ∧ millis / 1000 ≤ 32767 := by
  rw [Probing.Setting.Admitted, Probing.longestTime, seconds]
  omega

theorem enable_taken (taken : 1 ≤ millis / 1000 ∧ millis / 1000 ≤ 32767) (probing : Probing) :
    enable millis probing = (⟨true, some (millis / 1000), some (millis / 1000)⟩, none) := by
  have idle := idle_admitted_iff.mpr taken
  have admitted : ∀ setting ∈ settings millis, setting.Admitted := by
    intro setting present
    rcases List.mem_cons.mp present with rfl | timed
    · trivial
    · rcases List.mem_cons.mp timed with rfl | last
      · exact idle
      · rw [List.mem_singleton.mp last]
        exact idle
  rw [enable, Probing.setAll_admitted admitted, ← seconds_taken taken]
  rfl

theorem enable_refused (refused : ¬(1 ≤ millis / 1000 ∧ millis / 1000 ≤ 32767))
    (probing : Probing) : enable millis probing =
      ({ probing with enabled := true }, some (.os Errno.invalidArgument)) := by
  have idle := mt idle_admitted_iff.mp refused
  have first : ∀ setting ∈ [Probing.Setting.enabled], setting.Admitted := by
    intro setting present
    rw [List.mem_singleton.mp present]
    trivial
  exact Probing.setAll_refused first idle probing

-- Whatever the period, the socket before and the peer: the connection goes on with probing switched
-- on, and with both times or with neither. Only a refusal is told, once and for debugging, with the
-- peer. The word that the kernel gets is the period in seconds, or the greatest there is; it never
-- comes around to another.
theorem times_all_or_nothing (millis : Nat) (inner : Probing → α) (probing : Probing)
    (peer : Option SocketAddress) :
    (accept millis inner probing peer).probing = (enable millis probing).1 ∧
    (accept millis inner probing peer).result = inner (enable millis probing).1 ∧
    (enable millis probing).1.enabled = true ∧
    (1 ≤ millis / 1000 ∧ millis / 1000 ≤ 32767 →
      (enable millis probing).1.idle = some (millis / 1000) ∧
      (enable millis probing).1.interval = some (millis / 1000) ∧
      (enable millis probing).2 = none ∧ (accept millis inner probing peer).events = []) ∧
    (¬(1 ≤ millis / 1000 ∧ millis / 1000 ≤ 32767) →
      (enable millis probing).1.idle = probing.idle ∧
      (enable millis probing).1.interval = probing.interval ∧
      ∃ cause, (enable millis probing).2 = some cause ∧
        (accept millis inner probing peer).events = [notEnabled peer cause] ∧
        (notEnabled peer cause).level = .debug) ∧
    word millis = min (millis / 1000) 2147483647 ∧
    (1 ≤ word millis ∧ word millis ≤ 32767 ↔ 1 ≤ millis / 1000 ∧ millis / 1000 ≤ 32767) := by
  have told : (accept millis inner probing peer).events =
      ((enable millis probing).2.map (notEnabled peer)).toList := rfl
  have fits := word_exact millis
  rw [told]
  refine ⟨rfl, rfl, ?_, ?_, ?_, fits, by omega⟩
  · by_cases taken : 1 ≤ millis / 1000 ∧ millis / 1000 ≤ 32767
    · rw [enable_taken taken]
    · rw [enable_refused taken]
  · intro taken
    rw [enable_taken taken]
    exact ⟨rfl, rfl, rfl, rfl⟩
  · intro refused
    rw [enable_refused refused]
    exact ⟨rfl, rfl, _, rfl, rfl, rfl⟩

end KeepAlive

end WebListener.Net
