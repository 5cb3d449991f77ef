import Mathlib
import WebListener.Lifecycle.Startup
import WebListener.Proofs.Config.Demands
import WebListener.Proofs.Text.Blank
-- The hosts that automatic certificates are asked for. A blank entry counts as none where a host
-- is demanded, and so does a blank contact, but the hosts are handed on as they are written.
namespace WebListener.Config

open Lifecycle (Environment Startup)
open Toml (Entries Tree)

-- What a certificate can be issued for: a name with no blank at either end.
structure Usable (host : String) : Prop where
  given : host ≠ ""
  first : ∀ c, host.toList.head? = some c → Text.isBlank c = false
  last : ∀ c, host.toList.getLast? = some c → Text.isBlank c = false

def named (entries : List String) : List String :=
  (entries.map Text.trim).filter (!·.isEmpty)

section Trimming

variable {host : String} {entries : List String}

theorem trim_toList (host : String) : (Text.trim host).toList = Text.trimmed host.toList :=
  String.toList_ofList

theorem trim_empty_iff : Text.trim host = "" ↔ Text.isAllBlank host = true := by
  rw [← String.toList_inj, trim_toList, String.toList_empty, Text.trimmed_nil_iff, Text.isAllBlank,
    List.all_eq_true]

theorem usable_iff : Usable host ↔ Text.trim host ≠ "" ∧ Text.trim host = host := by
  constructor
  · intro usable
    have kept : Text.trim host = host := by
      rw [← String.toList_inj, trim_toList]
      exact Text.trimmed_visible usable.first usable.last
    rw [kept]
    exact ⟨usable.given, rfl⟩
  · rintro ⟨given, kept⟩
    have same : Text.trimmed host.toList = host.toList := by rw [← trim_toList, kept]
    refine ⟨kept ▸ given, fun c first => ?_, fun c last => ?_⟩
    · exact Text.trimmed_first (same ▸ first)
    · exact Text.trimmed_last (same ▸ last)

theorem named_cons (host : String) (entries : List String) : named (host :: entries) =
    if Text.trim host = "" then named entries else Text.trim host :: named entries := by
  unfold named
  rw [List.map_cons, List.filter_cons]
  by_cases blank : Text.trim host = ""
  · simp [blank]
  · simp [blank]

theorem named_length (entries : List String) : (named entries).length ≤ entries.length := by
  unfold named
  have filtered := List.length_filter_le (!·.isEmpty) (entries.map Text.trim)
  rwa [List.length_map] at filtered

theorem named_self_iff : named entries = entries ↔ ∀ host ∈ entries, Usable host := by
  induction entries with
  | nil => simp [named]
  | cons host rest ih =>
    rw [named_cons, List.forall_mem_cons, usable_iff, ← ih]
    split
    · rename_i blank
      refine iff_of_false (fun same => ?_) (fun usable => usable.1.1 blank)
      have bound := named_length rest
      rw [same, List.length_cons] at bound
      omega
    · rename_i given
      rw [List.cons_eq_cons]
      exact and_congr_left' (and_iff_right given).symm

theorem named_nil_iff : named entries = [] ↔ ∀ host ∈ entries, Text.isAllBlank host = true := by
  simp [named, trim_empty_iff]

end Trimming

theorem lacksHosts_named {o : Options} :
    o.lacksHosts = true ↔ o.letsencryptEnabled = true ∧ named o.letsencryptHosts = [] := by
  rw [named_nil_iff, Options.lacksHosts, Bool.and_eq_true, List.all_eq_true]

theorem contacts_named (settings : AcmeSettings) :
    settings.contacts = (named settings.adminEmail.toList).map ("mailto:" ++ ·) := by
  unfold AcmeSettings.contacts
  cases settings.adminEmail with
  | none => rfl
  | some email =>
    rw [Option.toList_some, named_cons]
    by_cases blank : Text.trim email = ""
    · simp [blank, named]
    · simp [blank, named]

section Accepted

variable {text : String} {document : Entries} {c : Configuration} {hosts : List String}

theorem accepted_iff_named (parsed : Toml.parse text = some document)
    (met : ∀ d ∈ demands document, d.met = true)
    (asked : serverSaid document "letsencrypt-enabled" = some (.flag true))
    (listed : serverSaid document "letsencrypt-hosts" = some (.array (hosts.map .text))) :
    (∃ c, parse text = .ok c) ↔ named hosts ≠ [] := by
  have blank : Unhosted document ↔ named hosts = [] := by
    rw [Unhosted, listed, named_nil_iff]
    simp [asked, Tree.text, Text.isAllBlank]
  rw [parse_ok_iff parsed, blank]
  exact and_iff_right met

theorem hosts_written (told : c.server.Written (serverSaid document))
    (given : c.server.letsencryptHosts ≠ []) : serverSaid document "letsencrypt-hosts" =
      some (.array (c.server.letsencryptHosts.map .text)) := by
  have hosts := told.letsencryptHosts
  cases said : serverSaid document "letsencrypt-hosts" with
  | some tree =>
    rw [said] at hosts
    exact congrArg some hosts
  | none =>
    rw [said] at hosts
    have empty : c.server.letsencryptHosts = [] := by simpa [eq_comm] using hosts
    exact absurd empty given

-- A list of hosts is accepted as soon as it names one. What it hands on are the hosts as they are
-- written, blanks and blank entries included, so all of them are usable if and only if trimming
-- and dropping, as they are done for the contact, would leave the list as it is.
theorem hosts_usable_iff (parsed : Toml.parse text = some document) :
    ((∀ d ∈ demands document, d.met = true) →
      serverSaid document "letsencrypt-enabled" = some (.flag true) → ∀ hosts,
      serverSaid document "letsencrypt-hosts" = some (.array (hosts.map .text)) →
      ((∃ c, parse text = .ok c) ↔ named hosts ≠ [])) ∧
    ∀ c, parse text = .ok c → c.server.letsencryptEnabled = true →
      ∃ settings, c.server.certificateSource = .automatic settings ∧
        (∀ world, Startup.https c.server world =
          Startup.automatic settings c.server.httpsAddress world) ∧
        serverSaid document "letsencrypt-hosts" = some (.array (settings.hosts.map .text)) ∧
        named settings.hosts ≠ [] ∧
        settings.contacts = (named settings.adminEmail.toList).map ("mailto:" ++ ·) ∧
        ((∀ host ∈ settings.hosts, Usable host) ↔ named settings.hosts = settings.hosts) := by
  refine ⟨fun met asked hosts listed => accepted_iff_named parsed met asked listed, ?_⟩
  intro c accepted enabled
  obtain ⟨⟨-, told⟩, -, hosted⟩ := (parse_iff parsed).mp accepted
  have one_named : named c.server.letsencryptHosts ≠ [] := by
    intro unnamed
    rw [lacksHosts_named.mpr ⟨enabled, unnamed⟩] at hosted
    cases hosted
  have given : c.server.letsencryptHosts ≠ [] := by
    intro empty
    rw [empty] at one_named
    exact one_named rfl
  have source : c.server.certificateSource = .automatic ⟨c.server.letsencryptHosts,
      c.server.letsencryptCacheDir, c.server.letsencryptAdminEmail,
      !c.server.letsencryptStaging⟩ := by
    rw [Options.certificateSource, if_pos enabled]
  refine ⟨_, source, fun world => ?_, hosts_written told given, one_named, contacts_named _,
    named_self_iff.symm⟩
  rw [Startup.https, source]

end Accepted

def issuing (hosts : List String) : Configuration :=
  ⟨{ Options.standard with letsencryptEnabled := true, letsencryptHosts := hosts }, .standard⟩

def hostText : String :=
  "[server]\nletsencrypt-enabled = true\nletsencrypt-hosts = [\"example.com\"]\n"

def mixedText : String :=
  "[server]\nletsencrypt-enabled = true\nletsencrypt-hosts = [\"example.com\", \" \"]\n"

theorem issuing_accepted {text : String} {document : Entries} {hosts : List String}
    (parsed : Toml.parse text = some document)
    (server : document.tree.child? "server" = some (.table [("letsencrypt-enabled", .flag true),
      ("letsencrypt-hosts", .array (hosts.map .text))]))
    (logging : document.tree.child? "logging" = none)
    (one_named : named hosts ≠ []) : parse text = .ok (issuing hosts) := by
  rw [parse_iff parsed, server, logging]
  refine ⟨⟨?_, ?_⟩, ⟨nofun, rfl⟩, ?_⟩
  · intro tree found
    cases found
    rfl
  · exact ⟨rfl, rfl, rfl, rfl, rfl, rfl, rfl, rfl, rfl, rfl, rfl, rfl⟩
  · rw [Bool.eq_false_iff, ne_eq, lacksHosts_named]
    exact fun lacking => one_named lacking.2

theorem single_host_usable : ∃ document c settings, Toml.parse hostText = some document ∧
    parse hostText = .ok c ∧ c.server.certificateSource = .automatic settings ∧
    settings.hosts = ["example.com"] ∧ named settings.hosts ≠ [] ∧
    ∀ host ∈ settings.hosts, Usable host := by
  have parsed : Toml.parse hostText = some [(⟨"server", ⟨71, 65⟩⟩, .table (some ⟨72, 1⟩) .header
      [(⟨"letsencrypt-enabled", ⟨63, 44⟩⟩, .scalar ⟨41, 37⟩ (.boolean true)),
        (⟨"letsencrypt-hosts", ⟨36, 19⟩⟩, .array ⟨16, 1⟩ false
          [.scalar ⟨15, 2⟩ (.string "example.com")])])] := by cbv
  have kept : named ["example.com"] = ["example.com"] := rfl
  have accepted : parse hostText = .ok (issuing ["example.com"]) :=
    issuing_accepted parsed rfl rfl (kept ▸ List.cons_ne_nil _ _)
  have met := ((parse_ok_iff parsed).mp ⟨_, accepted⟩).1
  have one_named :=
    ((hosts_usable_iff parsed).1 met rfl ["example.com"] rfl).mp ⟨_, accepted⟩
  obtain ⟨settings, source, -, -, -, -, usable⟩ := (hosts_usable_iff parsed).2 _ accepted rfl
  cases source
  exact ⟨_, _, _, parsed, accepted, rfl, rfl, one_named, usable.mpr kept⟩

theorem blank_entry_handed_on : ∃ c settings, parse mixedText = .ok c ∧
    c.server.letsencryptEnabled = true ∧ c.server.certificateSource = .automatic settings ∧
    settings.hosts = ["example.com", " "] ∧ ¬∀ host ∈ settings.hosts, Usable host := by
  have parsed : Toml.parse mixedText = some [(⟨"server", ⟨76, 70⟩⟩, .table (some ⟨77, 1⟩) .header
      [(⟨"letsencrypt-enabled", ⟨68, 49⟩⟩, .scalar ⟨46, 42⟩ (.boolean true)),
        (⟨"letsencrypt-hosts", ⟨41, 24⟩⟩, .array ⟨21, 1⟩ false
          [.scalar ⟨20, 7⟩ (.string "example.com"), .scalar ⟨5, 2⟩ (.string " ")])])] := by cbv
  have left : named ["example.com", " "] = ["example.com"] := rfl
  refine ⟨issuing ["example.com", " "], _, issuing_accepted parsed rfl rfl ?_, rfl, rfl, rfl, ?_⟩
  · rw [left]
    exact List.cons_ne_nil _ _
  · intro usable
    have kept : ["example.com"] = ["example.com", " "] :=
      left.symm.trans (named_self_iff.mpr usable)
    cases kept

end WebListener.Config
