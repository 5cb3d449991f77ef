import WebListener.Proofs.Config.Filling
-- A configuration is read by its keys: each field told what is written under its key, or its
-- default where the key is absent, whatever else the document holds and in whatever order.
namespace WebListener.Config

open Toml (Entries Tree Value itemTrees_eq)

theorem decodeText_iff : decodeText expected x = .ok text ↔ x.value.tree = .text text := by
  obtain ⟨fallback, value⟩ := x
  cases value with
  | array | table => simp [decodeText, Value.tree, Tree.text]
  | scalar span content => cases content <;> simp [decodeText, Value.tree, Tree.text]

theorem decodeFlag_iff : decodeFlag x = .ok flag ↔ x.value.tree = .flag flag := by
  obtain ⟨fallback, value⟩ := x
  cases value with
  | array | table => simp [decodeFlag, Value.tree, Tree.flag]
  | scalar span content => cases content <;> simp [decodeFlag, Value.tree, Tree.flag]

theorem decodeItems_iff {span : Toml.Span} {items : List Value} {texts : List String} :
    items.mapM (fun item => decodeText .text ⟨span, item⟩) = .ok texts ↔
      items.map Value.tree = texts.map .text := by
  induction items generalizing texts with
  | nil =>
    rw [List.mapM_nil]
    cases texts with
    | nil => exact ⟨fun _ => rfl, fun _ => rfl⟩
    | cons text rest =>
      constructor
      · rintro ⟨⟩
      · rintro ⟨⟩
  | cons item rest ih =>
    rw [List.mapM_cons, bind_ok_iff]
    constructor
    · rintro ⟨text, first, made⟩
      obtain ⟨others, later, ⟨⟩⟩ := bind_ok_iff.mp made
      rw [List.map_cons, List.map_cons, ih.mp later, decodeText_iff.mp first]
    · intro same
      cases texts with
      | nil => cases same
      | cons text others =>
        obtain ⟨first, later⟩ := List.cons.inj same
        exact ⟨text, decodeText_iff.mpr first, bind_ok_iff.mpr ⟨others, ih.mpr later, rfl⟩⟩

theorem decodeTexts_iff : decodeTexts x = .ok texts ↔ x.value.tree = .array (texts.map .text) := by
  obtain ⟨fallback, value⟩ := x
  cases value with
  | scalar | table => simp [decodeTexts, Value.tree]
  | array span repeated items =>
    rw [decodeTexts, decodeItems_iff, Value.tree, itemTrees_eq]
    simp

namespace Field

theorem keyed : Keyed ofKey? key := by
  intro name field
  constructor
  · intro found
    simpa using List.find?_some found
  · rintro rfl
    cases field <;> rfl

theorem all_nodup : all.Nodup := by decide

def shown : Field → Options → Option Tree
  | .httpAddress, o => some (.text o.httpAddress)
  | .httpsAddress, o => some (.text o.httpsAddress)
  | .redirectorAddress, o => some (.text o.redirectorAddress)
  | .redirectHttpToHttps, o => some (.flag o.redirectHttpToHttps)
  | .tlsCertFile, o => o.tlsCertFile.map .text
  | .tlsKeyFile, o => o.tlsKeyFile.map .text
  | .letsencryptEnabled, o => some (.flag o.letsencryptEnabled)
  | .letsencryptCacheDir, o => some (.text o.letsencryptCacheDir)
  | .letsencryptHosts, o => some (.array (o.letsencryptHosts.map .text))
  | .letsencryptAdminEmail, o => o.letsencryptAdminEmail.map .text
  | .letsencryptStaging, o => some (.flag o.letsencryptStaging)
  | .requestLogging, o => some (.flag o.requestLogging)

variable {o next last : Options} {x : Located} {field : Field}

theorem set_takes (taken : field.set o x = .ok next) :
    field.shown next = some x.value.tree ∧
      ∀ other, other ≠ field → other.shown next = other.shown o := by
  cases field with
  | httpAddress | httpsAddress | redirectorAddress | tlsCertFile | tlsKeyFile
  | letsencryptCacheDir | letsencryptAdminEmail =>
    obtain ⟨text, read, ⟨⟩⟩ := bind_ok_iff.mp taken
    refine ⟨congrArg some (decodeText_iff.mp read).symm, fun other apart => ?_⟩
    cases other <;> first | rfl | exact absurd rfl apart
  | redirectHttpToHttps | letsencryptEnabled | letsencryptStaging | requestLogging =>
    obtain ⟨flag, read, ⟨⟩⟩ := bind_ok_iff.mp taken
    refine ⟨congrArg some (decodeFlag_iff.mp read).symm, fun other apart => ?_⟩
    cases other <;> first | rfl | exact absurd rfl apart
  | letsencryptHosts =>
    obtain ⟨texts, read, ⟨⟩⟩ := bind_ok_iff.mp taken
    refine ⟨congrArg some (decodeTexts_iff.mp read).symm, fun other apart => ?_⟩
    cases other <;> first | rfl | exact absurd rfl apart

theorem set_able (shows : field.shown last = some x.value.tree) :
    ∃ next, field.set o x = .ok next := by
  cases field with
  | httpAddress | httpsAddress | redirectorAddress | letsencryptCacheDir =>
    exact ⟨_, bind_ok_iff.mpr ⟨_, decodeText_iff.mpr (Option.some.inj shows).symm, rfl⟩⟩
  | tlsCertFile | tlsKeyFile | letsencryptAdminEmail =>
    obtain ⟨text, -, same⟩ := Option.map_eq_some_iff.mp shows
    exact ⟨_, bind_ok_iff.mpr ⟨_, decodeText_iff.mpr same.symm, rfl⟩⟩
  | redirectHttpToHttps | letsencryptEnabled | letsencryptStaging | requestLogging =>
    exact ⟨_, bind_ok_iff.mpr ⟨_, decodeFlag_iff.mpr (Option.some.inj shows).symm, rfl⟩⟩
  | letsencryptHosts =>
    exact ⟨_, bind_ok_iff.mpr ⟨_, decodeTexts_iff.mpr (Option.some.inj shows).symm, rfl⟩⟩

theorem text_injective : Function.Injective Tree.text := by
  rintro one two ⟨⟩
  rfl

theorem shown_ext {one two : Options} (same : ∀ field : Field, field.shown one = field.shown two) :
    one = two := by
  have flags {a b : Bool} (equal : some (Tree.flag a) = some (.flag b)) : a = b := by
    cases equal
    rfl
  have texts {a b : String} (equal : some (Tree.text a) = some (.text b)) : a = b := by
    cases equal
    rfl
  have unset {a b : Option String} (equal : a.map Tree.text = b.map .text) : a = b :=
    Option.map_injective text_injective equal
  have hosts : one.letsencryptHosts.map Tree.text = two.letsencryptHosts.map .text :=
    Tree.array.inj (Option.some.inj (same .letsencryptHosts))
  obtain ⟨_, _, _, _, _, _, _, _, _, _, _, _⟩ := one
  obtain ⟨_, _, _, _, _, _, _, _, _, _, _, _⟩ := two
  simp only [Options.mk.injEq]
  exact ⟨texts (same .httpAddress), texts (same .httpsAddress), texts (same .redirectorAddress),
    flags (same .redirectHttpToHttps), unset (same .tlsCertFile), unset (same .tlsKeyFile),
    flags (same .letsencryptEnabled), texts (same .letsencryptCacheDir),
    List.map_injective_iff.mpr text_injective hosts, unset (same .letsencryptAdminEmail),
    flags (same .letsencryptStaging), flags (same .requestLogging)⟩

theorem filling : Filling set shown fun _ x part => part = some x.value.tree where
  takes := set_takes
  able := set_able
  unique := fun one two => one.trans two.symm
  ext := shown_ext

end Field

def serverKeys : List String :=
  ["http-address", "https-address", "https-redirector-address", "redirect-http-to-https",
    "tls-cert-file", "tls-key-file", "letsencrypt-enabled", "letsencrypt-cache-dir",
    "letsencrypt-hosts", "letsencrypt-admin-email", "letsencrypt-staging", "request-logging"]

theorem serverKeys_eq : Field.all.map Field.key = serverKeys := rfl

-- The options that the written values and the defaults make up.
structure Options.Written (written : String → Option Tree) (o : Options) : Prop where
  httpAddress : (written "http-address").getD (.text "127.0.0.1:4180") = .text o.httpAddress
  httpsAddress : (written "https-address").getD (.text ":443") = .text o.httpsAddress
  redirectorAddress :
    (written "https-redirector-address").getD (.text ":80") = .text o.redirectorAddress
  redirectHttpToHttps :
    (written "redirect-http-to-https").getD (.flag false) = .flag o.redirectHttpToHttps
  tlsCertFile : written "tls-cert-file" = o.tlsCertFile.map .text
  tlsKeyFile : written "tls-key-file" = o.tlsKeyFile.map .text
  letsencryptEnabled :
    (written "letsencrypt-enabled").getD (.flag false) = .flag o.letsencryptEnabled
  letsencryptCacheDir : (written "letsencrypt-cache-dir").getD (.text "letsencrypt-cache") =
    .text o.letsencryptCacheDir
  letsencryptHosts : (written "letsencrypt-hosts").getD (.array []) =
    .array (o.letsencryptHosts.map .text)
  letsencryptAdminEmail : written "letsencrypt-admin-email" = o.letsencryptAdminEmail.map .text
  letsencryptStaging :
    (written "letsencrypt-staging").getD (.flag false) = .flag o.letsencryptStaging
  requestLogging : (written "request-logging").getD (.flag true) = .flag o.requestLogging

def Logging.Written (written : String → Option Tree) (logging : Logging) : Prop :=
  (written "format").getD (.text "text") = .text logging.format

theorem getD_iff {found : Option Tree} {standard shown : Tree} :
    found.getD standard = shown ↔ some shown = found.or (some standard) := by
  cases found <;> simp [eq_comm]

theorem unset_iff {found shown : Option Tree} : found = shown ↔ shown = found.or none := by
  rw [Option.or_none]
  exact eq_comm

theorem written_iff {written : String → Option Tree} {o : Options} : o.Written written ↔
    ∀ field : Field, field.shown o = (written field.key).or (field.shown .standard) := by
  constructor
  · intro told field
    cases field with
    | httpAddress => exact getD_iff.mp told.httpAddress
    | httpsAddress => exact getD_iff.mp told.httpsAddress
    | redirectorAddress => exact getD_iff.mp told.redirectorAddress
    | redirectHttpToHttps => exact getD_iff.mp told.redirectHttpToHttps
    | tlsCertFile => exact unset_iff.mp told.tlsCertFile
    | tlsKeyFile => exact unset_iff.mp told.tlsKeyFile
    | letsencryptEnabled => exact getD_iff.mp told.letsencryptEnabled
    | letsencryptCacheDir => exact getD_iff.mp told.letsencryptCacheDir
    | letsencryptHosts => exact getD_iff.mp told.letsencryptHosts
    | letsencryptAdminEmail => exact unset_iff.mp told.letsencryptAdminEmail
    | letsencryptStaging => exact getD_iff.mp told.letsencryptStaging
    | requestLogging => exact getD_iff.mp told.requestLogging
  · intro shows
    exact ⟨getD_iff.mpr (shows .httpAddress), getD_iff.mpr (shows .httpsAddress),
      getD_iff.mpr (shows .redirectorAddress), getD_iff.mpr (shows .redirectHttpToHttps),
      unset_iff.mpr (shows .tlsCertFile), unset_iff.mpr (shows .tlsKeyFile),
      getD_iff.mpr (shows .letsencryptEnabled), getD_iff.mpr (shows .letsencryptCacheDir),
      getD_iff.mpr (shows .letsencryptHosts), unset_iff.mpr (shows .letsencryptAdminEmail),
      getD_iff.mpr (shows .letsencryptStaging), getD_iff.mpr (shows .requestLogging)⟩

theorem unwritten_iff {o : Options} : o.Written (fun _ => none) ↔ o = .standard := by
  rw [written_iff]
  exact ⟨Field.shown_ext, fun same field => by rw [same]; rfl⟩

theorem logging_unwritten_iff {logging : Logging} :
    logging.Written (fun _ => none) ↔ logging = .standard := by
  obtain ⟨format⟩ := logging
  simp [Logging.Written, Logging.standard, Tree.text, defaultLogFormat, eq_comm]

def ServerTold (found : Option Tree) (o : Options) : Prop :=
  (∀ tree, found = some tree → tree.isRecord = true) ∧
    o.Written fun key => found.bind (·.field? serverKeys key)

def LoggingTold (found : Option Tree) (logging : Logging) : Prop :=
  (∀ tree, found = some tree → tree.isRecord = true) ∧
    logging.Written fun key => found.bind (·.field? ["format"] key)

theorem decodeOptions_iff {x : Located} {o : Options} (distinct : x.value.Distinct) :
    decodeOptions x = .ok o ↔ ServerTold (some x.value.tree) o := by
  have written : o.Written (fun key => (some x.value.tree).bind (·.field? serverKeys key)) ↔
      fill Field.set (assigned Field.ofKey? Field.all x.value) .standard = .ok o := by
    rw [written_iff, Field.filling.fill_iff (assigned_nodup Field.keyed Field.all_nodup distinct)]
    refine forall_congr' fun field => ?_
    have found := assigned_lookup Field.keyed Field.all x.value field
    rw [serverKeys_eq] at found
    rw [Option.bind_some, ← found]
    cases (assigned Field.ofKey? Field.all x.value).lookup field <;> simp
  rw [ServerTold, written, decodeOptions, decodeFields_eq, shape_isRecord]
  cases record : x.value.tree.isRecord <;> simp [record]

theorem format_keyed :
    Keyed (fun key => if key = "format" then some () else none) fun _ => "format" := by
  intro name field
  simp [eq_comm]

theorem logging_filling : Filling (fun _ x (_ : Unit) => (decodeText .text x).map Logging.mk)
    (fun _ logging => Tree.text logging.format) fun _ x part => part = x.value.tree where
  takes := by
    rintro _ x ⟨⟩ next taken
    cases read : decodeText .text x with
    | error fault => rw [read] at taken; cases taken
    | ok text =>
      rw [read] at taken
      cases taken
      exact ⟨(decodeText_iff.mp read).symm, fun other apart => absurd rfl apart⟩
  able := by
    rintro _ x ⟨⟩ last shows
    exact ⟨last, by rw [decodeText_iff.mpr shows.symm]; rfl⟩
  unique := fun one two => one.trans two.symm
  ext := by
    rintro ⟨one⟩ ⟨two⟩ same
    exact congrArg Logging.mk (Field.text_injective (same ()))

theorem decodeLogging_iff {x : Located} {logging : Logging} (distinct : x.value.Distinct) :
    decodeLogging x = .ok logging ↔ LoggingTold (some x.value.tree) logging := by
  have written : logging.Written (fun key => (some x.value.tree).bind (·.field? ["format"] key)) ↔
      fill (fun _ x (_ : Unit) => (decodeText .text x).map Logging.mk)
        (assigned (fun key => if key = "format" then some () else none) [()] x.value) .standard =
          .ok logging := by
    rw [logging_filling.fill_iff (assigned_nodup format_keyed (by simp) distinct)]
    have found := assigned_lookup format_keyed [()] x.value ()
    rw [Logging.Written, Option.bind_some, ← List.map_singleton (f := fun _ : Unit => "format"),
      ← found]
    constructor
    · rintro shows ⟨⟩
      cases given : (assigned (fun key => if key = "format" then some () else none) [()]
        x.value).lookup () <;> rw [given] at shows <;> exact shows.symm
    · intro shows
      have own := shows ()
      cases given : (assigned (fun key => if key = "format" then some () else none) [()]
        x.value).lookup () <;> rw [given] at own <;> exact own.symm
  rw [LoggingTold, written, decodeLogging, decodeFields_eq, shape_isRecord]
  cases record : x.value.tree.isRecord <;> simp [record]

namespace Table

def key : Table → String
  | .server => "server"
  | .logging => "logging"

theorem keyed : Keyed ofKey? key := by
  intro name table
  unfold ofKey?
  constructor
  · intro found
    split at found
    · rename_i same
      cases found
      exact same.symm
    · rw [Option.ite_none_right_eq_some] at found
      obtain ⟨same, ⟨⟩⟩ := found
      exact same.symm
  · rintro rfl
    cases table <;> rfl

def part : Table → Configuration → Options ⊕ Logging
  | .server, c => .inl c.server
  | .logging, c => .inr c.logging

def Reads : Table → Located → Options ⊕ Logging → Prop
  | .server, x, .inl o => decodeOptions x = .ok o
  | .logging, x, .inr format => decodeLogging x = .ok format
  | _, _, _ => False

theorem filling : Filling Configuration.set part Reads where
  takes := by
    intro c x table next taken
    cases table with
    | server =>
      obtain ⟨o, read, ⟨⟩⟩ := bind_ok_iff.mp taken
      exact ⟨read, fun other apart => by cases other <;> first | rfl | exact absurd rfl apart⟩
    | logging =>
      obtain ⟨format, read, ⟨⟩⟩ := bind_ok_iff.mp taken
      exact ⟨read, fun other apart => by cases other <;> first | rfl | exact absurd rfl apart⟩
  able := by
    intro c x table last reads
    cases table with
    | server | logging => exact ⟨_, bind_ok_iff.mpr ⟨_, reads, rfl⟩⟩
  unique := by
    rintro (_ | _) x (one | one) (two | two) first second <;>
      first
      | cases first
      | cases second
      | exact congrArg _ (Except.ok.inj (first.symm.trans second))
  ext := by
    rintro ⟨_, _⟩ ⟨_, _⟩ same
    obtain rfl := Sum.inl.inj (same .server)
    obtain rfl := Sum.inr.inj (same .logging)
    rfl

end Table

def topAssigned (document : Entries) : List (Table × Located) :=
  assigned Table.ofKey? [] (.table none .header document)

theorem decode_eq (document : Entries) :
    decode document = fill Configuration.set (topAssigned document) .standard := by
  rw [decode, topAssigned, assigned, ← fill_table]
  congr 1
  funext c entry
  obtain ⟨key, value⟩ := entry
  dsimp only
  cases Table.ofKey? key.name <;> rfl

theorem topAssigned_lookup (document : Entries) (table : Table) :
    ((topAssigned document).lookup table).map (·.value.tree) = document.tree.child? table.key :=
  assigned_lookup Table.keyed [] (.table none .header document) table

theorem topAssigned_distinct {document : Entries} (distinct : document.Distinct)
    {table : Table} (found : (topAssigned document).lookup table = some x) : x.value.Distinct := by
  obtain ⟨before, after, whole, -⟩ := List.lookup_eq_some_iff.mp found
  have present : (table, x) ∈ topAssigned document := by
    rw [whole]
    simp
  exact assigned_distinct (Toml.Entries.table_distinct_iff.mpr distinct) present

theorem server_iff {document : Entries} {c : Configuration} (distinct : document.Distinct) :
    (match (topAssigned document).lookup .server with
      | some x => Table.Reads .server x (Table.part .server c)
      | none => Table.part .server c = Table.part .server .standard) ↔
    ServerTold (document.tree.child? "server") c.server := by
  rw [show "server" = Table.server.key from rfl, ← topAssigned_lookup]
  cases given : (topAssigned document).lookup .server with
  | none => simp [ServerTold, unwritten_iff, Table.part, Configuration.standard]
  | some x => exact decodeOptions_iff (topAssigned_distinct distinct given)

theorem logging_iff {document : Entries} {c : Configuration} (distinct : document.Distinct) :
    (match (topAssigned document).lookup .logging with
      | some x => Table.Reads .logging x (Table.part .logging c)
      | none => Table.part .logging c = Table.part .logging .standard) ↔
    LoggingTold (document.tree.child? "logging") c.logging := by
  rw [show "logging" = Table.logging.key from rfl, ← topAssigned_lookup]
  cases given : (topAssigned document).lookup .logging with
  | none => simp [LoggingTold, logging_unwritten_iff, Table.part, Configuration.standard]
  | some x => exact decodeLogging_iff (topAssigned_distinct distinct given)

-- A document is decoded to what it tells under its keys, and to nothing else.
theorem decode_iff {document : Entries} {c : Configuration} (distinct : document.Distinct) :
    decode document = .ok c ↔ ServerTold (document.tree.child? "server") c.server ∧
      LoggingTold (document.tree.child? "logging") c.logging := by
  have fields : ((topAssigned document).map Prod.fst).Nodup :=
    assigned_nodup Table.keyed List.nodup_nil (Toml.Entries.table_distinct_iff.mpr distinct)
  rw [decode_eq, Table.filling.fill_iff fields, ← server_iff distinct, ← logging_iff distinct]
  constructor
  · exact fun told => ⟨told .server, told .logging⟩
  · rintro ⟨server, logging⟩ (_ | _)
    · exact server
    · exact logging

theorem parse_iff {text : String} {document : Entries} {c : Configuration}
    (parsed : Toml.parse text = some document) : parse text = .ok c ↔
      ServerTold (document.tree.child? "server") c.server ∧
      LoggingTold (document.tree.child? "logging") c.logging ∧ c.server.lacksHosts = false := by
  rw [← and_assoc, ← decode_iff (Toml.parse_distinct parsed), parse, parsed]
  dsimp only
  cases decode document with
  | error fault => simp
  | ok made =>
    cases lacking : made.server.lacksHosts with
    | true =>
      simp only [validated, lacking, if_true, reduceCtorEq, false_iff]
      rintro ⟨⟨⟩, hosts⟩
      rw [lacking] at hosts
      cases hosts
    | false =>
      simp only [validated, lacking, Bool.false_eq_true, if_false]
      refine ⟨?_, ?_⟩
      · rintro ⟨⟩
        exact ⟨rfl, lacking⟩
      · rintro ⟨⟨⟩, -⟩
        rfl

end WebListener.Config
