import ClusterAccess.Proofs.FileWrites
import ClusterAccess.Proofs.Json.RoundTrip
import ClusterAccess.Proofs.Record
import ClusterAccess.Proofs.Utf8
import ClusterAccess.Settings

namespace ClusterAccess

namespace Json

variable {names : List String} {members : List (String × Json)}

theorem filterMap_field?_memberDocuments (h : ∀ m ∈ members, m.1 ∈ names) :
    (memberDocuments members).filterMap (field? names) =
      members.map fun m => (m.1, m.2.toDocument) := by
  induction members with
  | nil => rfl
  | cons m members ih =>
    obtain ⟨name, v⟩ := m
    have hname : field? names (pieces name, v.toDocument) = some (name, v.toDocument) := by
      simp only [field?, keyText?_pieces, h _ List.mem_cons_self, if_true]
    rw [memberDocuments, List.filterMap_cons_some hname,
      ih fun m hm => h m (List.mem_cons_of_mem _ hm), List.map_cons]

theorem exists_keyText?_memberDocuments :
    ∀ m ∈ memberDocuments members, ∃ t, keyText? m.1 = some t := by
  induction members with
  | nil => nofun
  | cons m members ih =>
    intro m' hm'
    obtain rfl | hm' := List.mem_cons.1 hm'
    · exact ⟨m.1, keyText?_pieces m.1⟩
    · exact ih m' hm'

theorem fields?_toDocument (h : ∀ m ∈ members, m.1 ∈ names) (hnames : (members.map (·.1)).Nodup) :
    (toDocument (.object members)).fields? names =
      some (members.map fun m => (m.1, m.2.toDocument)) := by
  have hgiven := filterMap_field?_memberDocuments h
  rw [toDocument, fields?_eq_some_iff, Document.given, hgiven]
  refine ⟨.object exists_keyText?_memberDocuments ?_, rfl⟩
  rw [hgiven, Fields.IsUnique, List.map_map]
  exact hnames

end Json

namespace Settings

variable {s t : Settings} {h h' : Host} {path : String}

/-- The numbers of settings are ones of 64 bits. -/
structure IsExact (s : Settings) : Prop where
  commandTimeout : s.commandTimeout < Nat.pow 2 64
  refreshMargin : s.refreshMargin < Nat.pow 2 64
  credentialWait : s.credentialWait < Nat.pow 2 64

def Stored (h : Host) (s : Settings) : Prop :=
  ∃ place bytes text, h.files.find? place = some (.file bytes) ∧
    Text.decodeUtf8? bytes = some text ∧ parse? text = some s

/-- What it comes to to save settings. -/
structure Saved (s : Settings) (h : Host) (path : String) (h' : Host) : Prop where
  back : Path.expandHome h.home path = path → load h' path = s.validate.map fun _ => s
  loaded : ∀ p, h'.find (Path.expandHome h.home p) = h'.find path →
    load h' p = s.validate.map fun _ => s
  others : ∀ p bytes, h'.find (Path.expandHome h.home p) ≠ h'.find path →
    h.read (Path.expandHome h.home p) = .ok bytes → load h' p = load h p
  stored : ∀ p t, h'.find (Path.expandHome h.home p) ≠ h'.find path → load h' p = .ok t →
    Stored h t

def givenFields (s : Settings) : Json.Fields :=
  [("exec_timeout_secs", (Json.number (.natural s.commandTimeout)).toDocument),
    ("refresh_margin_secs", (Json.number (.natural s.refreshMargin)).toDocument),
    ("credential_wait_secs", (Json.number (.natural s.credentialWait)).toDocument),
    ("default_namespace", (Json.string s.defaultNamespace).toDocument),
    ("log_headers", (Json.bool s.logHeaders).toDocument)]

theorem fields?_toJson (s : Settings) :
    s.toJson.toDocument.fields? fieldNames = some s.givenFields := by
  apply Json.fields?_toDocument
  · simp [fieldNames]
  · simp

theorem natural?_toDocument {n : Nat} (hn : n < Nat.pow 2 64) :
    (Json.number (.natural n)).toDocument.natural? = some n := by
  have hexact : (Json.Number.natural n).IsExact := hn
  rw [Json.toDocument, Json.Document.natural?, Json.ofLiteral?_literal hexact]

theorem parse?_indented (hs : s.IsExact) : parse? s.toJson.indented = some s := by
  have hcommand : s.givenFields.get? "exec_timeout_secs" default.commandTimeout
      Json.Document.natural? = some s.commandTimeout := natural?_toDocument hs.commandTimeout
  have hmargin : s.givenFields.get? "refresh_margin_secs" default.refreshMargin
      Json.Document.natural? = some s.refreshMargin := natural?_toDocument hs.refreshMargin
  have hwait : s.givenFields.get? "credential_wait_secs" default.credentialWait
      Json.Document.natural? = some s.credentialWait := natural?_toDocument hs.credentialWait
  have hname : s.givenFields.get? "default_namespace" default.defaultNamespace
      Json.Document.text? = some s.defaultNamespace := Json.keyText?_pieces s.defaultNamespace
  have hlog : s.givenFields.get? "log_headers" default.logHeaders
      Json.Document.bool? = some s.logHeaders := rfl
  rw [parse?, Json.parse?_document_indented]
  simp only [Option.bind_eq_bind, Option.bind_some, fields?_toJson, hcommand, hmargin, hwait, hname,
    hlog]
  rfl

theorem load_of_find {place : Place} (hs : s.IsExact)
    (hf : h.find (Path.expandHome h.home path) =
      .ok (.present place (.file (Text.utf8 s.toJson.indented)))) :
    load h path = s.validate.map fun _ => s := by
  have hread := Host.read_eq_ok_iff.2 ⟨place, hf⟩
  have htext : h.readText (Path.expandHome h.home path) = .ok s.toJson.indented := by
    rw [Host.readText, hread]
    simp only [bind, Except.bind, Text.decodeUtf8?_utf8]
    rfl
  simp only [load, htext, parse?_indented hs]

theorem load_congr (hhome : h'.home = h.home)
    (hr : h'.read (Path.expandHome h.home path) = h.read (Path.expandHome h.home path)) :
    load h' path = load h path := by
  rw [load, load, hhome, Host.readText, hr, ← Host.readText]

theorem exists_file_of_load (hl : load h path = .ok t) : ∃ place bytes text,
    h.find (Path.expandHome h.home path) = .ok (.present place (.file bytes)) ∧
      Text.decodeUtf8? bytes = some text ∧ parse? text = some t := by
  rw [load] at hl
  split at hl
  next => cases hl
  next text htext =>
    split at hl
    next => cases hl
    next t' hparse =>
      obtain ⟨-, -, rfl⟩ := Except.map_eq_ok_iff.1 hl
      obtain ⟨bytes, hread, hdecode⟩ := Except.bind_eq_ok_iff.1 htext
      split at hdecode
      next text' htext' =>
        cases hdecode
        obtain ⟨place, hf⟩ := Host.read_eq_ok_iff.1 hread
        exact ⟨place, bytes, _, hf, htext', hparse⟩
      next => cases hdecode

/-- Saving puts the text of the settings at a place that the path leads to as it is written. -/
theorem exists_puts_of_save (hsave : s.save h path = .ok h') : ∃ place,
    h.Puts place (Text.utf8 s.toJson.indented) h' ∧
      h'.find path = .ok (.present place (.file (Text.utf8 s.toJson.indented))) := by
  suffices hwrites : ∃ above, h.Keeps above ∧
      above.write path (Text.utf8 s.toJson.indented) = .ok h' by
    obtain ⟨above, hkeeps, hwrite⟩ := hwrites
    obtain ⟨place, hp, hf⟩ := Host.exists_puts_of_write hwrite
    exact ⟨place, hkeeps.puts hp, hf⟩
  unfold save at hsave
  rw [Except.mapError_eq_ok_iff] at hsave
  split at hsave
  · obtain ⟨above, habove, hwrite⟩ := Except.bind_eq_ok_iff.1 hsave
    exact ⟨above, Host.keeps_makeDirectories habove, hwrite⟩
  · exact ⟨h, .refl h, hsave⟩

section

variable {p : String} {place : Place} {bytes old : List UInt8} (hp : h.Puts place bytes h')
  (hfound : h'.find path = .ok (.present place (.file bytes)))
  (hne : h'.find (Path.expandHome h.home p) ≠ h'.find path)

include hp hfound hne

theorem load_eq_of_puts (hr : h.read (Path.expandHome h.home p) = .ok old) :
    load h' p = load h p := by
  obtain ⟨place', hf⟩ := Host.read_eq_ok_iff.1 hr
  have hplace : place' ≠ place := by
    rintro rfl
    exact hne ((hp.find_of_takes .file hf).trans hfound.symm)
  have hread := Host.read_eq_ok_iff.2 ⟨place', hp.find_of_ne hplace hf⟩
  exact load_congr hp.home (hread.trans hr.symm)

theorem stored_of_puts (hl : load h' p = .ok t) : Stored h t := by
  obtain ⟨place', bytes, text, hf, hdecode, hparse⟩ := exists_file_of_load hl
  rw [hp.home] at hf
  obtain ⟨start, hwalk⟩ := Host.exists_walk_of_find hf
  have hfile := FileSystem.find?_of_walk_file hwalk
  have hplace : place' ≠ place := by
    rintro rfl
    obtain rfl := Entry.file.inj (Option.some.inj (hfile.symm.trans hp.file))
    exact hne (hf.trans hfound.symm)
  exact ⟨place', bytes, text, hp.others _ _ hplace hfile, hdecode, hparse⟩

end

theorem saved (hs : s.IsExact) (hsave : s.save h path = .ok h') : s.Saved h path h' := by
  obtain ⟨place, hp, hfound⟩ := exists_puts_of_save hsave
  have hloaded (p : String) (he : h'.find (Path.expandHome h.home p) = h'.find path) :
      load h' p = s.validate.map fun _ => s := by
    rw [← hp.home, hfound] at he
    exact load_of_find hs he
  constructor
  case back =>
    intro hpath
    apply hloaded
    rw [hpath]
  case loaded => exact hloaded
  case others =>
    intro p bytes hne hr
    exact load_eq_of_puts hp hfound hne hr
  case stored =>
    intro p t hne hl
    exact stored_of_puts hp hfound hne hl

def bareHost : Host := ⟨.empty, some "/home/user", []⟩

theorem saved_bareHost : ∃ h', default.save bareHost "~/settings.json" = .ok h' ∧
    default.Saved bareHost "~/settings.json" h' := by
  have hexact : default.IsExact := ⟨by decide, by decide, by decide⟩
  have hsaved : ∃ h', default.save bareHost "~/settings.json" = .ok h' := ⟨_, rfl⟩
  obtain ⟨h', hsave⟩ := hsaved
  exact ⟨h', hsave, saved hexact hsave⟩

/-- Valid settings that are saved to a path in the home directory are not found there. -/
theorem not_loaded_tilde : default.validate = .ok () ∧
    ∃ h', default.save bareHost "~/settings.json" = .ok h' ∧ load h' "~/settings.json" =
      .error (.badConfiguration "~/settings.json" "No such file or directory (os error 2)") :=
  ⟨rfl, _, rfl, rfl⟩

end Settings

end ClusterAccess
