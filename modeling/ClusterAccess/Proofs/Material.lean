import ClusterAccess.Material
import ClusterAccess.Proofs.Except
import ClusterAccess.Proofs.Pem

namespace ClusterAccess

namespace Material

/-- Bytes that a material carries, in base64 or in a file. -/
inductive Carries (h : Host) : Material → List UInt8 → Prop where
  | inline {data : String} {bytes : List UInt8}
    (hd : Text.withoutBlanks data = Base64.encodeText bytes) : Carries h (.inline data) bytes
  | file {path : String} {bytes : List UInt8} (hf : h.read path = .ok bytes) :
    Carries h (.file path) bytes

inductive Lacks (h : Host) : Material → String → Prop where
  | inline {data : String} {e : Base64.DecodeError} (hd : Base64.decodeText data = .error e) :
    Lacks h (.inline data) e.message
  | file {path : String} {e : FileError} (hf : h.read path = .error e) :
    Lacks h (.file path) e.message

variable {h : Host} {m : Material} {what : String} {bytes : List UInt8} {e : Error}

theorem read_eq_ok_iff : m.read h what = .ok bytes ↔ m.Carries h bytes := by
  cases m with
  | inline data =>
    rw [read, Except.mapError_eq_ok_iff, Base64.decodeText_eq_ok_iff]
    constructor
    · exact .inline
    · intro hc
      cases hc with
      | inline hd => exact hd
  | file path =>
    rw [read, Except.mapError_eq_ok_iff]
    constructor
    · exact .file
    · intro hc
      cases hc with
      | file hf => exact hf

theorem read_eq_error_iff : m.read h what = .error e ↔
    ∃ reason, m.Lacks h reason ∧ e = .badCertificate (m.describe what) reason := by
  cases m with
  | inline data =>
    rw [read, Except.mapError_eq_error_iff]
    constructor
    · rintro ⟨e', hd, rfl⟩
      exact ⟨_, .inline hd, rfl⟩
    · rintro ⟨reason, hl, rfl⟩
      cases hl with
      | inline hd => exact ⟨_, hd, rfl⟩
  | file path =>
    rw [read, Except.mapError_eq_error_iff]
    constructor
    · rintro ⟨e', hf, rfl⟩
      exact ⟨_, .file hf, rfl⟩
    · rintro ⟨reason, hl, rfl⟩
      cases hl with
      | file hf => exact ⟨_, hf, rfl⟩

theorem Carries.unique {bytes' : List UInt8} (hc : m.Carries h bytes) (hc' : m.Carries h bytes') :
    bytes = bytes' := by
  have hread : m.read h "" = .ok bytes := read_eq_ok_iff.2 hc
  exact Except.ok.inj (hread.symm.trans (read_eq_ok_iff.2 hc'))

/-- All that is base64 or the name of a file that can be read carries something. -/
theorem exists_lacks_iff : (∃ reason, m.Lacks h reason) ↔ ∀ bytes, ¬ m.Carries h bytes := by
  constructor
  · rintro ⟨reason, hl⟩ bytes hc
    have hfails : m.read h "" = .error _ := read_eq_error_iff.2 ⟨reason, hl, rfl⟩
    cases hfails.symm.trans (read_eq_ok_iff.2 hc)
  · intro hnone
    cases hread : m.read h "" with
    | ok bytes => exact absurd (read_eq_ok_iff.1 hread) (hnone bytes)
    | error e =>
      obtain ⟨reason, hl, -⟩ := read_eq_error_iff.1 hread
      exact ⟨reason, hl⟩

end Material

/-- The binary forms of objects, each with the label that goes with it. -/
abbrev Forms (α : Type) := String → List UInt8 → α → Prop

/-- The encodings of an object: its binary forms, and each of them armoured under its label. -/
inductive Forms.Encodes {α : Type} (F : Forms α) (a : α) : List UInt8 → Prop where
  | binary {label : String} {der : List UInt8} (hf : F label der a) : Encodes F a der
  | armoured {label : String} {der rest bytes : List UInt8} (hf : F label der a)
    (ha : Pem.Armours label der rest bytes) : Encodes F a bytes

/-- A leading sequence is no armour. -/
theorem Pem.isArmoured_eq_false {bytes : List UInt8} (h : bytes.head? = some Der.sequenceId) :
    isArmoured bytes = false := by
  obtain ⟨bs, rfl⟩ := List.head?_eq_some_iff.1 h
  have hfirst : Text.utf8 "-----BEGIN" = 45 :: Text.utf8 "----BEGIN" := by decide
  have hblank : ¬ (Der.sequenceId == 32 || Der.sequenceId == 9 || Der.sequenceId == 10 ||
    Der.sequenceId == 12 || Der.sequenceId == 13) = true := by decide
  have hdash : ((45 : UInt8) == Der.sequenceId) = false := by decide
  rw [isArmoured, List.dropWhile_cons, if_neg hblank, hfirst, List.isPrefixOf, hdash,
    Bool.false_and]

namespace Reader

variable {α : Type} {r : Reader α} {F : Forms α} {a : α} {h : Host} {m : Material}
  {bytes : List UInt8} {source : String} {e : Error}

/-- What a library has to do for a reader: read back what encodes an object. -/
structure Reads (r : Reader α) (F : Forms α) : Prop where
  binary : ∀ label der a, F label der a → r.ofDer? der = some a
  sequence : ∀ label der a, F label der a → der.head? = some Der.sequenceId
  armoured : ∀ label der rest bytes a, F label der a → Pem.Armours label der rest bytes →
    r.ofPem? bytes = some a

theorem Reads.isArmoured_eq_false (hr : r.Reads F) {label : String} (hf : F label bytes a) :
    Pem.isArmoured bytes = false :=
  Pem.isArmoured_eq_false (hr.sequence label bytes a hf)

theorem Reads.ofBytes?_eq_some (hr : r.Reads F) (he : F.Encodes a bytes) :
    r.ofBytes? bytes = some a := by
  cases he with
  | binary hf =>
    rw [ofBytes?, if_neg (Bool.eq_false_iff.1 (hr.isArmoured_eq_false hf))]
    exact hr.binary _ _ _ hf
  | armoured hf ha =>
    rw [ofBytes?, if_pos ha.isArmoured]
    exact hr.armoured _ _ _ _ _ hf ha

theorem parse_eq_ok_iff : r.parse bytes source = .ok a ↔ r.ofBytes? bytes = some a := by
  rw [parse]
  cases r.ofBytes? bytes <;> simp

theorem parse_eq_error_iff : r.parse bytes source = .error e ↔
    r.ofBytes? bytes = none ∧ e = .badCertificate source r.malformed := by
  rw [parse]
  cases r.ofBytes? bytes <;> simp [eq_comm]

theorem load_eq_ok_iff :
    r.load h m = .ok a ↔ ∃ bytes, m.Carries h bytes ∧ r.ofBytes? bytes = some a := by
  rw [load, Except.bind_eq_ok_iff]
  simp only [Material.read_eq_ok_iff, parse_eq_ok_iff]

theorem load_eq_error_iff : r.load h m = .error e ↔
    ∃ reason, e = .badCertificate (m.describe r.what) reason ∧
      (m.Lacks h reason ∨
        ∃ bytes, m.Carries h bytes ∧ r.ofBytes? bytes = none ∧ reason = r.malformed) := by
  rw [load, Except.bind_eq_error_iff]
  simp only [Material.read_eq_error_iff, Material.read_eq_ok_iff, parse_eq_error_iff]
  constructor
  · rintro (⟨reason, hl, rfl⟩ | ⟨bytes, hc, hnone, rfl⟩)
    · exact ⟨reason, rfl, .inl hl⟩
    · exact ⟨_, rfl, .inr ⟨bytes, hc, hnone, rfl⟩⟩
  · rintro ⟨reason, rfl, hl | ⟨bytes, hc, hnone, rfl⟩⟩
    · exact .inl ⟨reason, hl, rfl⟩
    · exact .inr ⟨bytes, hc, hnone, rfl⟩

/-- Objects are loaded alike, however they are carried and encoded. -/
structure LoadsAlike (r : Reader α) (F : Forms α) : Prop where
  apart : ∀ label der a, F label der a → Pem.isArmoured der = false
  encoded : ∀ h m bytes a, F.Encodes a bytes → m.Carries h bytes → r.load h m = .ok a
  carried : ∀ h h' m m' bytes a, m.Carries h bytes → m'.Carries h' bytes →
    (r.load h m = .ok a ↔ r.load h' m' = .ok a)
  failed : ∀ h m e, r.load h m = .error e ↔
    ∃ reason, e = .badCertificate (m.describe r.what) reason ∧
      (m.Lacks h reason ∨
        ∃ bytes, m.Carries h bytes ∧ r.ofBytes? bytes = none ∧ reason = r.malformed)

theorem Reads.loadsAlike (hr : r.Reads F) : r.LoadsAlike F where
  apart _ _ _ := hr.isArmoured_eq_false
  encoded h m bytes a he hc := load_eq_ok_iff.2 ⟨bytes, hc, hr.ofBytes?_eq_some he⟩
  carried h h' m m' bytes a hc hc' := by
    rw [load_eq_ok_iff, load_eq_ok_iff]
    constructor
    · rintro ⟨bytes', hb, ha⟩
      exact ⟨bytes, hc', hc.unique hb ▸ ha⟩
    · rintro ⟨bytes', hb, ha⟩
      exact ⟨bytes, hc, hc'.unique hb ▸ ha⟩
  failed _ _ _ := load_eq_error_iff

end Reader

namespace Certificate

theorem armours_append (c : Certificate) (rest : List UInt8) :
    Pem.Armours "CERTIFICATE" c.encode rest (c.toPem ++ rest) :=
  Pem.armours_encode "CERTIFICATE" (List.cons_ne_nil _ _) rest

theorem armours_toPem (c : Certificate) : Pem.Armours "CERTIFICATE" c.encode [] c.toPem :=
  Pem.armours_encode_nil "CERTIFICATE" (List.cons_ne_nil _ _)

variable [Library] {c : Certificate} {label source : String} {der rest bytes : List UInt8}

/-- A sequence that is read as a certificate, with one of the two labels of certificates. -/
structure IsForm (label : String) (der : List UInt8) (c : Certificate) : Prop where
  label : label = "CERTIFICATE" ∨ label = "X509 CERTIFICATE"
  read : Library.certificate? der = some c
  sequence : der.head? = some Der.sequenceId

/-- What is read of armour is the first block, if it is one of a certificate. -/
theorem IsForm.ofPem?_eq_some (hf : IsForm label der c)
    (ha : Pem.Armours label der rest bytes) : ofPem? bytes = some c := by
  have hne : der ≠ [] := by
    rintro rfl
    cases hf.sequence
  have hbreak : (10 : UInt8) ∉ Text.utf8 label := by
    rcases hf.label with rfl | rfl <;> decide
  have hknown : ["CERTIFICATE", "X509 CERTIFICATE"].contains label = true := by
    rcases hf.label with rfl | rfl <;> simp
  rw [ofPem?, ha.blocks_eq hbreak hne, Pem.first?, if_pos hknown]
  exact hf.read

theorem reads : reader.Reads IsForm where
  binary _ _ _ hf := hf.read
  sequence _ _ _ hf := hf.sequence
  armoured _ _ _ _ _ hf := hf.ofPem?_eq_some

theorem isForm_encode (hd : Library.certificate? der = some c) :
    IsForm "CERTIFICATE" c.encode c where
  label := .inl rfl
  read := Library.certificate?_encode hd
  sequence := rfl

theorem exists_certificate_of_ofBytes? (h : ofBytes? bytes = some c) :
    ∃ der, Library.certificate? der = some c := by
  rw [ofBytes?, Reader.ofBytes?] at h
  split at h
  · obtain ⟨der, -, hder⟩ := Option.bind_eq_some_iff.1 h
    exact ⟨der, hder⟩
  · exact ⟨bytes, h⟩

/-- A certificate that was read is written in both of its encodings. -/
theorem encodes_written (h : ofBytes? bytes = some c) :
    Forms.Encodes IsForm c c.encode ∧ Forms.Encodes IsForm c c.toPem := by
  obtain ⟨der, hd⟩ := exists_certificate_of_ofBytes? h
  exact ⟨.binary (isForm_encode hd), .armoured (isForm_encode hd) c.armours_toPem⟩

theorem ofBytes?_written (h : ofBytes? bytes = some c) : ofBytes? c.toPem = some c :=
  reads.ofBytes?_eq_some (encodes_written h).2

theorem parse_eq_ok_iff : parse bytes source = .ok c ↔ ofBytes? bytes = some c :=
  Reader.parse_eq_ok_iff

end Certificate

theorem PrivateKey.parse_eq_ok_iff [Library] {bytes : List UInt8} {source : String}
    {k : PrivateKey} : parse bytes source = .ok k ↔ ofBytes? bytes = some k :=
  Reader.parse_eq_ok_iff

end ClusterAccess
