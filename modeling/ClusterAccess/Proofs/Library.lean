import ClusterAccess.Proofs.KeyEncoding
import ClusterAccess.Proofs.Material

namespace ClusterAccess

theorem Der.head?_of_sequence? {bytes rest : List UInt8} {e : Element} {es : List Element}
    (hread : read? bytes = some (e, rest)) (hparts : e.sequence? = some es) :
    bytes.head? = some sequenceId := by
  obtain ⟨hid, -⟩ := sequence?_eq_some_iff.1 hparts
  cases bytes with
  | nil => cases hread
  | cons id bs =>
    rw [read?] at hread
    split at hread
    · cases hread
    · split at hread
      · cases hread
      · split at hread
        · cases hread
        · cases hread
          exact congrArg some hid

/-- What a library writes of the keys that it has read is read back, also behind a certificate. -/
structure Library.ReadsBack [Library] : Prop where
  ascii : ∀ bytes (k : PrivateKey), PrivateKey.ofBytes? bytes = some k →
    ∀ b ∈ k.toPem, b.toNat < 128
  inverse : ∀ bytes (k : PrivateKey), PrivateKey.ofBytes? bytes = some k →
    Library.keyOfPem? k.toPem = some k
  /-- A block of another kind is passed over. -/
  first : ∀ content rest bytes, content ≠ [] → Pem.Armours "CERTIFICATE" content rest bytes →
    Library.keyOfPem? bytes = Library.keyOfPem? rest

namespace Crypto.SecretNumbers

/-- The three binary forms of a key, each with its label. -/
inductive IsForm : Forms SecretNumbers where
  | general {der : List UInt8} {n : SecretNumbers}
    (hd : (leading? der).bind generalOfElement? = some n) : IsForm "PRIVATE KEY" der n
  | curve {der : List UInt8} {n : SecretNumbers}
    (hd : (leading? der).bind (curveOfElement? false) = some n) : IsForm "EC PRIVATE KEY" der n
  | rsa {der : List UInt8} {n : SecretNumbers}
    (hd : (leading? der).bind rsaOfElement? = some n) : IsForm "RSA PRIVATE KEY" der n

/-- The second part of a sequence, which tells the forms apart. -/
def HasSecond (e : Der.Element) (id : UInt8) : Prop :=
  ∃ first second rest, e.sequence? = some (first :: second :: rest) ∧ second.identifier = id

variable {n n' : SecretNumbers} {e : Der.Element} {label : String} {der rest bytes : List UInt8}
  {id id' : UInt8} {known : Bool} {k : PrivateKey}

theorem HasSecond.unique (h : HasSecond e id) (h' : HasSecond e id') : id = id' := by
  obtain ⟨first, second, rest, hparts, rfl⟩ := h
  obtain ⟨first', second', rest', hparts', rfl⟩ := h'
  obtain ⟨-, rfl, -⟩ := List.cons.inj (Option.some.inj (hparts.symm.trans hparts'))
  rfl

theorem hasSecond_general (h : generalOfElement? e = some n) : HasSecond e Der.sequenceId := by
  obtain ⟨parts, hparts, h⟩ := Option.bind_eq_some_iff.1 h
  split at h
  next version algorithm key rest =>
    obtain ⟨_, -, h⟩ := Option.bind_eq_some_iff.1 h
    obtain ⟨a, ha, -⟩ := Option.bind_eq_some_iff.1 h
    obtain ⟨inner, hinner, -⟩ := Option.bind_eq_some_iff.1 ha
    exact ⟨version, algorithm, key :: rest, hparts, (Der.sequence?_eq_some_iff.1 hinner).1⟩
  next => cases h

theorem hasSecond_curve (h : curveOfElement? known e = some n) : HasSecond e 4 := by
  obtain ⟨parts, hparts, h⟩ := Option.bind_eq_some_iff.1 h
  split at h
  next version secret rest =>
    obtain ⟨_, -, h⟩ := Option.bind_eq_some_iff.1 h
    obtain ⟨_, hsecret, -⟩ := Option.bind_eq_some_iff.1 h
    rw [Der.Element.octets?] at hsecret
    split at hsecret
    next hid => exact ⟨version, secret, rest, hparts, beq_iff_eq.1 hid⟩
    next => cases hsecret
  next => cases h

theorem identifier_of_natural? {i : Nat} (h : e.natural? = some i) : e.identifier = 2 := by
  obtain ⟨bs, hbs, -⟩ := Option.bind_eq_some_iff.1 h
  rw [Der.Element.integer?] at hbs
  split at hbs
  next hid =>
    rw [Bool.and_eq_true, beq_iff_eq] at hid
    exact hid.1
  next => cases hbs

theorem hasSecond_rsa (h : rsaOfElement? e = some n) : HasSecond e 2 := by
  obtain ⟨parts, hparts, h⟩ := Option.bind_eq_some_iff.1 h
  obtain ⟨numbers, hnumbers, h⟩ := Option.bind_eq_some_iff.1 h
  cases parts with
  | nil =>
    cases hnumbers
    cases h
  | cons first parts =>
    obtain ⟨n, -, hnumbers⟩ := Option.bind_eq_some_iff.1 (List.mapM_cons.symm.trans hnumbers)
    obtain ⟨ns, hns, hnumbers⟩ := Option.bind_eq_some_iff.1 hnumbers
    cases hnumbers
    cases parts with
    | nil =>
      cases hns
      cases h
    | cons second rest =>
      obtain ⟨n', hn', -⟩ := Option.bind_eq_some_iff.1 (List.mapM_cons.symm.trans hns)
      exact ⟨first, second, rest, hparts, identifier_of_natural? hn'⟩

theorem eq_none_of_hasSecond {read : Der.Element → Option SecretNumbers} (h : HasSecond e id)
    (hread : ∀ n, read e = some n → HasSecond e id') (hne : id ≠ id') : read e = none := by
  apply Option.eq_none_iff_forall_ne_some.2
  intro n hn
  exact hne (h.unique (hread n hn))

theorem decode?_eq (der : List UInt8) : decode? der = (leading? der).bind fun e =>
    (generalOfElement? e).or ((curveOfElement? false e).or (rsaOfElement? e)) := by
  simp only [Option.or_eq_orElse]
  rfl

theorem decode?_eq_some_iff : decode? der = some n ↔ ∃ label, IsForm label der n := by
  rw [decode?_eq]
  constructor
  · intro hd
    obtain ⟨e, he, hd⟩ := Option.bind_eq_some_iff.1 hd
    rcases Option.or_eq_some_iff.1 hd with hd | ⟨-, hd⟩
    · exact ⟨_, .general (Option.bind_eq_some_iff.2 ⟨e, he, hd⟩)⟩
    · rcases Option.or_eq_some_iff.1 hd with hd | ⟨-, hd⟩
      · exact ⟨_, .curve (Option.bind_eq_some_iff.2 ⟨e, he, hd⟩)⟩
      · exact ⟨_, .rsa (Option.bind_eq_some_iff.2 ⟨e, he, hd⟩)⟩
  · rintro ⟨label, hf⟩
    cases hf with
    | general hd =>
      obtain ⟨e, he, hd⟩ := Option.bind_eq_some_iff.1 hd
      rw [he, Option.bind_some, hd, Option.some_or]
    | curve hd =>
      obtain ⟨e, he, hd⟩ := Option.bind_eq_some_iff.1 hd
      have hgeneral : generalOfElement? e = none :=
        eq_none_of_hasSecond (hasSecond_curve hd) (fun _ => hasSecond_general) (by decide)
      rw [he, Option.bind_some, hgeneral, hd, Option.none_or, Option.some_or]
    | rsa hd =>
      obtain ⟨e, he, hd⟩ := Option.bind_eq_some_iff.1 hd
      have hgeneral : generalOfElement? e = none :=
        eq_none_of_hasSecond (hasSecond_rsa hd) (fun _ => hasSecond_general) (by decide)
      have hcurve : curveOfElement? false e = none :=
        eq_none_of_hasSecond (hasSecond_rsa hd) (fun _ => hasSecond_curve) (by decide)
      rw [he, Option.bind_some, hgeneral, hcurve, hd, Option.none_or, Option.none_or]

theorem head?_of_decode? (hd : decode? der = some n) : der.head? = some Der.sequenceId := by
  rw [decode?_eq] at hd
  obtain ⟨e, he, hd⟩ := Option.bind_eq_some_iff.1 hd
  obtain ⟨⟨e', rest⟩, hread, he⟩ := Option.map_eq_some_iff.1 he
  obtain rfl : e' = e := he
  obtain ⟨id, first, second, more, hparts, -⟩ : ∃ id, HasSecond e' id := by
    rcases Option.or_eq_some_iff.1 hd with hd | ⟨-, hd⟩
    · exact ⟨_, hasSecond_general hd⟩
    · rcases Option.or_eq_some_iff.1 hd with hd | ⟨-, hd⟩
      · exact ⟨_, hasSecond_curve hd⟩
      · exact ⟨_, hasSecond_rsa hd⟩
  exact Der.head?_of_sequence? hread hparts

theorem IsForm.ofBlock? (hf : IsForm label der n) : ofBlock? ⟨label, false, der⟩ = some n := by
  cases hf with
  | general hd => exact hd
  | curve hd => exact hd
  | rsa hd => exact hd

theorem ofPem?_of_armours (hf : IsForm label der n) (ha : Pem.Armours label der rest bytes) :
    ofPem? bytes = some n := by
  have hne : der ≠ [] := by
    rintro rfl
    have hd := decode?_eq_some_iff.2 ⟨label, hf⟩
    cases hd
  have hlabel : (10 : UInt8) ∉ Text.utf8 label := by
    cases hf <;> decide
  rw [ofPem?, ha.blocks_eq hlabel hne, List.findSome?_cons, Option.bind_some, hf.ofBlock?]

/-- A key is found behind a certificate. -/
theorem ofPem?_after {content : List UInt8} (hne : content ≠ [])
    (ha : Pem.Armours "CERTIFICATE" content rest bytes) : ofPem? bytes = ofPem? rest := by
  have hlabel : (10 : UInt8) ∉ Text.utf8 "CERTIFICATE" := by decide
  have hother : ofBlock? ⟨"CERTIFICATE", false, content⟩ = none := by
    rw [ofBlock?]
    cases leading? content <;> rfl
  rw [ofPem?, ha.blocks_eq hlabel hne, List.findSome?_cons, Option.bind_some, hother, ofPem?]

theorem isForm_encode (hn : n.IsProper) : IsForm "PRIVATE KEY" n.encode n := by
  have hback := general_encode hn []
  rw [List.append_nil] at hback
  exact .general hback

def KeyForm : Forms PrivateKey := fun label der k => ∃ n, IsForm label der n ∧ n.key? = some k

theorem reads : PrivateKey.reader.Reads KeyForm where
  binary := by
    rintro label der k ⟨n, hf, hk⟩
    exact Option.bind_eq_some_iff.2 ⟨n, decode?_eq_some_iff.2 ⟨label, hf⟩, hk⟩
  sequence := by
    rintro label der k ⟨n, hf, -⟩
    exact head?_of_decode? (decode?_eq_some_iff.2 ⟨label, hf⟩)
  armoured := by
    rintro label der rest bytes k ⟨n, hf, hk⟩ ha
    exact Option.bind_eq_some_iff.2 ⟨n, ofPem?_of_armours hf ha, hk⟩

theorem exists_of_key? (h : n.key? = some k) : n.IsProper ∧ k = ⟨n.encode⟩ := by
  rw [key?] at h
  split at h
  next hproper =>
    cases h
    exact ⟨isProper_iff.1 hproper, rfl⟩
  next => cases h

theorem exists_of_ofBytes? (h : PrivateKey.ofBytes? bytes = some k) :
    ∃ n : SecretNumbers, n.key? = some k := by
  rw [PrivateKey.ofBytes?, Reader.ofBytes?] at h
  split at h
  · obtain ⟨n, -, hk⟩ := Option.bind_eq_some_iff.1 h
    exact ⟨n, hk⟩
  · obtain ⟨n, -, hk⟩ := Option.bind_eq_some_iff.1 h
    exact ⟨n, hk⟩

/-- A key that was read is written as the armour of its general form. -/
theorem exists_armours (h : PrivateKey.ofBytes? bytes = some k) : ∃ n : SecretNumbers,
    n.key? = some k ∧ IsForm "PRIVATE KEY" n.encode n ∧
      Pem.Armours "PRIVATE KEY" n.encode [] k.toPem := by
  obtain ⟨n, hn⟩ := exists_of_ofBytes? h
  obtain ⟨hproper, rfl⟩ := exists_of_key? hn
  exact ⟨n, hn, isForm_encode hproper,
    Pem.armours_encode_nil "PRIVATE KEY" (List.cons_ne_nil _ _)⟩

theorem readsBack : Library.ReadsBack where
  ascii bytes k h := by
    obtain ⟨n, -, -, ha⟩ := exists_armours h
    exact ha.ascii (by decide) nofun
  inverse bytes k h := by
    obtain ⟨n, hn, hf, ha⟩ := exists_armours h
    exact Option.bind_eq_some_iff.2 ⟨n, ofPem?_of_armours hf ha, hn⟩
  first content rest bytes hne ha := congrArg (·.bind key?) (ofPem?_after hne ha)

/-- The least that is read as a key. -/
def smallKey : PrivateKey := ⟨(rsa ⟨5, 3, 3, 1, 5, 0, 0, 0⟩).encode⟩

theorem keyForm_smallKey : KeyForm "PRIVATE KEY" smallKey.bytes smallKey := by
  have hproper : (rsa ⟨5, 3, 3, 1, 5, 0, 0, 0⟩).isProper = true := by decide +kernel
  exact ⟨_, isForm_encode (isProper_iff.1 hproper), if_pos hproper⟩

end Crypto.SecretNumbers

end ClusterAccess
