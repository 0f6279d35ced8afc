import ClusterAccess.Crypto.Keys
import ClusterAccess.Proofs.CertificateEncoding

namespace ClusterAccess

namespace Der

open Crypto

variable {n : Nat} {e : Element} {es : List Element}

def naturalElement (n : Nat) : Element :=
  ⟨2, if (minimalBytes n).head?.any (128 ≤ ·) then 0 :: minimalBytes n else minimalBytes n⟩

theorem encode_naturalElement (n : Nat) : (naturalElement n).encode = encodeNatural n := rfl

theorem exists_minimalBytes (hn : n ≠ 0) : ∃ b bs, minimalBytes n = b :: bs ∧ b ≠ 0 := by
  refine ⟨_, toBytes (n.log2 / 8) n, rfl, ?_⟩
  have hlow : Nat.pow 256 (n.log2 / 8) ≤ n := by
    apply Nat.not_lt.1
    rw [← minimalBytes_le_iff hn, length_minimalBytes]
    exact Nat.not_succ_le_self _
  have hhigh : n < Nat.pow 256 (n.log2 / 8) * 256 :=
    (minimalBytes_le_iff hn).1 (Nat.le_of_eq (length_minimalBytes n))
  have hpos : 0 < n / Nat.pow 256 (n.log2 / 8) := Nat.div_pos hlow (Nat.pow_pos (by decide))
  have hlt : n / Nat.pow 256 (n.log2 / 8) < 256 := Nat.div_lt_of_lt_mul hhigh
  intro hzero
  have hnat := congrArg UInt8.toNat hzero
  rw [UInt8.toNat_ofNat_of_lt' hlt] at hnat
  exact absurd hnat (Nat.ne_of_gt hpos)

theorem content_naturalElement (n : Nat) : isInteger (naturalElement n).content = true ∧
    (naturalElement n).content.head?.any (128 ≤ ·) = false ∧
      ofBytes (naturalElement n).content = n := by
  by_cases hn : n = 0
  · subst hn
    decide
  · obtain ⟨b, bs, hbytes, hb⟩ := exists_minimalBytes hn
    have hvalue := ofBytes_minimalBytes hn
    rw [naturalElement, hbytes] at *
    by_cases hlow : 128 ≤ b
    · have hzero : ofBytes (0 :: b :: bs) = n := by
        rw [ofBytes_cons, UInt8.toNat_zero, Nat.zero_mul, Nat.zero_add, hvalue]
      have hnot : ¬ b < 128 := UInt8.not_lt.2 hlow
      simp [hlow, isInteger, hnot, hzero]
    · have hne : b ≠ 255 := by
        rintro rfl
        exact hlow (by decide)
      cases bs <;> simp [hlow, isInteger, hvalue, hb, hne]

theorem integer?_naturalElement (n : Nat) :
    (naturalElement n).integer? = some (naturalElement n).content := by
  obtain ⟨hinteger, -, -⟩ := content_naturalElement n
  rw [Element.integer?, hinteger]
  rfl

theorem natural?_naturalElement (n : Nat) : (naturalElement n).natural? = some n := by
  obtain ⟨-, hlow, hvalue⟩ := content_naturalElement n
  rw [Element.natural?, integer?_naturalElement, Option.bind_some, hlow, hvalue]
  rfl

theorem mapM_natural? (ns : List Nat) :
    (ns.map naturalElement).mapM Element.natural? = some ns := by
  induction ns with
  | nil => rfl
  | cons n ns ih =>
    rw [List.map_cons, List.mapM_cons, natural?_naturalElement, ih]
    rfl

theorem length_encode_lt (e : Element) : e.content.length < e.encode.length := by
  rw [length_encode]
  omega

theorem length_encode_lt_sequenceOf (h : e ∈ es) :
    e.encode.length < (sequenceOf es).encode.length := by
  have hmem : e.encode.length ≤ (sequenceOf es).content.length := by
    obtain ⟨before, after, rfl⟩ := List.append_of_mem h
    rw [sequenceOf, List.flatMap_append, List.flatMap_cons, List.length_append, List.length_append]
    omega
  exact Nat.lt_of_le_of_lt hmem (length_encode_lt (sequenceOf es))

def Element.IsSingle (e : Element) : Prop := e.identifier % 32 ≠ 31 ∧ e.identifier ≠ 0

theorem Element.IsSingle.isSound (h : e.IsSingle)
    (hlength : e.encode.length < Nat.pow 256 maxLengthBytes) : e.IsSound :=
  ⟨h.1, h.2, Nat.lt_trans (length_encode_lt e) hlength⟩

theorem isSingle_sequenceOf (es : List Element) : (sequenceOf es).IsSingle :=
  (by decide : sequenceId % 32 ≠ 31 ∧ sequenceId ≠ 0)

theorem isSingle_naturalElement (n : Nat) : (naturalElement n).IsSingle :=
  (by decide : (2 : UInt8) % 32 ≠ 31 ∧ (2 : UInt8) ≠ 0)

theorem isSingle_octets (bs : List UInt8) : (Element.mk 4 bs).IsSingle :=
  (by decide : (4 : UInt8) % 32 ≠ 31 ∧ (4 : UInt8) ≠ 0)

theorem isSound_of_mem (hs : ∀ e ∈ es, e.IsSingle)
    (hlength : (sequenceOf es).encode.length < Nat.pow 256 maxLengthBytes) :
    ∀ e ∈ es, e.IsSound := by
  intro e he
  apply (hs e he).isSound
  exact Nat.lt_trans (length_encode_lt_sequenceOf he) hlength

end Der

namespace Crypto.SecretNumbers

open Der (Element naturalElement sequenceOf)

/-- The secret and the public bits fit the curve, and the written form is not too long. -/
structure IsProper (k : SecretNumbers) : Prop where
  secret : ∀ s bits, k = .curve s bits → s < Nat.pow 256 32
  point : ∀ s bits, k = .curve s (some bits) → ∃ p, P256.Point.decode? bits = some p
  length : k.encode.length < Nat.pow 256 Der.maxLengthBytes

theorem isProper_iff {n : SecretNumbers} : n.isProper = true ↔ n.IsProper := by
  constructor
  · intro h
    cases n with
    | rsa =>
      obtain ⟨hlength, -⟩ := Bool.and_eq_true_iff.1 h
      exact ⟨nofun, nofun, of_decide_eq_true hlength⟩
    | curve s bits =>
      obtain ⟨hlength, hrest⟩ := Bool.and_eq_true_iff.1 h
      obtain ⟨hsecret, hbits⟩ := Bool.and_eq_true_iff.1 hrest
      refine ⟨?_, ?_, of_decide_eq_true hlength⟩
      · rintro _ _ ⟨⟩
        exact of_decide_eq_true hsecret
      · rintro _ _ ⟨⟩
        exact Option.isSome_iff_exists.1 hbits
  · intro h
    cases n with
    | rsa => exact Bool.and_eq_true_iff.2 ⟨decide_eq_true h.length, rfl⟩
    | curve s bits =>
      refine Bool.and_eq_true_iff.2 ⟨decide_eq_true h.length, Bool.and_eq_true_iff.2
        ⟨decide_eq_true (h.secret s bits rfl), ?_⟩⟩
      cases bits with
      | none => rfl
      | some bits => exact Option.isSome_iff_exists.2 (h.point s bits rfl)

def pointElement (bits : List UInt8) : Element := ⟨0xA1, (Element.mk 3 (0 :: bits)).encode⟩

/-- The parts of the form that is particular to the algorithm of a key. -/
def ownParts : SecretNumbers → List Element
  | curve secret publicBits =>
    naturalElement 1 :: ⟨4, toBytes 32 secret⟩ :: publicBits.toList.map pointElement
  | rsa n => [0, n.modulus, n.exponent, n.secretExponent, n.prime1, n.prime2, n.exponent1,
      n.exponent2, n.coefficient].map naturalElement

def parts (k : SecretNumbers) : List Element :=
  [naturalElement 0, k.algorithm.element, ⟨4, k.encodeOwn⟩]

variable {k : SecretNumbers} {s : Nat} {bits : Option (List UInt8)} {e : Element}

theorem encode_ownParts (k : SecretNumbers) : (sequenceOf k.ownParts).encode = k.encodeOwn := by
  cases k with
  | curve secret publicBits =>
    cases publicBits <;>
      simp [ownParts, encodeOwn, sequenceOf, Der.encodeSequence, Der.encode_naturalElement,
        pointElement]
  | rsa n =>
    simp [ownParts, encodeOwn, sequenceOf, Der.encodeSequence, Der.encode_naturalElement]

theorem encode_parts (k : SecretNumbers) : (sequenceOf k.parts).encode = k.encode := by
  rw [SecretNumbers.encode, Der.encodeSequence, sequenceOf, parts, List.flatMap_cons,
    List.flatMap_cons, List.flatMap_singleton, Der.encode_naturalElement, Algorithm.encode_element,
    List.append_assoc]

theorem isSingle_ownParts (k : SecretNumbers) : ∀ e ∈ k.ownParts, e.IsSingle := by
  cases k with
  | curve secret publicBits =>
    have hpoint (bits : List UInt8) : (pointElement bits).IsSingle :=
      (by decide : (0xA1 : UInt8) % 32 ≠ 31 ∧ (0xA1 : UInt8) ≠ 0)
    intro e he
    simp only [ownParts, List.mem_cons, List.mem_map] at he
    rcases he with rfl | rfl | ⟨bits, -, rfl⟩
    · exact Der.isSingle_naturalElement 1
    · exact Der.isSingle_octets _
    · exact hpoint bits
  | rsa n =>
    intro e he
    obtain ⟨number, -, rfl⟩ := List.mem_map.1 he
    exact Der.isSingle_naturalElement number

theorem isSound_parts (hk : k.IsProper) : ∀ e ∈ k.parts, e.IsSound := by
  apply Der.isSound_of_mem
  · intro e he
    simp only [parts, List.mem_cons, List.not_mem_nil, or_false] at he
    rcases he with rfl | rfl | rfl
    · exact Der.isSingle_naturalElement 0
    · exact Der.isSingle_sequenceOf _
    · exact Der.isSingle_octets _
  · rw [encode_parts]
    exact hk.length

theorem length_encodeOwn (hk : k.IsProper) :
    (sequenceOf k.ownParts).encode.length < Nat.pow 256 Der.maxLengthBytes := by
  rw [encode_ownParts]
  have hmem : (⟨4, k.encodeOwn⟩ : Element) ∈ k.parts := by simp [parts]
  exact (isSound_parts hk _ hmem).length

theorem isSound_ownParts (hk : k.IsProper) : ∀ e ∈ k.ownParts, e.IsSound :=
  Der.isSound_of_mem (isSingle_ownParts k) (length_encodeOwn hk)

theorem bits?_whole (bits : List UInt8) : (Element.mk 3 (0 :: bits)).bits? = some bits := by
  have hid : ¬ ((3 : UInt8) != 3) = true := by decide
  have hunused : ¬ (7 : UInt8) < 0 := by decide
  simp only [Element.bits?, if_neg hid, if_neg hunused]
  split
  next hnil => rw [List.reverse_eq_nil_iff.1 hnil]
  next last before hrow =>
    have hlast : last >>> 0 <<< 0 = last := by simp
    rw [hlast, ← List.reverse_cons, ← hrow, List.reverse_reverse]

theorem element?_encode (he : e.IsSound) : Der.element? e.encode = some e := by
  have hread : Der.read? (e.encode ++ []) = some (e, []) := Der.read?_encode he
  rw [List.append_nil] at hread
  rw [Der.element?, hread]

theorem curveOfElement?_ownParts (hk : (curve s bits).IsProper) :
    curveOfElement? true (sequenceOf (curve s bits).ownParts) = some (curve s bits) := by
  have hsound := isSound_ownParts hk
  have hsecret := ofBytes_toBytes (hk.secret s bits rfl)
  rw [curveOfElement?, Der.sequence?_sequenceOf hsound]
  cases bits with
  | none => simp [ownParts, Der.integer?_naturalElement, Element.octets?, hsecret]
  | some bits =>
    obtain ⟨p, hp⟩ := hk.point s bits rfl
    have hpoint : (Element.mk 3 (0 :: bits)).IsSound := by
      have hmem : pointElement bits ∈ (curve s (some bits)).ownParts := by simp [ownParts]
      have hsingle : (Element.mk 3 (0 :: bits)).IsSingle :=
        (by decide : (3 : UInt8) % 32 ≠ 31 ∧ (3 : UInt8) ≠ 0)
      exact hsingle.isSound (hsound _ hmem).length
    simp [ownParts, Der.integer?_naturalElement, Element.octets?, hsecret, pointElement,
      element?_encode hpoint, bits?_whole, hp]

theorem rsaOfElement?_ownParts {n : RsaNumbers} (hk : (rsa n).IsProper) :
    rsaOfElement? (sequenceOf (rsa n).ownParts) = some (rsa n) := by
  rw [rsaOfElement?, Der.sequence?_sequenceOf (isSound_ownParts hk)]
  simp only [ownParts, Option.bind_eq_bind, Option.bind_some, Der.mapM_natural?]
  rfl

theorem ofElement?_algorithm (k : SecretNumbers) :
    Algorithm.ofElement? k.algorithm.element = some k.algorithm := by
  cases k with
  | curve secret publicBits =>
    exact (by decide : Algorithm.ofElement? Algorithm.p256Key.element = some Algorithm.p256Key)
  | rsa n =>
    exact (by decide :
      Algorithm.ofElement? Algorithm.rsaKeyPlain.element = some Algorithm.rsaKeyPlain)

theorem leading?_sequenceOf {es : List Element}
    (h : (sequenceOf es).encode.length < Nat.pow 256 Der.maxLengthBytes) (rest : List UInt8) :
    leading? ((sequenceOf es).encode ++ rest) = some (sequenceOf es) := by
  rw [leading?, Der.read?_encode ((Der.isSingle_sequenceOf es).isSound h)]
  rfl

theorem generalOfElement?_parts (hk : k.IsProper) :
    generalOfElement? (sequenceOf k.parts) = some k := by
  have hown := leading?_sequenceOf (length_encodeOwn hk) []
  rw [List.append_nil, encode_ownParts] at hown
  rw [generalOfElement?, Der.sequence?_sequenceOf (isSound_parts hk)]
  simp only [parts, Option.bind_eq_bind, Option.bind_some, Der.integer?_naturalElement,
    ofElement?_algorithm, Element.octets?, beq_self_eq_true, if_true, hown]
  cases k with
  | curve secret publicBits => exact curveOfElement?_ownParts hk
  | rsa n => exact rsaOfElement?_ownParts hk

/-- What a key is written as is read as the key, whatever follows it. -/
theorem general_encode (hk : k.IsProper) (rest : List UInt8) :
    (leading? (k.encode ++ rest)).bind generalOfElement? = some k := by
  have hlength := hk.length
  rw [← encode_parts] at hlength ⊢
  rw [leading?_sequenceOf hlength rest, Option.bind_some, generalOfElement?_parts hk]

end Crypto.SecretNumbers

end ClusterAccess
