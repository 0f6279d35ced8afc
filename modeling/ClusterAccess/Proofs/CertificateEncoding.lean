import ClusterAccess.Certificate.Basic
import ClusterAccess.Proofs.Der

namespace ClusterAccess

open Der

theorem Der.eq_of_objectId? {e : Element} {bytes : List UInt8} (h : e.objectId? = some bytes) :
    e = ⟨6, bytes⟩ := by
  rw [Element.objectId?] at h
  split at h
  next hid =>
    cases h
    rw [Bool.and_eq_true, beq_iff_eq] at hid
    rw [← hid.1]
  next => cases h

namespace Algorithm

variable {e : Element} {a : Algorithm}

def element (a : Algorithm) : Element := sequenceOf (⟨6, a.number⟩ :: a.parameters.toList)

theorem encode_element (a : Algorithm) : a.element.encode = a.encode := by
  obtain ⟨number, parameters⟩ := a
  cases parameters with
  | none => rfl
  | some parameters =>
    rw [element, sequenceOf, Algorithm.encode, encodeSequence, Option.toList_some,
      List.flatMap_cons, List.flatMap_singleton]
    rfl

theorem sequence?_of_ofElement? (h : ofElement? e = some a) :
    e.sequence? = some (⟨6, a.number⟩ :: a.parameters.toList) := by
  obtain ⟨parts, hparts, h⟩ := Option.bind_eq_some_iff.1 h
  rw [hparts]
  split at h
  next number =>
    obtain ⟨bytes, hnumber, h⟩ := Option.bind_eq_some_iff.1 h
    cases h
    rw [eq_of_objectId? hnumber]
    rfl
  next number parameters =>
    split at h
    next =>
      obtain ⟨bytes, hnumber, h⟩ := Option.bind_eq_some_iff.1 h
      cases h
      rw [eq_of_objectId? hnumber]
      rfl
    next => cases h
  next => cases h

/-- So the element that it is written as is no longer than the one that it was read of first. -/
theorem ofElement?_element (hs : e.IsSound) (h : ofElement? e = some a) : a.element.IsSound ∧
    ofElement? a.element = some a ∧ a.element.content.length ≤ e.content.length := by
  have hparts := sequence?_of_ofElement? h
  obtain ⟨hsound, hle⟩ := sequence?_sound hparts
  refine ⟨isSound_sequenceOf (Nat.lt_of_le_of_lt hle hs.length), ?_, hle⟩
  rw [ofElement?, hparts] at h
  rw [ofElement?, element, sequence?_sequenceOf hsound]
  exact h

end Algorithm

namespace Certificate

variable {c : Certificate} {e : Element} {bytes : List UInt8}

theorem exists_element (hs : e.IsSound) (h : ofElement? e = some c) :
    ∃ e' : Element, e'.encode = c.encode ∧ e'.IsSound ∧ ofElement? e' = some c := by
  rw [ofElement?, Option.bind_eq_bind, Option.bind_eq_some_iff] at h
  obtain ⟨parts, hparts, h⟩ := h
  obtain ⟨hsound, hle⟩ := sequence?_sound hparts
  split at h
  next signed algorithm signature =>
    obtain ⟨statement, hstatement, h⟩ := Option.bind_eq_some_iff.1 h
    obtain ⟨a, ha, h⟩ := Option.bind_eq_some_iff.1 h
    obtain ⟨bits, hbits, h⟩ := Option.bind_eq_some_iff.1 h
    cases h
    obtain ⟨hsigned, halgorithm, hsignature⟩ :
        signed.IsSound ∧ algorithm.IsSound ∧ signature.IsSound := by
      simpa using hsound
    obtain ⟨halgorithm', ha', hshorter⟩ := Algorithm.ofElement?_element halgorithm ha
    have hsound' : ∀ e ∈ [signed, a.element, signature], e.IsSound := by
      simp [hsigned, halgorithm', hsignature]
    have hle' : ([signed, a.element, signature].flatMap Element.encode).length ≤
        e.content.length := by
      have hencoded := length_encode_le hshorter
      simp only [List.flatMap_cons, List.flatMap_nil, List.length_append, List.length_nil] at hle ⊢
      omega
    refine ⟨sequenceOf [signed, a.element, signature], ?_,
      isSound_sequenceOf (Nat.lt_of_le_of_lt hle' hs.length), ?_⟩
    · rw [Certificate.encode, ← Algorithm.encode_element, encodeSequence, sequenceOf, List.flatMap_cons,
        List.flatMap_cons, List.flatMap_singleton, List.append_assoc]
    · rw [ofElement?, sequence?_sequenceOf hsound', Option.bind_eq_bind, Option.bind_some]
      simp only [hstatement, ha', hbits, Option.bind_eq_bind, Option.bind_some]
      rfl
  next => cases h

/-- What a certificate is written as is read as the certificate. -/
theorem decode?_encode (h : decode? bytes = some c) : decode? c.encode = some c := by
  obtain ⟨⟨e, after⟩, hread, he⟩ := Option.bind_eq_some_iff.1 h
  obtain ⟨e', hencode, hsound, he'⟩ := exists_element (read?_sound hread).1 he
  rw [decode?, ← hencode, ← List.append_nil e'.encode, read?_encode hsound]
  exact he'

end Certificate

end ClusterAccess
