import ClusterAccess.Der

namespace ClusterAccess

namespace Crypto

variable {n count : Nat} {bs : List UInt8}

theorem foldl_bytes (acc : Nat) (bs : List UInt8) :
    bs.foldl (fun n b => n * 256 + b.toNat) acc = acc * Nat.pow 256 bs.length + ofBytes bs := by
  induction bs generalizing acc with
  | nil => exact (Nat.mul_one acc).symm
  | cons b bs ih =>
    have hpow : Nat.pow 256 (b :: bs).length = 256 * Nat.pow 256 bs.length := Nat.mul_comm _ _
    have hcons : ofBytes (b :: bs) = (0 * 256 + b.toNat) * Nat.pow 256 bs.length + ofBytes bs :=
      ih _
    rw [List.foldl_cons, ih, hcons, hpow, Nat.add_mul, Nat.mul_assoc, Nat.zero_mul, Nat.zero_add,
      Nat.add_assoc]

theorem ofBytes_cons (b : UInt8) (bs : List UInt8) :
    ofBytes (b :: bs) = b.toNat * Nat.pow 256 bs.length + ofBytes bs := by
  rw [ofBytes, List.foldl_cons, foldl_bytes, Nat.zero_mul, Nat.zero_add]

theorem ofBytes_lt (bs : List UInt8) : ofBytes bs < Nat.pow 256 bs.length := by
  induction bs with
  | nil => exact Nat.zero_lt_one
  | cons b bs ih =>
    have hmul := Nat.mul_le_mul_right (Nat.pow 256 bs.length) (b.toNat_lt : b.toNat + 1 ≤ 256)
    have hpow : Nat.pow 256 (b :: bs).length = 256 * Nat.pow 256 bs.length := Nat.mul_comm _ _
    rw [Nat.succ_mul] at hmul
    rw [ofBytes_cons, hpow]
    omega

theorem length_toBytes (count n : Nat) : (toBytes count n).length = count := by
  induction count with
  | zero => rfl
  | succ count ih => exact congrArg (· + 1) ih

theorem ofBytes_toBytes (h : n < Nat.pow 256 count) : ofBytes (toBytes count n) = n := by
  have hmod (count : Nat) : ofBytes (toBytes count n) = n % Nat.pow 256 count := by
    induction count with
    | zero => exact (Nat.mod_one n).symm
    | succ count ih =>
      have hcons : toBytes (count + 1) n =
          UInt8.ofNat (n / Nat.pow 256 count) :: toBytes count n := rfl
      have hstep : n % Nat.pow 256 (count + 1) =
          n % Nat.pow 256 count + Nat.pow 256 count * (n / Nat.pow 256 count % 256) :=
        Nat.mod_pow_succ
      rw [hcons, ofBytes_cons, length_toBytes, ih, UInt8.toNat_ofNat', hstep, Nat.add_comm,
        Nat.mul_comm]
  rw [hmod, Nat.mod_eq_of_lt h]

end Crypto

namespace Der

open Crypto

variable {n m count : Nat} {bs rest : List UInt8} {e e' : Element} {es : List Element}

theorem length_minimalBytes (n : Nat) : (minimalBytes n).length = n.log2 / 8 + 1 :=
  length_toBytes _ n

theorem minimalBytes_le_iff (hn : n ≠ 0) :
    (minimalBytes n).length ≤ count ↔ n < Nat.pow 256 count := by
  have hpow : Nat.pow 256 count = 2 ^ (8 * count) := (Nat.pow_mul 2 8 count).symm
  rw [length_minimalBytes, hpow, ← Nat.log2_lt hn]
  omega

theorem ofBytes_minimalBytes (hn : n ≠ 0) : ofBytes (minimalBytes n) = n := by
  have hlt := (minimalBytes_le_iff hn).1 (Nat.le_refl _)
  rw [length_minimalBytes] at hlt
  exact ofBytes_toBytes hlt

theorem length_encodeLength_le (h : n ≤ m) : (encodeLength n).length ≤ (encodeLength m).length := by
  rw [encodeLength, encodeLength]
  split
  · split
    · exact Nat.le_refl _
    · exact Nat.le_add_left 1 _
  next hn =>
    rw [if_neg (by omega)]
    have hm := (minimalBytes_le_iff (by omega : m ≠ 0)).1 (Nat.le_refl _)
    have hlength := (minimalBytes_le_iff (by omega : n ≠ 0)).2 (Nat.lt_of_le_of_lt h hm)
    exact Nat.succ_le_succ hlength

theorem length_encode (e : Element) :
    e.encode.length = 1 + (encodeLength e.content.length).length + e.content.length := by
  rw [Element.encode, List.cons_append, List.length_cons, List.length_append]
  omega

theorem length_encode_le (h : e.content.length ≤ e'.content.length) :
    e.encode.length ≤ e'.encode.length := by
  have hlength := length_encodeLength_le h
  rw [length_encode, length_encode]
  omega

theorem readLength?_encodeLength (h : n < Nat.pow 256 maxLengthBytes) :
    readLength? (encodeLength n ++ bs) = some (n, bs) := by
  rw [encodeLength]
  split
  next hn =>
    have hnat : (UInt8.ofNat n).toNat = n := UInt8.toNat_ofNat_of_lt' (by omega : n < 256)
    have hlt : UInt8.ofNat n < 128 := UInt8.lt_iff_toNat_lt.2 (hnat.symm ▸ hn)
    rw [List.singleton_append, readLength?, if_pos hlt, hnat]
  next hn =>
    have hle : (minimalBytes n).length ≤ 4 := (minimalBytes_le_iff (by omega)).2 h
    have hpos : 0 < (minimalBytes n).length := by
      rw [length_minimalBytes]
      exact Nat.succ_pos _
    have hnat : (UInt8.ofNat (128 + (minimalBytes n).length)).toNat =
        128 + (minimalBytes n).length :=
      UInt8.toNat_ofNat_of_lt' (by omega : 128 + (minimalBytes n).length < 256)
    have hge : ¬ UInt8.ofNat (128 + (minimalBytes n).length) < 128 := by
      rw [UInt8.lt_iff_toNat_lt, hnat]
      exact Nat.not_lt.2 (Nat.le_add_right 128 _)
    have hcount : ¬ ((minimalBytes n).length == 0 ||
        decide (maxLengthBytes < (minimalBytes n).length) ||
          decide ((minimalBytes n ++ bs).length < (minimalBytes n).length)) = true := by
      have hmax : maxLengthBytes = 4 := rfl
      simp only [Bool.or_eq_true, beq_iff_eq, decide_eq_true_eq, List.length_append]
      omega
    dsimp only
    rw [List.cons_append, readLength?, if_neg hge, hnat, Nat.add_sub_cancel_left]
    dsimp only
    rw [if_neg hcount, List.take_left, List.drop_left, ofBytes_minimalBytes (by omega)]

theorem readLength?_sound (h : readLength? bs = some (n, rest)) :
    n < Nat.pow 256 maxLengthBytes ∧ (encodeLength n).length + rest.length ≤ bs.length := by
  cases bs with
  | nil => cases h
  | cons b bs =>
    rw [readLength?] at h
    split at h
    next hb =>
      cases h
      have hlt : b.toNat < 128 := UInt8.lt_iff_toNat_lt.1 hb
      have hmax : 128 ≤ Nat.pow 256 maxLengthBytes := by decide
      rw [encodeLength, if_pos hlt, List.length_singleton, List.length_cons, Nat.add_comm]
      exact ⟨Nat.lt_of_lt_of_le hlt hmax, Nat.le_refl _⟩
    next hb =>
      dsimp only at h
      split at h
      · cases h
      next hcount =>
        obtain ⟨rfl, rfl⟩ := Prod.mk.inj (Option.some.inj h)
        simp only [Bool.or_eq_true, beq_iff_eq, decide_eq_true_eq, not_or] at hcount
        generalize b.toNat - 128 = count at hcount ⊢
        have hlt := ofBytes_lt (bs.take count)
        rw [List.length_take, Nat.min_eq_left (by omega)] at hlt
        have hpow : Nat.pow 256 count ≤ Nat.pow 256 maxLengthBytes :=
          Nat.pow_le_pow_right (by decide) (by omega)
        refine ⟨Nat.lt_of_lt_of_le hlt hpow, ?_⟩
        rw [encodeLength, List.length_drop, List.length_cons]
        split
        · rw [List.length_singleton]
          omega
        next hn =>
          have hle := (minimalBytes_le_iff (by omega)).2 hlt
          rw [List.length_cons]
          omega

/-- An element with an identifier of a single byte and a length that readers accept. -/
structure Element.IsSound (e : Element) : Prop where
  single : e.identifier % 32 ≠ 31
  proper : e.identifier ≠ 0
  length : e.content.length < Nat.pow 256 maxLengthBytes

theorem read?_encode (h : e.IsSound) : read? (e.encode ++ bs) = some (e, bs) := by
  have hid : ¬ (e.identifier % 32 == 31 || e.identifier == 0) = true := by
    simp only [Bool.or_eq_true, beq_iff_eq, not_or]
    exact ⟨h.single, h.proper⟩
  rw [Element.encode, List.append_assoc, List.cons_append, read?, if_neg hid,
    readLength?_encodeLength h.length]
  dsimp only
  rw [if_neg (by simp), List.take_left, List.drop_left]

theorem read?_sound (h : read? bs = some (e, rest)) :
    e.IsSound ∧ e.encode.length + rest.length ≤ bs.length := by
  cases bs with
  | nil => cases h
  | cons id bs =>
    rw [read?] at h
    split at h
    · cases h
    next hid =>
      split at h
      · cases h
      next n bs' hlength =>
        split at h
        · cases h
        next hn =>
          cases h
          obtain ⟨hlt, hle⟩ := readLength?_sound hlength
          have htake : (bs'.take n).length = n := by
            rw [List.length_take]
            omega
          simp only [Bool.or_eq_true, beq_iff_eq, not_or] at hid
          refine ⟨⟨hid.1, hid.2, htake.symm ▸ hlt⟩, ?_⟩
          rw [length_encode, htake, List.length_drop, List.length_cons]
          omega

theorem readAll?_encode {fuel : Nat} (h : ∀ e ∈ es, e.IsSound) (hfuel : es.length ≤ fuel) :
    readAll? fuel (es.flatMap Element.encode) = some es := by
  induction es generalizing fuel with
  | nil =>
    cases fuel <;> rfl
  | cons e es ih =>
    obtain ⟨he, hes⟩ := List.forall_mem_cons.1 h
    cases fuel with
    | zero => cases hfuel
    | succ fuel =>
      have hne : e.encode ++ es.flatMap Element.encode ≠ [] := by simp [Element.encode]
      rw [List.flatMap_cons, readAll?, read?_encode he]
      · dsimp only
        rw [ih hes (Nat.le_of_succ_le_succ hfuel), Option.map_some]
      · exact hne

theorem readAll?_sound {fuel : Nat} (h : readAll? fuel bs = some es) :
    (∀ e ∈ es, e.IsSound) ∧ (es.flatMap Element.encode).length ≤ bs.length := by
  fun_induction readAll? fuel bs generalizing es with
  | case1 =>
    cases h
    exact ⟨nofun, Nat.le_refl 0⟩
  | case2 => cases h
  | case3 => cases h
  | case4 fuel bs hne e rest hread ih =>
    obtain ⟨es, hes, rfl⟩ := Option.map_eq_some_iff.1 h
    obtain ⟨hsound, hle⟩ := read?_sound hread
    obtain ⟨hall, hrest⟩ := ih hes
    refine ⟨List.forall_mem_cons.2 ⟨hsound, hall⟩, ?_⟩
    rw [List.flatMap_cons, List.length_append]
    omega

theorem length_le_flatMap (es : List Element) : es.length ≤ (es.flatMap Element.encode).length := by
  induction es with
  | nil => exact Nat.le_refl 0
  | cons e es ih =>
    rw [List.flatMap_cons, List.length_append, List.length_cons, length_encode]
    omega

theorem parts?_flatMap (id : UInt8) (h : ∀ e ∈ es, e.IsSound) :
    (Element.mk id (es.flatMap Element.encode)).parts? = some es :=
  readAll?_encode h (length_le_flatMap es)

theorem sequence?_eq_some_iff :
    e.sequence? = some es ↔ e.identifier = sequenceId ∧ e.parts? = some es := by
  rw [Element.sequence?]
  simp

theorem sequence?_sound (h : e.sequence? = some es) :
    (∀ e ∈ es, e.IsSound) ∧ (es.flatMap Element.encode).length ≤ e.content.length :=
  readAll?_sound (sequence?_eq_some_iff.1 h).2

def sequenceOf (es : List Element) : Element := ⟨sequenceId, es.flatMap Element.encode⟩

theorem sequence?_sequenceOf (h : ∀ e ∈ es, e.IsSound) : (sequenceOf es).sequence? = some es :=
  sequence?_eq_some_iff.2 ⟨rfl, parts?_flatMap sequenceId h⟩

theorem isSound_sequenceOf (h : (es.flatMap Element.encode).length < Nat.pow 256 maxLengthBytes) :
    (sequenceOf es).IsSound where
  single := (by decide : sequenceId % 32 ≠ 31)
  proper := (by decide : sequenceId ≠ 0)
  length := h

end Der

end ClusterAccess
