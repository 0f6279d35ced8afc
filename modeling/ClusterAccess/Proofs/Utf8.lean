import ClusterAccess.Text.Utf8

namespace ClusterAccess.Text

variable {n bits owed : Nat} {lo hi : UInt8} {bs : List UInt8}

theorem toNat_following : (UInt8.ofNat (n % 64 + 128)).toNat = n % 64 + 128 :=
  UInt8.toNat_ofNat_of_lt' (by omega : n % 64 + 128 < 256)

/-- A byte after the first one of a character adds six bits, if it lies in the range for it. -/
theorem decodeFrom_following (hlo : lo.toNat ≤ n % 64 + 128) (hhi : n % 64 + 128 ≤ hi.toNat) :
    decodeFrom (some ⟨bits, owed, lo, hi⟩) (UInt8.ofNat (n % 64 + 128) :: bs) =
      if owed ≤ 1 then some (Char.ofNat (bits * 64 + n % 64)) :: decodeFrom none bs
      else decodeFrom (some ⟨bits * 64 + n % 64, owed - 1, 0x80, 0xBF⟩) bs := by
  have hbits : (n % 64 + 128) % 64 = n % 64 := by omega
  have hrange : (decide (lo ≤ UInt8.ofNat (n % 64 + 128)) &&
      decide (UInt8.ofNat (n % 64 + 128) ≤ hi)) = true := by
    rw [Bool.and_eq_true, decide_eq_true_eq, decide_eq_true_eq, UInt8.le_iff_toNat_le,
      UInt8.le_iff_toNat_le, toNat_following]
    exact ⟨hlo, hhi⟩
  rw [decodeFrom, if_pos hrange, toNat_following, hbits]

theorem decodeFrom_last :
    decodeFrom (some ⟨bits, 1, 0x80, 0xBF⟩) (UInt8.ofNat (n % 64 + 128) :: bs) =
      some (Char.ofNat (bits * 64 + n % 64)) :: decodeFrom none bs := by
  have hhi : (0xBF : UInt8).toNat = 191 := rfl
  rw [decodeFrom_following (Nat.le_add_left _ _) (by omega), if_pos (Nat.le_refl 1)]

theorem toNat_lowest_le {p : Prop} [Decidable p] (hp : p → lo.toNat ≤ n) (h : 128 ≤ n) :
    (if p then lo else 0x80).toNat ≤ n := by
  split
  next hc => exact hp hc
  next => exact h

theorem le_toNat_highest {p : Prop} [Decidable p] (hp : p → n ≤ hi.toNat) (h : n ≤ 191) :
    n ≤ (if p then hi else 0xBF).toNat := by
  split
  next hc => exact hp hc
  next => exact h

theorem of_ofNat_whole (h : n < 128) : FirstByte.of (UInt8.ofNat n) = .whole (Char.ofNat n) := by
  rw [FirstByte.of, UInt8.toNat_ofNat_of_lt' (by omega : n < 256)]
  exact if_pos h

theorem of_ofNat_lead_two (h : 2 ≤ n) (h' : n < 32) :
    FirstByte.of (UInt8.ofNat (n + 192)) = .lead ⟨n, 1, 0x80, 0xBF⟩ := by
  rw [FirstByte.of, UInt8.toNat_ofNat_of_lt' (by omega : n + 192 < 256), Nat.add_sub_cancel]
  rw [if_neg (by omega), if_neg (by omega), if_pos (by omega)]

theorem of_ofNat_lead_three (h : n < 16) : FirstByte.of (UInt8.ofNat (n + 224)) =
    .lead ⟨n, 2, if n = 0 then 0xA0 else 0x80, if n = 13 then 0x9F else 0xBF⟩ := by
  have hlow : (n + 224 == 0xE0) = (n == 0) := by simp
  have hhigh : (n + 224 == 0xED) = (n == 13) := by simp
  rw [FirstByte.of, UInt8.toNat_ofNat_of_lt' (by omega : n + 224 < 256), Nat.add_sub_cancel]
  rw [if_neg (by omega), if_neg (by omega), if_neg (by omega), if_pos (by omega), hlow, hhigh]
  simp only [beq_iff_eq]

theorem of_ofNat_lead_four (h : n < 5) : FirstByte.of (UInt8.ofNat (n + 240)) =
    .lead ⟨n, 3, if n = 0 then 0x90 else 0x80, if n = 4 then 0x8F else 0xBF⟩ := by
  have hlow : (n + 240 == 0xF0) = (n == 0) := by simp
  have hhigh : (n + 240 == 0xF4) = (n == 4) := by simp
  rw [FirstByte.of, UInt8.toNat_ofNat_of_lt' (by omega : n + 240 < 256), Nat.add_sub_cancel]
  rw [if_neg (by omega), if_neg (by omega), if_neg (by omega), if_neg (by omega),
    if_pos (by omega), hlow, hhigh]
  simp only [beq_iff_eq]

theorem decodeFrom_one (h : n < 128) :
    decodeFrom none (UInt8.ofNat n :: bs) = some (Char.ofNat n) :: decodeFrom none bs := by
  rw [decodeFrom, of_ofNat_whole h]

theorem decodeFrom_two (h : 128 ≤ n) (h' : n < 2048) :
    decodeFrom none (UInt8.ofNat (n / 64 % 32 + 192) :: UInt8.ofNat (n % 64 + 128) :: bs) =
      some (Char.ofNat n) :: decodeFrom none bs := by
  have hn : n / 64 % 32 * 64 + n % 64 = n := by omega
  rw [decodeFrom, of_ofNat_lead_two (by omega) (by omega)]
  dsimp only
  rw [decodeFrom_last, hn]

/-- The second byte is so high that two would not do, and not that of a surrogate. -/
theorem decodeFrom_three (h : 2048 ≤ n) (hs : n < 0xD800 ∨ 0xDFFF < n) (h' : n < 65536) :
    decodeFrom none (UInt8.ofNat (n / 4096 % 16 + 224) :: UInt8.ofNat (n / 64 % 64 + 128) ::
      UInt8.ofNat (n % 64 + 128) :: bs) = some (Char.ofNat n) :: decodeFrom none bs := by
  have hn : (n / 4096 % 16 * 64 + n / 64 % 64) * 64 + n % 64 = n := by omega
  have hlo : (if n / 4096 % 16 = 0 then 0xA0 else 0x80 : UInt8).toNat ≤ n / 64 % 64 + 128 := by
    apply toNat_lowest_le
    · intro hzero
      change 160 ≤ _
      omega
    · omega
  have hhi : n / 64 % 64 + 128 ≤ (if n / 4096 % 16 = 13 then 0x9F else 0xBF : UInt8).toNat := by
    apply le_toNat_highest
    · intro hsurrogate
      change _ ≤ 159
      omega
    · omega
  rw [decodeFrom, of_ofNat_lead_three (by omega)]
  dsimp only
  rw [decodeFrom_following hlo hhi, if_neg (by omega), decodeFrom_last, hn]

theorem decodeFrom_four (h : 65536 ≤ n) (h' : n < 0x110000) :
    decodeFrom none (UInt8.ofNat (n / 262144 % 8 + 240) :: UInt8.ofNat (n / 4096 % 64 + 128) ::
      UInt8.ofNat (n / 64 % 64 + 128) :: UInt8.ofNat (n % 64 + 128) :: bs) =
        some (Char.ofNat n) :: decodeFrom none bs := by
  have hn : ((n / 262144 % 8 * 64 + n / 4096 % 64) * 64 + n / 64 % 64) * 64 + n % 64 = n := by
    omega
  have hlo : (if n / 262144 % 8 = 0 then 0x90 else 0x80 : UInt8).toNat ≤ n / 4096 % 64 + 128 := by
    apply toNat_lowest_le
    · intro hzero
      change 144 ≤ _
      omega
    · omega
  have hhi : n / 4096 % 64 + 128 ≤ (if n / 262144 % 8 = 4 then 0x8F else 0xBF : UInt8).toNat := by
    apply le_toNat_highest
    · intro hlast
      change _ ≤ 143
      omega
    · omega
  have hlast : n / 64 % 64 + 128 ≤ (0xBF : UInt8).toNat := by
    change _ ≤ 191
    omega
  rw [decodeFrom, of_ofNat_lead_four (by omega)]
  dsimp only
  rw [decodeFrom_following hlo hhi, if_neg (by omega),
    decodeFrom_following (Nat.le_add_left _ _) hlast, if_neg (by omega), decodeFrom_last, hn]

/-- The bytes of a character are read as it, by the number of them. -/
theorem decodeFrom_utf8EncodeChar (c : Char) (bs : List UInt8) :
    decodeFrom none (String.utf8EncodeChar c ++ bs) = some c :: decodeFrom none bs := by
  have hvalid : c.val.toNat < 0xD800 ∨ 0xDFFF < c.val.toNat ∧ c.val.toNat < 0x110000 := c.valid
  have hc : Char.ofNat c.val.toNat = c := Char.ofNat_toNat c
  rw [String.utf8EncodeChar]
  split
  next hone => rw [List.singleton_append, decodeFrom_one (by omega), hc]
  split
  next hone htwo =>
    rw [List.cons_append, List.singleton_append, decodeFrom_two (by omega) (by omega), hc]
  split
  next hone htwo hthree =>
    rw [List.cons_append, List.cons_append, List.singleton_append,
      decodeFrom_three (by omega) (by omega) (by omega), hc]
  next hone htwo hthree =>
    rw [List.cons_append, List.cons_append, List.cons_append, List.singleton_append,
      decodeFrom_four (by omega) (by omega), hc]

theorem decodeFrom_utf8Chars (cs : List Char) : decodeFrom none (utf8Chars cs) = cs.map some := by
  induction cs with
  | nil => rfl
  | cons c cs ih =>
    rw [utf8Chars, List.flatMap_cons, decodeFrom_utf8EncodeChar, List.map_cons]
    exact congrArg _ ih

theorem decodeUtf8?_utf8 (s : String) : decodeUtf8? (utf8 s) = some s := by
  have hall (cs : List Char) : (cs.map some).mapM id = some cs := by
    induction cs with
    | nil => rfl
    | cons c cs ih => simp [List.mapM_cons, ih]
  rw [decodeUtf8?, utf8, decodeFrom_utf8Chars, hall, Option.map_some, String.ofList_toList]

theorem decodeUtf8Lossy_utf8 (s : String) : decodeUtf8Lossy (utf8 s) = s := by
  have hall (cs : List Char) : (cs.map some).map (fun c => c.getD (Char.ofNat 0xFFFD)) = cs := by
    rw [List.map_map]
    exact List.map_id cs
  rw [decodeUtf8Lossy, utf8, decodeFrom_utf8Chars, hall, String.ofList_toList]

theorem utf8_append (s t : String) : utf8 (s ++ t) = utf8 s ++ utf8 t := by
  rw [utf8, String.toList_append, utf8Chars, List.flatMap_append, ← utf8Chars, ← utf8Chars, ← utf8,
    ← utf8]

theorem toNat_ofNat_ascii (h : n < 128) : (Char.ofNat n).toNat = n := by
  have hvalid : n.isValidChar := .inl (by omega)
  rw [Char.ofNat, dif_pos hvalid]
  rfl

theorem utf8EncodeChar_ascii {c : Char} (h : c.toNat < 128) :
    String.utf8EncodeChar c = [UInt8.ofNat c.toNat] := by
  rw [Char.toNat] at h ⊢
  rw [String.utf8EncodeChar]
  exact if_pos (by omega)

theorem le_of_mem_utf8EncodeChar {c : Char} {b : UInt8} (h : 128 ≤ c.toNat)
    (hb : b ∈ String.utf8EncodeChar c) : 128 ≤ b.toNat := by
  rw [Char.toNat] at h
  rw [String.utf8EncodeChar, if_neg (by omega)] at hb
  split at hb
  · simp only [List.mem_cons, List.not_mem_nil, or_false] at hb
    rcases hb with rfl | rfl <;> rw [UInt8.toNat_ofNat'] <;> omega
  split at hb
  · simp only [List.mem_cons, List.not_mem_nil, or_false] at hb
    rcases hb with rfl | rfl | rfl <;> rw [UInt8.toNat_ofNat'] <;> omega
  · simp only [List.mem_cons, List.not_mem_nil, or_false] at hb
    rcases hb with rfl | rfl | rfl | rfl <;> rw [UInt8.toNat_ofNat'] <;> omega

theorem exists_mem_of_mem_utf8 {s : String} {b : UInt8} (h : b.toNat < 128) (hb : b ∈ utf8 s) :
    ∃ c ∈ s.toList, c.toNat = b.toNat := by
  obtain ⟨c, hc, hb⟩ := List.mem_flatMap.1 hb
  refine ⟨c, hc, ?_⟩
  have hlt : c.toNat < 128 := by
    apply Nat.lt_of_not_le
    intro hle
    exact absurd (le_of_mem_utf8EncodeChar hle hb) (Nat.not_le.2 h)
  rw [utf8EncodeChar_ascii hlt, List.mem_singleton] at hb
  rw [hb, UInt8.toNat_ofNat_of_lt' (by omega : c.toNat < 256)]

theorem utf8_ascii (h : ∀ b ∈ bs, b.toNat < 128) :
    utf8 (String.ofList (bs.map fun b => Char.ofNat b.toNat)) = bs := by
  rw [utf8, String.toList_ofList]
  induction bs with
  | nil => rfl
  | cons b bs ih =>
    obtain ⟨hb, hbs⟩ := List.forall_mem_cons.1 h
    have hnat := toNat_ofNat_ascii hb
    rw [List.map_cons, utf8Chars, List.flatMap_cons, utf8EncodeChar_ascii (by omega), hnat,
      UInt8.ofNat_toNat, List.singleton_append]
    exact congrArg _ (ih hbs)

end ClusterAccess.Text
