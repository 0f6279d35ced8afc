import ClusterAccess.Base64
import ClusterAccess.Proofs.Except
import ClusterAccess.Proofs.Utf8

namespace ClusterAccess.Base64

variable {v x y z w offset padding : Nat} {b : UInt8} {symbols group bytes rest : List UInt8}
  {vs : List Nat}

theorem value?_symbol : ∀ v < 64, value? (symbol v) = some v := by decide

theorem symbol_of_value? (h : value? b = some v) : v < 64 ∧ symbol v = b := by
  have hb : UInt8.ofNat b.toNat = b := UInt8.ofNat_toNat
  unfold value? at h
  generalize b.toNat = n at h hb
  subst hb
  simp only [Bool.and_eq_true, decide_eq_true_eq, beq_iff_eq] at h
  split at h
  next hn =>
    cases h
    rw [symbol, if_pos (by omega), Nat.sub_add_cancel hn.1]
    exact ⟨by omega, rfl⟩
  split at h
  next hn =>
    cases h
    rw [symbol, if_neg (by omega), if_pos (by omega), Nat.sub_add_cancel (by omega)]
    exact ⟨by omega, rfl⟩
  split at h
  next hn =>
    cases h
    rw [symbol, if_neg (by omega), if_neg (by omega), if_pos (by omega), Nat.add_sub_cancel]
    exact ⟨by omega, rfl⟩
  split at h
  next hn =>
    cases h
    rw [hn]
    exact ⟨by omega, rfl⟩
  split at h
  next hn =>
    cases h
    rw [hn]
    exact ⟨by omega, rfl⟩
  · cases h

theorem valueAt_eq_ok_iff : valueAt offset b = .ok v ↔ v < 64 ∧ b = symbol v := by
  rw [valueAt]
  constructor
  · intro h
    split at h
    next hv =>
      cases h
      exact ⟨(symbol_of_value? hv).1, (symbol_of_value? hv).2.symm⟩
    next => cases h
  · rintro ⟨hv, rfl⟩
    rw [value?_symbol v hv]

theorem symbol_ne_pad (hv : v < 64) : symbol v ≠ pad := by
  intro h
  have hvalue := value?_symbol v hv
  rw [h] at hvalue
  cases hvalue

theorem ofNat_eq {n : Nat} (h : n = b.toNat) : UInt8.ofNat n = b := by
  rw [h, UInt8.ofNat_toNat]

theorem encode_three (hx : x < 64) (hy : y < 64) (hz : z < 64) (hw : w < 64) :
    encode (UInt8.ofNat (x * 4 + y / 16) :: UInt8.ofNat (y % 16 * 16 + z / 4) ::
      UInt8.ofNat (z % 4 * 64 + w) :: rest) =
        symbol x :: symbol y :: symbol z :: symbol w :: encode rest := by
  rw [encode, UInt8.toNat_ofNat_of_lt' (by omega : x * 4 + y / 16 < 256),
    UInt8.toNat_ofNat_of_lt' (by omega : y % 16 * 16 + z / 4 < 256),
    UInt8.toNat_ofNat_of_lt' (by omega : z % 4 * 64 + w < 256)]
  have hfirst : (x * 4 + y / 16) / 4 = x := by omega
  have hsecond : (x * 4 + y / 16) % 4 * 16 + (y % 16 * 16 + z / 4) / 16 = y := by omega
  have hthird : (y % 16 * 16 + z / 4) % 16 * 4 + (z % 4 * 64 + w) / 64 = z := by omega
  have hfourth : (z % 4 * 64 + w) % 64 = w := by omega
  rw [hfirst, hsecond, hthird, hfourth]

theorem encode_two (hx : x < 64) (hy : y < 64) (hz : z < 64) (hrest : z % 4 = 0) :
    encode [UInt8.ofNat (x * 4 + y / 16), UInt8.ofNat (y % 16 * 16 + z / 4)] =
      [symbol x, symbol y, symbol z, pad] := by
  rw [encode, UInt8.toNat_ofNat_of_lt' (by omega : x * 4 + y / 16 < 256),
    UInt8.toNat_ofNat_of_lt' (by omega : y % 16 * 16 + z / 4 < 256)]
  have hfirst : (x * 4 + y / 16) / 4 = x := by omega
  have hsecond : (x * 4 + y / 16) % 4 * 16 + (y % 16 * 16 + z / 4) / 16 = y := by omega
  have hthird : (y % 16 * 16 + z / 4) % 16 * 4 = z := by omega
  rw [hfirst, hsecond, hthird]

theorem encode_one (hx : x < 64) (hy : y < 64) (hrest : y % 16 = 0) :
    encode [UInt8.ofNat (x * 4 + y / 16)] = [symbol x, symbol y, pad, pad] := by
  rw [encode, UInt8.toNat_ofNat_of_lt' (by omega : x * 4 + y / 16 < 256)]
  have hfirst : (x * 4 + y / 16) / 4 = x := by omega
  have hsecond : (x * 4 + y / 16) % 4 * 16 = y := by omega
  rw [hfirst, hsecond]

/-- What bytes are encoded as, by the values of the symbols. -/
inductive Spelling : List UInt8 → List UInt8 → Prop where
  | nil : Spelling [] []
  | one {x y : Nat} (hx : x < 64) (hy : y < 64) (hrest : y % 16 = 0) :
    Spelling [UInt8.ofNat (x * 4 + y / 16)] [symbol x, symbol y, pad, pad]
  | two {x y z : Nat} (hx : x < 64) (hy : y < 64) (hz : z < 64) (hrest : z % 4 = 0) :
    Spelling [UInt8.ofNat (x * 4 + y / 16), UInt8.ofNat (y % 16 * 16 + z / 4)]
      [symbol x, symbol y, symbol z, pad]
  | three {x y z w : Nat} {bytes symbols : List UInt8} (hx : x < 64) (hy : y < 64) (hz : z < 64)
    (hw : w < 64) (h : Spelling bytes symbols) :
    Spelling (UInt8.ofNat (x * 4 + y / 16) :: UInt8.ofNat (y % 16 * 16 + z / 4) ::
        UInt8.ofNat (z % 4 * 64 + w) :: bytes)
      (symbol x :: symbol y :: symbol z :: symbol w :: symbols)

theorem Spelling.eq (h : Spelling bytes symbols) : symbols = encode bytes := by
  induction h with
  | nil => rfl
  | one hx hy hrest => exact (encode_one hx hy hrest).symm
  | two hx hy hz hrest => exact (encode_two hx hy hz hrest).symm
  | three hx hy hz hw h ih => rw [encode_three hx hy hz hw, ih]

theorem spelling_encode (bytes : List UInt8) : Spelling bytes (encode bytes) := by
  fun_induction encode bytes with
  | case1 a b c rest ih =>
    have ha := a.toNat_lt
    have hb := b.toNat_lt
    have hc := c.toNat_lt
    have h := Spelling.three (x := a.toNat / 4) (y := a.toNat % 4 * 16 + b.toNat / 16)
      (z := b.toNat % 16 * 4 + c.toNat / 64) (w := c.toNat % 64) (by omega) (by omega) (by omega)
      (by omega) ih
    rwa [ofNat_eq (b := a) (by omega), ofNat_eq (b := b) (by omega),
      ofNat_eq (b := c) (by omega)] at h
  | case2 a b =>
    have ha := a.toNat_lt
    have hb := b.toNat_lt
    have h := Spelling.two (x := a.toNat / 4) (y := a.toNat % 4 * 16 + b.toNat / 16)
      (z := b.toNat % 16 * 4) (by omega) (by omega) (by omega) (by omega)
    rwa [ofNat_eq (b := a) (by omega), ofNat_eq (b := b) (by omega)] at h
  | case3 a =>
    have ha := a.toNat_lt
    have h := Spelling.one (x := a.toNat / 4) (y := a.toNat % 4 * 16) (by omega) (by omega)
      (by omega)
    rwa [ofNat_eq (b := a) (by omega)] at h
  | case4 => exact .nil

theorem encode_ne_nil (h : bytes ≠ []) : encode bytes ≠ [] := by
  intro hnil
  have hspelling := spelling_encode bytes
  rw [hnil] at hspelling
  cases hspelling
  exact h rfl

theorem spelling_iff : Spelling bytes symbols ↔ symbols = encode bytes :=
  ⟨Spelling.eq, fun h => h ▸ spelling_encode bytes⟩

theorem lastValues_pad_eq_ok_iff : lastValues offset (pad :: group) = .ok (vs, padding) ↔
    vs = [] ∧ pad :: group = List.replicate padding pad := by
  rw [lastValues, if_pos (beq_self_eq_true pad)]
  constructor
  · intro h
    split at h
    next hall =>
      cases h
      have hpads : group = List.replicate group.length pad := by
        apply List.eq_replicate_iff.2
        refine ⟨rfl, ?_⟩
        intro b hb
        exact beq_iff_eq.1 (List.all_eq_true.1 hall b hb)
      rw [List.replicate_succ, ← hpads]
      exact ⟨rfl, rfl⟩
    next => cases h
  · rintro ⟨rfl, h⟩
    cases padding with
    | zero => cases h
    | succ padding =>
      obtain rfl : group = List.replicate padding pad := (List.cons.inj h).2
      rw [if_pos (by simp), List.length_replicate]

theorem lastValues_cons_eq_ok_iff (hb : b ≠ pad) :
    lastValues offset (b :: group) = .ok (vs, padding) ↔ ∃ v us, v < 64 ∧ b = symbol v ∧
      vs = v :: us ∧ lastValues (offset + 1) group = .ok (us, padding) := by
  rw [lastValues, if_neg (mt beq_iff_eq.1 hb)]
  constructor
  · intro h
    obtain ⟨v, hv, h⟩ := Except.bind_eq_ok_iff.1 h
    obtain ⟨⟨us, padding'⟩, hrest, h⟩ := Except.bind_eq_ok_iff.1 h
    cases h
    obtain ⟨hlt, hsymbol⟩ := valueAt_eq_ok_iff.1 hv
    exact ⟨v, us, hlt, hsymbol, rfl, hrest⟩
  · rintro ⟨v, us, hlt, hsymbol, rfl, hrest⟩
    apply Except.bind_eq_ok_iff.2
    refine ⟨v, valueAt_eq_ok_iff.2 ⟨hlt, hsymbol⟩, ?_⟩
    exact Except.bind_eq_ok_iff.2 ⟨(us, padding), hrest, rfl⟩

theorem lastValues_eq_ok_iff : lastValues offset group = .ok (vs, padding) ↔
    group = vs.map symbol ++ List.replicate padding pad ∧ ∀ v ∈ vs, v < 64 := by
  induction group generalizing offset vs padding with
  | nil =>
    rw [lastValues]
    constructor
    · intro h
      cases h
      exact ⟨rfl, nofun⟩
    · rintro ⟨h, -⟩
      obtain ⟨hvs, hpadding⟩ := List.append_eq_nil_iff.1 h.symm
      rw [List.map_eq_nil_iff.1 hvs, (List.replicate_eq_nil_iff _).1 hpadding]
  | cons b bs ih =>
    by_cases hb : b = pad
    · subst hb
      rw [lastValues_pad_eq_ok_iff]
      constructor
      · rintro ⟨rfl, h⟩
        exact ⟨h, nofun⟩
      · rintro ⟨h, hvs⟩
        cases vs with
        | nil => exact ⟨rfl, h⟩
        | cons v vs =>
          exact absurd (List.cons.inj h).1.symm (symbol_ne_pad (hvs v List.mem_cons_self))
    · rw [lastValues_cons_eq_ok_iff hb]
      constructor
      · rintro ⟨v, us, hlt, rfl, rfl, hrest⟩
        obtain ⟨rfl, hus⟩ := ih.1 hrest
        exact ⟨rfl, List.forall_mem_cons.2 ⟨hlt, hus⟩⟩
      · rintro ⟨h, hvs⟩
        cases vs with
        | nil =>
          cases padding with
          | zero => cases h
          | succ padding => exact absurd (List.cons.inj h).1 hb
        | cons v us =>
          obtain ⟨hsymbol, hrest⟩ := List.cons.inj h
          obtain ⟨hlt, hus⟩ := List.forall_mem_cons.1 hvs
          exact ⟨v, us, hlt, hsymbol, rfl, ih.2 ⟨hrest, hus⟩⟩

theorem earlyPad?_symbols (hx : x < 64) (hy : y < 64) :
    earlyPad? offset (symbol x :: symbol y :: rest) = none := by
  have hx' : (symbol x == pad) = false := beq_false_of_ne (symbol_ne_pad hx)
  have hy' : (symbol y == pad) = false := beq_false_of_ne (symbol_ne_pad hy)
  simp only [earlyPad?, hx', hy', value?_symbol x hx, Bool.false_eq_true, if_false]

theorem spelling_of_decodeLast (hlength : group.length ≤ 4)
    (hd : decodeLast offset group = .ok bytes) : Spelling bytes group := by
  rw [decodeLast] at hd
  split at hd
  · cases hd
  obtain ⟨⟨values, padding⟩, hvalues, h⟩ := Except.bind_eq_ok_iff.1 hd
  obtain ⟨rfl, hvs⟩ := lastValues_eq_ok_iff.1 hvalues
  rw [List.length_append, List.length_map, List.length_replicate] at hlength
  rcases values with _ | ⟨x, _ | ⟨y, more⟩⟩
  · cases padding with
    | zero =>
      cases h
      exact .nil
    | succ => cases h
  · cases h
  obtain ⟨hx, hvs⟩ := List.forall_mem_cons.1 hvs
  obtain ⟨hy, hvs⟩ := List.forall_mem_cons.1 hvs
  dsimp only at h
  split at h
  · cases h
  next hfull =>
  rw [bne_iff_ne, Decidable.not_not, List.length_cons, List.length_cons] at hfull
  rw [List.length_cons, List.length_cons] at hlength
  rcases more with _ | ⟨z, _ | ⟨w, last⟩⟩
  · obtain rfl : padding = 2 := by
      rw [List.length_nil] at hfull hlength
      omega
    dsimp only at h
    split at h
    · cases h
    next hrest =>
      cases h
      exact .one hx hy (by simpa using hrest)
  · obtain rfl : padding = 1 := by
      rw [List.length_singleton] at hfull hlength
      omega
    dsimp only at h
    split at h
    · cases h
    next hrest =>
      cases h
      exact .two hx hy (hvs z List.mem_cons_self) (by simpa using hrest)
  · rw [List.length_cons, List.length_cons] at hlength
    obtain rfl : last = [] := List.eq_nil_of_length_eq_zero (by omega)
    obtain rfl : padding = 0 := by omega
    obtain ⟨hz, hvs⟩ := List.forall_mem_cons.1 hvs
    cases h
    exact .three hx hy hz (hvs w List.mem_cons_self) .nil

theorem decodeLast_of_spelling (hlength : group.length ≤ 4) (h : Spelling bytes group) :
    decodeLast offset group = .ok bytes := by
  have hlast (vs : List Nat) (padding : Nat) (hvs : ∀ v ∈ vs, v < 64) :
      lastValues offset (vs.map symbol ++ List.replicate padding pad) = .ok (vs, padding) :=
    lastValues_eq_ok_iff.2 ⟨rfl, hvs⟩
  cases h with
  | nil => rfl
  | @one x y hx hy hrest =>
    have hvalues : lastValues offset [symbol x, symbol y, pad, pad] = .ok ([x, y], 2) :=
      hlast [x, y] 2 (by simp [hx, hy])
    rw [decodeLast, earlyPad?_symbols hx hy]
    simp [hvalues, hrest, bind, Except.bind, pure, Except.pure]
  | @two x y z hx hy hz hrest =>
    have hvalues : lastValues offset [symbol x, symbol y, symbol z, pad] = .ok ([x, y, z], 1) :=
      hlast [x, y, z] 1 (by simp [hx, hy, hz])
    rw [decodeLast, earlyPad?_symbols hx hy]
    simp [hvalues, hrest, bind, Except.bind, pure, Except.pure]
  | @three x y z w bytes symbols hx hy hz hw h =>
    cases h with
    | nil =>
      have hvalues : lastValues offset [symbol x, symbol y, symbol z, symbol w] =
          .ok ([x, y, z, w], 0) :=
        hlast [x, y, z, w] 0 (by simp [hx, hy, hz, hw])
      rw [decodeLast, earlyPad?_symbols hx hy]
      simp [hvalues, bind, Except.bind, pure, Except.pure]
    | one =>
      simp only [List.length_cons] at hlength
      omega
    | two =>
      simp only [List.length_cons] at hlength
      omega
    | three =>
      simp only [List.length_cons] at hlength
      omega

theorem decodeGroups_eq_ok_iff :
    decodeGroups offset symbols = .ok bytes ↔ Spelling bytes symbols := by
  fun_induction decodeGroups offset symbols generalizing bytes with
  | case1 offset a b c d e rest ih =>
    constructor
    · intro h
      obtain ⟨x, ha, h⟩ := Except.bind_eq_ok_iff.1 h
      obtain ⟨y, hb, h⟩ := Except.bind_eq_ok_iff.1 h
      obtain ⟨z, hc, h⟩ := Except.bind_eq_ok_iff.1 h
      obtain ⟨w, hd, h⟩ := Except.bind_eq_ok_iff.1 h
      obtain ⟨more, hmore, h⟩ := Except.bind_eq_ok_iff.1 h
      cases h
      obtain ⟨hx, rfl⟩ := valueAt_eq_ok_iff.1 ha
      obtain ⟨hy, rfl⟩ := valueAt_eq_ok_iff.1 hb
      obtain ⟨hz, rfl⟩ := valueAt_eq_ok_iff.1 hc
      obtain ⟨hw, rfl⟩ := valueAt_eq_ok_iff.1 hd
      exact .three hx hy hz hw (ih.1 hmore)
    · intro h
      cases h with
      | three hx hy hz hw h =>
        simp only [valueAt_eq_ok_iff.2 ⟨hx, rfl⟩, valueAt_eq_ok_iff.2 ⟨hy, rfl⟩,
          valueAt_eq_ok_iff.2 ⟨hz, rfl⟩, valueAt_eq_ok_iff.2 ⟨hw, rfl⟩, ih.2 h, bind, Except.bind,
          pure, Except.pure]
  | case2 offset group hgroup =>
    have hlength : group.length ≤ 4 := by
      rcases group with _ | ⟨a, _ | ⟨b, _ | ⟨c, _ | ⟨d, _ | ⟨e, rest⟩⟩⟩⟩⟩
      case cons.cons.cons.cons.cons => exact absurd rfl (hgroup a b c d e rest)
      all_goals simp
    exact ⟨spelling_of_decodeLast hlength, decodeLast_of_spelling hlength⟩

theorem Spelling.length_mod (h : Spelling bytes symbols) : symbols.length % 4 = 0 := by
  induction h with
  | nil => rfl
  | one => exact Nat.mod_self 4
  | two => exact Nat.mod_self 4
  | three hx hy hz hw h ih => exact (Nat.add_mod_right _ 4).trans ih

/-- Symbols stand for bytes exactly if the bytes are encoded as them. -/
theorem decode_eq_ok_iff : decode symbols = .ok bytes ↔ symbols = encode bytes := by
  rw [← spelling_iff, decode]
  constructor
  · intro h
    split at h
    · cases h
    · exact decodeGroups_eq_ok_iff.1 h
  · intro h
    have hstray : strayEnd? symbols = none := by
      rw [strayEnd?, h.length_mod]
      rfl
    rw [hstray]
    exact decodeGroups_eq_ok_iff.2 h

theorem range_symbol : ∀ v < 64, 43 ≤ (symbol v).toNat ∧ (symbol v).toNat < 128 ∧
    (symbol v).toNat ≠ 45 ∧ (symbol v).toNat ≠ 58 := by decide

theorem Spelling.range_of_mem (h : Spelling bytes symbols) (hb : b ∈ symbols) :
    43 ≤ b.toNat ∧ b.toNat < 128 ∧ b.toNat ≠ 45 ∧ b.toNat ≠ 58 := by
  have hpad : 43 ≤ pad.toNat ∧ pad.toNat < 128 ∧ pad.toNat ≠ 45 ∧ pad.toNat ≠ 58 := by decide
  induction h with
  | nil => cases hb
  | one hx hy =>
    simp only [List.mem_cons, List.not_mem_nil, or_false] at hb
    rcases hb with rfl | rfl | rfl | rfl
    · exact range_symbol _ hx
    · exact range_symbol _ hy
    · exact hpad
    · exact hpad
  | two hx hy hz =>
    simp only [List.mem_cons, List.not_mem_nil, or_false] at hb
    rcases hb with rfl | rfl | rfl | rfl
    · exact range_symbol _ hx
    · exact range_symbol _ hy
    · exact range_symbol _ hz
    · exact hpad
  | three hx hy hz hw h ih =>
    simp only [List.mem_cons] at hb
    rcases hb with rfl | rfl | rfl | rfl | hb
    · exact range_symbol _ hx
    · exact range_symbol _ hy
    · exact range_symbol _ hz
    · exact range_symbol _ hw
    · exact ih hb

theorem range_of_mem_encode (h : b ∈ encode bytes) :
    43 ≤ b.toNat ∧ b.toNat < 128 ∧ b.toNat ≠ 45 ∧ b.toNat ≠ 58 :=
  (spelling_encode bytes).range_of_mem h

theorem utf8_encodeText (bytes : List UInt8) : Text.utf8 (encodeText bytes) = encode bytes := by
  apply Text.utf8_ascii
  intro b hb
  obtain ⟨-, hlt, -, -⟩ := range_of_mem_encode hb
  exact hlt

theorem isBlank_encodeText : ∀ c ∈ (encodeText bytes).toList, Text.isBlank c = false := by
  intro c hc
  rw [encodeText, String.toList_ofList] at hc
  obtain ⟨b, hb, rfl⟩ := List.mem_map.1 hc
  obtain ⟨hlow, hhigh, -, -⟩ := range_of_mem_encode hb
  rw [Text.isBlank, Text.toNat_ofNat_ascii hhigh]
  simp only [Bool.or_eq_false_iff, Bool.and_eq_false_iff, decide_eq_false_iff_not,
    beq_eq_false_iff_ne, ne_eq]
  omega

/-- A text stands for bytes exactly if it is what they are encoded as, but for its blanks. -/
theorem decodeText_eq_ok_iff {s : String} :
    decodeText s = .ok bytes ↔ Text.withoutBlanks s = encodeText bytes := by
  rw [decodeText, decode_eq_ok_iff, ← utf8_encodeText]
  constructor
  · intro h
    have hdecode := Text.decodeUtf8?_utf8 (Text.withoutBlanks s)
    rw [h, Text.decodeUtf8?_utf8] at hdecode
    exact (Option.some.inj hdecode).symm
  · intro h
    rw [h]

end ClusterAccess.Base64
