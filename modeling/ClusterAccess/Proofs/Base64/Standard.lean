import ClusterAccess.Credential
import ClusterAccess.Proofs.Base64
import ClusterAccess.Proofs.Text

namespace ClusterAccess.Base64

open Text (isBlank withoutBlanks withoutBlanks_append withoutBlanks_of_unbroken
  withoutBlanks_of_blank)

def alphabet : List Char :=
  "ABCDEFGHIJKLMNOPQRSTUVWXYZabcdefghijklmnopqrstuvwxyz0123456789+/".toList

/-- The lowest bits of a number, so many of them, the highest one first. -/
def bits : Nat → Nat → List Bool
  | 0, _ => []
  | width + 1, n => n.testBit width :: bits width n

def ofBits (bs : List Bool) : Nat := bs.foldl (fun n b => 2 * n + b.toNat) 0

def letter (group : List Bool) : Char := alphabet.getD (ofBits group) '='

/-- The letters for a row of bits; the last group is filled up with zeros. -/
def letters : List Bool → List Char
  | a :: b :: c :: d :: e :: f :: rest => letter [a, b, c, d, e, f] :: letters rest
  | [] => []
  | group => [letter (group ++ List.replicate (6 - group.length) false)]

/-- The letters for the bits of bytes, filled up with `=` to a multiple of four. -/
def standard (bytes : List UInt8) : String :=
  let row := letters (bytes.flatMap fun b => bits 8 b.toNat)
  String.ofList (row ++ List.replicate ((4 - row.length % 4) % 4) '=')

variable {v w n m x y z : Nat} {bytes symbols : List UInt8} {s : String} {c : Char}

theorem bits_append (v w n : Nat) :
    bits (v + w) n = bits v (n / Nat.pow 2 w) ++ bits w n := by
  induction v with
  | zero => rw [Nat.zero_add, bits, List.nil_append]
  | succ v ih =>
    have hbit : (n / Nat.pow 2 w).testBit v = n.testBit (v + w) := Nat.testBit_div_two_pow n v
    rw [Nat.add_right_comm, bits, ih, bits, hbit, List.cons_append]

theorem bits_mod (h : v ≤ w) (n : Nat) : bits v (n % Nat.pow 2 w) = bits v n := by
  induction v with
  | zero => rfl
  | succ v ih =>
    have hbit : (n % Nat.pow 2 w).testBit v = n.testBit v := by
      rw [Nat.pow_eq, Nat.testBit_mod_two_pow, decide_eq_true (Nat.lt_of_succ_le h), Bool.true_and]
    rw [bits, bits, ih (Nat.le_of_succ_le h), hbit]

theorem bits_mul_add (v n : Nat) (h : m < Nat.pow 2 w) :
    bits (v + w) (n * Nat.pow 2 w + m) = bits v n ++ bits w m := by
  have hdiv : (n * Nat.pow 2 w + m) / Nat.pow 2 w = n := by
    rw [Nat.mul_comm, Nat.mul_add_div (Nat.zero_lt_of_lt h), Nat.div_eq_of_lt h, Nat.add_zero]
  have hmod : (n * Nat.pow 2 w + m) % Nat.pow 2 w = m := by
    rw [Nat.mul_add_mod_self_right, Nat.mod_eq_of_lt h]
  rw [bits_append, hdiv, ← bits_mod (Nat.le_refl w), hmod]

theorem letter_bits : ∀ v < 64, letter (bits 6 v) = Char.ofNat (symbol v).toNat := by
  decide +kernel

theorem letters_bits (v : Nat) (rest : List Bool) :
    letters (bits 6 v ++ rest) = letter (bits 6 v) :: letters rest := rfl

theorem letters_two (hrest : y % 16 = 0) : letters (bits 2 (y / 16)) = [letter (bits 6 y)] := by
  have hy : bits 6 (y / 16 * 16 + 0) = bits 2 (y / 16) ++ bits 4 0 :=
    bits_mul_add (w := 4) 2 (y / 16) (by decide)
  rw [Nat.add_zero, Nat.div_mul_cancel (Nat.dvd_of_mod_eq_zero hrest)] at hy
  rw [hy]
  rfl

theorem letters_four (hrest : z % 4 = 0) : letters (bits 4 (z / 4)) = [letter (bits 6 z)] := by
  have hz : bits 6 (z / 4 * 4 + 0) = bits 4 (z / 4) ++ bits 2 0 :=
    bits_mul_add (w := 2) 4 (z / 4) (by decide)
  rw [Nat.add_zero, Nat.div_mul_cancel (Nat.dvd_of_mod_eq_zero hrest)] at hz
  rw [hz]
  rfl

theorem bits_first (x : Nat) (hy : y < 64) :
    bits 8 (x * 4 + y / 16) = bits 6 x ++ bits 2 (y / 16) :=
  bits_mul_add (w := 2) 6 x (Nat.div_lt_of_lt_mul hy)

theorem bits_second (y : Nat) (hz : z < 64) :
    bits 2 (y / 16) ++ bits 8 (y % 16 * 16 + z / 4) = bits 6 y ++ bits 4 (z / 4) := by
  have hbyte : bits 8 (y % 16 * 16 + z / 4) = bits 4 (y % 16) ++ bits 4 (z / 4) :=
    bits_mul_add (w := 4) 4 (y % 16) (Nat.div_lt_of_lt_mul hz)
  have hy : bits 6 y = bits 2 (y / 16) ++ bits 4 y := bits_append 2 4 y
  have hlow : bits 4 (y % 16) = bits 4 y := bits_mod (Nat.le_refl 4) y
  rw [hbyte, hy, hlow, List.append_assoc]

theorem bits_third (z : Nat) (hw : w < 64) :
    bits 4 (z / 4) ++ bits 8 (z % 4 * 64 + w) = bits 6 z ++ bits 6 w := by
  have hbyte : bits 8 (z % 4 * 64 + w) = bits 2 (z % 4) ++ bits 6 w :=
    bits_mul_add (w := 6) 2 (z % 4) hw
  have hz : bits 6 z = bits 4 (z / 4) ++ bits 2 z := bits_append 4 2 z
  have hlow : bits 2 (z % 4) = bits 2 z := bits_mod (Nat.le_refl 2) z
  rw [hbyte, hz, hlow, List.append_assoc]

theorem Spelling.letters_eq (h : Spelling bytes symbols) :
    letters (bytes.flatMap fun b => bits 8 b.toNat) ++
      List.replicate ((4 - (letters (bytes.flatMap fun b => bits 8 b.toNat)).length % 4) % 4) '=' =
        symbols.map fun b => Char.ofNat b.toNat := by
  induction h with
  | nil => rfl
  | @one x y hx hy hrest =>
    have hbits : bits 8 (UInt8.ofNat (x * 4 + y / 16)).toNat = bits 6 x ++ bits 2 (y / 16) := by
      rw [UInt8.toNat_ofNat_of_lt' (by omega : x * 4 + y / 16 < 256), bits_first x hy]
    rw [List.flatMap_singleton, hbits, letters_bits, letters_two hrest, letter_bits x hx,
      letter_bits y hy]
    rfl
  | @two x y z hx hy hz hrest =>
    have hbits : bits 8 (UInt8.ofNat (x * 4 + y / 16)).toNat ++
        bits 8 (UInt8.ofNat (y % 16 * 16 + z / 4)).toNat =
          bits 6 x ++ (bits 6 y ++ bits 4 (z / 4)) := by
      rw [UInt8.toNat_ofNat_of_lt' (by omega : x * 4 + y / 16 < 256),
        UInt8.toNat_ofNat_of_lt' (by omega : y % 16 * 16 + z / 4 < 256), bits_first x hy,
        List.append_assoc, bits_second y hz]
    rw [List.flatMap_cons, List.flatMap_singleton, hbits, letters_bits, letters_bits,
      letters_four hrest, letter_bits x hx, letter_bits y hy, letter_bits z hz]
    rfl
  | @three x y z w bytes symbols hx hy hz hw h ih =>
    have hbits (rest : List Bool) : bits 8 (UInt8.ofNat (x * 4 + y / 16)).toNat ++
        (bits 8 (UInt8.ofNat (y % 16 * 16 + z / 4)).toNat ++
          (bits 8 (UInt8.ofNat (z % 4 * 64 + w)).toNat ++ rest)) =
            bits 6 x ++ (bits 6 y ++ (bits 6 z ++ (bits 6 w ++ rest))) := by
      rw [UInt8.toNat_ofNat_of_lt' (by omega : x * 4 + y / 16 < 256),
        UInt8.toNat_ofNat_of_lt' (by omega : y % 16 * 16 + z / 4 < 256),
        UInt8.toNat_ofNat_of_lt' (by omega : z % 4 * 64 + w < 256), bits_first x hy,
        List.append_assoc, ← List.append_assoc (bits 2 (y / 16)), bits_second y hz,
        List.append_assoc, ← List.append_assoc (bits 4 (z / 4)), bits_third z hw,
        List.append_assoc]
    rw [List.flatMap_cons, List.flatMap_cons, List.flatMap_cons, hbits, letters_bits, letters_bits,
      letters_bits, letters_bits, letter_bits x hx, letter_bits y hy, letter_bits z hz,
      letter_bits w hw]
    simp only [List.map_cons, List.cons_append, List.length_cons, ← ih]
    rw [Nat.add_assoc, Nat.add_assoc, Nat.add_assoc, Nat.add_mod_right]

theorem standard_eq (bytes : List UInt8) : standard bytes = encodeText bytes := by
  rw [standard, encodeText, ← (spelling_encode bytes).letters_eq]

theorem decodeText_eq_ok_iff_standard :
    decodeText s = .ok bytes ↔ withoutBlanks s = standard bytes := by
  rw [standard_eq, decodeText_eq_ok_iff]

theorem withoutBlanks_rows {rows : List (String × String)}
    (h : ∀ row ∈ rows, (∀ c ∈ row.1.toList, isBlank c = false) ∧ ∀ c ∈ row.2.toList, isBlank c = true) :
    withoutBlanks (String.join (rows.map fun row => row.1 ++ row.2)) =
      String.join (rows.map (·.1)) := by
  induction rows with
  | nil => rfl
  | cons row rows ih =>
    obtain ⟨⟨hrow, hblank⟩, hrows⟩ := List.forall_mem_cons.1 h
    rw [List.map_cons, List.map_cons, String.join_cons, String.join_cons, withoutBlanks_append,
      withoutBlanks_append, withoutBlanks_of_unbroken hrow, withoutBlanks_of_blank hblank,
      String.append_empty, ih hrows]

/-- However the text of bytes is broken up into rows, the bytes are read. -/
theorem decodeText_rows {rows : List (String × String)}
    (htext : String.join (rows.map (·.1)) = encodeText bytes)
    (hblank : ∀ row ∈ rows, ∀ c ∈ row.2.toList, isBlank c = true) :
    decodeText (String.join (rows.map fun row => row.1 ++ row.2)) = .ok bytes := by
  have hrows : ∀ row ∈ rows, (∀ c ∈ row.1.toList, isBlank c = false) ∧
      ∀ c ∈ row.2.toList, isBlank c = true := by
    intro row hrow
    refine ⟨?_, hblank row hrow⟩
    intro c hc
    have hmem : c ∈ (encodeText bytes).toList := by
      rw [← htext, String.toList_join]
      exact List.mem_flatMap.2 ⟨row.1, List.mem_map.2 ⟨row, hrow, rfl⟩, hc⟩
    exact isBlank_encodeText c hmem
  rw [decodeText_eq_ok_iff, withoutBlanks_rows hrows, htext]

theorem letter_mem_alphabet : ∀ a b c d e f : Bool, letter [a, b, c, d, e, f] ∈ alphabet := by
  decide

theorem mem_alphabet_of_mem_letters {row : List Bool} (h : c ∈ letters row) : c ∈ alphabet := by
  fun_induction letters row with
  | case1 a b c d e f rest ih =>
    rcases List.mem_cons.1 h with rfl | h
    · exact letter_mem_alphabet a b c d e f
    · exact ih h
  | case2 => cases h
  | case3 group hlong hne =>
    rw [List.mem_singleton] at h
    subst h
    rcases group with _ | ⟨a, _ | ⟨b, _ | ⟨c, _ | ⟨d, _ | ⟨e, _ | ⟨f, rest⟩⟩⟩⟩⟩⟩
    · exact absurd rfl hne
    · exact letter_mem_alphabet a false false false false false
    · exact letter_mem_alphabet a b false false false false
    · exact letter_mem_alphabet a b c false false false
    · exact letter_mem_alphabet a b c d false false
    · exact letter_mem_alphabet a b c d e false
    · exact absurd rfl (hlong a b c d e f rest)

theorem mem_standard (h : c ∈ (standard bytes).toList) : c ∈ alphabet ∨ c = '=' := by
  rw [standard, String.toList_ofList, List.mem_append] at h
  rcases h with h | h
  · exact .inl (mem_alphabet_of_mem_letters h)
  · exact .inr (List.eq_of_mem_replicate h)

theorem count_standard (bytes : List UInt8) : (standard bytes).toList.count '=' < 4 := by
  have hletters (row : List Bool) : (letters row).count '=' = 0 := by
    apply List.count_eq_zero.2
    intro h
    exact absurd (mem_alphabet_of_mem_letters h) (by decide)
  rw [standard, String.toList_ofList, List.count_append, hletters, Nat.zero_add,
    List.count_replicate_self]
  exact Nat.mod_lt _ (by decide)

theorem length_standard (bytes : List UInt8) : (standard bytes).toList.length % 4 = 0 := by
  rw [standard, String.toList_ofList, List.length_append, List.length_replicate]
  omega

theorem decodeText_padded {k : Nat} (hk : 0 < k) (h : decodeText s = .ok bytes)
    (bytes' : List UInt8) :
    decodeText (s ++ String.ofList (List.replicate k '=')) ≠ .ok bytes' := by
  intro h'
  rw [decodeText_eq_ok_iff_standard] at h h'
  have hpads : ∀ c ∈ (String.ofList (List.replicate k '=')).toList, isBlank c = false := by
    intro c hc
    rw [String.toList_ofList] at hc
    rw [List.eq_of_mem_replicate hc]
    rfl
  rw [withoutBlanks_append, withoutBlanks_of_unbroken hpads, h] at h'
  have hlength := length_standard bytes'
  have hcount := count_standard bytes'
  rw [← h', String.toList_append, String.toList_ofList] at hlength hcount
  rw [List.length_append, List.length_replicate] at hlength
  rw [List.count_append, List.count_replicate_self] at hcount
  have hbefore := length_standard bytes
  omega

theorem decodeText_foreign (hc : c ∈ s.toList) (hblank : isBlank c = false) (hletter : c ∉ alphabet)
    (hpad : c ≠ '=') (bytes : List UInt8) : decodeText s ≠ .ok bytes := by
  intro h
  rw [decodeText_eq_ok_iff_standard] at h
  have hmem : c ∈ (withoutBlanks s).toList := by
    rw [withoutBlanks, String.toList_ofList]
    exact List.mem_filter.2 ⟨hc, by rw [hblank]; rfl⟩
  rw [h] at hmem
  exact (mem_standard hmem).elim hletter hpad

theorem utf8EncodeChar_alphabet :
    ∀ v < 64, alphabet[v]?.map String.utf8EncodeChar = some [symbol v] := by
  decide +kernel

theorem symbol_inj (hx : x < 64) (hy : y < 64) (h : symbol x = symbol y) : x = y := by
  have hvalue := value?_symbol x hx
  rw [h, value?_symbol y hy] at hvalue
  exact (Option.some.inj hvalue).symm

theorem Spelling.exists_end (h : Spelling bytes symbols) (hne : symbols ≠ []) : ∃ front v n,
    symbols = front ++ symbol v :: List.replicate n pad ∧ v < 64 ∧ v % Nat.pow 4 n = 0 := by
  induction h with
  | nil => exact absurd rfl hne
  | @one x y hx hy hrest => exact ⟨[symbol x], y, 2, rfl, hy, hrest⟩
  | @two x y z hx hy hz hrest => exact ⟨[symbol x, symbol y], z, 1, rfl, hz, hrest⟩
  | @three x y z w bytes symbols hx hy hz hw h ih =>
    by_cases hnil : symbols = []
    · subst hnil
      exact ⟨[symbol x, symbol y, symbol z], w, 0, rfl, hw, Nat.mod_one w⟩
    · obtain ⟨front, v, n, rfl, hv, hrest⟩ := ih hnil
      exact ⟨symbol x :: symbol y :: symbol z :: symbol w :: front, v, n, rfl, hv, hrest⟩

theorem end_unique {front front' : List UInt8} {v' n' : Nat} (hv : v < 64) (hv' : v' < 64)
    (h : front ++ symbol v :: List.replicate n pad =
      front' ++ symbol v' :: List.replicate n' pad) : v = v' ∧ n = n' := by
  have hback := congrArg List.reverse h
  simp only [List.reverse_append, List.reverse_cons, List.reverse_replicate,
    List.append_assoc, List.singleton_append] at hback
  clear h
  induction n generalizing n' with
  | zero =>
    cases n' with
    | zero => exact ⟨symbol_inj hv hv' (List.cons.inj hback).1, rfl⟩
    | succ n' => exact absurd (List.cons.inj hback).1 (symbol_ne_pad hv)
  | succ n ih =>
    cases n' with
    | zero => exact absurd (List.cons.inj hback).1.symm (symbol_ne_pad hv')
    | succ n' =>
      obtain ⟨rfl, rfl⟩ := ih (List.cons.inj hback).2
      exact ⟨rfl, rfl⟩

theorem isBlank_of_mem_alphabet : ∀ c ∈ alphabet, isBlank c = false := by
  have hall : alphabet.all (!isBlank ·) = true := by decide +kernel
  intro c hc
  have hc := List.all_eq_true.1 hall c hc
  rwa [Bool.not_eq_true'] at hc

theorem utf8_filledUp (hc : alphabet[v]? = some c) (n : Nat) :
    Text.utf8 (String.ofList (c :: List.replicate n '=')) = symbol v :: List.replicate n pad := by
  have hletter := utf8EncodeChar_alphabet v (List.getElem?_eq_some_iff.1 hc).1
  rw [hc] at hletter
  have hpads : (List.replicate n '=').flatMap String.utf8EncodeChar = List.replicate n pad := by
    induction n with
    | zero => rfl
    | succ n ih =>
      rw [List.replicate_succ, List.flatMap_cons, ih]
      rfl
  rw [Text.utf8, String.toList_ofList, Text.utf8Chars, List.flatMap_cons, Option.some.inj hletter,
    hpads, List.singleton_append]

theorem decodeText_unused (hc : alphabet[v]? = some c) (hrest : v % Nat.pow 4 n ≠ 0) (s : String)
    (bytes : List UInt8) :
    decodeText (s ++ String.ofList (c :: List.replicate n '=')) ≠ .ok bytes := by
  intro h
  have hv : v < 64 := (List.getElem?_eq_some_iff.1 hc).1
  have hblank : ∀ d ∈ (String.ofList (c :: List.replicate n '=')).toList, isBlank d = false := by
    intro d hd
    rw [String.toList_ofList] at hd
    rcases List.mem_cons.1 hd with rfl | hd
    · exact isBlank_of_mem_alphabet d (List.mem_of_getElem? hc)
    · rw [List.eq_of_mem_replicate hd]
      rfl
  rw [decodeText, withoutBlanks_append, withoutBlanks_of_unbroken hblank, Text.utf8_append,
    utf8_filledUp hc, decode_eq_ok_iff] at h
  have hne : encode bytes ≠ [] := by
    rw [← h]
    exact List.append_ne_nil_of_right_ne_nil _ (List.cons_ne_nil _ _)
  obtain ⟨front, v', n', hend, hv', hrest'⟩ := (spelling_encode bytes).exists_end hne
  obtain ⟨rfl, rfl⟩ := end_unique hv hv' (h.trans hend)
  exact hrest hrest'

/-- They are parted at the first colon. -/
def namePassword? (s : String) : Option (String × String) := do
  let bytes ← (decodeText s).toOption
  let name ← Text.decodeUtf8? (bytes.takeWhile (· != 58))
  let password ← Text.decodeUtf8? ((bytes.dropWhile (· != 58)).drop 1)
  return (name, password)

theorem decodeText_encodeText (bytes : List UInt8) : decodeText (encodeText bytes) = .ok bytes :=
  decodeText_eq_ok_iff.2 (withoutBlanks_of_unbroken isBlank_encodeText)

theorem decodeText_encodeBasic (username password : String) :
    decodeText (encodeBasic username password) =
      .ok (Text.utf8 username ++ 58 :: Text.utf8 password) := by
  have hcolon : Text.utf8 ":" = [58] := by decide
  rw [encodeBasic, decodeText_encodeText, Text.utf8_append, Text.utf8_append, hcolon,
    List.append_assoc, List.singleton_append]

theorem namePassword?_encodeBasic {username : String} (h : ':' ∉ username.toList)
    (password : String) :
    namePassword? (encodeBasic username password) = some (username, password) := by
  have hname : ∀ b ∈ Text.utf8 username, (b != 58) = true := by
    intro b hb
    rw [bne_iff_ne]
    rintro rfl
    obtain ⟨c, hc, hcolon⟩ := Text.exists_mem_of_mem_utf8 (by decide) hb
    have hc' : c = ':' := Char.toNat_inj.1 hcolon
    exact h (hc' ▸ hc)
  have htake : (Text.utf8 username ++ 58 :: Text.utf8 password).takeWhile (· != 58) =
      Text.utf8 username := by
    rw [List.takeWhile_append_of_pos hname, List.takeWhile_cons_of_neg (by decide), List.append_nil]
  have hdrop : ((Text.utf8 username ++ 58 :: Text.utf8 password).dropWhile (· != 58)).drop 1 =
      Text.utf8 password := by
    rw [List.dropWhile_append_of_pos hname, List.dropWhile_cons_of_neg (by decide)]
    rfl
  rw [namePassword?, decodeText_encodeBasic]
  simp only [Except.toOption, Option.bind_eq_bind, Option.bind_some, htake, hdrop,
    Text.decodeUtf8?_utf8]
  rfl

/-- A text is read as bytes exactly if it is their standard text, but for its blanks. -/
structure ReadStrictly : Prop where
  inverse : ∀ s bytes, decodeText s = .ok bytes ↔ withoutBlanks s = standard bytes
  broken : ∀ bytes (rows : List (String × String)), String.join (rows.map (·.1)) = standard bytes →
    (∀ row ∈ rows, ∀ c ∈ row.2.toList, isBlank c = true) →
    decodeText (String.join (rows.map fun row => row.1 ++ row.2)) = .ok bytes
  unique : ∀ s t bytes, (∀ c ∈ s.toList, isBlank c = false) → (∀ c ∈ t.toList, isBlank c = false) →
    decodeText s = .ok bytes → decodeText t = .ok bytes → s = t
  padding : ∀ s n bytes bytes', 0 < n → decodeText s = .ok bytes →
    decodeText (s ++ String.ofList (List.replicate n '=')) ≠ .ok bytes'
  unused : ∀ s v c n bytes, alphabet[v]? = some c → v % Nat.pow 4 n ≠ 0 →
    decodeText (s ++ String.ofList (c :: List.replicate n '=')) ≠ .ok bytes
  foreign : ∀ s, ∀ c ∈ s.toList, isBlank c = false → c ∉ alphabet → c ≠ '=' →
    ∀ bytes, decodeText s ≠ .ok bytes
  basic : ∀ username password, decodeText (encodeBasic username password) =
    .ok (Text.utf8 username ++ 58 :: Text.utf8 password)
  parted : ∀ username password, ':' ∉ username.toList →
    namePassword? (encodeBasic username password) = some (username, password)

theorem readStrictly : ReadStrictly where
  inverse _ _ := decodeText_eq_ok_iff_standard
  broken bytes rows htext hblank := by
    rw [standard_eq] at htext
    exact decodeText_rows htext hblank
  unique s t bytes hs ht hd hd' := by
    rw [decodeText_eq_ok_iff, withoutBlanks_of_unbroken hs] at hd
    rw [decodeText_eq_ok_iff, withoutBlanks_of_unbroken ht] at hd'
    exact hd.trans hd'.symm
  padding _ _ _ bytes' hn h := decodeText_padded hn h bytes'
  unused s _ _ _ bytes hc hrest := decodeText_unused hc hrest s bytes
  foreign _ _ hc hblank hletter hpad bytes := decodeText_foreign hc hblank hletter hpad bytes
  basic := decodeText_encodeBasic
  parted _ password h := namePassword?_encodeBasic h password

end ClusterAccess.Base64
