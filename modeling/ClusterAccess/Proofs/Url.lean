import ClusterAccess.Proofs.Ipv6
import ClusterAccess.Proofs.Utf8
import ClusterAccess.Url.Parse

namespace ClusterAccess

open Text (isDigit digits digitsValue)

structure SpellsPort (ds : List Char) (n : Nat) : Prop where
  ne_nil : ds ≠ []
  digits : ∀ c ∈ ds, isDigit c = true
  value : digitsValue ds = n
  le : n ≤ 65535

namespace Url

def secure (host : Host) (port : Nat) : Url where
  scheme := "https"
  authority := some ⟨"", none, some host, if port = 443 then none else some port⟩
  path := "/"
  query := none
  fragment := none

/-- A character that stands for itself in the place of a host. -/
def inPlace (c : Char) : Bool :=
  ' ' < c && !(c == '/' || c == '\\' || c == '?' || c == '#' || c == '@')

variable {cs ds h : List Char} {c : Char} {n : Nat} {host : Host}

theorem relevant_of_lt (hcs : ∀ c ∈ cs, ' ' < c) : relevant cs = cs := by
  have hdrop {ds : List Char} (hds : ∀ c ∈ ds, ' ' < c) : ds.dropWhile (· ≤ ' ') = ds := by
    cases ds with
    | nil => rfl
    | cons d ds =>
      rw [List.dropWhile_cons, if_neg (by simpa using hds d List.mem_cons_self)]
  have hreverse : ∀ c ∈ cs.reverse, ' ' < c := fun c hc => hcs c (List.mem_reverse.1 hc)
  rw [relevant, hdrop hcs, hdrop hreverse, List.reverse_reverse, List.filter_eq_self]
  intro c hc
  have hne {d : Char} (hd : ¬ ' ' < d) : c ≠ d := by
    rintro rfl
    exact hd (hcs c hc)
  simp [hne (d := '\t') (by decide), hne (d := '\n') (by decide), hne (d := '\r') (by decide)]

theorem breakAt_of_not {p : Char → Bool} (hcs : ∀ c ∈ cs, p c = false) :
    breakAt p cs = (cs, []) := by
  induction cs with
  | nil => rfl
  | cons c cs ih =>
    obtain ⟨hc, hrest⟩ := List.forall_mem_cons.1 hcs
    have htail := Prod.mk.injEq .. ▸ ih hrest
    simp only [breakAt, List.takeWhile_cons, List.dropWhile_cons, hc, Bool.not_false, if_true,
      htail]

theorem splitUser?_of_not (hcs : ∀ c ∈ cs, c ≠ '@') : splitUser? cs = none := by
  have hreverse : breakAt (· == '@') cs.reverse = (cs.reverse, []) :=
    breakAt_of_not fun c hc => beq_false_of_ne (hcs c (List.mem_reverse.1 hc))
  rw [splitUser?, hreverse]

theorem port_eq (hport : SpellsPort ds n) :
    port (.special 443) ds = .ok (if n = 443 then none else some n, []) := by
  have htake : ds.takeWhile isDigit = ds := List.takeWhile_eq_self_iff.2 hport.digits
  have hempty : ds.isEmpty = false := List.isEmpty_eq_false_iff.2 hport.ne_nil
  have hkind : (SchemeKind.special 443 == SchemeKind.special n) = decide (n = 443) := by
    rw [Bool.eq_iff_iff, beq_iff_eq, decide_eq_true_iff, SchemeKind.special.injEq, eq_comm]
  have hnumber : portNumber ds = .ok n := by
    rw [portNumber, hport.value, if_pos hport.le]
  calc port (.special 443) ds
      = .ok (if ds.isEmpty || SchemeKind.special 443 == .special n then none else some n, []) := by
        rw [port, htake, hnumber, List.drop_length]
        rfl
    _ = .ok (if n = 443 then none else some n, []) := by
        simp only [hempty, hkind, Bool.false_or, decide_eq_true_eq]

theorem scheme?_https (cs : List Char) :
    scheme? ('h' :: 't' :: 't' :: 'p' :: 's' :: ':' :: cs) = some ("https", cs) := by
  rfl

theorem hostAndPort_eq (hplace : ∀ c ∈ h ++ ':' :: ds, endsAuthority (.special 443) c = false)
    (hne : h ≠ []) (hsplit : splitHost false (h ++ ':' :: ds) = (h, ':' :: ds))
    (hhost : specialHost h = .ok host) (hport : SpellsPort ds n) :
    hostAndPort (.special 443) (h ++ ':' :: ds) =
      .ok (some host, if n = 443 then none else some n, []) := by
  have hempty : h.isEmpty = false := List.isEmpty_eq_false_iff.2 hne
  simp only [hostAndPort, breakAt_of_not hplace, hsplit, SchemeKind.isSpecial, if_true, hempty,
    Bool.false_eq_true, if_false, hhost, List.append_nil, Except.map]
  rw [port_eq hport]
  rfl

theorem inPlace_iff : inPlace c = true ↔
    ' ' < c ∧ endsAuthority (.special 443) c = false ∧ c ≠ '@' := by
  simp only [inPlace, endsAuthority, isSlash, SchemeKind.isSpecial, Bool.and_eq_true,
    decide_eq_true_iff, Bool.not_eq_true', Bool.or_eq_false_iff, beq_eq_false_iff_ne,
    Bool.true_and, and_assoc]

theorem inPlace_of_isAddressChar (hc : Ipv6.IsAddressChar c) :
    inPlace c = true ∧ c ≠ '[' ∧ c ≠ ']' ∧ c ≠ '%' := by
  have h : (inPlace c && c != '[' && c != ']' && c != '%') = true :=
    hc.of_all (p := fun c => inPlace c && c != '[' && c != ']' && c != '%') (by decide)
  simpa only [Bool.and_eq_true, bne_iff_ne, and_assoc] using h

theorem inPlace_of_isDigit (hc : isDigit c = true) : inPlace c = true :=
  (inPlace_of_isAddressChar (Ipv6.isAddressChar_of_isDigit hc)).1

theorem dropWhile_isSlash (hplace : ∀ c ∈ cs, inPlace c = true) :
    ('/' :: '/' :: cs).dropWhile (isSlash (.special 443)) = cs := by
  have hslash : isSlash (.special 443) '/' = true := rfl
  rw [List.dropWhile_cons, if_pos hslash, List.dropWhile_cons, if_pos hslash]
  cases cs with
  | nil => rfl
  | cons c cs =>
    have hends := (inPlace_iff.1 (hplace c List.mem_cons_self)).2.1
    simp only [endsAuthority, Bool.or_eq_false_iff] at hends
    rw [List.dropWhile_cons, hends.1.1, if_neg Bool.false_ne_true]

theorem withAuthority_eq (hplace : ∀ c ∈ h ++ ':' :: ds, inPlace c = true) (hne : h ≠ [])
    (hsplit : splitHost false (h ++ ':' :: ds) = (h, ':' :: ds))
    (hhost : specialHost h = .ok host) (hport : SpellsPort ds n) :
    withAuthority "https" (.special 443) (h ++ ':' :: ds) = .ok (secure host n) := by
  have hends : ∀ c ∈ h ++ ':' :: ds, endsAuthority (.special 443) c = false :=
    fun c hc => (inPlace_iff.1 (hplace c hc)).2.1
  have huser : splitUser? (h ++ ':' :: ds) = none :=
    splitUser?_of_not fun c hc => (inPlace_iff.1 (hplace c hc)).2.2
  have hauthority : readAuthority (.special 443) (h ++ ':' :: ds) =
      .ok (⟨"", none, some host, if n = 443 then none else some n⟩, []) := by
    simp only [readAuthority, breakAt_of_not hends, huser,
      hostAndPort_eq hends hne hsplit hhost hport]
    rfl
  rw [withAuthority, hauthority]
  rfl

/-- A host and a port that are written after the scheme are those of the locator. -/
theorem parse_https (hplace : ∀ c ∈ h ++ ':' :: ds, inPlace c = true) (hne : h ≠ [])
    (hsplit : splitHost false (h ++ ':' :: ds) = (h, ':' :: ds))
    (hhost : specialHost h = .ok host) (hport : SpellsPort ds n) :
    parse (String.ofList ("https://".toList ++ h ++ ':' :: ds)) = .ok (secure host n) := by
  have htext : "https://".toList ++ h ++ ':' :: ds =
      'h' :: 't' :: 't' :: 'p' :: 's' :: ':' :: '/' :: '/' :: (h ++ ':' :: ds) := by
    rw [List.append_assoc]
    rfl
  have hrelevant : relevant ("https://".toList ++ h ++ ':' :: ds) =
      "https://".toList ++ h ++ ':' :: ds := by
    apply relevant_of_lt
    rw [List.append_assoc]
    intro c hc
    rcases List.mem_append.1 hc with hc | hc
    · have hall : "https://".toList.all (' ' < ·) = true := by decide
      exact of_decide_eq_true (List.all_eq_true.1 hall c hc)
    · exact (inPlace_iff.1 (hplace c hc)).1
  have hkind : SchemeKind.of "https" = .special 443 := rfl
  rw [parse, String.toList_ofList, hrelevant, htext, scheme?_https]
  simp only [hkind, dropWhile_isSlash hplace]
  exact withAuthority_eq hplace hne hsplit hhost hport

theorem splitHost_bracketed (hcs : ∀ c ∈ cs, c ≠ '[' ∧ c ≠ ']') (ds : List Char) :
    splitHost false ('[' :: cs ++ ']' :: ':' :: ds) = ('[' :: cs ++ [']'], ':' :: ds) := by
  have hinner : splitHost true (cs ++ ']' :: ':' :: ds) = (cs ++ [']'], ':' :: ds) := by
    induction cs with
    | nil => simp [splitHost]
    | cons c cs ih =>
      obtain ⟨⟨hopen, hclose⟩, hrest⟩ := List.forall_mem_cons.1 hcs
      simp [splitHost, hopen, hclose, ih hrest]
  simp [splitHost, hinner]

theorem splitHost_plain (hcs : ∀ c ∈ cs, c ≠ ':' ∧ c ≠ '[') (ds : List Char) :
    splitHost false (cs ++ ':' :: ds) = (cs, ':' :: ds) := by
  induction cs with
  | nil => simp [splitHost]
  | cons c cs ih =>
    obtain ⟨⟨hcolon, hopen⟩, hrest⟩ := List.forall_mem_cons.1 hcs
    simp [splitHost, hcolon, hopen, ih hrest]

theorem specialHost_bracketed {a : Ipv6} (h : Ipv6.Spells cs a) :
    specialHost ('[' :: cs ++ [']']) = .ok (.ipv6 a) := by
  have hlast : (cs ++ [']']).getLast? = some ']' := List.getLast?_concat
  simp only [List.cons_append, specialHost, hlast, beq_self_eq_true, if_true, List.dropLast_concat,
    Ipv6.parse?_eq_some_iff.2 h]

theorem parse_bracketed {a : Ipv6} (h : Ipv6.Spells cs a) (hport : SpellsPort ds n) :
    parse (String.ofList ("https://".toList ++ ('[' :: cs ++ [']']) ++ ':' :: ds)) =
      .ok (secure (.ipv6 a) n) := by
  have hchars {c : Char} (hc : c ∈ cs) := inPlace_of_isAddressChar (h.isAddressChar hc)
  apply parse_https
  · intro c hc
    simp only [List.cons_append, List.append_assoc, List.nil_append, List.mem_cons,
      List.mem_append] at hc
    rcases hc with rfl | hc | rfl | rfl | hc
    · rfl
    · exact (hchars hc).1
    · rfl
    · rfl
    · exact inPlace_of_isDigit (hport.digits c hc)
  · exact List.cons_ne_nil _ _
  · rw [List.append_assoc]
    exact splitHost_bracketed (fun c hc => ⟨(hchars hc).2.1, (hchars hc).2.2.1⟩) ds
  · exact specialHost_bracketed h
  · exact hport

theorem decode_of_not_percent (hcs : ∀ c ∈ cs, c ≠ '%') :
    Percent.decode cs = Text.utf8Chars cs := by
  induction cs with
  | nil => rfl
  | cons c cs ih =>
    obtain ⟨hc, hrest⟩ := List.forall_mem_cons.1 hcs
    rw [Percent.decode.eq_3 _ _ (by rintro _ _ _ rfl; exact absurd rfl hc), ih hrest]
    rfl

theorem decodeUtf8?_decode (hcs : ∀ c ∈ cs, c ≠ '%') :
    Text.decodeUtf8? (Percent.decode cs) = some (String.ofList cs) := by
  have h := Text.decodeUtf8?_utf8 (String.ofList cs)
  rwa [Text.utf8, String.toList_ofList, ← decode_of_not_percent hcs] at h

def isDotted (c : Char) : Bool := ".0123456789".toList.contains c

section Dotted

variable {a b d e : Nat}

theorem digits_ne_nil (n : Nat) : digits n ≠ [] := Nat.toDigits_ne_nil

theorem isDotted_of_isDigit (hc : isDigit c = true) : isDotted c = true := by
  have hall : ∀ k < 10, isDotted (Nat.digitChar k) = true := by decide
  obtain ⟨hlt, hchar⟩ := Text.digitChar_of_isDigit hc
  rw [← hchar]
  exact hall _ hlt

theorem isDotted_of_mem (hc : c ∈ Ipv6.dottedChars a b d e) : isDotted c = true := by
  rcases Ipv6.mem_dottedChars hc with rfl | hc
  · rfl
  · exact isDotted_of_isDigit hc

theorem of_isDotted (hc : isDotted c = true) : c.toLower = c ∧ c.toNat < 128 ∧
    Domain.isForbidden c = false ∧ c ≠ 'x' := by
  have hall : ".0123456789".toList.all (fun c => c.toLower == c && c.toNat < 128 &&
      !Domain.isForbidden c && c != 'x') = true := by decide
  have h := List.all_eq_true.1 hall c (List.contains_iff_mem.1 hc)
  simpa only [Bool.and_eq_true, Bool.not_eq_true', beq_iff_eq, decide_eq_true_iff, bne_iff_ne,
    and_assoc] using h

theorem lookup?_dottedChars (a b d e : Nat) :
    Domain.lookup? (Ipv6.dottedChars a b d e) = some (Ipv6.dottedChars a b d e) := by
  have hchars {c : Char} (hc : c ∈ Ipv6.dottedChars a b d e) := of_isDotted (isDotted_of_mem hc)
  have hlower : (Ipv6.dottedChars a b d e).map Char.toLower = Ipv6.dottedChars a b d e := by
    rw [List.map_congr_left (g := id) fun c hc => (hchars hc).1, List.map_id]
  have hascii : Domain.isAscii (Ipv6.dottedChars a b d e) = true := by
    rw [Domain.isAscii, List.all_eq_true]
    exact fun c hc => decide_eq_true (hchars hc).2.1
  have hmark : ([a, b, d, e].map digits).any Domain.spelledMark.isPrefixOf = false := by
    rw [List.any_eq_false]
    intro part hpart
    obtain ⟨n, -, rfl⟩ := List.mem_map.1 hpart
    obtain ⟨c, cs, hcs⟩ := List.exists_cons_of_ne_nil (digits_ne_nil n)
    have hdigit : isDigit c = true := Text.isDigit_of_mem_digits (hcs ▸ List.mem_cons_self)
    have hx := (of_isDotted (isDotted_of_isDigit hdigit)).2.2.2
    rw [hcs]
    simp [Domain.spelledMark, hx.symm]
  have hforbidden : (Ipv6.dottedChars a b d e).any Domain.isForbidden = false := by
    rw [List.any_eq_false]
    intro c hc
    rw [(hchars hc).2.2.1]
    exact Bool.false_ne_true
  simp only [Domain.lookup?, hlower, hascii, Ipv6.splitChars_dottedChars, hmark, Bool.not_false,
    Bool.and_self, if_true, hforbidden, Bool.false_eq_true, if_false]

theorem parts_dottedChars (a b d e : Nat) :
    Ipv4.parts (Ipv6.dottedChars a b d e) = [a, b, d, e].map digits := by
  have hlast : ([a, b, d, e].map digits).getLast? = some (digits e) := rfl
  have hne : (some (digits e) == some []) = false := by
    rw [beq_eq_false_iff_ne, Ne, Option.some.injEq]
    exact digits_ne_nil e
  simp only [Ipv4.parts, Ipv6.splitChars_dottedChars, hlast, hne, Bool.and_false,
    Bool.false_eq_true, if_false]

theorem isMeant_dottedChars (a b d e : Nat) :
    Ipv4.isMeant (Ipv6.dottedChars a b d e) = true := by
  have hlast : ([a, b, d, e].map digits).getLast? = some (digits e) := rfl
  have hempty : (digits e).isEmpty = false := List.isEmpty_eq_false_iff.2 (digits_ne_nil e)
  have hall : (digits e).all isDigit = true :=
    List.all_eq_true.2 fun c => Text.isDigit_of_mem_digits
  simp only [Ipv4.isMeant, parts_dottedChars, hlast, hempty, hall, Bool.not_false, Bool.and_self,
    Bool.true_or]

theorem number?_digits (ha : a < 256) : Ipv4.number? (digits a) = some a := by
  have hall : ∀ n < 256, Ipv4.number? (digits n) = some n := by decide +kernel
  exact hall a ha

theorem ipv4_parse?_dottedChars (ha : a < 256) (hb : b < 256) (hd : d < 256) (he : e < 256) :
    Ipv4.parse? (Ipv6.dottedChars a b d e) =
      some ⟨UInt32.ofNat (((a * 256 + b) * 256 + d) * 256 + e)⟩ := by
  have hnumbers : ([a, b, d, e].map digits).mapM Ipv4.number? = some [a, b, d, e] := by
    simp [List.mapM_cons, number?_digits, ha, hb, hd, he]
  rw [Ipv4.parse?, parts_dottedChars, hnumbers]
  simp
  omega

theorem specialHost_dotted (ha : a < 256) (hb : b < 256) (hd : d < 256) (he : e < 256) :
    specialHost (Ipv6.dottedChars a b d e) =
      .ok (.ipv4 ⟨UInt32.ofNat (((a * 256 + b) * 256 + d) * 256 + e)⟩) := by
  have hchars {c : Char} (hc : c ∈ Ipv6.dottedChars a b d e) :=
    inPlace_of_isAddressChar (Ipv6.isAddressChar_of_mem_dottedChars hc)
  have hbracket : ∀ inner, Ipv6.dottedChars a b d e ≠ '[' :: inner := by
    intro inner h
    exact (hchars (h ▸ List.mem_cons_self)).2.1 rfl
  have hne : Ipv6.dottedChars a b d e ≠ [] :=
    List.ne_nil_of_mem (Ipv6.dot_mem_dottedChars a b d e)
  rw [specialHost.eq_2 _ hbracket, decodeUtf8?_decode fun c hc => (hchars hc).2.2.2,
    Option.bind_some, String.toList_ofList, lookup?_dottedChars]
  split
  next h => cases h
  next h => exact absurd (Option.some.inj h) hne
  next domain _ h =>
    obtain rfl := Option.some.inj h
    rw [isMeant_dottedChars, if_pos rfl, ipv4_parse?_dottedChars ha hb hd he]

/-- The locator of a dotted address. -/
theorem parse_dotted (ha : a < 256) (hb : b < 256) (hd : d < 256) (he : e < 256)
    (hport : SpellsPort ds n) :
    parse (String.ofList ("https://".toList ++ Ipv6.dottedChars a b d e ++ ':' :: ds)) =
      .ok (secure (.ipv4 ⟨UInt32.ofNat (((a * 256 + b) * 256 + d) * 256 + e)⟩) n) := by
  have hchars {c : Char} (hc : c ∈ Ipv6.dottedChars a b d e) :=
    inPlace_of_isAddressChar (Ipv6.isAddressChar_of_mem_dottedChars hc)
  apply parse_https
  · intro c hc
    rw [List.mem_append, List.mem_cons] at hc
    rcases hc with hc | rfl | hc
    · exact (hchars hc).1
    · rfl
    · exact inPlace_of_isDigit (hport.digits c hc)
  · exact List.ne_nil_of_mem (Ipv6.dot_mem_dottedChars a b d e)
  · apply splitHost_plain
    intro c hc
    refine ⟨?_, (hchars hc).2.1⟩
    rintro rfl
    have hdotted := isDotted_of_mem hc
    revert hdotted
    decide
  · exact specialHost_dotted ha hb hd he
  · exact hport

end Dotted

end Url

end ClusterAccess
