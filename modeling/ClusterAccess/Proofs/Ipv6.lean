import ClusterAccess.Proofs.Selector
import ClusterAccess.Url.Ipv6
import Mathlib.Data.List.Induction

namespace ClusterAccess

namespace Text

variable {sep : Char} {cs : List Char}

theorem intercalate_splitChars (sep : Char) (cs : List Char) :
    [sep].intercalate (splitChars (· == sep) cs) = cs := by
  induction cs with
  | nil => rfl
  | cons c cs ih =>
    obtain ⟨p, ps, hp⟩ := List.exists_cons_of_ne_nil (splitChars_ne_nil (· == sep) cs)
    rw [hp] at ih
    simp only [splitChars, hp]
    by_cases hc : c = sep
    · rw [if_pos (beq_iff_eq.2 hc), List.intercalate_cons_cons, ih, hc]
      rfl
    · rw [if_neg (by simpa using hc)]
      cases ps with
      | nil =>
        rw [List.intercalate_singleton] at ih ⊢
        rw [ih]
      | cons q ps =>
        rw [List.intercalate_cons_cons] at ih ⊢
        rw [List.cons_append, List.cons_append, ih]

theorem digitChar_of_isDigit {c : Char} (h : isDigit c = true) :
    c.toNat - 48 < 10 ∧ Nat.digitChar (c.toNat - 48) = c := by
  have hc : 48 ≤ c.toNat ∧ c.toNat ≤ 57 := by
    simp only [isDigit, Bool.and_eq_true, decide_eq_true_eq, Char.le_def] at h
    exact h
  have hall : ∀ k < 10, Nat.digitChar k = Char.ofNat (k + 48) := by decide
  refine ⟨by omega, ?_⟩
  rw [hall _ (by omega), Nat.sub_add_cancel hc.1, Char.ofNat_toNat]

theorem digits_digitsValue (hne : cs ≠ []) (hd : ∀ c ∈ cs, isDigit c = true)
    (hz : cs.length = 1 ∨ cs.head? ≠ some '0') : digits (digitsValue cs) = cs := by
  -- digits are read from the left, so one more of them is added on the right
  induction cs using List.reverseRecOn with
  | nil => exact absurd rfl hne
  | append_singleton cs c ih =>
    obtain ⟨hlt, hc⟩ := digitChar_of_isDigit (hd c (List.mem_append_right _ List.mem_cons_self))
    have hvalue : digitsValue (cs ++ [c]) = 10 * digitsValue cs + (c.toNat - 48) := by
      rw [digitsValue, Nat.ofDigitChars_append, Nat.ofDigitChars_cons, Nat.ofDigitChars_nil]
      rfl
    by_cases hcs : cs = []
    · subst hcs
      rw [hvalue, digits, show digitsValue [] = 0 from rfl, Nat.mul_zero, Nat.zero_add,
        Nat.toDigits_of_lt_base hlt, hc]
      rfl
    · have hhead : (cs ++ [c]).head? = cs.head? := by
        rw [List.head?_append, List.head?_eq_some_head hcs, Option.some_or]
      have hz' : cs.head? ≠ some '0' := by
        rcases hz with hz | hz
        · simp [hcs] at hz
        · rwa [hhead] at hz
      have hdigits := ih hcs (fun c hc => hd c (List.mem_append_left _ hc)) (.inr hz')
      have hpos : 0 < digitsValue cs := by
        apply Nat.pos_of_ne_zero
        intro h0
        rw [h0] at hdigits
        rw [← hdigits] at hz'
        exact hz' rfl
      rw [hvalue, digits, ← Nat.toDigits_append_toDigits (by decide) hpos hlt,
        Nat.toDigits_of_lt_base hlt, hc]
      exact congrArg (· ++ [c]) hdigits

end Text

namespace Ipv6

open Text

/-- A hexadecimal digit of either case, by its place among them. -/
def IsHexDigit (c : Char) (d : Nat) : Prop :=
  "0123456789abcdef".toList[d]? = some c ∨ "0123456789ABCDEF".toList[d]? = some c

inductive Hex : List Char → Nat → Prop where
  | nil : Hex [] 0
  | snoc {cs : List Char} {n d : Nat} {c : Char} (h : Hex cs n) (hc : IsHexDigit c d) :
    Hex (cs ++ [c]) (n * 16 + d)

structure SpellsGroup (cs : List Char) (g : UInt16) : Prop where
  ne_nil : cs ≠ []
  length_le : cs.length ≤ 4
  value : Hex cs g.toNat

def dottedChars (a b c d : Nat) : List Char := ['.'].intercalate ([a, b, c, d].map digits)

/-- Parts spell groups one by one. The last one may be a dotted address if that is allowed. -/
inductive Parts (dotted : Bool) : List (List Char) → List UInt16 → Prop where
  | last {p : List Char} {g : UInt16} (h : SpellsGroup p g) : Parts dotted [p] [g]
  | dots {a b c d : Nat} (h : dotted = true) (ha : a < 256) (hb : b < 256) (hc : c < 256)
    (hd : d < 256) :
    Parts dotted [dottedChars a b c d] [UInt16.ofNat (a * 256 + b), UInt16.ofNat (c * 256 + d)]
  | cons {p : List Char} {ps : List (List Char)} {g : UInt16} {gs : List UInt16}
    (h : SpellsGroup p g) (hps : Parts dotted ps gs) : Parts dotted (p :: ps) (g :: gs)

/-- What stands on a side of a gap: nothing, or parts with colons between them. -/
inductive Side (dotted : Bool) : List Char → List UInt16 → Prop where
  | empty : Side dotted [] []
  | parts {ps : List (List Char)} {gs : List UInt16} (h : Parts dotted ps gs) :
    Side dotted ([':'].intercalate ps) gs

/-- The spellings of an address. A gap stands for one zero group or more. -/
inductive Spells : List Char → Ipv6 → Prop where
  | full {ps : List (List Char)} {a : Ipv6} (h : Parts true ps a.groups) :
    Spells ([':'].intercalate ps) a
  | gap {l r : List Char} {ls rs : List UInt16} {a : Ipv6} (hl : Side false l ls)
    (hr : Side true r rs) (hlength : ls.length + rs.length ≤ 7)
    (ha : a.groups = ls ++ List.replicate (8 - ls.length - rs.length) 0 ++ rs) :
    Spells (l ++ ':' :: ':' :: r) a

variable {cs l r : List Char} {c : Char} {n d : Nat} {g : UInt16} {gs ls rs : List UInt16}
  {p : List Char} {ps : List (List Char)} {dotted : Bool} {a : Ipv6}

instance : Decidable (IsHexDigit c d) := inferInstanceAs (Decidable (_ ∨ _))

theorem IsHexDigit.lt (h : IsHexDigit c d) : d < 16 := by
  rcases h with h | h
  · exact (List.getElem?_eq_some_iff.1 h).1
  · exact (List.getElem?_eq_some_iff.1 h).1

theorem hexValue?_eq_some_iff : hexValue? c = some d ↔ IsHexDigit c d := by
  -- digits are among the first 128 characters, and of those each can be tried
  have hsmall : ∀ n < 128, ∀ d ∈ hexValue? (Char.ofNat n), IsHexDigit (Char.ofNat n) d := by
    decide
  have hlower : ∀ d < 16, hexValue? ("0123456789abcdef".toList[d]?.getD ' ') = some d := by decide
  have hupper : ∀ d < 16, hexValue? ("0123456789ABCDEF".toList[d]?.getD ' ') = some d := by decide
  constructor
  · intro h
    have hc : c.toNat < 128 := by
      simp only [hexValue?, isDigit, Bool.and_eq_true, decide_eq_true_eq, Char.le_def] at h
      have hle {a b : Char} (hc : a.val ≤ c.val ∧ c.val ≤ b.val) : c.toNat ≤ b.toNat := hc.2
      split at h
      next hc => exact Nat.lt_of_le_of_lt (hle hc) (by decide)
      next =>
        split at h
        next hc => exact Nat.lt_of_le_of_lt (hle hc) (by decide)
        next =>
          split at h
          next hc => exact Nat.lt_of_le_of_lt (hle hc) (by decide)
          next => cases h
    have hd := hsmall c.toNat hc d
    rw [Char.ofNat_toNat] at hd
    exact hd h
  · intro h
    have hlt := h.lt
    rcases h with h | h
    · have hd := hlower d hlt
      rwa [h] at hd
    · have hd := hupper d hlt
      rwa [h] at hd

theorem Hex.lt (h : Hex cs n) : n < Nat.pow 16 cs.length := by
  induction h with
  | nil => decide
  | snoc h hc ih =>
    have hd := hc.lt
    rw [List.length_append, List.length_singleton, Nat.pow_eq, Nat.pow_succ, ← Nat.pow_eq]
    omega

theorem foldlM_hexValue?_eq_some_iff :
    cs.foldlM (fun n c => (hexValue? c).map (n * 16 + ·)) 0 = some n ↔ Hex cs n := by
  constructor
  · intro h
    induction cs using List.reverseRecOn generalizing n with
    | nil =>
      cases h
      exact .nil
    | append_singleton cs c ih =>
      simp only [List.foldlM_append, Option.bind_eq_bind, Option.bind_eq_some_iff,
        List.foldlM_cons, List.foldlM_nil, Option.map_eq_some_iff] at h
      obtain ⟨m, hm, k, ⟨d, hd, rfl⟩, hk⟩ := h
      cases hk
      exact .snoc (ih hm) (hexValue?_eq_some_iff.1 hd)
  · intro h
    induction h with
    | nil => rfl
    | snoc h hc ih =>
      rw [List.foldlM_append, ih, Option.bind_eq_bind, Option.bind_some, List.foldlM_cons,
        hexValue?_eq_some_iff.2 hc]
      rfl

theorem group?_eq_some_iff : group? cs = some g ↔ SpellsGroup cs g := by
  have hbound {n : Nat} (h : Hex cs n) (hlength : cs.length ≤ 4) : (UInt16.ofNat n).toNat = n := by
    have hlt := h.lt
    have hpow : Nat.pow 16 cs.length ≤ Nat.pow 16 4 := Nat.pow_le_pow_right (by decide) hlength
    exact UInt16.toNat_ofNat_of_lt' (Nat.lt_of_lt_of_le hlt hpow)
  rw [group?]
  split
  next h =>
    simp only [Bool.or_eq_true, List.isEmpty_iff, decide_eq_true_iff] at h
    refine iff_of_false nofun fun hg => ?_
    rcases h with h | h
    · exact hg.ne_nil h
    · exact Nat.not_lt.2 hg.length_le h
  next h =>
    simp only [Bool.or_eq_true, List.isEmpty_iff, decide_eq_true_iff, not_or, Nat.not_lt] at h
    simp only [Option.map_eq_some_iff, foldlM_hexValue?_eq_some_iff]
    constructor
    · rintro ⟨n, hn, rfl⟩
      exact ⟨h.1, h.2, by rwa [hbound hn h.2]⟩
    · intro hg
      exact ⟨g.toNat, hg.value, UInt16.ofNat_toNat⟩

theorem octet?_eq_some_iff : octet? cs = some n ↔ n < 256 ∧ cs = digits n := by
  constructor
  · intro h
    rw [octet?, readDigits?] at h
    split at h
    next => cases h
    next hz =>
      split at h
      next => cases h
      next hd =>
        simp only [Bool.or_eq_true, List.isEmpty_iff, Bool.not_eq_true', not_or,
          Bool.not_eq_false, List.all_eq_true] at hd
        simp only [Bool.or_eq_true, Bool.and_eq_true, decide_eq_true_iff, beq_iff_eq, not_or,
          not_and] at hz
        obtain ⟨hvalue, hn⟩ := Option.filter_eq_some_iff.1 h
        cases hvalue
        refine ⟨of_decide_eq_true hn, (digits_digitsValue hd.1 hd.2 ?_).symm⟩
        have hlength := List.length_pos_iff.2 hd.1
        by_cases hone : 1 < cs.length
        · exact .inr (hz.2 hone)
        · exact .inl (by omega)
  · rintro ⟨hn, rfl⟩
    have hall : ∀ n < 256, octet? (digits n) = some n := by decide +kernel
    exact hall n hn

theorem mapM_octet?_eq_some_iff {ns : List Nat} :
    ps.mapM octet? = some ns ↔ ps = ns.map digits ∧ ∀ n ∈ ns, n < 256 := by
  induction ps generalizing ns with
  | nil => cases ns <;> simp
  | cons p ps ih =>
    simp only [List.mapM_cons, Option.bind_eq_bind, Option.bind_eq_some_iff, octet?_eq_some_iff,
      ih, Option.pure_def, Option.some.injEq]
    cases ns with
    | nil => simp
    | cons n ns =>
      simp only [List.map_cons, List.cons.injEq, List.forall_mem_cons]
      constructor
      · rintro ⟨m, ⟨hm, rfl⟩, ms, ⟨rfl, hms⟩, rfl, rfl⟩
        exact ⟨⟨rfl, rfl⟩, hm, hms⟩
      · rintro ⟨⟨rfl, rfl⟩, hm, hms⟩
        exact ⟨n, ⟨hm, rfl⟩, ns, ⟨rfl, hms⟩, rfl, rfl⟩

theorem not_mem_digits (h : isDigit c = false) (n : Nat) : c ∉ digits n := by
  intro hc
  rw [isDigit_of_mem_digits hc] at h
  cases h

theorem splitChars_dottedChars (a b c d : Nat) :
    splitChars (· == '.') (dottedChars a b c d) = [a, b, c, d].map digits := by
  apply splitChars_intercalate (by simp)
  intro part hpart
  obtain ⟨n, -, rfl⟩ := List.mem_map.1 hpart
  exact not_mem_digits rfl n

theorem dotted?_eq_some_iff : dotted? cs = some gs ↔ ∃ a b c d, a < 256 ∧ b < 256 ∧ c < 256 ∧
    d < 256 ∧ cs = dottedChars a b c d ∧
    gs = [UInt16.ofNat (a * 256 + b), UInt16.ofNat (c * 256 + d)] := by
  simp only [dotted?, Option.bind_eq_bind, Option.bind_eq_some_iff, mapM_octet?_eq_some_iff]
  constructor
  · rintro ⟨ns, ⟨hsplit, hns⟩, h⟩
    split at h
    next a b c d =>
      cases h
      simp only [List.forall_mem_cons] at hns
      obtain ⟨ha, hb, hc, hd, -⟩ := hns
      refine ⟨a, b, c, d, ha, hb, hc, hd, ?_, rfl⟩
      rw [dottedChars, ← hsplit, intercalate_splitChars]
    next => cases h
  · rintro ⟨a, b, c, d, ha, hb, hc, hd, rfl, rfl⟩
    refine ⟨[a, b, c, d], ⟨splitChars_dottedChars a b c d, ?_⟩, rfl⟩
    simpa using ⟨ha, hb, hc, hd⟩

theorem Hex.isHexDigit (h : Hex cs n) (hc : c ∈ cs) : ∃ d, IsHexDigit c d := by
  induction h with
  | nil => cases hc
  | snoc h hd ih =>
    rcases List.mem_append.1 hc with hc | hc
    · exact ih hc
    · rw [List.mem_singleton.1 hc]
      exact ⟨_, hd⟩

theorem SpellsGroup.not_mem (h : SpellsGroup p g) (hc : hexValue? c = none) : c ∉ p := by
  intro hm
  obtain ⟨d, hd⟩ := h.value.isHexDigit hm
  rw [hexValue?_eq_some_iff.2 hd] at hc
  cases hc

theorem mem_dottedChars {a b d e : Nat} (h : c ∈ dottedChars a b d e) :
    c = '.' ∨ isDigit c = true := by
  rcases eq_or_mem_of_mem_intercalate h with h | ⟨part, hpart, hc⟩
  · exact .inl h
  · obtain ⟨n, -, rfl⟩ := List.mem_map.1 hpart
    exact .inr (isDigit_of_mem_digits hc)

theorem dot_mem_dottedChars (a b c d : Nat) : '.' ∈ dottedChars a b c d := by
  simp [dottedChars, List.intercalate_cons_cons]

theorem Parts.ne_nil (h : Parts dotted ps gs) : ps ≠ [] := by
  cases h <;> exact List.cons_ne_nil _ _

theorem groups?_cons (hne : ps ≠ []) : groups? (p :: ps) = do
    let g ← group? p
    let gs ← groups? ps
    return g :: gs := by
  obtain ⟨q, qs, rfl⟩ := List.exists_cons_of_ne_nil hne
  rfl

theorem groups?_singleton_eq_some_iff : groups? [p] = some gs ↔ Parts true [p] gs := by
  rw [groups?]
  constructor
  · intro h
    split at h
    next =>
      obtain ⟨a, b, c, d, ha, hb, hc, hd, rfl, rfl⟩ := dotted?_eq_some_iff.1 h
      exact .dots rfl ha hb hc hd
    next =>
      obtain ⟨g, hg, rfl⟩ := Option.map_eq_some_iff.1 h
      exact .last (group?_eq_some_iff.1 hg)
  · intro h
    cases h with
    | last h =>
      have hdot : p.contains '.' = false := by
        simpa using h.not_mem (c := '.') rfl
      rw [hdot, if_neg Bool.false_ne_true, group?_eq_some_iff.2 h]
      rfl
    | @dots a b c d _ ha hb hc hd =>
      have hdot : (dottedChars a b c d).contains '.' = true := by
        simpa using dot_mem_dottedChars a b c d
      rw [hdot, if_pos rfl]
      exact dotted?_eq_some_iff.2 ⟨a, b, c, d, ha, hb, hc, hd, rfl, rfl⟩
    | cons h hps => exact absurd rfl hps.ne_nil

theorem Parts.cons_iff (hne : ps ≠ []) : Parts dotted (p :: ps) gs ↔
    ∃ g, SpellsGroup p g ∧ ∃ gs', Parts dotted ps gs' ∧ g :: gs' = gs := by
  constructor
  · intro h
    cases h with
    | last h => exact absurd rfl hne
    | dots => exact absurd rfl hne
    | cons h hps => exact ⟨_, h, _, hps, rfl⟩
  · rintro ⟨g, hg, gs, hgs, rfl⟩
    exact .cons hg hgs

theorem groups?_eq_some_iff (hne : ps ≠ []) : groups? ps = some gs ↔ Parts true ps gs := by
  induction ps generalizing gs with
  | nil => exact absurd rfl hne
  | cons p ps ih =>
    by_cases hps : ps = []
    · subst hps
      exact groups?_singleton_eq_some_iff
    · simp only [groups?_cons hps, Option.bind_eq_bind, Option.bind_eq_some_iff,
        group?_eq_some_iff, ih hps, Option.pure_def, Option.some.injEq, Parts.cons_iff hps]

theorem mapM_group?_eq_some_iff (hne : ps ≠ []) :
    ps.mapM group? = some gs ↔ Parts false ps gs := by
  induction ps generalizing gs with
  | nil => exact absurd rfl hne
  | cons p ps ih =>
    simp only [List.mapM_cons, Option.bind_eq_bind, Option.bind_eq_some_iff,
      group?_eq_some_iff, Option.pure_def, Option.some.injEq]
    by_cases hps : ps = []
    · subst hps
      constructor
      · rintro ⟨g, hg, gs, hgs, rfl⟩
        cases hgs
        exact .last hg
      · intro h
        cases h with
        | last h => exact ⟨_, h, [], rfl, rfl⟩
        | dots h => cases h
        | cons h hps => exact absurd rfl hps.ne_nil
    · simp only [ih hps, Parts.cons_iff hps]

theorem Parts.colon_not_mem (h : Parts dotted ps gs) : ∀ p ∈ ps, ':' ∉ p := by
  induction h with
  | last h => simpa using h.not_mem (c := ':') rfl
  | dots =>
    simp only [List.forall_mem_singleton]
    intro h
    rcases mem_dottedChars h with h | h <;> cases h
  | cons h hps ih => exact List.forall_mem_cons.2 ⟨h.not_mem rfl, ih⟩

theorem Parts.part_ne_nil (h : Parts dotted ps gs) : ∀ p ∈ ps, p ≠ [] := by
  induction h with
  | last h => simpa using h.ne_nil
  | dots =>
    simp only [List.forall_mem_singleton]
    exact List.ne_nil_of_mem (dot_mem_dottedChars _ _ _ _)
  | cons h hps ih => exact List.forall_mem_cons.2 ⟨h.ne_nil, ih⟩

theorem side?_eq_some_iff {read : List (List Char) → Option (List UInt16)}
    (hread : ∀ {ps gs}, ps ≠ [] → (read ps = some gs ↔ Parts dotted ps gs)) :
    side? read cs = some gs ↔ Side dotted cs gs := by
  rw [side?]
  constructor
  · intro h
    split at h
    next hcs =>
      cases h
      rw [List.isEmpty_iff.1 hcs]
      exact .empty
    next =>
      have hside := Side.parts ((hread (splitChars_ne_nil _ _)).1 h)
      rwa [intercalate_splitChars] at hside
  · intro h
    cases h with
    | empty => rfl
    | @parts ps _ h =>
      have hsplit := splitChars_intercalate h.ne_nil h.colon_not_mem
      have hcs : [':'].intercalate ps ≠ [] := by
        intro hnil
        rw [hnil] at hsplit
        exact h.part_ne_nil [] (hsplit ▸ List.mem_singleton_self []) rfl
      rw [if_neg (by simpa using hcs), hsplit]
      exact (hread h.ne_nil).2 h

theorem splitGap?_append (h : ':' ∉ p) (cs : List Char) :
    splitGap? (p ++ cs) = (splitGap? cs).map (Prod.map (p ++ ·) id) := by
  induction p with
  | nil => exact Option.map_id'.symm
  | cons c p ih =>
    obtain ⟨hc, hp⟩ := not_or.1 (List.mem_cons.not.1 h)
    rw [List.cons_append, splitGap?.eq_3 _ _ (by rintro _ rfl _; exact hc rfl), ih hp]
    cases splitGap? cs <;> rfl

theorem splitGap?_colon (h : cs.head? ≠ some ':') :
    splitGap? (':' :: cs) = (splitGap? cs).map (Prod.map (':' :: ·) id) := by
  rw [splitGap?.eq_3 _ _ (by rintro ds - rfl; exact h rfl)]
  cases splitGap? cs <;> rfl

theorem Parts.exists_cons (h : Parts dotted ps gs) :
    ∃ c cs, [':'].intercalate ps = c :: cs ∧ c ≠ ':' := by
  obtain ⟨p, ps, rfl⟩ := List.exists_cons_of_ne_nil h.ne_nil
  obtain ⟨c, cs, rfl⟩ := List.exists_cons_of_ne_nil (h.part_ne_nil p List.mem_cons_self)
  have hc : c ≠ ':' := by
    rintro rfl
    exact h.colon_not_mem _ List.mem_cons_self List.mem_cons_self
  cases ps with
  | nil => exact ⟨c, cs, List.intercalate_singleton, hc⟩
  | cons q qs => exact ⟨c, _, List.intercalate_cons_cons, hc⟩

theorem Parts.splitGap?_append (h : Parts dotted ps gs) (cs : List Char) :
    splitGap? ([':'].intercalate ps ++ cs) =
      (splitGap? cs).map (Prod.map ([':'].intercalate ps ++ ·) id) := by
  induction h with
  | last h =>
    rw [List.intercalate_singleton]
    exact Ipv6.splitGap?_append (h.not_mem rfl) cs
  | @dots a b c d h ha hb hc hd =>
    have hcolon := (Parts.dots h ha hb hc hd).colon_not_mem _ List.mem_cons_self
    rw [List.intercalate_singleton]
    exact Ipv6.splitGap?_append hcolon cs
  | @cons p ps g gs h hps ih =>
    obtain ⟨q, qs, rfl⟩ := List.exists_cons_of_ne_nil hps.ne_nil
    obtain ⟨c, ds, hds, hc⟩ := hps.exists_cons
    rw [List.intercalate_cons_cons, List.append_assoc, List.append_assoc,
      Ipv6.splitGap?_append (h.not_mem rfl), List.singleton_append, splitGap?_colon, ih,
      Option.map_map, Option.map_map]
    · cases splitGap? cs <;> simp [Prod.map]
    · rw [hds]
      simpa using hc

theorem Side.splitGap?_append (h : Side dotted l ls) (r : List Char) :
    splitGap? (l ++ ':' :: ':' :: r) = some (l, r) := by
  have hgap : splitGap? (':' :: ':' :: r) = some ([], r) := rfl
  cases h with
  | empty => exact hgap
  | parts h =>
    rw [h.splitGap?_append, hgap, Option.map_some, Prod.map_apply, List.append_nil]
    rfl

theorem eq_of_splitGap? (h : splitGap? cs = some (l, r)) : cs = l ++ ':' :: ':' :: r := by
  induction cs using splitGap?.induct generalizing l with
  | case1 => cases h
  | case2 cs =>
    cases h
    rfl
  | case3 c cs hne ih =>
    rw [splitGap?.eq_3 _ _ hne] at h
    obtain ⟨⟨l', r'⟩, hsplit, heq⟩ := Option.map_eq_some_iff.1 h
    cases heq
    rw [ih hsplit, List.cons_append]

theorem ofGroups?_eq_some_iff : ofGroups? gs = some a ↔ a.groups = gs := by
  rw [ofGroups?]
  constructor
  · intro h
    split at h
    · cases h
      rfl
    · cases h
  · rintro rfl
    rw [dif_pos a.length_eq]

/-- An address is read from exactly its spellings. -/
theorem parse?_eq_some_iff : parse? cs = some a ↔ Spells cs a := by
  have hleft {cs gs} : side? (·.mapM group?) cs = some gs ↔ Side false cs gs :=
    side?_eq_some_iff mapM_group?_eq_some_iff
  have hright {cs gs} : side? groups? cs = some gs ↔ Side true cs gs :=
    side?_eq_some_iff groups?_eq_some_iff
  rw [parse?]
  constructor
  · intro h
    split at h
    next =>
      simp only [Option.bind_eq_some_iff, hright, ofGroups?_eq_some_iff] at h
      obtain ⟨gs, hside, hgs⟩ := h
      cases hside with
      | empty =>
        have hlength := a.length_eq
        rw [hgs] at hlength
        cases hlength
      | parts h => exact .full (hgs ▸ h)
    next l r hgap =>
      simp only [Option.bind_eq_bind, Option.bind_eq_some_iff, hright, hleft] at h
      obtain ⟨ls, hl, rs, hr, h⟩ := h
      split at h
      next => cases h
      next hlength =>
        rw [eq_of_splitGap? hgap]
        exact .gap hl hr (Nat.not_lt.1 hlength) (ofGroups?_eq_some_iff.1 h)
  · intro h
    cases h with
    | full h =>
      have hgap := h.splitGap?_append []
      rw [List.append_nil] at hgap
      simp only [hgap, splitGap?, Option.map_none, hright.2 (.parts h), Option.bind_some]
      exact ofGroups?_eq_some_iff.2 rfl
    | gap hl hr hlength ha =>
      simp only [hl.splitGap?_append, hleft.2 hl, hright.2 hr, Option.bind_eq_bind,
        Option.bind_some, if_neg (Nat.not_lt.2 hlength)]
      exact ofGroups?_eq_some_iff.2 ha

def IsAddressChar (c : Char) : Prop := c = ':' ∨ c = '.' ∨ ∃ d, IsHexDigit c d

theorem IsAddressChar.mem (h : IsAddressChar c) :
    c ∈ ":.0123456789abcdef0123456789ABCDEF".toList := by
  have hchars : ":.0123456789abcdef0123456789ABCDEF".toList =
      [':', '.'] ++ "0123456789abcdef".toList ++ "0123456789ABCDEF".toList := rfl
  rw [hchars, List.mem_append, List.mem_append]
  rcases h with rfl | rfl | ⟨d, h | h⟩
  · exact .inl (.inl (by decide))
  · exact .inl (.inl (by decide))
  · exact .inl (.inr (List.mem_of_getElem? h))
  · exact .inr (List.mem_of_getElem? h)

theorem IsAddressChar.of_all {p : Char → Bool}
    (hp : ":.0123456789abcdef0123456789ABCDEF".toList.all p = true) (h : IsAddressChar c) :
    p c = true :=
  List.all_eq_true.1 hp c h.mem

theorem isAddressChar_of_isDigit (h : isDigit c = true) : IsAddressChar c := by
  have hvalue : hexValue? c = some (c.toNat - 48) := if_pos h
  exact .inr (.inr ⟨_, hexValue?_eq_some_iff.1 hvalue⟩)

theorem isAddressChar_of_mem_dottedChars {a b d e : Nat} (h : c ∈ dottedChars a b d e) :
    IsAddressChar c := by
  rcases mem_dottedChars h with h | h
  · exact .inr (.inl h)
  · exact isAddressChar_of_isDigit h

theorem Parts.isAddressChar (h : Parts dotted ps gs) : ∀ p ∈ ps, ∀ c ∈ p, IsAddressChar c := by
  induction h with
  | last h => simpa using fun c hc => .inr (.inr (h.value.isHexDigit hc))
  | dots => simpa using fun c hc => isAddressChar_of_mem_dottedChars hc
  | cons h hps ih =>
    exact List.forall_mem_cons.2 ⟨fun c hc => .inr (.inr (h.value.isHexDigit hc)), ih⟩

theorem Side.isAddressChar (h : Side dotted l ls) (hc : c ∈ l) : IsAddressChar c := by
  cases h with
  | empty => cases hc
  | parts h =>
    rcases eq_or_mem_of_mem_intercalate hc with hc | ⟨p, hp, hc⟩
    · exact .inl hc
    · exact h.isAddressChar p hp c hc

theorem Spells.isAddressChar (h : Spells cs a) (hc : c ∈ cs) : IsAddressChar c := by
  cases h with
  | full h => exact (Side.parts h).isAddressChar hc
  | gap hl hr =>
    rcases List.mem_append.1 hc with hc | hc
    · exact hl.isAddressChar hc
    · simp only [List.mem_cons] at hc
      rcases hc with hc | hc | hc
      · exact .inl hc
      · exact .inl hc
      · exact hr.isAddressChar hc

theorem Parts.length_le (h : Parts dotted ps gs) : gs.length ≤ ps.length + 1 := by
  induction h with
  | last h => exact Nat.le_succ 1
  | dots => exact Nat.le_refl 2
  | cons h hps ih => exact Nat.succ_le_succ ih

/-- Every spelling has a colon, which none of a dotted address has. -/
theorem Spells.colon_mem (h : Spells cs a) : ':' ∈ cs := by
  cases h with
  | @full ps _ h =>
    have hlength := h.length_le
    rw [a.length_eq] at hlength
    match ps with
    | [] => simp at hlength
    | [_] => simp at hlength
    | p :: q :: qs =>
      rw [List.intercalate_cons_cons]
      exact List.mem_append_left _ (List.mem_append_right _ List.mem_cons_self)
  | gap => exact List.mem_append_right _ List.mem_cons_self

theorem parse?_dottedChars (a b c d : Nat) : parse? (dottedChars a b c d) = none := by
  rw [Option.eq_none_iff_forall_not_mem]
  intro e h
  have hcolon := (parse?_eq_some_iff.1 h).colon_mem
  rcases mem_dottedChars hcolon with h | h <;> cases h

theorem isHexDigit_digitChar (h : d < 16) : IsHexDigit (Nat.digitChar d) d := by
  have hall : ∀ d < 16, IsHexDigit (Nat.digitChar d) d := by decide
  exact hall d h

theorem hex_hexDigits (n : Nat) : Hex (hexDigits n) n := by
  induction n using Nat.strongRecOn with
  | ind n ih =>
    by_cases hn : n < 16
    · have h := Hex.snoc .nil (isHexDigit_digitChar hn)
      rwa [Nat.zero_mul, Nat.zero_add, List.nil_append, ← Nat.toDigits_of_lt_base hn] at h
    · have h := Hex.snoc (ih (n / 16) (by omega)) (isHexDigit_digitChar (d := n % 16) (by omega))
      rw [Nat.div_add_mod'] at h
      rwa [hexDigits, ← Nat.toDigits_of_base_le (by decide) (Nat.not_lt.1 hn)] at h

theorem spellsGroup_hexDigits (g : UInt16) : SpellsGroup (hexDigits g.toNat) g where
  ne_nil := Nat.toDigits_ne_nil
  length_le := (Nat.length_toDigits_le_iff (by decide) (by decide)).2 g.toNat_lt
  value := hex_hexDigits g.toNat

theorem parts_hexDigits (hne : gs ≠ []) :
    Parts dotted (gs.map fun g => hexDigits g.toNat) gs := by
  induction gs with
  | nil => exact absurd rfl hne
  | cons g gs ih =>
    by_cases hgs : gs = []
    · subst hgs
      exact .last (spellsGroup_hexDigits g)
    · exact .cons (spellsGroup_hexDigits g) (ih hgs)

theorem toList_groupsText (gs : List UInt16) :
    (groupsText gs).toList = [':'].intercalate (gs.map fun g => hexDigits g.toNat) := by
  simp [groupsText, String.toList_intercalate, Function.comp_def]

theorem side_groupsText (gs : List UInt16) : Side dotted (groupsText gs).toList gs := by
  rw [toList_groupsText]
  by_cases hgs : gs = []
  · subst hgs
    exact .empty
  · exact .parts (parts_hexDigits hgs)

theorem zeroRun_longestRun (h : 2 ≤ (longestRun gs).2) :
    zeroRun (gs.drop (longestRun gs).1) = (longestRun gs).2 := by
  have hrun : (longestRun gs).2 = 0 ∨
      zeroRun (gs.drop (longestRun gs).1) = (longestRun gs).2 := by
    apply List.foldlRecOn (List.range gs.length) _
      (motive := fun best : Nat × Nat => best.2 = 0 ∨ zeroRun (gs.drop best.1) = best.2)
    · exact .inl rfl
    · intro best hbest i _
      dsimp only
      split
      next => exact .inr rfl
      next => exact hbest
  exact hrun.resolve_left (by omega)

theorem takeWhile_zero (gs : List UInt16) :
    gs.takeWhile (· == 0) = List.replicate (zeroRun gs) 0 := by
  apply List.eq_replicate_of_mem
  intro g hg
  exact beq_iff_eq.1 (List.all_eq_true.1 List.all_takeWhile g hg)

theorem dropWhile_zero (gs : List UInt16) : gs.dropWhile (· == 0) = gs.drop (zeroRun gs) := by
  have hsplit : gs.takeWhile (· == 0) ++ gs.dropWhile (· == 0) = gs :=
    List.takeWhile_append_dropWhile
  have hdrop := congrArg (List.drop (zeroRun gs)) hsplit
  rwa [zeroRun, List.drop_left, ← zeroRun] at hdrop

/-- The groups are those before the run, its zeros, and those after it. -/
theorem groups_eq_of_longestRun (h : 2 ≤ (longestRun gs).2) :
    gs.take (longestRun gs).1 ++ List.replicate (longestRun gs).2 0 ++
      gs.drop ((longestRun gs).1 + (longestRun gs).2) = gs := by
  have hzeros := takeWhile_zero (gs.drop (longestRun gs).1)
  have hrest := dropWhile_zero (gs.drop (longestRun gs).1)
  rw [zeroRun_longestRun h] at hzeros hrest
  rw [List.append_assoc, ← List.drop_drop, ← hzeros, ← hrest, List.takeWhile_append_dropWhile,
    List.take_append_drop]

/-- The canonical text of an address spells it. -/
theorem spells_text (a : Ipv6) : Spells a.text.toList a := by
  simp only [text]
  by_cases hrun : (longestRun a.groups).2 < 2
  · rw [if_pos hrun, toList_groupsText]
    apply Spells.full
    apply parts_hexDigits
    exact List.ne_nil_of_length_eq_add_one a.length_eq
  · have hgroups := groups_eq_of_longestRun (Nat.not_lt.1 hrun)
    have hlength := congrArg List.length hgroups
    simp only [List.length_append, List.length_replicate, a.length_eq] at hlength
    have hzeros : 8 - (a.groups.take (longestRun a.groups).1).length -
        (a.groups.drop ((longestRun a.groups).1 + (longestRun a.groups).2)).length =
          (longestRun a.groups).2 := by omega
    rw [if_neg hrun, String.toList_append, String.toList_append, List.append_assoc]
    apply Spells.gap (side_groupsText _) (side_groupsText _)
    · omega
    · rw [hzeros, hgroups]

end Ipv6

end ClusterAccess
