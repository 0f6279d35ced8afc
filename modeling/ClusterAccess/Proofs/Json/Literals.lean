import ClusterAccess.Proofs.Json.Lexing
import ClusterAccess.Proofs.Text

namespace ClusterAccess.Json

open Text

variable {ts : List Token} {cs seen : List Char} {c : Char}

/-- A control character without an escape of its own is written by its number. -/
def piece (c : Char) : Piece :=
  if c.toNat < 0x20 && !(['\x08', '\x0c', '\n', '\r', '\t'].contains c) then .unit c.toNat
  else .char c

def pieces (s : String) : List Piece := s.toList.map piece

theorem hexValue?_hexDigit {n : Nat} (h : n < 16) : hexValue? (hexDigit n) = some n := by
  have hall : ∀ k : Fin 16, hexValue? (hexDigit k) = some k.val := by decide
  exact hall ⟨n, h⟩

theorem run_escapedNumber (ps : List Piece) (h : c.toNat < 0x20) :
    (Lexer.mk (.string ps) ts).run
        ['\\', 'u', '0', '0', hexDigit (c.toNat / 16), hexDigit (c.toNat % 16)] =
      some ⟨.string (.unit c.toNat :: ps), ts⟩ := by
  have hzero : hexValue? '0' = some 0 := rfl
  have hhigh := hexValue?_hexDigit (n := c.toNat / 16) (by omega)
  have hlow := hexValue?_hexDigit (n := c.toNat % 16) (by omega)
  have hunit : c.toNat / 16 * 16 + c.toNat % 16 = c.toNat := by omega
  have hescape : (Lexer.mk (.string ps) ts).run ['\\', 'u'] = some ⟨.hex ps 0 4, ts⟩ := rfl
  have hdigits : (Lexer.mk (.hex ps 0 4) ts).run
      ['0', '0', hexDigit (c.toNat / 16), hexDigit (c.toNat % 16)] =
        some ⟨.string (.unit c.toNat :: ps), ts⟩ := by
    simp [Lexer.run, Lexer.step, hzero, hhigh, hlow, hunit]
  have hsplit : ['\\', 'u', '0', '0', hexDigit (c.toNat / 16), hexDigit (c.toNat % 16)] =
      ['\\', 'u'] ++ ['0', '0', hexDigit (c.toNat / 16), hexDigit (c.toNat % 16)] := rfl
  rw [hsplit, Lexer.run_append, hescape, Option.bind_some, hdigits]

theorem run_stringChar (ps : List Piece) (c : Char) :
    (Lexer.mk (.string ps) ts).run (stringChar c) = some ⟨.string (piece c :: ps), ts⟩ := by
  fun_cases stringChar c
  case case8 hquote hslash hb hf hn hr ht hc =>
    have hnot : ['\x08', '\x0c', '\n', '\r', '\t'].contains c = false := by
      simp only [List.contains_cons, List.contains_nil, Bool.or_false, Bool.or_eq_false_iff]
      exact ⟨beq_false_of_ne hb, beq_false_of_ne hf, beq_false_of_ne hn, beq_false_of_ne hr,
        beq_false_of_ne ht⟩
    rw [run_escapedNumber ps hc, piece, hnot, decide_eq_true hc]
    rfl
  case case9 hquote hslash _ _ _ _ _ hc =>
    have hstep : (Lexer.mk (.string ps) ts).step c = some ⟨.string (.char c :: ps), ts⟩ := by
      simp only [Lexer.step, beq_false_of_ne hquote, beq_false_of_ne hslash, if_neg hc,
        Bool.false_eq_true, if_false]
    rw [piece, decide_eq_false hc, Lexer.run_cons, hstep]
    rfl
  all_goals rfl

theorem run_stringChars (ps : List Piece) (cs : List Char) :
    (Lexer.mk (.string ps) ts).run (cs.flatMap stringChar) =
      some ⟨.string ((cs.map piece).reverse ++ ps), ts⟩ := by
  induction cs generalizing ps with
  | nil => rfl
  | cons c cs ih =>
    rw [List.flatMap_cons, Lexer.run_append, run_stringChar, Option.bind_some, ih, List.map_cons,
      List.reverse_cons, List.append_assoc, List.singleton_append]

theorem closes_string (s : String) : Closes (stringChars s) [.string (pieces s)] := by
  intro before
  have hopen : (Lexer.mk .between before).run ['"'] = some ⟨.string [], before⟩ := rfl
  have hclose (ps : List Piece) : (Lexer.mk (.string ps) before).run ['"'] =
      some ⟨.between, .string ps.reverse :: before⟩ := rfl
  rw [stringChars, ← List.singleton_append, Lexer.run_append, Lexer.run_append, hopen,
    Option.bind_some, run_stringChars, Option.bind_some, hclose, List.append_nil,
    List.reverse_reverse]
  rfl

def Number.literal : Number → NumberLiteral
  | .natural n => ⟨false, digits n, [], none⟩
  | .negative n => ⟨true, digits n, [], none⟩
  | .decimal d =>
    ⟨d.negative, digits d.significand, ['0'],
      some (decide (d.exponent < 0), digits d.exponent.natAbs)⟩

theorem head?_digits_ne_zero {n : Nat} (h : n ≠ 0) : (digits n).head? ≠ some '0' := by
  induction n using Nat.strongRecOn with
  | ind n ih =>
    rw [digits, Nat.toDigits_eq_if (by decide)]
    split
    · simpa using h
    next hn =>
      have hne : Nat.toDigits 10 (n / 10) ≠ [] := Nat.toDigits_ne_nil
      rw [List.head?_append_of_ne_nil _ hne]
      exact ih (n / 10) (by omega) (by omega)

theorem all_isDigit_digits (n : Nat) : (digits n).all isDigit = true :=
  List.all_eq_true.2 fun _ hc => isDigit_of_mem_digits hc

theorem isEmpty_digits (n : Nat) : (digits n).isEmpty = false :=
  List.isEmpty_eq_false_iff.2 Nat.toDigits_ne_nil

theorem exists_digits_eq (n : Nat) : ∃ c cs, digits n = c :: cs ∧ isDigit c = true := by
  obtain ⟨c, cs, hcs⟩ := List.exists_cons_of_ne_nil (Nat.toDigits_ne_nil : digits n ≠ [])
  exact ⟨c, cs, hcs, isDigit_of_mem_digits (hcs ▸ List.mem_cons_self)⟩

theorem readExponent?_digits (negative : Bool) (n : Nat) :
    readExponent? ((if negative then ['-'] else []) ++ digits n) = some (negative, digits n) := by
  have hread : (if (digits n).isEmpty || !(digits n).all isDigit then none
      else some (negative, digits n)) = some (negative, digits n) := by
    rw [isEmpty_digits, all_isDigit_digits]
    rfl
  cases negative with
  | true => exact hread
  | false =>
    obtain ⟨c, cs, hcs, hc⟩ := exists_digits_eq n
    rw [if_neg Bool.false_ne_true, List.nil_append, readExponent?.eq_3]
    · exact hread
    · rintro ds hds
      rw [hcs] at hds
      cases hds
      cases hc
    · rintro ds hds
      rw [hcs] at hds
      cases hds
      cases hc

theorem readUnsigned?_digits (negative : Bool) (n : Nat) {rest : List Char}
    (h : ∀ c, rest.head? = some c → isDigit c = false) :
    readUnsigned? negative (digits n ++ rest) = readRest? negative (digits n) rest := by
  have hdigit : ∀ c ∈ digits n, isDigit c = true := fun c => isDigit_of_mem_digits
  have hrest : rest.takeWhile isDigit = [] ∧ rest.dropWhile isDigit = rest := by
    cases rest with
    | nil => exact ⟨rfl, rfl⟩
    | cons c cs => simp [h c rfl]
  have htake : (digits n ++ rest).takeWhile isDigit = digits n := by
    rw [List.takeWhile_append_of_pos hdigit, hrest.1, List.append_nil]
  have hdrop : (digits n ++ rest).dropWhile isDigit = rest := by
    rw [List.dropWhile_append_of_pos hdigit, hrest.2]
  have hzero : ((digits n).head? == some '0' && decide ((digits n).length > 1)) = false := by
    by_cases hn : n = 0
    · subst hn
      rfl
    · rw [beq_false_of_ne (head?_digits_ne_zero hn), Bool.false_and]
  simp only [readUnsigned?, htake, hdrop, isEmpty_digits, hzero, Bool.or_self, Bool.false_eq_true,
    if_false]

theorem ofChars?_digits (n : Nat) (rest : List Char) :
    NumberLiteral.ofChars? (digits n ++ rest) = readUnsigned? false (digits n ++ rest) := by
  obtain ⟨c, cs, hcs, hc⟩ := exists_digits_eq n
  rw [hcs, List.cons_append, NumberLiteral.ofChars?.eq_2]
  rintro ds hds
  cases hds
  cases hc

theorem ofChars?_chars (n : Number) : NumberLiteral.ofChars? n.chars = some n.literal := by
  have hend (negative : Bool) (k : Nat) : readUnsigned? negative (digits k) =
      some ⟨negative, digits k, [], none⟩ := by
    have hnil : ∀ c, ([] : List Char).head? = some c → isDigit c = false := by
      intro c hc
      cases hc
    have hread := readUnsigned?_digits negative k hnil
    rw [List.append_nil] at hread
    exact hread
  cases n with
  | natural k =>
    have hread := ofChars?_digits k []
    rw [List.append_nil, hend] at hread
    exact hread
  | negative k => exact hend true k
  | decimal d =>
    let exponent := (if d.exponent < 0 then ['-'] else []) ++ digits d.exponent.natAbs
    have hunsigned : readUnsigned? d.negative (digits d.significand ++ '.' :: '0' :: 'e' :: exponent) =
        some (Number.decimal d).literal := by
      have hpoint : ∀ c, ('.' :: '0' :: 'e' :: exponent).head? = some c → isDigit c = false := by
        intro c hc
        cases hc
        rfl
      have hread := readExponent?_digits (decide (d.exponent < 0)) d.exponent.natAbs
      simp only [decide_eq_true_eq] at hread
      rw [readUnsigned?_digits _ _ hpoint]
      change (readExponent? exponent).map _ = _
      rw [hread]
      rfl
    have hchars : (Number.decimal d).chars = (if d.negative then ['-'] else []) ++
        (digits d.significand ++ '.' :: '0' :: 'e' :: exponent) := by
      simp [Number.chars, exponent]
    rw [hchars]
    cases hn : d.negative with
    | true =>
      rw [hn] at hunsigned
      exact hunsigned
    | false =>
      rw [hn] at hunsigned
      exact (ofChars?_digits _ _).trans hunsigned

theorem isNumberChar_of_mem_chars {n : Number} (h : c ∈ n.chars) : isNumberChar c = true := by
  have hdigit {k : Nat} (hc : c ∈ digits k) : isNumberChar c = true := by
    simp [isNumberChar, isDigit_of_mem_digits hc]
  cases n with
  | natural k => exact hdigit h
  | negative k =>
    rcases List.mem_cons.1 h with rfl | h
    · rfl
    · exact hdigit h
  | decimal d =>
    have hpoint : ∀ c ∈ ['.', '0', 'e'], isNumberChar c = true := by
      intro c hc
      simp only [List.mem_cons, List.not_mem_nil, or_false] at hc
      obtain rfl | rfl | rfl := hc <;> rfl
    have hsign {b : Prop} [Decidable b] (hc : c ∈ if b then ['-'] else []) :
        isNumberChar c = true := by
      split at hc
      · rw [List.mem_singleton.1 hc]
        rfl
      · cases hc
    simp only [Number.chars, List.mem_append] at h
    rcases h with (((h | h) | h) | h) | h
    · exact hsign h
    · exact hdigit h
    · exact hpoint c h
    · exact hsign h
    · exact hdigit h

theorem exists_chars_eq (n : Number) :
    ∃ c cs, n.chars = c :: cs ∧ (isDigit c = true ∨ c = '-') := by
  have hdigits (k : Nat) (rest : List Char) : ∃ c cs, digits k ++ rest = c :: cs ∧
      (isDigit c = true ∨ c = '-') := by
    obtain ⟨c, cs, hcs, hc⟩ := exists_digits_eq k
    exact ⟨c, cs ++ rest, by rw [hcs, List.cons_append], .inl hc⟩
  cases n with
  | natural k =>
    have hk := hdigits k []
    rw [List.append_nil] at hk
    exact hk
  | negative k => exact ⟨'-', _, rfl, .inr rfl⟩
  | decimal d =>
    rw [Number.chars]
    cases d.negative with
    | true => exact ⟨'-', _, rfl, .inr rfl⟩
    | false =>
      simp only [Bool.false_eq_true, if_false, List.nil_append, List.append_assoc]
      exact hdigits _ _

theorem run_number (h : ∀ c ∈ cs, isNumberChar c = true) :
    (Lexer.mk (.number seen) ts).run cs = some ⟨.number (cs.reverse ++ seen), ts⟩ := by
  induction cs generalizing seen with
  | nil => rfl
  | cons c cs ih =>
    have hstep : (Lexer.mk (.number seen) ts).step c = some ⟨.number (c :: seen), ts⟩ := by
      simp only [Lexer.step, h c List.mem_cons_self, if_true]
    rw [Lexer.run_cons, hstep, Option.bind_some, ih fun d hd => h d (List.mem_cons_of_mem c hd),
      List.reverse_cons, List.append_assoc, List.singleton_append]

theorem begin_number (hc : isDigit c = true ∨ c = '-') :
    Lexer.begin ts c = some ⟨.number [c], ts⟩ := by
  rcases hc with hc | rfl
  · have hne (d : Char) (hd : isDigit d = false) : (c == d) = false := by
      apply beq_false_of_ne
      intro he
      rw [he, hd] at hc
      cases hc
    have hletter : isLetter c = false := by
      rw [isLetter, Bool.and_eq_false_iff]
      left
      simp only [isDigit, Bool.and_eq_true, decide_eq_true_eq] at hc
      exact decide_eq_false fun h => absurd (Char.le_trans h hc.2) (by decide)
    simp only [Lexer.begin, isSpace, hne ' ' rfl, hne '\t' rfl, hne '\n' rfl, hne '\r' rfl,
      hne '"' rfl, hletter, hc, Bool.or_self, Bool.true_or, Bool.false_eq_true, if_false, if_true]
  · rfl

theorem spells_number (n : Number) : Spells n.chars [.number n.literal] := by
  intro before
  obtain ⟨c, cs, hcs, hc⟩ := exists_chars_eq n
  have hall : ∀ d ∈ cs, isNumberChar d = true := fun d hd =>
    isNumberChar_of_mem_chars (n := n) (hcs ▸ List.mem_cons_of_mem c hd)
  have hread : NumberLiteral.ofChars? (cs.reverse ++ [c]).reverse = some n.literal := by
    rw [List.reverse_append, List.reverse_reverse, List.reverse_singleton, List.singleton_append,
      ← hcs, ofChars?_chars]
  refine ⟨_, ?_, Lexer.hasFound_number hread⟩
  rw [hcs, Lexer.run_cons]
  change (Lexer.begin before c).bind _ = _
  rw [begin_number hc, Option.bind_some, run_number hall]
  rfl

theorem spells_null : Spells "null".toList [.null] :=
  fun _ => ⟨_, rfl, Lexer.hasFound_word rfl⟩

theorem spells_bool (b : Bool) : Spells (Json.bool b).chars [.bool b] := by
  intro before
  cases b <;> exact ⟨_, rfl, Lexer.hasFound_word rfl⟩

theorem closes_name (name : String) :
    Closes (stringChars name ++ [':']) [.string (pieces name), .colon] :=
  (closes_string name).append (divides_punctuation ':' rfl fun _ => rfl).closes

end ClusterAccess.Json
