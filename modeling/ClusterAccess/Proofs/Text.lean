import ClusterAccess.Text.Blank
import ClusterAccess.Text.Digits
import Mathlib.Data.List.TakeWhile

namespace ClusterAccess.Text

variable {s s' : Option String} {t : String}

/-- A text is given, and it is not blank. -/
def Given (s : Option String) (t : String) : Prop := s = some t ∧ trim t ≠ ""

/-- No text is given, or a blank one. -/
def Missing (s : Option String) : Prop := ∀ t, s = some t → trim t = ""

inductive FirstGiven : List (Option String) → String → Prop where
  | here {s : Option String} {rest : List (Option String)} {t : String} (h : Given s t) :
    FirstGiven (s :: rest) t
  | later {s : Option String} {rest : List (Option String)} {t : String} (h : Missing s)
    (hr : FirstGiven rest t) : FirstGiven (s :: rest) t

theorem nonBlank?_eq_some_iff : nonBlank? s = some t ↔ Given s t := by
  rw [nonBlank?, Option.filter_eq_some_iff, Given, Ne, trim_eq_empty_iff, Bool.not_eq_true',
    Bool.not_eq_true]

theorem Given.not_blank (h : Given s t) : isBlankText t = false := by
  obtain ⟨-, hb⟩ := h
  rw [Ne, trim_eq_empty_iff, Bool.not_eq_true] at hb
  exact hb

theorem nonBlank?_eq_none_iff : nonBlank? s = none ↔ Missing s := by
  simp only [nonBlank?, Option.filter_eq_none_iff, Missing, trim_eq_empty_iff, Bool.not_eq_true',
    Bool.not_eq_false]

theorem given_or_missing (s : Option String) : (∃ t, Given s t) ∨ Missing s := by
  simp only [← nonBlank?_eq_some_iff, ← nonBlank?_eq_none_iff]
  cases nonBlank? s with
  | some t => exact .inl ⟨t, rfl⟩
  | none => exact .inr rfl

theorem firstGiven_cons {rest : List (Option String)} :
    FirstGiven (s :: rest) t ↔ Given s t ∨ (Missing s ∧ FirstGiven rest t) := by
  constructor
  · intro h
    cases h with
    | here h => exact .inl h
    | later h hr => exact .inr ⟨h, hr⟩
  · rintro (h | ⟨h, hr⟩)
    · exact .here h
    · exact .later h hr

theorem not_firstGiven_nil : ¬ FirstGiven [] t := nofun

theorem orElse_eq_some_iff :
    (nonBlank? s).orElse (fun _ => nonBlank? s') = some t ↔ FirstGiven [s, s'] t := by
  simp only [firstGiven_cons, not_firstGiven_nil, and_false, or_false, ← nonBlank?_eq_some_iff,
    ← nonBlank?_eq_none_iff]
  cases nonBlank? s <;> simp

theorem orElse_eq_none_iff :
    (nonBlank? s).orElse (fun _ => nonBlank? s') = none ↔ Missing s ∧ Missing s' := by
  simp only [← nonBlank?_eq_none_iff]
  cases nonBlank? s <;> simp

variable {c : Char} {cs : List Char}

/-- A text that is not empty, and that neither begins nor ends with a blank. -/
structure IsClean (t : String) : Prop where
  ne_empty : t ≠ ""
  first : ∀ c, t.toList.head? = some c → isBlank c = false
  last : ∀ c, t.toList.getLast? = some c → isBlank c = false

theorem head?_trimLeft (h : (trimLeft cs).head? = some c) : isBlank c = false := by
  have hnot := List.head?_dropWhile_not isBlank cs
  rw [trimLeft] at h
  rw [h] at hnot
  exact hnot

theorem getLast?_trimRight (h : (trimRight cs).getLast? = some c) : isBlank c = false := by
  rw [trimRight, List.getLast?_reverse] at h
  exact head?_trimLeft h

theorem head?_trimRight (h : (trimRight cs).head? = some c) : cs.head? = some c := by
  have hsplit : trimRight cs ++ (cs.reverse.takeWhile isBlank).reverse = cs := by
    rw [trimRight, ← List.reverse_append, List.takeWhile_append_dropWhile, List.reverse_reverse]
  rw [← hsplit, List.head?_append, h]
  rfl

theorem isEmpty_trim (h : isBlankText t = false) : (trim t).isEmpty = false := by
  rw [Bool.eq_false_iff]
  intro he
  rw [(trim_eq_empty_iff t).1 (String.isEmpty_iff.1 he)] at h
  cases h

theorem isClean_trim (h : isBlankText t = false) : IsClean (trim t) where
  ne_empty := by
    intro he
    rw [(trim_eq_empty_iff t).1 he] at h
    cases h
  first c hc := by
    rw [trim, String.toList_ofList, trimChars] at hc
    exact head?_trimLeft (head?_trimRight hc)
  last c hc := by
    rw [trim, String.toList_ofList, trimChars] at hc
    exact getLast?_trimRight hc

theorem isClean_trim_of_not_blank (h : isBlankText (trim t) = false) : IsClean (trim t) := by
  apply isClean_trim
  cases hb : isBlankText t with
  | false => rfl
  | true =>
    rw [(trim_eq_empty_iff t).2 hb] at h
    cases h

theorem IsClean.not_blank (h : IsClean t) : isBlankText t = false := by
  rw [isBlankText, List.all_eq_false]
  obtain ⟨c, cs, hc⟩ : ∃ c cs, t.toList = c :: cs := by
    apply List.exists_cons_of_ne_nil
    intro hnil
    exact h.ne_empty (String.toList_eq_nil_iff.1 hnil)
  refine ⟨c, hc ▸ List.mem_cons_self, ?_⟩
  rw [h.first c (by rw [hc]; rfl)]
  exact Bool.false_ne_true

theorem isBlankText_trim (h : isBlankText t = false) : isBlankText (trim t) = false :=
  (isClean_trim h).not_blank

theorem trimLeft_of_head (h : ∀ c, cs.head? = some c → isBlank c = false) : trimLeft cs = cs := by
  cases cs with
  | nil => rfl
  | cons c cs => rw [trimLeft, List.dropWhile_cons, h c rfl, if_neg Bool.false_ne_true]

/-- A text with no blank at either end is left as it is. -/
theorem trimChars_of_ends (first : ∀ c, cs.head? = some c → isBlank c = false)
    (last : ∀ c, cs.getLast? = some c → isBlank c = false) : trimChars cs = cs := by
  have hreverse : trimLeft cs.reverse = cs.reverse :=
    trimLeft_of_head (by simpa only [List.head?_reverse] using last)
  rw [trimLeft] at hreverse
  rw [trimChars, trimLeft_of_head first, trimRight, hreverse, List.reverse_reverse]

theorem trimChars_of_no_blank (h : ∀ c ∈ cs, isBlank c = false) : trimChars cs = cs :=
  trimChars_of_ends (fun c hc => h c (List.mem_of_head? hc)) fun c hc =>
    h c (List.mem_of_getLast? hc)

/-- Blanks around a text are trimmed away. -/
theorem trimChars_between {before after : List Char} (hb : ∀ c ∈ before, isBlank c = true)
    (ha : ∀ c ∈ after, isBlank c = true) : trimChars (before ++ cs ++ after) = trimChars cs := by
  have hleft (ds : List Char) : trimLeft (before ++ ds) = trimLeft ds := by
    rw [trimLeft, List.dropWhile_append_of_pos hb, trimLeft]
  have hright (ds : List Char) : trimRight (ds ++ after) = trimRight ds := by
    rw [trimRight, List.reverse_append,
      List.dropWhile_append_of_pos fun c hc => ha c (List.mem_reverse.1 hc), trimRight]
  rw [trimChars, List.append_assoc, hleft]
  by_cases hcs : trimLeft cs = []
  · have hall : cs.all isBlank = true := by
      rw [← trimChars_eq_nil_iff, trimChars, hcs]
      rfl
    have hnil : trimLeft (cs ++ after) = [] := by
      rw [trimLeft, List.dropWhile_append_of_pos fun c hc => List.all_eq_true.1 hall c hc]
      exact List.dropWhile_eq_nil_iff.2 ha
    rw [hnil, trimChars, hcs]
  · have happend : trimLeft (cs ++ after) = trimLeft cs ++ after := by
      rw [trimLeft, List.dropWhile_append, if_neg]
      · rfl
      · rwa [List.isEmpty_iff]
    rw [happend, hright, trimChars]

theorem exists_around_trimChars (cs : List Char) : ∃ before after,
    cs = before ++ trimChars cs ++ after ∧ (∀ c ∈ before, isBlank c = true) ∧
      ∀ c ∈ after, isBlank c = true := by
  have hleft : cs.takeWhile isBlank ++ trimLeft cs = cs := List.takeWhile_append_dropWhile
  have hright : trimChars cs ++ ((trimLeft cs).reverse.takeWhile isBlank).reverse = trimLeft cs := by
    rw [trimChars, trimRight, ← List.reverse_append, List.takeWhile_append_dropWhile,
      List.reverse_reverse]
  refine ⟨cs.takeWhile isBlank, ((trimLeft cs).reverse.takeWhile isBlank).reverse, ?_, ?_, ?_⟩
  · rw [List.append_assoc, hright, hleft]
  · intro c hc
    exact List.mem_takeWhile_imp hc
  · intro c hc
    exact List.mem_takeWhile_imp (List.mem_reverse.1 hc)

theorem isDigit_of_mem_digits {c : Char} {n : Nat} (h : c ∈ digits n) : isDigit c = true :=
  Nat.isDigit_of_mem_toDigits (by decide) (by decide) h

theorem not_isBlank_of_isDigit {c : Char} (h : isDigit c = true) : isBlank c = false := by
  have hc : 48 ≤ c.toNat ∧ c.toNat ≤ 57 := by
    simp only [isDigit, Bool.and_eq_true, decide_eq_true_eq, Char.le_def] at h
    exact h
  simp only [isBlank, Bool.or_eq_false_iff, Bool.and_eq_false_iff, decide_eq_false_iff_not,
    beq_eq_false_iff_ne]
  omega

theorem isBlankText_append (s t : String) :
    isBlankText (s ++ t) = (isBlankText s && isBlankText t) := by
  rw [isBlankText, String.toList_append, List.all_append]
  rfl

theorem isBlankText_decimal (n : Nat) : isBlankText (decimal n) = false := by
  rw [decimal, isBlankText, String.toList_ofList, List.all_eq_false]
  obtain ⟨c, cs, hc⟩ : ∃ c cs, digits n = c :: cs := by
    apply List.exists_cons_of_ne_nil
    exact Nat.toDigits_ne_nil
  have hmem : c ∈ digits n := hc ▸ List.mem_cons_self
  refine ⟨c, hmem, ?_⟩
  rw [not_isBlank_of_isDigit (isDigit_of_mem_digits hmem)]
  exact Bool.false_ne_true

theorem withoutBlanks_append (s t : String) :
    withoutBlanks (s ++ t) = withoutBlanks s ++ withoutBlanks t := by
  rw [withoutBlanks, String.toList_append, List.filter_append, String.ofList_append, withoutBlanks,
    withoutBlanks]

theorem withoutBlanks_of_unbroken (h : ∀ c ∈ t.toList, isBlank c = false) :
    withoutBlanks t = t := by
  have hall : t.toList.filter (fun c => !isBlank c) = t.toList := by
    apply List.filter_eq_self.2
    intro c hc
    rw [h c hc]
    rfl
  rw [withoutBlanks, hall, String.ofList_toList]

theorem withoutBlanks_of_blank (h : ∀ c ∈ t.toList, isBlank c = true) : withoutBlanks t = "" := by
  have hnone : t.toList.filter (fun c => !isBlank c) = [] := by
    apply List.filter_eq_nil_iff.2
    intro c hc
    rw [h c hc]
    exact Bool.false_ne_true
  rw [withoutBlanks, hnone]

end ClusterAccess.Text
