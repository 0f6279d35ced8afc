namespace ClusterAccess.Text

def isBlank (c : Char) : Bool :=
  let n := c.toNat
  (9 ≤ n && n ≤ 13) || n == 0x20 || n == 0x85 || n == 0xA0 || n == 0x1680 ||
    (0x2000 ≤ n && n ≤ 0x200A) || n == 0x2028 || n == 0x2029 || n == 0x202F || n == 0x205F ||
    n == 0x3000

def trimLeft (cs : List Char) : List Char := cs.dropWhile isBlank

def trimRight (cs : List Char) : List Char := (cs.reverse.dropWhile isBlank).reverse

def trimChars (cs : List Char) : List Char := trimRight (trimLeft cs)

def trim (s : String) : String := String.ofList (trimChars s.toList)

def isBlankText (s : String) : Bool := s.toList.all isBlank

def nonBlank? (s : Option String) : Option String := s.filter fun t => !isBlankText t

def isSet (s : Option String) : Bool := (nonBlank? s).isSome

def withoutBlanks (s : String) : String := String.ofList (s.toList.filter fun c => !isBlank c)

/-- Splits at every character of the class; the parts may be empty. -/
def splitChars (sep : Char → Bool) : List Char → List (List Char)
  | [] => [[]]
  | c :: cs =>
    match splitChars sep cs with
    | [] => [[]]
    | part :: parts => if sep c then [] :: part :: parts else (c :: part) :: parts

def words (s : String) : List String :=
  ((splitChars isBlank s.toList).filter fun w => !w.isEmpty).map String.ofList

theorem splitChars_ne_nil (sep : Char → Bool) (cs : List Char) : splitChars sep cs ≠ [] := by
  cases cs with
  | nil => simp [splitChars]
  | cons c cs =>
    rw [splitChars]
    split
    · simp
    · split <;> simp

theorem trimChars_eq_nil_iff (cs : List Char) : trimChars cs = [] ↔ cs.all isBlank = true := by
  constructor
  · intro h
    rw [trimChars, trimRight, List.reverse_eq_nil_iff] at h
    have hd : ∀ (l : List Char), l.dropWhile isBlank = [] → l.all isBlank = true := by
      intro l
      induction l with
      | nil => simp
      | cons c l ih =>
        intro hl
        rw [List.dropWhile_cons] at hl
        split at hl
        · next hc => simp only [List.all_cons, hc, ih hl, Bool.and_self]
        · simp at hl
    have hr := hd _ h
    rw [List.all_reverse, trimLeft] at hr
    have hsplit : cs.takeWhile isBlank ++ cs.dropWhile isBlank = cs := List.takeWhile_append_dropWhile
    rw [← hsplit, List.all_append, hr, Bool.and_true, List.all_eq_true]
    intro x hx
    exact List.all_eq_true.1 List.all_takeWhile x hx
  · intro h
    have hl : trimLeft cs = [] := by
      rw [trimLeft]
      induction cs with
      | nil => rfl
      | cons c cs ih =>
        simp only [List.all_cons, Bool.and_eq_true] at h
        rw [List.dropWhile_cons, if_pos h.1]
        exact ih h.2
    simp [trimChars, hl, trimRight]

theorem trim_eq_empty_iff (s : String) : trim s = "" ↔ isBlankText s = true := by
  rw [trim, isBlankText, ← trimChars_eq_nil_iff]
  constructor
  · intro h
    have := congrArg String.toList h
    simpa using this
  · intro h
    simp [h]

end ClusterAccess.Text
