import ClusterAccess.Proofs.Calendar
import ClusterAccess.Proofs.Text
import ClusterAccess.Time.Timestamp

namespace ClusterAccess.Time

open Text

/-- A date and a time of day, whether a clock can show them or not. -/
structure Stamp where
  year : Fin 10000
  month : Fin 100
  day : Fin 100
  hour : Fin 100
  minute : Fin 100
  second : Fin 100

structure Fraction where
  places : Nat
  value : Nat
  places_le : places ≤ 9
  value_lt : value < Nat.pow 10 places

/-- An offset from universal time, which is written as a letter, or as hours and minutes. -/
inductive Offset where
  | universal (small : Bool)
  | clock (behind : Bool) (hours minutes : Fin 100)

inductive Mark where
  | capital
  | small
  | blank

def Mark.char : Mark → Char
  | capital => 'T'
  | small => 't'
  | blank => ' '

namespace Fraction

def whole : Fraction := ⟨0, 0, by decide, by decide⟩

def chars (f : Fraction) : List Char :=
  if f.places = 0 then [] else '.' :: paddedDigits f.places f.value

def nanos (f : Fraction) : Nat := f.value * Nat.pow 10 (9 - f.places)

end Fraction

namespace Offset

def chars : Offset → List Char
  | universal small => [if small then 'z' else 'Z']
  | clock behind hours minutes =>
    (if behind then '-' else '+') :: paddedDigits 2 hours ++ ':' :: paddedDigits 2 minutes

/-- How far clocks with the offset are ahead of universal time, in seconds. -/
def seconds : Offset → Int
  | universal _ => 0
  | clock behind hours minutes =>
    if behind then -(hours * 3600 + minutes * 60) else hours * 3600 + minutes * 60

def IsValid : Offset → Prop
  | universal _ => True
  | clock _ hours minutes => hours < 24 ∧ minutes < 60

instance : (o : Offset) → Decidable o.IsValid
  | universal _ => .isTrue trivial
  | clock _ hours minutes => inferInstanceAs (Decidable (hours < 24 ∧ minutes < 60))

end Offset

namespace Stamp

def dateChars (s : Stamp) : List Char :=
  paddedDigits 4 s.year ++ '-' :: paddedDigits 2 s.month ++ '-' :: paddedDigits 2 s.day

def timeChars (s : Stamp) : List Char :=
  paddedDigits 2 s.hour ++ ':' :: paddedDigits 2 s.minute ++ ':' :: paddedDigits 2 s.second

def chars (s : Stamp) (mark : Mark) (f : Fraction) (o : Offset) : List Char :=
  s.dateChars ++ mark.char :: s.timeChars ++ f.chars ++ o.chars

def text (s : Stamp) (mark : Mark) (f : Fraction) (o : Offset) : String :=
  String.ofList (s.chars mark f o)

def plainText (s : Stamp) : String := String.ofList (s.dateChars ++ ' ' :: s.timeChars)

def reading (s : Stamp) (f : Fraction) : Reading :=
  ⟨⟨s.year.val, s.month, s.day⟩, s.hour, s.minute, s.second, f.nanos⟩

/-- The date is one of the calendar, and minutes may have a leap second. -/
def IsPossible (s : Stamp) : Prop :=
  1 ≤ s.month.val ∧ s.month.val ≤ 12 ∧ 1 ≤ s.day.val ∧ s.day.val ≤ daysInMonth s.year.val s.month ∧
    s.hour.val < 24 ∧ s.minute.val < 60 ∧ s.second.val ≤ 60

end Stamp

/-- Clocks that are ahead of universal time by an offset show a reading. -/
structure Instant.Shows (t : Instant) (r : Reading) (offset : Int) : Prop where
  second_lt : t.second < 86400
  unixSeconds_eq : t.unixSeconds =
    r.date.toDays * 86400 + r.hour * 3600 + r.minute * 60 + min r.second 59 - offset
  nano_eq : t.nano = r.nano + if r.second = 60 then 1000000000 else 0

/-- An instant that a clock can show: leap seconds end a minute. -/
structure Instant.IsShown (t : Instant) : Prop where
  second_lt : t.second < 86400
  nano_lt : t.nano < 1000000000 ∨ (t.nano < 2000000000 ∧ t.second % 60 = 59)

variable {s : Stamp} {f : Fraction} {o : Offset} {mark : Mark} {t : Instant} {r : Reading}
  {cs ds : List Char} {c : Char} {n width : Nat} {offset : Int}

theorem Stamp.chars_eq (s : Stamp) (mark : Mark) (f : Fraction) (o : Offset) :
    s.chars mark f o = s.dateChars ++ mark.char :: (s.timeChars ++ (f.chars ++ o.chars)) := by
  simp [Stamp.chars]

theorem isDigit_of_mem_paddedDigits (h : c ∈ paddedDigits width n) : isDigit c = true := by
  rcases List.mem_append.1 h with h | h
  · rw [List.eq_of_mem_replicate h]
    rfl
  · exact isDigit_of_mem_digits h

theorem digitsValue_paddedDigits (width n : Nat) : digitsValue (paddedDigits width n) = n := by
  rw [digitsValue, paddedDigits, Nat.ofDigitChars_append, Nat.ofDigitChars_replicate_zero,
    Nat.mul_zero]
  exact digitsValue_digits n

theorem paddedDigits_ne_nil (width n : Nat) : paddedDigits width n ≠ [] :=
  List.append_ne_nil_of_right_ne_nil _ Nat.toDigits_ne_nil

theorem isEmpty_paddedDigits (width n : Nat) : (paddedDigits width n).isEmpty = false :=
  List.isEmpty_eq_false_iff.2 (paddedDigits_ne_nil width n)

theorem exists_paddedDigits_eq (width n : Nat) :
    ∃ c cs, paddedDigits width n = c :: cs ∧ isDigit c = true := by
  obtain ⟨c, cs, hcs⟩ := List.exists_cons_of_ne_nil (paddedDigits_ne_nil width n)
  exact ⟨c, cs, hcs, isDigit_of_mem_paddedDigits (hcs ▸ List.mem_cons_self)⟩

theorem takeWhile_isDigit (hcs : ∀ c ∈ cs, isDigit c = true)
    (hds : ∀ c, ds.head? = some c → isDigit c = false) : (cs ++ ds).takeWhile isDigit = cs := by
  rw [List.takeWhile_append_of_pos hcs]
  cases ds with
  | nil => exact List.append_nil _
  | cons d ds => simp [hds d rfl]

section

variable (hw : 0 < width) (hn : n < Nat.pow 10 width)

include hw hn

theorem length_paddedDigits : (paddedDigits width n).length = width := by
  have hle : (digits n).length ≤ width := (Nat.length_toDigits_le_iff (by decide) hw).2 hn
  rw [paddedDigits, List.length_append, List.length_replicate]
  omega

theorem takeWhile_paddedDigits (cs : List Char) :
    ((paddedDigits width n ++ cs).take width).takeWhile isDigit = paddedDigits width n := by
  rw [List.take_left' (length_paddedDigits hw hn)]
  exact List.takeWhile_eq_self_iff.2 fun c => isDigit_of_mem_paddedDigits

theorem readFixed?_paddedDigits (cs : List Char) :
    readFixed? width (paddedDigits width n ++ cs) = some (n, cs) := by
  have hlength := length_paddedDigits hw hn
  simp only [readFixed?, takeWhile_paddedDigits hw hn, hlength, beq_self_eq_true, if_true,
    digitsValue_paddedDigits, List.drop_left' hlength]

theorem readNumber?_paddedDigits (cs : List Char) :
    readNumber? width (paddedDigits width n ++ cs) = some (n, cs) := by
  simp only [readNumber?, takeWhile_paddedDigits hw hn, isEmpty_paddedDigits, Bool.false_eq_true,
    if_false, digitsValue_paddedDigits, List.drop_left' rfl]

end

theorem readFixed?_pair (n : Fin 100) (cs : List Char) :
    readFixed? 2 (paddedDigits 2 n ++ cs) = some (n.val, cs) :=
  readFixed?_paddedDigits (by decide) n.isLt cs

theorem skip?_cons (c : Char) (cs : List Char) : skip? c (c :: cs) = some cs := by
  simp [skip?]

theorem head?_paddedDigits (h : (paddedDigits width n ++ cs).head? = some c) :
    isDigit c = true := by
  obtain ⟨d, ds, hds, hd⟩ := exists_paddedDigits_eq width n
  rw [hds] at h
  cases h
  exact hd

theorem trimLeft_paddedDigits (cs : List Char) :
    trimLeft (paddedDigits width n ++ cs) = paddedDigits width n ++ cs :=
  trimLeft_of_head fun _ h => not_isBlank_of_isDigit (head?_paddedDigits h)

theorem readField?_paddedDigits (n : Fin 100) (cs : List Char) :
    readField? (paddedDigits 2 n ++ cs) = some (n.val, cs) := by
  rw [readField?, trimLeft_paddedDigits]
  exact readNumber?_paddedDigits (by decide) n.isLt cs

theorem readYear?_paddedDigits (n : Fin 10000) (cs : List Char) :
    readYear? (paddedDigits 4 n ++ cs) = some ((n.val : Int), cs) := by
  have hread : readNumber? 4 (paddedDigits 4 n ++ cs) = some (n.val, cs) :=
    readNumber?_paddedDigits (by decide) n.isLt cs
  obtain ⟨d, ds, hds, hd⟩ := exists_paddedDigits_eq 4 n
  rw [readYear?, trimLeft_paddedDigits]
  rw [hds, List.cons_append] at hread ⊢
  split
  next h => cases h; cases hd
  next h => cases h; cases hd
  next => rw [hread]; rfl

theorem readFraction?_chars (f : Fraction)
    (h : ∀ c, cs.head? = some c → c ≠ '.' ∧ isDigit c = false) :
    readFraction? (f.chars ++ cs) = some (f.nanos, cs) := by
  obtain ⟨places, value, hle, hlt⟩ := f
  by_cases hp : places = 0
  · subst hp
    obtain rfl : value = 0 := by simpa using hlt
    have hread : readFraction? cs = some (0, cs) := by
      rw [readFraction?.eq_def]
      split
      next h' => exact absurd rfl (h _ rfl).1
      next => rfl
    rw [Fraction.chars, if_pos rfl, List.nil_append, hread, Fraction.nanos, Nat.zero_mul]
  · have hlength := length_paddedDigits (Nat.pos_of_ne_zero hp) hlt
    have htake : (paddedDigits places value ++ cs).takeWhile isDigit = paddedDigits places value :=
      takeWhile_isDigit (fun c => isDigit_of_mem_paddedDigits) fun c hc => (h c hc).2
    have hnine := List.take_of_length_le (Nat.le_trans (Nat.le_of_eq hlength) hle)
    simp only [Fraction.chars, if_neg hp, List.cons_append, readFraction?, htake,
      isEmpty_paddedDigits, Bool.false_eq_true, if_false, hnine, digitsValue_paddedDigits, hlength,
      List.drop_left' hlength, Nat.pow_eq, Fraction.nanos]

theorem readOffset?_chars (o : Offset) :
    readOffset? o.chars = if o.IsValid then some (o.seconds, []) else none := by
  cases o with
  | universal small =>
    cases small <;> simp [Offset.chars, readOffset?, Offset.IsValid, Offset.seconds]
  | clock behind hours minutes =>
    have hhours := readFixed?_pair hours (':' :: paddedDigits 2 minutes)
    have hminutes := readFixed?_pair minutes []
    rw [List.append_nil] at hminutes
    have hread : readOffset? (Offset.clock behind hours minutes).chars =
        if hours.val > 23 || minutes.val > 59 then none
        else some ((Offset.clock behind hours minutes).seconds, []) := by
      cases behind <;>
        simp [Offset.chars, readOffset?, readSign?, hhours, skip?_cons, hminutes, Offset.seconds]
    rw [hread]
    by_cases hvalid : (Offset.clock behind hours minutes).IsValid
    · rw [if_pos hvalid, if_neg]
      simp only [Offset.IsValid] at hvalid
      simp
      omega
    · rw [if_neg hvalid, if_pos]
      simp only [Offset.IsValid] at hvalid
      simp
      omega

theorem not_isDigit_head_offset (h : o.chars.head? = some c) : c ≠ '.' ∧ isDigit c = false := by
  cases o with
  | universal small => cases small <;> cases h <;> decide
  | clock behind hours minutes => cases behind <;> cases h <;> decide

theorem readWithOffset?_stamp (s : Stamp) (mark : Mark) (cs : List Char) :
    readWithOffset? (s.dateChars ++ mark.char :: (s.timeChars ++ cs)) = (do
      let (nano, cs) ← readFraction? cs
      let (offset, cs) ← readOffset? cs
      if cs.isEmpty then
        Instant.ofReading? ⟨⟨s.year.val, s.month, s.day⟩, s.hour, s.minute, s.second, nano⟩ offset
      else none) := by
  have hyear (cs : List Char) :
      readFixed? 4 (paddedDigits 4 s.year ++ cs) = some (s.year.val, cs) :=
    readFixed?_paddedDigits (by decide) s.year.isLt cs
  have hmark (cs : List Char) : (skip? 'T' (mark.char :: cs) <|> skip? 't' (mark.char :: cs) <|>
      skip? ' ' (mark.char :: cs)) = some cs := by
    cases mark <;> simp [Mark.char, skip?]
  simp only [Stamp.dateChars, Stamp.timeChars, List.append_assoc, List.cons_append, readWithOffset?,
    hyear, readFixed?_pair, skip?_cons, hmark, Option.bind_eq_bind, Option.bind_some]

theorem readWithOffset?_chars (s : Stamp) (mark : Mark) (f : Fraction) (o : Offset) :
    readWithOffset? (s.chars mark f o) =
      if o.IsValid then Instant.ofReading? (s.reading f) o.seconds else none := by
  rw [Stamp.chars_eq, readWithOffset?_stamp, readFraction?_chars f fun c => not_isDigit_head_offset,
    Option.bind_eq_bind, Option.bind_some]
  dsimp only
  rw [readOffset?_chars]
  split <;> rfl

theorem readWithOffset?_plain (s : Stamp) :
    readWithOffset? (s.dateChars ++ ' ' :: s.timeChars) = none := by
  have h := readWithOffset?_stamp s .blank []
  rw [List.append_nil] at h
  exact h

theorem readPlain?_stamp (s : Stamp) (cs : List Char) :
    readPlain? (s.dateChars ++ ' ' :: (s.timeChars ++ cs)) =
      if cs.isEmpty then Instant.ofReading? (s.reading .whole) 0 else none := by
  have hblank (cs : List Char) : readField? (' ' :: cs) = readField? cs := rfl
  simp only [Stamp.dateChars, Stamp.timeChars, List.append_assoc, List.cons_append, readPlain?,
    readYear?_paddedDigits, readField?_paddedDigits, hblank, skip?_cons,
    Option.bind_eq_bind, Option.bind_some]
  rfl

theorem readPlain?_of_rest (s : Stamp) (mark : Mark) (hcs : cs ≠ []) :
    readPlain? (s.dateChars ++ mark.char :: (s.timeChars ++ cs)) = none := by
  have hletter (c : Char) (ds : List Char) (hb : isBlank c = false) (hd : isDigit c = false) :
      readField? (c :: ds) = none := by
    have htrim : trimLeft (c :: ds) = c :: ds := trimLeft_of_head fun d h => by
      cases h
      exact hb
    rw [readField?, htrim, readNumber?, List.take_succ_cons, List.takeWhile_cons, hd]
    rfl
  cases mark with
  | blank => rw [Mark.char, readPlain?_stamp, if_neg (by simpa using hcs)]
  | capital =>
    simp only [Stamp.dateChars, Mark.char, List.append_assoc, List.cons_append, readPlain?,
      readYear?_paddedDigits, readField?_paddedDigits, skip?_cons, Option.bind_eq_bind,
      Option.bind_some, hletter 'T' _ rfl rfl]
    rfl
  | small =>
    simp only [Stamp.dateChars, Mark.char, List.append_assoc, List.cons_append, readPlain?,
      readYear?_paddedDigits, readField?_paddedDigits, skip?_cons, Option.bind_eq_bind,
      Option.bind_some, hletter 't' _ rfl rfl]
    rfl

theorem not_isBlank_of_mem_offset (h : c ∈ o.chars) : isBlank c = false := by
  have hdigit {n : Nat} (hc : c ∈ paddedDigits 2 n) : isBlank c = false :=
    not_isBlank_of_isDigit (isDigit_of_mem_paddedDigits hc)
  cases o with
  | universal small =>
    cases small <;> (rw [List.mem_singleton.1 h]; rfl)
  | clock behind hours minutes =>
    rcases List.mem_append.1 h with h | h
    · rcases List.mem_cons.1 h with rfl | h
      · cases behind <;> rfl
      · exact hdigit h
    · rcases List.mem_cons.1 h with rfl | h
      · rfl
      · exact hdigit h

theorem offset_ne_nil (o : Offset) : o.chars ≠ [] := by
  cases o <;> exact nofun

theorem trimChars_stamp (s : Stamp) (cs : List Char) (hds : ds ≠ [])
    (h : ∀ c ∈ ds, isBlank c = false) :
    trimChars (s.dateChars ++ (cs ++ ds)) = s.dateChars ++ (cs ++ ds) := by
  apply trimChars_of_ends
  · intro c hc
    simp only [Stamp.dateChars, List.append_assoc] at hc
    exact not_isBlank_of_isDigit (head?_paddedDigits hc)
  · intro c hc
    rw [← List.append_assoc, List.getLast?_append, List.getLast?_eq_some_getLast hds,
      Option.some_or] at hc
    cases hc
    exact h _ (List.getLast_mem hds)

theorem parseTimestamp_text (s : Stamp) (mark : Mark) (f : Fraction) (o : Offset) :
    parseTimestamp (s.text mark f o) =
      if o.IsValid then Instant.ofReading? (s.reading f) o.seconds else none := by
  have htrim : trimChars (s.chars mark f o) = s.chars mark f o := by
    have h := trimChars_stamp s (mark.char :: (s.timeChars ++ f.chars)) (offset_ne_nil o)
      fun c => not_isBlank_of_mem_offset
    simpa [Stamp.chars_eq] using h
  have hplain : readPlain? (s.chars mark f o) = none := by
    rw [Stamp.chars_eq]
    exact readPlain?_of_rest s mark (List.append_ne_nil_of_right_ne_nil _ (offset_ne_nil o))
  rw [parseTimestamp, Stamp.text, String.toList_ofList, htrim, hplain, readWithOffset?_chars]
  split
  · cases Instant.ofReading? (s.reading f) o.seconds <;> rfl
  · rfl

theorem parseTimestamp_plainText (s : Stamp) :
    parseTimestamp s.plainText = Instant.ofReading? (s.reading .whole) 0 := by
  have htrim :
      trimChars (s.dateChars ++ ' ' :: s.timeChars) = s.dateChars ++ ' ' :: s.timeChars := by
    have h := trimChars_stamp s
      (' ' :: (paddedDigits 2 s.hour ++ ':' :: paddedDigits 2 s.minute ++ [':']))
      (paddedDigits_ne_nil 2 s.second)
      fun c hc => not_isBlank_of_isDigit (isDigit_of_mem_paddedDigits hc)
    simpa [Stamp.timeChars] using h
  have hread := readPlain?_stamp s []
  rw [List.append_nil] at hread
  rw [parseTimestamp, Stamp.plainText, String.toList_ofList, htrim, readWithOffset?_plain, hread]
  rfl

/-- Clocks with an offset show a reading at one instant only. -/
theorem Instant.Shows.unique {u : Instant} (ht : t.Shows r offset) (hu : u.Shows r offset) :
    t = u := by
  obtain ⟨day, second, nano⟩ := t
  obtain ⟨day', second', nano'⟩ := u
  obtain ⟨hlt, hseconds, hnano⟩ := ht
  obtain ⟨hlt', hseconds', hnano'⟩ := hu
  simp only [Instant.unixSeconds] at hlt hlt' hseconds hseconds'
  obtain rfl : day = day' := by omega
  obtain rfl : second = second' := by omega
  obtain rfl : nano = nano' := hnano.trans hnano'.symm
  rfl

theorem Reading.isValid_iff : r.isValid = true ↔ r.date.isValid = true ∧ r.hour < 24 ∧
    r.minute < 60 ∧ r.second ≤ 60 ∧ r.nano < 1000000000 := by
  simp only [isValid, Bool.and_eq_true, decide_eq_true_iff, and_assoc]

theorem Fraction.nanos_lt (f : Fraction) : f.nanos < 1000000000 := by
  obtain ⟨places, value, hle, hlt⟩ := f
  calc value * Nat.pow 10 (9 - places) < Nat.pow 10 places * Nat.pow 10 (9 - places) :=
        Nat.mul_lt_mul_of_pos_right hlt (Nat.pow_pos (by decide))
    _ = Nat.pow 10 9 := by
      rw [Nat.pow_eq, Nat.pow_eq, ← Nat.pow_add, Nat.add_sub_cancel' hle, Nat.pow_eq]

theorem isValid_reading : (s.reading f).isValid = true ↔ s.IsPossible := by
  have hnanos := f.nanos_lt
  rw [Reading.isValid_iff, Date.isValid_iff]
  simp only [Stamp.reading, Stamp.IsPossible, hnanos, and_true, and_assoc]

theorem Offset.seconds_bounds (h : o.IsValid) :
    -86400 < o.seconds ∧ o.seconds < 86400 ∧ o.seconds % 60 = 0 := by
  cases o with
  | universal small => simp [Offset.seconds]
  | clock behind hours minutes =>
    obtain ⟨hh, hm⟩ := h
    rw [Offset.seconds]
    split <;> omega

theorem ofReading?_of_valid (hr : r.isValid = true) (hy : 0 ≤ r.date.year)
    (hy' : r.date.year ≤ 9999) (ho : -86400 < offset ∧ offset < 86400 ∧ offset % 60 = 0) :
    ∃ t, Instant.ofReading? r offset = some t ∧ t.Shows r offset ∧ t.IsShown := by
  obtain ⟨hdate, hhour, hminute, hsecond, hnano⟩ := Reading.isValid_iff.1 hr
  obtain ⟨hfirst, hlast⟩ := toDays_range hdate hy hy'
  obtain ⟨second, hsec⟩ : ∃ second : Int, second = r.hour * 3600 + r.minute * 60 +
    (if r.second == 60 then 59 else r.second) - offset := ⟨_, rfl⟩
  have hsec' : second = r.hour * 3600 + r.minute * 60 + min r.second 59 - offset := by
    rw [hsec]
    simp only [beq_iff_eq]
    split <;> omega
  refine ⟨⟨r.date.toDays + second / 86400, (second % 86400).toNat,
    if r.second == 60 then r.nano + 1000000000 else r.nano⟩, ?_, ?_, ?_⟩
  · simp only [Instant.ofReading?, hr, ← hsec]
    rw [if_neg (by decide), if_pos]
    simp only [Instant.inRange, Bool.and_eq_true, decide_eq_true_iff]
    omega
  · refine ⟨?_, ?_, ?_⟩
    · simp only
      omega
    · simp only [Instant.unixSeconds]
      omega
    · simp only [beq_iff_eq]
      split <;> rfl
  · refine ⟨?_, ?_⟩
    · simp only
      omega
    · simp only [beq_iff_eq]
      split <;> omega

theorem exists_fraction (hn : n < 1000000000) :
    ∃ f : Fraction, f.nanos = n ∧ f.chars = fractionDigits n := by
  rw [fractionDigits]
  split
  next h =>
    obtain rfl : n = 0 := by simpa using h
    exact ⟨.whole, rfl, rfl⟩
  next =>
    split
    next h =>
      have hlt : n / 1000000 < 1000 := by omega
      refine ⟨⟨3, n / 1000000, by decide, hlt⟩, ?_, rfl⟩
      simp only [beq_iff_eq] at h
      exact Nat.div_mul_cancel (Nat.dvd_of_mod_eq_zero h)
    next =>
      split
      next h =>
        have hlt : n / 1000 < 1000000 := by omega
        refine ⟨⟨6, n / 1000, by decide, hlt⟩, ?_, rfl⟩
        simp only [beq_iff_eq] at h
        exact Nat.div_mul_cancel (Nat.dvd_of_mod_eq_zero h)
      next => exact ⟨⟨9, n, by decide, hn⟩, by simp [Fraction.nanos], rfl⟩

theorem Instant.IsShown.shows (ht : t.IsShown) : t.Shows t.toReading 0 := by
  obtain ⟨hsecond, hnano⟩ := ht
  refine ⟨hsecond, ?_, ?_⟩
  · simp only [Instant.unixSeconds, Instant.toReading, toDays_ofDays]
    omega
  · have hsec : t.toReading.second = t.second % 60 + t.nano / 1000000000 := rfl
    have hnanos : t.toReading.nano = t.nano % 1000000000 := rfl
    by_cases hleap : t.nano < 1000000000
    · rw [if_neg] <;> omega
    · rw [if_pos] <;> omega

theorem Instant.IsShown.exists_stamp (ht : t.IsShown) (hy : 0 ≤ (Date.ofDays t.day).year)
    (hy' : (Date.ofDays t.day).year ≤ 9999) : ∃ (s : Stamp) (f : Fraction), s.IsPossible ∧
      s.reading f = t.toReading ∧ t.timestamp = s.text .capital f (.clock false 0 0) := by
  obtain ⟨hsecond, hnano⟩ := ht
  obtain ⟨f, hnanos, hchars⟩ :=
    exists_fraction (n := t.nano % 1000000000) (Nat.mod_lt _ (by decide))
  have hdate := Date.isValid_iff.1 (isValid_ofDays t.day)
  have hmonth : daysInMonth (Date.ofDays t.day).year (Date.ofDays t.day).month < 100 := by
    rw [daysInMonth]
    repeat' split
    all_goals decide
  have hyear : ((Date.ofDays t.day).year.toNat : Int) = (Date.ofDays t.day).year :=
    Int.toNat_of_nonneg hy
  refine ⟨⟨⟨(Date.ofDays t.day).year.toNat, by omega⟩, ⟨(Date.ofDays t.day).month, by omega⟩,
    ⟨(Date.ofDays t.day).day, by omega⟩, ⟨t.second / 3600, by omega⟩,
    ⟨t.second / 60 % 60, by omega⟩, ⟨t.second % 60 + t.nano / 1000000000, by omega⟩⟩, f, ?_, ?_, ?_⟩
  · simp only [Stamp.IsPossible, hyear]
    omega
  · simp only [Stamp.reading, hyear, hnanos, Instant.toReading]
  · have hdigits : yearDigits (Date.ofDays t.day).year =
        paddedDigits 4 (Date.ofDays t.day).year.toNat := by
      rw [yearDigits, if_pos]
      simpa using ⟨hy, hy'⟩
    simp [Instant.timestamp, Instant.toReading, Reading.chars, hdigits, Stamp.text, Stamp.chars,
      Stamp.dateChars, Stamp.timeChars, hchars, Offset.chars, Mark.char]
    decide

/-- A possible date and time of day with an offset is the instant at which clocks show it. -/
theorem exists_parseTimestamp_text (hs : s.IsPossible) (ho : o.IsValid) (mark : Mark)
    (f : Fraction) : ∃ t, parseTimestamp (s.text mark f o) = some t ∧
      t.Shows (s.reading f) o.seconds ∧ t.IsShown := by
  have hyear : (s.reading f).date.year ≤ 9999 := by
    have hlt := s.year.isLt
    simp only [Stamp.reading]
    omega
  rw [parseTimestamp_text, if_pos ho]
  exact ofReading?_of_valid (isValid_reading.2 hs) (Int.natCast_nonneg _) hyear
    (Offset.seconds_bounds ho)

theorem parseTimestamp_text_eq_none (h : ¬ (s.IsPossible ∧ o.IsValid)) (mark : Mark)
    (f : Fraction) : parseTimestamp (s.text mark f o) = none := by
  rw [parseTimestamp_text]
  split
  next ho =>
    have hr : (s.reading f).isValid = false := by
      rw [Bool.eq_false_iff, Ne, isValid_reading]
      exact fun hs => h ⟨hs, ho⟩
    rw [Instant.ofReading?, hr]
    rfl
  next => rfl

theorem parseTimestamp_plainText_eq (s : Stamp) :
    parseTimestamp s.plainText = parseTimestamp (s.text .capital .whole (.universal false)) := by
  have hvalid : (Offset.universal false).IsValid := trivial
  rw [parseTimestamp_plainText, parseTimestamp_text, if_pos hvalid]
  rfl

/-- Blanks around a timestamp do not matter. -/
theorem parseTimestamp_between {before after : List Char} (text : String)
    (hb : ∀ c ∈ before, isBlank c = true) (ha : ∀ c ∈ after, isBlank c = true) :
    parseTimestamp (String.ofList (before ++ text.toList ++ after)) = parseTimestamp text := by
  rw [parseTimestamp, String.toList_ofList, trimChars_between hb ha, parseTimestamp]

/-- An instant is read back from its timestamp. -/
theorem parseTimestamp_timestamp (ht : t.IsShown) (hy : 0 ≤ (Date.ofDays t.day).year)
    (hy' : (Date.ofDays t.day).year ≤ 9999) : parseTimestamp t.timestamp = some t := by
  have hvalid : (Offset.clock false 0 0).IsValid := ⟨by decide, by decide⟩
  obtain ⟨s, f, hs, hreading, htext⟩ := ht.exists_stamp hy hy'
  obtain ⟨u, hu, hshows, -⟩ := exists_parseTimestamp_text hs hvalid .capital f
  rw [hreading] at hshows
  rw [htext, hu, hshows.unique ht.shows]

/-- What is read from timestamps, and what is written in them. -/
structure TimestampReading : Prop where
  read : ∀ (s : Stamp) (mark : Mark) (f : Fraction) (o : Offset), s.IsPossible → o.IsValid →
    ∃ t, parseTimestamp (s.text mark f o) = some t ∧ t.Shows (s.reading f) o.seconds ∧ t.IsShown
  unique : ∀ (r : Reading) (offset : Int) (t u : Instant), t.Shows r offset → u.Shows r offset →
    t = u
  refused : ∀ (s : Stamp) (mark : Mark) (f : Fraction) (o : Offset),
    ¬ (s.IsPossible ∧ o.IsValid) → parseTimestamp (s.text mark f o) = none
  plain : ∀ s : Stamp,
    parseTimestamp s.plainText = parseTimestamp (s.text .capital .whole (.universal false))
  blanks : ∀ (before after : List Char) (text : String), (∀ c ∈ before, isBlank c = true) →
    (∀ c ∈ after, isBlank c = true) →
    parseTimestamp (String.ofList (before ++ text.toList ++ after)) = parseTimestamp text
  written : ∀ t : Instant, t.IsShown → 0 ≤ (Date.ofDays t.day).year →
    (Date.ofDays t.day).year ≤ 9999 → parseTimestamp t.timestamp = some t
  epoch : Date.toDays ⟨1970, 1, 1⟩ = 0
  next : ∀ d : Date, d.isValid = true → d.next.isValid = true ∧ d.next.toDays = d.toDays + 1

theorem timestamps_read : TimestampReading where
  read _ mark f _ hs ho := exists_parseTimestamp_text hs ho mark f
  unique _ _ _ _ := Instant.Shows.unique
  refused _ mark f _ h := parseTimestamp_text_eq_none h mark f
  plain := parseTimestamp_plainText_eq
  blanks _ _ text := parseTimestamp_between text
  written _ := parseTimestamp_timestamp
  epoch := toDays_epoch
  next _ hd := ⟨isValid_next hd, toDays_next hd⟩

end ClusterAccess.Time
