import ClusterAccess.Proofs.Text
import ClusterAccess.Provider.Selector

namespace ClusterAccess

namespace Text

variable {sep : Char} {part cs : List Char} {parts : List (List Char)}

theorem splitChars_append (h : sep ∉ part) (cs : List Char) :
    splitChars (· == sep) (part ++ sep :: cs) = part :: splitChars (· == sep) cs := by
  induction part with
  | nil =>
    obtain ⟨p, ps, hp⟩ := List.exists_cons_of_ne_nil (splitChars_ne_nil (· == sep) cs)
    simp only [List.nil_append, splitChars, hp, beq_self_eq_true, if_true]
  | cons c part ih =>
    have hc : (c == sep) = false := by
      apply beq_false_of_ne
      intro hc
      exact h (hc ▸ List.mem_cons_self)
    have hpart : sep ∉ part := fun hm => h (List.mem_cons_of_mem c hm)
    simp only [List.cons_append, splitChars, ih hpart, hc, Bool.false_eq_true, if_false]

theorem splitChars_of_not_mem (h : sep ∉ part) : splitChars (· == sep) part = [part] := by
  induction part with
  | nil => rfl
  | cons c part ih =>
    have hc : (c == sep) = false := by
      apply beq_false_of_ne
      intro hc
      exact h (hc ▸ List.mem_cons_self)
    have hpart : sep ∉ part := fun hm => h (List.mem_cons_of_mem c hm)
    simp only [splitChars, ih hpart, hc, Bool.false_eq_true, if_false]

theorem splitChars_intercalate (hne : parts ≠ []) (h : ∀ part ∈ parts, sep ∉ part) :
    splitChars (· == sep) ([sep].intercalate parts) = parts := by
  induction parts with
  | nil => exact absurd rfl hne
  | cons part parts ih =>
    have hpart := h part List.mem_cons_self
    cases parts with
    | nil => rw [List.intercalate_singleton, splitChars_of_not_mem hpart]
    | cons next parts =>
      have hrest := ih (List.cons_ne_nil _ _) fun p hp => h p (List.mem_cons_of_mem _ hp)
      rw [List.intercalate_cons_cons, List.append_assoc, List.singleton_append,
        splitChars_append hpart, hrest]

theorem eq_or_mem_of_mem_intercalate {c : Char} (h : c ∈ [sep].intercalate parts) :
    c = sep ∨ ∃ part ∈ parts, c ∈ part := by
  induction parts with
  | nil => cases h
  | cons part parts ih =>
    cases parts with
    | nil =>
      rw [List.intercalate_singleton] at h
      exact .inr ⟨part, List.mem_cons_self, h⟩
    | cons next parts =>
      rw [List.intercalate_cons_cons, List.append_assoc, List.mem_append, List.singleton_append,
        List.mem_cons] at h
      rcases h with h | h | h
      · exact .inr ⟨part, List.mem_cons_self, h⟩
      · exact .inl h
      · obtain h | ⟨p, hp, hc⟩ := ih h
        · exact .inl h
        · exact .inr ⟨p, List.mem_cons_of_mem _ hp, hc⟩

end Text

namespace Selector

open Text (isBlank)

/-- A name that selectors can hold: it is not empty, and has no slash, brace or blank. -/
structure IsName (s : String) : Prop where
  ne_empty : s ≠ ""
  noSlash : '/' ∉ s.toList
  noOpening : '{' ∉ s.toList
  noClosing : '}' ∉ s.toList
  noBlank : ∀ c ∈ s.toList, isBlank c = false

/-- A name that selectors can hold in every spelling: it has no dot either. -/
structure IsPlain (s : String) : Prop extends IsName s where
  noDot : '.' ∉ s.toList

/-- The ways to write the selector of a row of segments. -/
inductive Spelling where
  | slashed
  | dotted
  | pointed
  | template

def Spelling.write (segments : List String) : Spelling → String
  | slashed => "/".intercalate segments
  | dotted => ".".intercalate segments
  | pointed => "." ++ ".".intercalate segments
  | template => "\x7b." ++ ".".intercalate segments ++ "\x7d"

variable {s : String} {ks : List String} {cs : List Char}

theorem IsName.exists_cons (h : IsName s) : ∃ c cs, s.toList = c :: cs := by
  apply List.exists_cons_of_ne_nil
  intro hnil
  exact h.ne_empty (String.toList_eq_nil_iff.1 hnil)

theorem exists_intercalate_eq (h : IsName s) (sep : Char) (ks : List String) :
    ∃ c cs ds, s.toList = c :: cs ∧
      [sep].intercalate ((s :: ks).map String.toList) = c :: ds := by
  obtain ⟨c, cs, hc⟩ := h.exists_cons
  cases ks with
  | nil =>
    refine ⟨c, cs, cs, hc, ?_⟩
    rw [List.map_singleton, List.intercalate_singleton, hc]
  | cons next ks =>
    refine ⟨c, cs, cs ++ ([sep] ++ [sep].intercalate ((next :: ks).map String.toList)), hc, ?_⟩
    rw [List.map_cons, List.map_cons, List.intercalate_cons_cons, hc, List.append_assoc]
    rfl

theorem withoutBraces_of_head {c : Char} (hc : c ≠ '{') : withoutBraces (c :: cs) = c :: cs := by
  rw [withoutBraces]
  intro d ds es h
  injection h with hd
  exact absurd hd hc

theorem withoutBraces_braced (hne : cs ≠ []) : withoutBraces ('{' :: (cs ++ ['}'])) = cs := by
  obtain ⟨c, cs, rfl⟩ := List.exists_cons_of_ne_nil hne
  have hlast : ('{' :: c :: (cs ++ ['}'])).reverse = '}' :: (cs.reverse ++ ['{', c].reverse) := by
    simp
  rw [List.cons_append, withoutBraces.eq_def, hlast]
  change (c :: cs ++ ['}']).dropLast = c :: cs
  exact List.dropLast_concat

theorem dropWhile_dot_of_head {c : Char} (hc : c ≠ '.') :
    (c :: cs).dropWhile (· == '.') = c :: cs := by
  rw [List.dropWhile_cons, beq_false_of_ne hc, if_neg Bool.false_ne_true]

theorem segments_eq (sep : Char) (hne : ks ≠ []) (hk : ∀ k ∈ ks, k ≠ "" ∧ sep ∉ k.toList)
    (hs : (withoutBraces (Text.trimChars s.toList)).dropWhile (· == '.') =
      [sep].intercalate (ks.map String.toList))
    (hsep : (if ([sep].intercalate (ks.map String.toList)).contains '/' then '/' else '.') = sep) :
    segments s = ks := by
  have hsplit : Text.splitChars (· == sep) ([sep].intercalate (ks.map String.toList)) =
      ks.map String.toList := by
    apply Text.splitChars_intercalate (by simpa using hne)
    intro part hpart
    obtain ⟨k, hm, rfl⟩ := List.mem_map.1 hpart
    exact (hk k hm).2
  have hfilter : (ks.map String.toList).filter (!·.isEmpty) = ks.map String.toList := by
    rw [List.filter_eq_self]
    intro part hpart
    obtain ⟨k, hm, rfl⟩ := List.mem_map.1 hpart
    have hnil : k.toList ≠ [] := fun h => (hk k hm).1 (String.toList_eq_nil_iff.1 h)
    rw [List.isEmpty_eq_false_iff.2 hnil, Bool.not_false]
  simp only [segments, hs, hsep, hsplit, hfilter, List.map_map]
  have hid : String.ofList ∘ String.toList = id := funext fun k => String.ofList_toList
  rw [hid, List.map_id]

theorem noBlank_intercalate (sep : Char) (hsep : isBlank sep = false) (h : ∀ k ∈ ks, IsName k) :
    ∀ c ∈ [sep].intercalate (ks.map String.toList), isBlank c = false := by
  intro c hc
  rcases Text.eq_or_mem_of_mem_intercalate hc with rfl | ⟨part, hpart, hm⟩
  · exact hsep
  · obtain ⟨k, hk, rfl⟩ := List.mem_map.1 hpart
    exact (h k hk).noBlank c hm

theorem noSlash_intercalate (h : ∀ k ∈ ks, IsName k) :
    (['.'].intercalate (ks.map String.toList)).contains '/' = false := by
  rw [Bool.eq_false_iff]
  intro hcontains
  rcases Text.eq_or_mem_of_mem_intercalate (List.contains_iff_mem.1 hcontains) with
    hdot | ⟨part, hpart, hm⟩
  · cases hdot
  · obtain ⟨k, hk, rfl⟩ := List.mem_map.1 hpart
    exact (h k hk).noSlash hm

/-- Between slashes segments may have dots, if there are several and none begins the selector. -/
theorem segments_slashed (hne : ks ≠ []) (h : ∀ k ∈ ks, IsName k)
    (hfirst : ∀ k, ks.head? = some k → k.toList.head? ≠ some '.')
    (hdots : 2 ≤ ks.length ∨ ∀ k ∈ ks, '.' ∉ k.toList) :
    segments (Spelling.slashed.write ks) = ks := by
  obtain ⟨k, rest, rfl⟩ := List.exists_cons_of_ne_nil hne
  have hk := h k List.mem_cons_self
  have hinner (sep : Char) (hsep : isBlank sep = false) :
      (withoutBraces (Text.trimChars ([sep].intercalate ((k :: rest).map String.toList)))).dropWhile
        (· == '.') = [sep].intercalate ((k :: rest).map String.toList) := by
    rw [Text.trimChars_of_no_blank (noBlank_intercalate sep hsep h)]
    obtain ⟨c, cs, ds, hc, hjoined⟩ := exists_intercalate_eq hk sep rest
    have hbrace : c ≠ '{' := fun he => hk.noOpening (by rw [hc, he]; exact List.mem_cons_self)
    have hdot : c ≠ '.' := fun he => hfirst k rfl (by rw [hc, he]; rfl)
    rw [hjoined, withoutBraces_of_head hbrace, dropWhile_dot_of_head hdot]
  have hwrite : (Spelling.slashed.write (k :: rest)).toList =
      ['/'].intercalate ((k :: rest).map String.toList) := String.toList_intercalate
  cases rest with
  | nil =>
    -- there is no slash to be found, so that it is split at dots, and has none
    have hnodot : '.' ∉ k.toList := by
      rcases hdots with hlength | hdots
      · exact absurd hlength (Nat.not_succ_le_self 1)
      · exact hdots k List.mem_cons_self
    refine segments_eq '.' hne ?_ (by rw [hwrite]; exact hinner '/' rfl) ?_
    · intro k' hk'
      rw [List.mem_singleton.1 hk']
      exact ⟨hk.ne_empty, hnodot⟩
    · rw [noSlash_intercalate h]
      rfl
  | cons next rest =>
    refine segments_eq '/' hne ?_ (by rw [hwrite]; exact hinner '/' rfl) ?_
    · intro k' hk'
      exact ⟨(h k' hk').ne_empty, (h k' hk').noSlash⟩
    · have hslash : '/' ∈ ['/'].intercalate ((k :: next :: rest).map String.toList) := by
        rw [List.map_cons, List.map_cons, List.intercalate_cons_cons]
        simp
      rw [List.contains_iff_mem.2 hslash]
      rfl

theorem segments_of_dotted (hne : ks ≠ []) (h : ∀ k ∈ ks, IsPlain k)
    (hs : (withoutBraces (Text.trimChars s.toList)).dropWhile (· == '.') =
      ['.'].intercalate (ks.map String.toList)) : segments s = ks := by
  refine segments_eq '.' hne ?_ hs ?_
  · intro k hk
    exact ⟨(h k hk).ne_empty, (h k hk).noDot⟩
  · rw [noSlash_intercalate fun k hk => (h k hk).toIsName]
    rfl

/-- In each spelling a selector of plain names has these for its segments. -/
theorem segments_write (hne : ks ≠ []) (h : ∀ k ∈ ks, IsPlain k) (sp : Spelling) :
    segments (sp.write ks) = ks := by
  have hnames : ∀ k ∈ ks, IsName k := fun k hk => (h k hk).toIsName
  have hjoin : (".".intercalate ks).toList = ['.'].intercalate (ks.map String.toList) :=
    String.toList_intercalate
  have hblank := noBlank_intercalate '.' rfl hnames
  obtain ⟨k, rest, rfl⟩ := List.exists_cons_of_ne_nil hne
  have hk := h k List.mem_cons_self
  obtain ⟨c, cs, ds, hc, hjoined⟩ := exists_intercalate_eq hk.toIsName '.' rest
  have hbrace : c ≠ '{' := fun he => hk.noOpening (by rw [hc, he]; exact List.mem_cons_self)
  have hdot : c ≠ '.' := fun he => hk.noDot (by rw [hc, he]; exact List.mem_cons_self)
  rw [hjoined] at hjoin hblank
  have hpoint : ('.' :: c :: ds).dropWhile (· == '.') = c :: ds := by
    rw [List.dropWhile_cons, if_pos (beq_self_eq_true _), dropWhile_dot_of_head hdot]
  cases sp with
  | slashed =>
    refine segments_slashed hne hnames ?_ (.inr fun k hk => (h k hk).noDot)
    intro k' hk' hhead
    cases hk'
    rw [hc] at hhead
    exact hdot (Option.some.inj hhead)
  | dotted =>
    apply segments_of_dotted hne h
    rw [Spelling.write, hjoin, Text.trimChars_of_no_blank hblank, withoutBraces_of_head hbrace,
      dropWhile_dot_of_head hdot, hjoined]
  | pointed =>
    apply segments_of_dotted hne h
    have hpointed : ∀ d ∈ '.' :: c :: ds, isBlank d = false := List.forall_mem_cons.2 ⟨rfl, hblank⟩
    rw [Spelling.write, String.toList_append, hjoin]
    change (withoutBraces (Text.trimChars ('.' :: c :: ds))).dropWhile _ = _
    rw [Text.trimChars_of_no_blank hpointed, withoutBraces_of_head (by decide), hpoint, hjoined]
  | template =>
    apply segments_of_dotted hne h
    have hframed : ∀ d ∈ '{' :: ('.' :: c :: ds ++ ['}']), isBlank d = false := by
      refine List.forall_mem_cons.2 ⟨rfl, List.forall_mem_append.2 ⟨?_, ?_⟩⟩
      · exact List.forall_mem_cons.2 ⟨rfl, hblank⟩
      · exact List.forall_mem_singleton.2 rfl
    rw [Spelling.write, String.toList_append, String.toList_append, hjoin]
    change (withoutBraces (Text.trimChars ('{' :: ('.' :: c :: ds ++ ['}'])))).dropWhile _ = _
    rw [Text.trimChars_of_no_blank hframed, withoutBraces_braced (List.cons_ne_nil _ _), hpoint,
      hjoined]

end Selector

namespace Json

open Selector

inductive Step where
  | key (name : String)
  | index (i : UInt64)

/-- The segment of a selector for a step; indices are given in decimal. -/
def Step.segment : Step → String
  | key name => name
  | index i => Text.decimal i.toNat

/-- What stands at a place in a document. -/
inductive At : Json → List Step → Json → Prop where
  | here (d : Json) : At d [] d
  | member {members : List (String × Json)} {name : String} {d v : Json} {steps : List Step}
    (hd : members.lookup name = some d) (hv : At d steps v) :
    At (.object members) (.key name :: steps) v
  | item {items : List Json} {i : UInt64} {d v : Json} {steps : List Step}
    (hd : items[i.toNat]? = some d) (hv : At d steps v) : At (.array items) (.index i :: steps) v

def IsScalar (d : Json) : Prop := (∀ members, d ≠ .object members) ∧ ∀ items, d ≠ .array items

/-- How a row of segments leads out of a document. -/
inductive Leaves : Json → List String → Prop where
  | noMember {members : List (String × Json)} {segment : String} {segments : List String}
    (h : ∀ v, (segment, v) ∉ members) : Leaves (.object members) (segment :: segments)
  | noIndex {items : List Json} {segment : String} {segments : List String}
    (h : index? segment = none) : Leaves (.array items) (segment :: segments)
  | pastEnd {items : List Json} {segment : String} {segments : List String} {i : Nat}
    (h : index? segment = some i) (hi : items.length ≤ i) :
    Leaves (.array items) (segment :: segments)
  | scalar {d : Json} {segment : String} {segments : List String} (h : d.IsScalar) :
    Leaves d (segment :: segments)
  | member {members : List (String × Json)} {segment : String} {segments : List String} {d : Json}
    (hd : members.lookup segment = some d) (h : Leaves d segments) :
    Leaves (.object members) (segment :: segments)
  | item {items : List Json} {segment : String} {segments : List String} {i : Nat} {d : Json}
    (hi : index? segment = some i) (hd : items[i]? = some d) (h : Leaves d segments) :
    Leaves (.array items) (segment :: segments)

variable {d v : Json} {steps : List Step} {segments : List String}

theorem index?_decimal {n : Nat} (h : n ≤ maxIndex) : index? (Text.decimal n) = some n := by
  have hdigit : ∀ c ∈ Text.digits n, Text.isDigit c = true := fun c => Text.isDigit_of_mem_digits
  have hread : Text.readDigits? (Text.digits n) = some n := by
    have hall : (Text.digits n).all Text.isDigit = true := List.all_eq_true.2 hdigit
    have hne : (Text.digits n).isEmpty = false := List.isEmpty_eq_false_iff.2 Nat.toDigits_ne_nil
    rw [Text.readDigits?, hall, hne, Bool.not_true, Bool.or_false, if_neg Bool.false_ne_true,
      Text.digitsValue_digits]
  rw [index?, Text.decimal, String.toList_ofList]
  split
  next ds hds =>
    have hplus : Text.isDigit '+' = true := hdigit '+' (hds ▸ List.mem_cons_self)
    cases hplus
  next => rw [hread, Option.filter_some, if_pos (decide_eq_true h)]

theorem follow?_of_at (h : d.At steps v) : follow? d (steps.map Step.segment) = some v := by
  induction h with
  | here d => rfl
  | member hd _ ih =>
    rw [List.map_cons, follow?_cons, Step.segment, child?, hd]
    exact ih
  | @item items i d v steps hd _ ih =>
    have hi : i.toNat ≤ maxIndex := Nat.le_sub_one_of_lt i.toNat_lt
    rw [List.map_cons, follow?_cons, Step.segment, child?, index?_decimal hi, Option.bind_some, hd]
    exact ih

/-- Nothing is found exactly if the segments lead out of the document. -/
theorem follow?_eq_none_iff : follow? d segments = none ↔ d.Leaves segments := by
  constructor
  · intro h
    induction segments generalizing d with
    | nil => cases h
    | cons segment segments ih =>
      rw [follow?_cons] at h
      cases d with
      | object members =>
        cases hd : members.lookup segment with
        | none =>
          refine .noMember fun v hv => ?_
          have hne := List.lookup_eq_none_iff.1 hd _ hv
          exact bne_iff_ne.1 hne rfl
        | some d =>
          rw [child?, hd] at h
          exact .member hd (ih h)
      | array items =>
        cases hi : index? segment with
        | none => exact .noIndex hi
        | some i =>
          rw [child?, hi, Option.bind_some] at h
          cases hd : items[i]? with
          | none => exact .pastEnd hi (List.getElem?_eq_none_iff.1 hd)
          | some d =>
            rw [hd] at h
            exact .item hi hd (ih h)
      | null => exact .scalar ⟨nofun, nofun⟩
      | bool b => exact .scalar ⟨nofun, nofun⟩
      | number n => exact .scalar ⟨nofun, nofun⟩
      | string s => exact .scalar ⟨nofun, nofun⟩
  · intro h
    induction h with
    | @noMember members segment segments h =>
      have hnone : members.lookup segment = none := by
        rw [List.lookup_eq_none_iff]
        intro m hm
        rw [bne_iff_ne]
        rintro rfl
        exact h m.2 hm
      rw [follow?_cons, child?, hnone]
      rfl
    | noIndex h =>
      rw [follow?_cons, child?, h]
      rfl
    | pastEnd h hi =>
      rw [follow?_cons, child?, h, Option.bind_some, List.getElem?_eq_none hi]
      rfl
    | @scalar d segment segments h =>
      rw [follow?_cons]
      cases d with
      | object members => exact absurd rfl (h.1 members)
      | array items => exact absurd rfl (h.2 items)
      | _ => rfl
    | member hd _ ih =>
      rw [follow?_cons, child?, hd]
      exact ih
    | item hi hd _ ih =>
      rw [follow?_cons, child?, hi, Option.bind_some, hd]
      exact ih

structure Addressable (d : Json) : Prop where
  reached : ∀ steps v, steps ≠ [] → (∀ name, .key name ∈ steps → IsPlain name) → d.At steps v →
    ∀ sp : Spelling, select? d (sp.write (steps.map Step.segment)) = some v
  missed : ∀ segments, segments ≠ [] → (∀ k ∈ segments, IsPlain k) →
    ∀ sp : Spelling, select? d (sp.write segments) = none ↔ d.Leaves segments
  agree : ∀ segments, segments ≠ [] → (∀ k ∈ segments, IsPlain k) →
    ∀ sp sp' : Spelling, select? d (sp.write segments) = select? d (sp'.write segments)
  dotted : ∀ steps v, 2 ≤ steps.length → (∀ name, .key name ∈ steps → IsName name) →
    (∀ step, steps.head? = some step → step.segment.toList.head? ≠ some '.') → d.At steps v →
      select? d (Spelling.slashed.write (steps.map Step.segment)) = some v

theorem isPlain_decimal (n : Nat) : IsPlain (Text.decimal n) := by
  have hdigit : ∀ c ∈ (Text.decimal n).toList, Text.isDigit c = true := by
    intro c hc
    rw [Text.decimal, String.toList_ofList] at hc
    exact Text.isDigit_of_mem_digits hc
  have hnot (c : Char) (hc : Text.isDigit c = false) : c ∉ (Text.decimal n).toList := by
    intro hm
    rw [hdigit c hm] at hc
    cases hc
  have hne : Text.decimal n ≠ "" := by
    intro he
    have hnil : Text.digits n = [] := by
      rw [← String.toList_eq_nil_iff.2 he, Text.decimal, String.toList_ofList]
    exact Nat.toDigits_ne_nil hnil
  exact { ne_empty := hne
          noSlash := hnot '/' rfl
          noOpening := hnot '{' rfl
          noClosing := hnot '}' rfl
          noBlank := fun c hc => Text.not_isBlank_of_isDigit (hdigit c hc)
          noDot := hnot '.' rfl }

theorem forall_mem_segments {P : String → Prop} (hk : ∀ name, .key name ∈ steps → P name)
    (hi : ∀ n, P (Text.decimal n)) : ∀ k ∈ steps.map Step.segment, P k := by
  intro k hm
  obtain ⟨step, hs, rfl⟩ := List.mem_map.1 hm
  cases step with
  | key name => exact hk name hs
  | index i => exact hi i.toNat

/-- Selectors find what stands at the place that they spell, and nothing else. -/
theorem places_addressable (d : Json) : d.Addressable where
  reached steps v hne hk hv sp := by
    have hplain := forall_mem_segments hk isPlain_decimal
    rw [select?, segments_write (by simpa using hne) hplain sp]
    exact follow?_of_at hv
  missed segments hne hplain sp := by
    rw [select?, segments_write hne hplain sp]
    exact follow?_eq_none_iff
  agree segments hne hplain sp sp' := by
    rw [select?, select?, segments_write hne hplain sp, segments_write hne hplain sp']
  dotted steps v hlength hk hfirst hv := by
    have hname := forall_mem_segments hk fun n => (isPlain_decimal n).toIsName
    have hne : steps.map Step.segment ≠ [] := by
      intro hnil
      rw [List.map_eq_nil_iff.1 hnil] at hlength
      exact Nat.not_succ_le_zero 1 hlength
    have hhead : ∀ k, (steps.map Step.segment).head? = some k → k.toList.head? ≠ some '.' := by
      intro k h
      rw [List.head?_map] at h
      obtain ⟨step, hs, rfl⟩ := Option.map_eq_some_iff.1 h
      exact hfirst step hs
    rw [select?, segments_slashed hne hname hhead (.inl (by simpa using hlength))]
    exact follow?_of_at hv

/-- A key that is a number is no index in an object. -/
example : select? (.object [("items", .array [.null, .object [("1", .bool true)]])])
    "\x7b.items.1.1\x7d" = some (.bool true) := rfl

end Json

end ClusterAccess
