import ClusterAccess.Headers
import Mathlib.Data.List.Forall2
import Mathlib.Data.List.Induction
import Mathlib.Data.List.Nodup

namespace ClusterAccess

/-- A map that keeps its keys in the order in which they came. -/
structure OrderedMap (κ α : Type) where
  keys : List κ
  value : κ → Option α

namespace OrderedMap

variable {κ α : Type} [DecidableEq κ]

def empty : OrderedMap κ α := ⟨[], fun _ => none⟩

/-- A key that is there keeps its place. -/
def put (m : OrderedMap κ α) (k : κ) (a : α) : OrderedMap κ α :=
  ⟨if (m.value k).isSome then m.keys else m.keys ++ [k],
    fun x => if x = k then some a else m.value x⟩

def erase (m : OrderedMap κ α) (k : κ) : OrderedMap κ α :=
  ⟨m.keys.filter (· ≠ k), fun x => if x = k then none else m.value x⟩

end OrderedMap

namespace Headers

/-- One character is another, or both are one ASCII letter, in upper and in lower case. -/
inductive SameLetter : Char → Char → Prop where
  | same (c : Char) : SameLetter c c
  | lower {c d : Char} (hc : 'A' ≤ c ∧ c ≤ 'Z') (hd : d.toNat = c.toNat + 32) : SameLetter c d
  | upper {c d : Char} (hd : 'A' ≤ d ∧ d ≤ 'Z') (hc : c.toNat = d.toNat + 32) : SameLetter c d

/-- The first field of the name takes the value in its place, or a field is added at the end. -/
inductive Sets (name value : String) : List (String × String) → List (String × String) → Prop where
  | replaced (before after : List (String × String)) {spelling old : String}
    (hn : sameName spelling name = true) (hb : ∀ e ∈ before, sameName e.1 name = false) :
    Sets name value (before ++ (spelling, old) :: after) (before ++ (spelling, value) :: after)
  | added {es : List (String × String)} (he : ∀ e ∈ es, sameName e.1 name = false) :
    Sets name value es (es ++ [(name, value)])

/-- The one field of the name goes and gives its value. -/
inductive Takes (name : String) :
    List (String × String) → Option String → List (String × String) → Prop where
  | taken (before after : List (String × String)) {spelling value : String}
    (hn : sameName spelling name = true) (hb : ∀ e ∈ before, sameName e.1 name = false)
    (ha : ∀ e ∈ after, sameName e.1 name = false) :
    Takes name (before ++ (spelling, value) :: after) (some value) (before ++ after)
  | absent {es : List (String × String)} (he : ∀ e ∈ es, sameName e.1 name = false) :
    Takes name es none es

def count (name : String) (es : List (String × String)) : Nat :=
  es.countP fun e => sameName e.1 name

def Unique (es : List (String × String)) : Prop := (es.map fun e => fold e.1).Nodup

inductive Edit where
  | set (name value : String)
  | remove (name : String)

namespace Edit

def name : Edit → String
  | set name _ => name
  | remove name => name

def apply (h : Headers) : Edit → Headers
  | set name value => h.set name value
  | remove name => (h.take name).2

/-- What an edit is to a map: the spelling of a name that is there stays. -/
def record (m : OrderedMap (List Char) (String × String)) :
    Edit → OrderedMap (List Char) (String × String)
  | set name value => m.put (fold name) (((m.value (fold name)).map (·.1)).getD name, value)
  | remove name => m.erase (fold name)

end Edit

def ofEdits (edits : List Edit) : Headers := edits.foldl Edit.apply empty

def mapOfEdits (edits : List Edit) : OrderedMap (List Char) (String × String) :=
  edits.foldl Edit.record .empty

def LastSet (edits : List Edit) (name value : String) : Prop :=
  ∃ before after spelling, edits = before ++ .set spelling value :: after ∧
    sameName spelling name = true ∧ ∀ e ∈ after, sameName e.name name = false

/-- The first field of a row whose name is a key without case. -/
def findIn (es : List (String × String)) (k : List Char) : Option (String × String) :=
  es.find? fun e => fold e.1 == k

/-- A row of fields as a map, from names without case to the spelling and the value of the field. -/
def view (es : List (String × String)) : OrderedMap (List Char) (String × String) :=
  ⟨es.map fun e => fold e.1, findIn es⟩

variable {h : Headers} {name value spelling : String} {es es' : List (String × String)}
  {e : String × String} {k : List Char} {taken : Option String} {edits : List Edit} {edit : Edit}

theorem toLower_of_not_upper {c : Char} (hc : ¬ ('A' ≤ c ∧ c ≤ 'Z')) : c.toLower = c :=
  dif_neg hc

theorem toNat_toLower {c : Char} (hc : 'A' ≤ c ∧ c ≤ 'Z') : c.toLower.toNat = c.toNat + 32 := by
  have hz : c.val.toNat ≤ 90 := hc.2
  have hlower : c.toLower.val = c.val + 32 := by
    unfold Char.toLower
    rw [dif_pos ⟨hc.1, hc.2⟩]
    rfl
  have hshift : (32 : UInt32).toNat = 32 := rfl
  rw [Char.toNat, hlower, UInt32.toNat_add, hshift, Char.toNat]
  apply Nat.mod_eq_of_lt
  omega

theorem toLower_eq_iff {c d : Char} : c.toLower = d.toLower ↔ SameLetter c d := by
  have hbound {x : Char} : ('A' ≤ x ∧ x ≤ 'Z') ↔ 65 ≤ x.toNat ∧ x.toNat ≤ 90 := Iff.rfl
  rw [← Char.toNat_inj]
  constructor
  · intro h
    by_cases hc : 'A' ≤ c ∧ c ≤ 'Z'
    · by_cases hd : 'A' ≤ d ∧ d ≤ 'Z'
      · rw [toNat_toLower hc, toNat_toLower hd, Nat.add_right_cancel_iff, Char.toNat_inj] at h
        rw [h]
        exact .same d
      · rw [toNat_toLower hc, toLower_of_not_upper hd] at h
        exact .lower hc h.symm
    · rw [toLower_of_not_upper hc] at h
      by_cases hd : 'A' ≤ d ∧ d ≤ 'Z'
      · rw [toNat_toLower hd] at h
        exact .upper hd h
      · rw [toLower_of_not_upper hd, Char.toNat_inj] at h
        rw [h]
        exact .same d
  · intro h
    cases h with
    | same => rfl
    | lower hc hd =>
      have hd' : ¬ ('A' ≤ d ∧ d ≤ 'Z') := by
        rw [hbound] at hc ⊢
        omega
      rw [toNat_toLower hc, toLower_of_not_upper hd', hd]
    | upper hd hc =>
      have hc' : ¬ ('A' ≤ c ∧ c ≤ 'Z') := by
        rw [hbound] at hd ⊢
        omega
      rw [toNat_toLower hd, toLower_of_not_upper hc', hc]

theorem sameName_iff {a b : String} : sameName a b = true ↔ fold a = fold b := beq_iff_eq

theorem sameName_eq_false_iff {a b : String} : sameName a b = false ↔ fold a ≠ fold b :=
  beq_eq_false_iff_ne

theorem sameName_self (name : String) : sameName name name = true := beq_self_eq_true _

theorem sameName_iff_forall₂ {a b : String} :
    sameName a b = true ↔ List.Forall₂ SameLetter a.toList b.toList := by
  have hletters : (fun c d : Char => c.toLower = d.toLower) = SameLetter := by
    funext c d
    exact propext toLower_eq_iff
  rw [sameName_iff, fold, fold, ← hletters, ← List.forall₂_eq_eq_eq, List.forall₂_map_left_iff,
    List.forall₂_map_right_iff]

theorem Sets.cons (he : sameName e.1 name = false) (h : Sets name value es es') :
    Sets name value (e :: es) (e :: es') := by
  cases h with
  | replaced before after hn hb =>
    refine .replaced (e :: before) after hn fun x hx => ?_
    rcases List.mem_cons.1 hx with rfl | hx
    · exact he
    · exact hb x hx
  | added hes =>
    refine .added fun x hx => ?_
    rcases List.mem_cons.1 hx with rfl | hx
    · exact he
    · exact hes x hx

theorem sets_setIn (name value : String) (es : List (String × String)) :
    Sets name value es (setIn name value es) := by
  induction es with
  | nil => exact .added nofun
  | cons e es ih =>
    rw [setIn]
    split
    next h => exact .replaced [] es h nofun
    next h => exact ih.cons (Bool.not_eq_true _ ▸ h)

theorem Sets.of_nil (h : Sets name value [] es') : es' = [(name, value)] := by
  generalize hes : ([] : List (String × String)) = es at h
  cases h with
  | replaced => simp at hes
  | added =>
    subst hes
    rfl

theorem Sets.count_eq (h : Sets name value es es') : count name es' = max 1 (count name es) := by
  cases h with
  | @replaced before after spelling old hn hb =>
    have hpos : 1 ≤ count name (before ++ (spelling, old) :: after) :=
      List.countP_pos_iff.2 ⟨(spelling, old), by simp, hn⟩
    rw [Nat.max_eq_right hpos]
    simp [count, List.countP_append, List.countP_cons]
  | added he =>
    have hzero : count name es = 0 :=
      List.countP_eq_zero.2 fun x hx => by simp [he x hx]
    rw [hzero]
    simpa [count, List.countP_append, List.countP_cons, sameName_self] using hzero

theorem Sets.unique (h : Sets name value es es') (hu : Unique es) : Unique es' := by
  cases h with
  | replaced before after hn hb =>
    rw [Unique, List.map_append] at hu ⊢
    exact hu
  | added he =>
    rw [Unique, List.map_append, List.nodup_append]
    refine ⟨hu, List.nodup_singleton _, ?_⟩
    intro a ha b hb
    obtain ⟨x, hx, rfl⟩ := List.mem_map.1 ha
    rw [List.mem_singleton.1 hb]
    exact sameName_eq_false_iff.1 (he x hx)

theorem Takes.unique (h : Takes name es taken es') (hu : Unique es) : Unique es' := by
  cases h with
  | taken before after hn hb ha =>
    apply List.Nodup.sublist _ hu
    apply List.Sublist.map
    exact (List.Sublist.refl before).append (List.sublist_cons_self _ after)
  | absent => exact hu

theorem takes_take (hu : Unique h.entries) (name : String) :
    Takes name h.entries (h.take name).1 (h.take name).2.entries := by
  have hvalue : (h.take name).1 = h.get? name := by
    rw [take, get?, List.find?_eq_bind_findIdx?_getElem?]
    cases h.entries.findIdx? fun e => sameName e.1 name <;> rfl
  have hrest : (h.take name).2 = h.remove name := by
    rw [take, remove, List.eraseP_eq_eraseIdx]
    cases h.entries.findIdx? fun e => sameName e.1 name <;> rfl
  rw [hvalue, hrest, get?, remove]
  cases hf : h.entries.find? fun e => sameName e.1 name with
  | none =>
    have habsent : ∀ e ∈ h.entries, sameName e.1 name = false := by
      intro e he
      exact Bool.eq_false_iff.2 (List.find?_eq_none.1 hf e he)
    rw [List.eraseP_of_forall_not fun e he => Bool.eq_false_iff.1 (habsent e he)]
    exact .absent habsent
  | some e =>
    obtain ⟨hn, before, after, he, hb⟩ := List.find?_eq_some_iff_append.1 hf
    have hb' : ∀ x ∈ before, sameName x.1 name = false := by
      intro x hx
      rw [← Bool.not_eq_true']
      exact hb x hx
    have ha : ∀ x ∈ after, sameName x.1 name = false := by
      intro x hx
      rw [he, Unique, List.map_append, List.map_cons] at hu
      have hne := (List.nodup_cons.1 hu.of_append_right).1
      rw [sameName_eq_false_iff, ← sameName_iff.1 hn]
      intro heq
      exact hne (List.mem_map.2 ⟨x, hx, heq⟩)
    have herase : h.entries.eraseP (fun x => sameName x.1 name) = before ++ after := by
      have hskip : ∀ x ∈ before, ¬ sameName x.1 name = true := by
        intro x hx
        rw [hb' x hx]
        exact Bool.false_ne_true
      rw [he, List.eraseP_append_right _ hskip, List.eraseP_cons, hn, cond_true]
    rw [herase, he]
    exact .taken before after hn hb' ha

theorem findIn_of_absent (h : ∀ e ∈ es, sameName e.1 name = false) :
    findIn es (fold name) = none := by
  apply List.find?_eq_none.2
  intro e he
  rw [beq_iff_eq]
  exact sameName_eq_false_iff.1 (h e he)

theorem findIn_append_cons {before after : List (String × String)}
    (hn : sameName spelling name = true) (hb : ∀ e ∈ before, sameName e.1 name = false)
    (k : List Char) : findIn (before ++ (spelling, value) :: after) k =
      if k = fold name then some (spelling, value) else findIn (before ++ after) k := by
  have hspelling := sameName_iff.1 hn
  have hbefore := findIn_of_absent hb
  rw [findIn] at hbefore
  by_cases hk : k = fold name
  · rw [if_pos hk, hk, findIn, List.find?_append, hbefore, Option.none_or, List.find?_cons_of_pos]
    exact beq_iff_eq.2 hspelling
  · rw [if_neg hk, findIn, findIn, List.find?_append, List.find?_append, List.find?_cons_of_neg]
    rw [beq_iff_eq, hspelling]
    exact fun h => hk h.symm

theorem view_eq {m : OrderedMap (List Char) (String × String)}
    (hkeys : (es.map fun e => fold e.1) = m.keys) (hvalue : ∀ k, findIn es k = m.value k) :
    view es = m := by
  rw [view, hkeys, funext hvalue]

/-- A map is set as the fields are. -/
theorem Sets.view_eq (h : Sets name value es es') :
    view es' = (Edit.set name value).record (view es) := by
  cases h with
  | @replaced before after spelling old hn hb =>
    have hfound : findIn (before ++ (spelling, old) :: after) (fold name) =
        some (spelling, old) := by
      rw [findIn_append_cons hn hb, if_pos rfl]
    apply Headers.view_eq
    · simp only [Edit.record, OrderedMap.put, view, hfound, Option.isSome_some, if_true,
        List.map_append, List.map_cons]
    · intro k
      simp only [Edit.record, OrderedMap.put, view, hfound, Option.map_some, Option.getD_some,
        findIn_append_cons hn hb]
      split <;> rfl
  | added he =>
    have habsent := findIn_of_absent he
    apply Headers.view_eq
    · simp only [Edit.record, OrderedMap.put, view, habsent, Option.isSome_none,
        Bool.false_eq_true, if_false, List.map_append, List.map_cons, List.map_nil]
    · intro k
      simp only [Edit.record, OrderedMap.put, view, habsent, Option.map_none, Option.getD_none,
        findIn_append_cons (sameName_self name) he, List.append_nil]

theorem Takes.view_eq (h : Takes name es taken es') :
    view es' = (Edit.remove name).record (view es) := by
  have hkept {row : List (String × String)} (hrow : ∀ e ∈ row, sameName e.1 name = false) :
      (row.map fun e => fold e.1).filter (· ≠ fold name) = row.map fun e => fold e.1 := by
    apply List.filter_eq_self.2
    intro k hk
    obtain ⟨e, he, rfl⟩ := List.mem_map.1 hk
    exact decide_eq_true (sameName_eq_false_iff.1 (hrow e he))
  cases h with
  | @taken before after spelling value hn hb ha =>
    have hrest : ∀ e ∈ before ++ after, sameName e.1 name = false := by
      intro e he
      rcases List.mem_append.1 he with he | he
      · exact hb e he
      · exact ha e he
    apply Headers.view_eq
    · simp only [Edit.record, OrderedMap.erase, view, List.map_append, List.map_cons,
        List.filter_append, List.filter_cons, hkept hb, hkept ha, sameName_iff.1 hn, ne_eq,
        not_true_eq_false, decide_false, Bool.false_eq_true, if_false]
    · intro k
      simp only [Edit.record, OrderedMap.erase, view, findIn_append_cons hn hb]
      split
      next hk => rw [hk, findIn_of_absent hrest]
      next => rfl
  | absent he =>
    apply Headers.view_eq
    · exact (hkept he).symm
    · intro k
      simp only [Edit.record, OrderedMap.erase, view]
      split
      next hk => rw [hk, findIn_of_absent he]
      next => rfl

theorem unique_apply (hu : Unique h.entries) (edit : Edit) : Unique (edit.apply h).entries := by
  cases edit with
  | set name value => exact (sets_setIn name value h.entries).unique hu
  | remove name => exact (takes_take hu name).unique hu

theorem view_apply (hu : Unique h.entries) (edit : Edit) :
    view (edit.apply h).entries = edit.record (view h.entries) := by
  cases edit with
  | set name value => exact (sets_setIn name value h.entries).view_eq
  | remove name => exact (takes_take hu name).view_eq

theorem ofEdits_concat (edits : List Edit) (edit : Edit) :
    ofEdits (edits ++ [edit]) = edit.apply (ofEdits edits) := List.foldl_concat ..

theorem mapOfEdits_concat (edits : List Edit) (edit : Edit) :
    mapOfEdits (edits ++ [edit]) = edit.record (mapOfEdits edits) := List.foldl_concat ..

theorem unique_ofEdits (edits : List Edit) : Unique (ofEdits edits).entries := by
  induction edits using List.reverseRecOn with
  | nil => exact List.nodup_nil
  | append_singleton edits edit ih =>
    rw [ofEdits_concat]
    exact unique_apply ih edit

theorem view_ofEdits (edits : List Edit) : view (ofEdits edits).entries = mapOfEdits edits := by
  induction edits using List.reverseRecOn with
  | nil => rfl
  | append_singleton edits edit ih =>
    rw [ofEdits_concat, mapOfEdits_concat, view_apply (unique_ofEdits edits), ih]

/-- Fields of different names are what their map has at its keys, in the order of the keys. -/
theorem entries_eq_of_unique (hu : Unique es) :
    es = (view es).keys.filterMap (view es).value := by
  have hfind : ∀ e ∈ es, findIn es (fold e.1) = some e := by
    induction es with
    | nil => nofun
    | cons d es ih =>
      obtain ⟨hd, hu⟩ := List.nodup_cons.1 hu
      intro e he
      rw [findIn]
      rcases List.mem_cons.1 he with rfl | he
      · exact List.find?_cons_of_pos (beq_self_eq_true _)
      · rw [List.find?_cons_of_neg]
        · exact ih hu e he
        · rw [beq_iff_eq]
          intro heq
          exact hd (List.mem_map.2 ⟨e, he, heq.symm⟩)
  calc es = es.filterMap some := (List.filterMap_some).symm
    _ = es.filterMap fun e => findIn es (fold e.1) :=
      List.filterMap_congr fun e he => (hfind e he).symm
    _ = (view es).keys.filterMap (view es).value := by
      rw [view, List.filterMap_map]
      rfl

theorem get?_eq (h : Headers) (name : String) :
    h.get? name = ((view h.entries).value (fold name)).map (·.2) := rfl

theorem lastSet_concat : LastSet (edits ++ [edit]) name value ↔
    if sameName edit.name name = true then ∃ spelling, edit = .set spelling value
    else LastSet edits name value := by
  constructor
  · rintro ⟨before, after, spelling, he, hn, ha⟩
    rcases List.eq_nil_or_concat' after with rfl | ⟨after, last, rfl⟩
    · obtain ⟨-, hedit⟩ := List.append_inj' he rfl
      obtain rfl := List.singleton_inj.1 hedit
      rw [Edit.name, if_pos hn]
      exact ⟨spelling, rfl⟩
    · rw [← List.cons_append, ← List.append_assoc] at he
      obtain ⟨hedits, hedit⟩ := List.append_inj' he rfl
      obtain rfl := List.singleton_inj.1 hedit
      have hlast := ha edit (List.mem_append_right _ (List.mem_singleton_self edit))
      rw [hlast, if_neg Bool.false_ne_true]
      exact ⟨before, after, spelling, hedits, hn, fun e he => ha e (List.mem_append_left _ he)⟩
  · intro h
    split at h
    next hn =>
      obtain ⟨spelling, rfl⟩ := h
      exact ⟨edits, [], spelling, rfl, hn, nofun⟩
    next hn =>
      obtain ⟨before, after, spelling, rfl, hs, ha⟩ := h
      refine ⟨before, after ++ [edit], spelling, by simp, hs, ?_⟩
      intro e he
      rcases List.mem_append.1 he with he | he
      · exact ha e he
      · rw [List.mem_singleton.1 he]
        exact Bool.eq_false_iff.2 hn

theorem not_lastSet_nil : ¬ LastSet [] name value := by
  rintro ⟨before, after, spelling, he, -⟩
  simp at he

/-- What the map has at a name is what the name was last set to. -/
theorem mapOfEdits_value_iff :
    ((mapOfEdits edits).value (fold name)).map (·.2) = some value ↔ LastSet edits name value := by
  induction edits using List.reverseRecOn with
  | nil =>
    simp only [mapOfEdits, List.foldl_nil, OrderedMap.empty, Option.map_none, reduceCtorEq,
      not_lastSet_nil]
  | append_singleton edits edit ih =>
    rw [mapOfEdits_concat, lastSet_concat, ← ih]
    cases edit with
    | set spelling v =>
      simp only [Edit.record, OrderedMap.put, Edit.name, sameName_iff, eq_comm (a := fold spelling)]
      split <;> simp
    | remove spelling =>
      simp only [Edit.record, OrderedMap.erase, Edit.name, sameName_iff,
        eq_comm (a := fold spelling)]
      split <;> simp

structure ActsAsMap (edits : List Edit) (h : Headers) : Prop where
  unique : h.names.Pairwise fun a b => ¬ List.Forall₂ SameLetter a.toList b.toList
  get : ∀ name value, h.get? name = some value ↔ LastSet edits name value
  contains : ∀ name, h.contains name = true ↔ ∃ value, LastSet edits name value
  set : ∀ name value, Sets name value h.entries (h.set name value).entries
  remove : ∀ name, Takes name h.entries (h.take name).1 (h.take name).2.entries
  entries : h.entries = (mapOfEdits edits).keys.filterMap (mapOfEdits edits).value
  names : h.names.map fold = (mapOfEdits edits).keys
  size : h.size = (mapOfEdits edits).keys.length

/-- However header fields came about, they are an insertion-ordered map. -/
theorem actsAsMap (edits : List Edit) : ActsAsMap edits (ofEdits edits) := by
  have hu := unique_ofEdits edits
  have hview := view_ofEdits edits
  have hget (name value : String) :
      (ofEdits edits).get? name = some value ↔ LastSet edits name value := by
    rw [get?_eq, hview, mapOfEdits_value_iff]
  constructor
  case unique =>
    rw [names, List.pairwise_map]
    apply (List.pairwise_map.1 hu).imp
    intro a b hne
    rw [← sameName_iff_forall₂, sameName_iff]
    exact hne
  case get => exact hget
  case contains =>
    intro name
    rw [contains, Option.isSome_iff_exists]
    exact exists_congr (hget name)
  case set => exact fun name value => sets_setIn name value _
  case remove => exact takes_take hu
  case entries =>
    rw [← hview]
    exact entries_eq_of_unique hu
  case names =>
    rw [← hview, names, List.map_map]
    rfl
  case size =>
    rw [← hview, view, List.length_map]
    rfl

/-- The spelling that a name came with stays; and the sign for kelvin is no letter of ASCII. -/
example : (ofEdits [.set "Key" "a", .set "\u212aey" "b", .remove "x", .set "kEY" "c"]).entries =
    [("Key", "c"), ("\u212aey", "b")] := by decide

end Headers

end ClusterAccess
