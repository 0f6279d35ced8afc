import ClusterAccess.Json.Document

namespace ClusterAccess.Json

def field? (names : List String) (member : List Piece × Document) : Option (String × Document) :=
  match keyText? member.1 with
  | some name => if name ∈ names then some (name, member.2) else none
  | none => none

/-- By the members of an object that bear the names, or by the items of an array in order. -/
def Document.given (names : List String) : Document → Fields
  | .object members => members.filterMap (field? names)
  | .array items => names.zip items
  | _ => []

def Fields.IsUnique (fs : Fields) : Prop := (fs.map (·.1)).Nodup

/-- A document that a record with the field names can be read of. -/
inductive Document.IsRecord (names : List String) : Document → Prop where
  | object {members : List (List Piece × Document)} (hkeys : ∀ m ∈ members, ∃ t, keyText? m.1 = some t)
    (honce : Fields.IsUnique (members.filterMap (field? names))) : IsRecord names (.object members)
  | array {items : List Document} (h : items.length ≤ names.length) : IsRecord names (.array items)

/-- What a field that may be left out or null holds. -/
inductive Optionally {α : Type} (R : Document → α → Prop) : Option Document → Option α → Prop where
  | absent : Optionally R none none
  | null : Optionally R (some .null) none
  | given {d : Document} {a : α} (h : R d a) : Optionally R (some d) (some a)

def Document.IsText (d : Document) (t : String) : Prop :=
  ∃ pieces, d = .string pieces ∧ keyText? pieces = some t

variable {names : List String} {members : List (List Piece × Document)}
  {m : List Piece × Document} {before fs : Fields} {d : Document}

theorem isUnique_concat {t : String} (h : before.IsUnique) :
    Fields.IsUnique (before ++ [(t, d)]) ↔ t ∉ before.map (·.1) := by
  rw [Fields.IsUnique, List.map_append, List.map_singleton, List.nodup_append]
  constructor
  · rintro ⟨-, -, hne⟩ hm
    exact hne t hm t (List.mem_singleton_self t) rfl
  · intro hm
    refine ⟨h, List.pairwise_singleton _ t, ?_⟩
    intro s hs s' hs' he
    have hst : s = t := he.trans (List.mem_singleton.1 hs')
    exact hm (hst ▸ hs)

theorem Fields.IsUnique.of_append {after : Fields} (h : Fields.IsUnique (before ++ after)) :
    before.IsUnique := by
  rw [Fields.IsUnique, List.map_append] at h
  exact (List.nodup_append.1 h).1

theorem add?_eq_some_iff (hb : before.IsUnique) : before.add? names m = some fs ↔
    (∃ t, keyText? m.1 = some t) ∧ fs = before ++ (field? names m).toList ∧ fs.IsUnique := by
  rw [Fields.add?, field?]
  cases keyText? m.1 with
  | none => exact ⟨nofun, fun h => nomatch h.1⟩
  | some t =>
    have hkey : ∃ t', some t = some t' := ⟨t, rfl⟩
    have hany : before.any (·.1 == t) = true ↔ t ∈ before.map (·.1) := by simp
    simp only [Option.bind_eq_bind, Option.bind_some, List.contains_iff_mem, Bool.not_eq_true',
      ← Bool.not_eq_true, ite_not]
    by_cases hn : t ∈ names
    · rw [if_pos hn, if_pos hn, Option.toList_some]
      by_cases hm : t ∈ before.map (·.1)
      · rw [if_pos (hany.2 hm)]
        constructor
        · nofun
        · rintro ⟨-, rfl, hu⟩
          exact absurd hm ((isUnique_concat hb).1 hu)
      · rw [if_neg (mt hany.1 hm)]
        constructor
        · intro h
          cases h
          exact ⟨hkey, rfl, (isUnique_concat hb).2 hm⟩
        · rintro ⟨-, rfl, -⟩
          rfl
    · rw [if_neg hn, if_neg hn, Option.toList_none, List.append_nil]
      constructor
      · intro h
        cases h
        exact ⟨hkey, rfl, hb⟩
      · rintro ⟨-, rfl, -⟩
        rfl

theorem foldlM_add?_eq_some_iff (hb : before.IsUnique) :
    members.foldlM (Fields.add? names) before = some fs ↔
      (∀ m ∈ members, ∃ t, keyText? m.1 = some t) ∧
        fs = before ++ members.filterMap (field? names) ∧ fs.IsUnique := by
  induction members generalizing before with
  | nil =>
    rw [List.foldlM_nil, List.filterMap_nil, List.append_nil]
    constructor
    · intro h
      cases h
      exact ⟨fun _ h => absurd h List.not_mem_nil, rfl, hb⟩
    · rintro ⟨-, rfl, -⟩
      rfl
  | cons m members ih =>
    have hfields : (m :: members).filterMap (field? names) =
        (field? names m).toList ++ members.filterMap (field? names) := by
      rw [List.filterMap_cons]
      cases field? names m <;> rfl
    rw [List.foldlM_cons, Option.bind_eq_bind, Option.bind_eq_some_iff, List.forall_mem_cons,
      hfields, ← List.append_assoc]
    constructor
    · rintro ⟨after, ha, hrest⟩
      obtain ⟨hkey, rfl, hu⟩ := (add?_eq_some_iff hb).1 ha
      obtain ⟨hkeys, hfs, hu⟩ := (ih hu).1 hrest
      exact ⟨⟨hkey, hkeys⟩, hfs, hu⟩
    · rintro ⟨⟨hkey, hkeys⟩, hfs, hu⟩
      have hafter : Fields.IsUnique (before ++ (field? names m).toList) := (hfs ▸ hu).of_append
      exact ⟨_, (add?_eq_some_iff hb).2 ⟨hkey, rfl, hafter⟩, (ih hafter).2 ⟨hkeys, hfs, hu⟩⟩

theorem fields?_iff_of_none (hf : d.fields? names = none) (hr : ¬ d.IsRecord names) :
    d.fields? names = some fs ↔ d.IsRecord names ∧ fs = d.given names := by
  rw [hf]
  constructor
  · intro h
    cases h
  · rintro ⟨h, -⟩
    exact absurd h hr

/-- The fields of a record are read exactly if the document is fit for them. -/
theorem fields?_eq_some_iff :
    d.fields? names = some fs ↔ d.IsRecord names ∧ fs = d.given names := by
  have hnil : Fields.IsUnique [] := List.Pairwise.nil
  cases d with
  | object members =>
    rw [Document.fields?, foldlM_add?_eq_some_iff hnil, List.nil_append, Document.given]
    constructor
    · rintro ⟨hkeys, rfl, hu⟩
      exact ⟨.object hkeys hu, rfl⟩
    · rintro ⟨hd, rfl⟩
      cases hd with
      | object hkeys hu => exact ⟨hkeys, rfl, hu⟩
  | array items =>
    rw [Document.fields?, Document.given]
    constructor
    · intro h
      split at h
      next hl => exact ⟨.array hl, (Option.some.inj h).symm⟩
      next => cases h
    · rintro ⟨hd, rfl⟩
      cases hd with
      | array hl => rw [if_pos hl]
  | null => exact fields?_iff_of_none rfl (fun h => by cases h)
  | bool b => exact fields?_iff_of_none rfl (fun h => by cases h)
  | number n => exact fields?_iff_of_none rfl (fun h => by cases h)
  | string pieces => exact fields?_iff_of_none rfl (fun h => by cases h)

end ClusterAccess.Json
