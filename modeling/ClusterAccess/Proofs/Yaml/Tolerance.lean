import ClusterAccess.Proofs.TextTable
import ClusterAccess.Proofs.Yaml.Decoding
import Mathlib.Data.List.Nodup

namespace ClusterAccess.Yaml

/-- How a field may be missing: not at all, by being left out, or by being null as well. -/
inductive Presence where
  | required
  | defaulted
  | nullable

/-- What a part of a document is read as. -/
inductive Shape where
  | text
  | flag
  | table
  | list (item : Shape)
  | record (fields : List (String × Presence × Shape))

abbrev Fields := List (String × Presence × Shape)

/-- A plain scalar that spells null or nothing, or one that spells null and is tagged so. -/
inductive Node.IsNull : Node → Prop where
  | plain {t : String} (h : t ∈ ["", "~", "null", "Null", "NULL"]) :
    IsNull (.scalar ⟨none, .plain, t⟩)
  | tagged {t : String} (h : t ∈ ["~", "null", "Null", "NULL"]) :
    IsNull (.scalar ⟨some (Decoder.coreTag "null"), .plain, t⟩)

inductive Shape.IsEmpty : Shape → Node → Prop where
  | list (item : Shape) (tag : Option String) : IsEmpty (.list item) (.sequence tag [])
  | table (tag : Option String) : IsEmpty .table (.mapping tag [])

def DistinctNames (es : List (Node × Node)) : Prop :=
  ∃ ks : List Scalar, es.map (·.1) = ks.map .scalar ∧ (ks.map (·.text)).Nodup

def Unnamed (name : String) (es : List (Node × Node)) : Prop :=
  ∀ e ∈ es, ∃ k : Scalar, e.1 = .scalar k ∧ k.text ≠ name

/-- One edit at one place of a part of a document. -/
inductive Edit : Shape → Node → Node → Prop where
  | same {s : Shape} (n : Node) : Edit s n n
  | insert {fs : Fields} {tag : Option String} {xs ys : List (Node × Node)} {k : Scalar}
    (v : Node) (h : k.text ∉ fs.map (·.1)) :
    Edit (.record fs) (.mapping tag (xs ++ ys)) (.mapping tag (xs ++ (.scalar k, v) :: ys))
  | permute {fs : Fields} {tag : Option String} {xs ys : List (Node × Node)} (h : xs.Perm ys) :
    Edit (.record fs) (.mapping tag xs) (.mapping tag ys)
  | leaveOut {fs : Fields} {tag : Option String} {xs ys : List (Node × Node)} {k : Scalar}
    {s : Shape} {v : Node} (hf : fs.lookup k.text = some (.nullable, s)) (hv : s.IsEmpty v) :
    Edit (.record fs) (.mapping tag (xs ++ (.scalar k, v) :: ys)) (.mapping tag (xs ++ ys))
  | clear {fs : Fields} {tag : Option String} {xs ys : List (Node × Node)} {k : Scalar}
    {s : Shape} {v w : Node} (hf : fs.lookup k.text = some (.nullable, s)) (hv : s.IsEmpty v)
    (hw : w.IsNull) :
    Edit (.record fs) (.mapping tag (xs ++ (.scalar k, v) :: ys))
      (.mapping tag (xs ++ (.scalar k, w) :: ys))
  | addNull {fs : Fields} {tag : Option String} {xs ys : List (Node × Node)} {k : Scalar}
    {s : Shape} {w : Node} (hf : fs.lookup k.text = some (.nullable, s))
    (hxs : Unnamed k.text xs) (hys : Unnamed k.text ys) (hw : w.IsNull) :
    Edit (.record fs) (.mapping tag (xs ++ ys)) (.mapping tag (xs ++ (.scalar k, w) :: ys))
  | field {fs : Fields} {tag : Option String} {xs ys : List (Node × Node)} {k : Scalar}
    {p : Presence} {s : Shape} {v w : Node} (hf : fs.lookup k.text = some (p, s)) (h : Edit s v w) :
    Edit (.record fs) (.mapping tag (xs ++ (.scalar k, v) :: ys))
      (.mapping tag (xs ++ (.scalar k, w) :: ys))
  | item {s : Shape} {tag : Option String} {xs ys : List Node} {v w : Node} (h : Edit s v w) :
    Edit (.list s) (.sequence tag (xs ++ v :: ys)) (.sequence tag (xs ++ w :: ys))
  | settings {tag : Option String} {xs ys : List (Node × Node)} (h : xs.Perm ys)
    (hxs : DistinctNames xs) : Edit .table (.mapping tag xs) (.mapping tag ys)

/-- What is found under the name of a field before an edit and after it. -/
inductive Slot : Presence → Shape → Option Node → Option Node → Prop where
  | missing (p : Presence) (s : Shape) : Slot p s none none
  | given {p : Presence} {s : Shape} {v w : Node} (h : Edit s v w) : Slot p s (some v) (some w)
  | leftOut {s : Shape} {v : Node} (hv : s.IsEmpty v) : Slot .nullable s (some v) none
  | cleared {s : Shape} {v w : Node} (hv : s.IsEmpty v) (hw : w.IsNull) :
    Slot .nullable s (some v) (some w)
  | nullAdded {s : Shape} {w : Node} (hw : w.IsNull) : Slot .nullable s none (some w)

theorem Slot.refl (p : Presence) (s : Shape) (o : Option Node) : Slot p s o o := by
  cases o with
  | none => exact .missing p s
  | some v => exact .given (.same v)

namespace Decoder

variable {α β : Type} {free : Prop} {d d' : Document} {m : Decoder α} {n n' v w : Node}
  {fs : Fields} {name : String} {p : Presence} {s : Shape}
  {es es' : List (Node × Node)} {ls ls' as bs : List (String × Node)}

/-- A reader of parts of a shape tolerates edits of them. -/
def Tolerant (free : Prop) (d d' : Document) (s : Shape) (f : Node → Decoder α) : Prop :=
  ∀ n n', (free → n.IsTree) → Edit s n n' → Keeps free d d' Eq (f n) (f n')

/-- Two rows of fields agree as far as a record has these fields. -/
def Agree (free : Prop) (fs : Fields) (ls ls' : List (String × Node)) : Prop :=
  ∀ name p s, fs.lookup name = some (p, s) → Slot p s (ls.lookup name) (ls'.lookup name) ∧
    (free → ∀ v, ls.lookup name = some v → v.IsTree)

theorem mem_names (h : fs.lookup name = some (p, s)) : name ∈ fs.map (·.1) :=
  lookup_isSome_iff.1 (h ▸ rfl)

theorem lookup_eq_none (h : name ∉ ls.map (·.1)) : ls.lookup name = none := by
  rw [← Option.isNone_iff_eq_none, ← Option.isSome_eq_false_iff, Bool.eq_false_iff]
  exact mt lookup_isSome_iff.1 h

theorem lookup_middle (o : Option Node) {k : String} (has : k ∉ as.map (·.1))
    (hbs : k ∉ bs.map (·.1)) (name : String) :
    (as ++ o.toList.map (k, ·) ++ bs).lookup name =
      if name = k then o else (as ++ bs).lookup name := by
  rw [List.lookup_append, List.lookup_append, List.lookup_append]
  by_cases hname : name = k
  · subst hname
    rw [if_pos rfl, lookup_eq_none has, lookup_eq_none hbs, Option.none_or, Option.or_none]
    cases o <;> simp
  · rw [if_neg hname]
    cases o <;> simp [TextTable.lookup_cons, hname]

theorem lookup_perm (h : ls.Perm ls') (hnodup : (ls.map (·.1)).Nodup) :
    ls.lookup name = ls'.lookup name := by
  induction h with
  | nil => rfl
  | cons l _ ih =>
    rw [TextTable.lookup_cons, TextTable.lookup_cons, ih (List.nodup_cons.1 hnodup).2]
  | swap l l' ls =>
    obtain ⟨k, v⟩ := l
    obtain ⟨k', v'⟩ := l'
    have hne : k' ≠ k := by
      rintro rfl
      simp at hnodup
    simp only [TextTable.lookup_cons]
    by_cases hk : name = k
    · subst hk
      rw [if_neg hne.symm, if_pos rfl, if_pos rfl]
    · rw [if_neg hk, if_neg hk]
  | trans h _ ih ih' =>
    rw [ih hnodup, ih' ((h.map _).nodup_iff.1 hnodup)]

theorem values_of_labelled {b b₁ : Nat} (h : (es.mapM labelled).runFrom d b = some (ls, b₁)) :
    ls.map (·.2) = es.map (·.2) := by
  induction es generalizing b ls with
  | nil =>
    cases h
    rfl
  | cons e es ih =>
    simp only [List.mapM_cons, labelled, bind_assoc, pure_bind, runFrom_bind,
      Option.bind_eq_some_iff] at h
    obtain ⟨⟨name, b₂⟩, -, ⟨rest, b₃⟩, hrest, h⟩ := h
    cases h
    rw [List.map_cons, List.map_cons, ih hrest]

theorem mem_of_lookup (h : ls.lookup name = some v) : (name, v) ∈ ls := by
  induction ls with
  | nil => cases h
  | cons l ls ih =>
    obtain ⟨k, w⟩ := l
    rw [TextTable.lookup_cons] at h
    split at h
    next hk =>
      cases h
      rw [hk]
      exact List.mem_cons_self
    next => exact List.mem_cons_of_mem _ (ih h)

def picked (fs : Fields) (ls : List (String × Node)) : List (String × Node) :=
  ls.filter fun l => (fs.map (·.1)).contains l.1

theorem fields_eq (fs : Fields) (n : Node) : fields (fs.map (·.1)) n = (do
    let ls ← (← entries n).mapM labelled
    if ((picked fs ls).map (·.1)).Nodup then return picked fs ls else failure) := by
  simp only [fields, pick_eq]
  rfl

def Matches (fs : Fields) (ls ls' : List (String × Node)) : Prop :=
  ((picked fs ls).map (·.1)).Nodup → ((picked fs ls').map (·.1)).Nodup ∧
    ∀ name p s, fs.lookup name = some (p, s) →
      Slot p s ((picked fs ls).lookup name) ((picked fs ls').lookup name)

theorem keeps_entries (hn : free → n.IsTree) :
    Keeps free d d' (fun es es' => es = es' ∧ (free → ∀ e ∈ es, e.1.IsTree ∧ e.2.IsTree))
      (entries n) (entries n) := by
  apply (keeps_follow hn).bind
  rintro m _ ⟨rfl, hm⟩
  rcases m with s | ⟨tag, ns⟩ | ⟨tag, es⟩ | number
  · dsimp only
    split
    · exact .pure ⟨rfl, fun _ => List.forall_mem_nil _⟩
    · exact .failure
  · exact .failure
  · exact .pure ⟨rfl, fun hf => (hm hf).entries⟩
  · exact .failure

theorem keeps_labelled {e : Node × Node} (he : free → e.1.IsTree) :
    Keeps free d d' Eq (labelled e) (labelled e) :=
  (keeps_text he).bind_eq fun _ => .pure rfl

theorem keeps_picked (htree : free → ∀ e ∈ es, e.2.IsTree)
    (h : Keeps free d d' (Matches fs) (es.mapM labelled) (es'.mapM labelled)) :
    Keeps free d d' (Agree free fs)
      (do
        let ls ← es.mapM labelled
        if ((picked fs ls).map (·.1)).Nodup then return picked fs ls else failure)
      (do
        let ls ← es'.mapM labelled
        if ((picked fs ls).map (·.1)).Nodup then return picked fs ls else failure) := by
  refine (h.and fun _ _ _ => values_of_labelled).bind ?_
  rintro ls ls' ⟨hmatches, hvalues⟩
  split
  next hnodup =>
    obtain ⟨hnodup', hslot⟩ := hmatches hnodup
    rw [if_pos hnodup']
    refine .pure fun name p s hf => ⟨hslot name p s hf, fun hfree v hv => ?_⟩
    have hmem : (name, v) ∈ ls := (List.mem_filter.1 (mem_of_lookup hv)).1
    have hv : v ∈ es.map (·.2) := hvalues ▸ List.mem_map_of_mem hmem
    obtain ⟨e, he, rfl⟩ := List.mem_map.1 hv
    exact htree hfree e he
  next => exact .failure

theorem Matches.refl (fs : Fields) (ls : List (String × Node)) : Matches fs ls ls :=
  fun hnodup => ⟨hnodup, fun _ p s _ => Slot.refl p s _⟩

theorem Matches.perm (h : ls.Perm ls') : Matches fs ls ls' := by
  intro hnodup
  have hpicked : (picked fs ls).Perm (picked fs ls') := h.filter _
  refine ⟨(hpicked.map _).nodup_iff.1 hnodup, fun name p s _ => ?_⟩
  rw [← lookup_perm hpicked hnodup]
  exact .refl p s _

theorem Matches.insert {k : String} (hk : k ∉ fs.map (·.1)) (v : Node) :
    Matches fs (as ++ bs) (as ++ (k, v) :: bs) := by
  have hpicked : picked fs (as ++ (k, v) :: bs) = picked fs (as ++ bs) := by
    rw [picked, List.filter_append, List.filter_cons_of_neg (by simpa using hk),
      ← List.filter_append, picked]
  intro hnodup
  rw [hpicked]
  exact ⟨hnodup, fun name p s _ => .refl p s _⟩

/-- A field that is edited as its shape and its presence allow. -/
theorem Matches.slot {k : String} {o o' : Option Node} (hf : fs.lookup k = some (p, s))
    (h : Slot p s o o') (hk : o = none → k ∉ as.map (·.1) ∧ k ∉ bs.map (·.1)) :
    Matches fs (as ++ o.toList.map (k, ·) ++ bs) (as ++ o'.toList.map (k, ·) ++ bs) := by
  have hpicked (o : Option Node) : picked fs (as ++ o.toList.map (k, ·) ++ bs) =
      picked fs as ++ o.toList.map (k, ·) ++ picked fs bs := by
    have hmem := mem_names hf
    cases o <;> simp [picked, List.filter_append, hmem]
  -- the name of the field is not that of another one, whether the field is there or not
  have hnames (o : Option Node) :
      ((picked fs as ++ o.toList.map (k, ·) ++ picked fs bs).map (·.1)).Nodup ↔
        ((picked fs as ++ picked fs bs).map (·.1)).Nodup ∧ (o ≠ none →
          k ∉ (picked fs as).map (·.1) ∧ k ∉ (picked fs bs).map (·.1)) := by
    cases o with
    | none => simp
    | some v =>
      have hmiddle {ns ns' : List String} : (ns ++ k :: ns').Nodup ↔
          (ns ++ ns').Nodup ∧ k ∉ ns ∧ k ∉ ns' := by
        rw [List.perm_middle.nodup_iff, List.nodup_cons, List.mem_append, not_or, and_comm]
      simp only [Option.toList_some, List.map_cons, List.map_nil, List.map_append,
        List.append_assoc, List.singleton_append, hmiddle, ne_eq, reduceCtorEq, not_false_eq_true,
        true_implies]
  intro hnodup
  rw [hpicked, hnames] at hnodup
  obtain ⟨hothers, hsome⟩ := hnodup
  have habsent : k ∉ (picked fs as).map (·.1) ∧ k ∉ (picked fs bs).map (·.1) := by
    by_cases ho : o = none
    · have hsub (ls : List (String × Node)) : ((picked fs ls).map (·.1)).Sublist (ls.map (·.1)) :=
        List.filter_sublist.map _
      exact ⟨fun h => (hk ho).1 ((hsub as).subset h), fun h => (hk ho).2 ((hsub bs).subset h)⟩
    · exact hsome ho
  rw [hpicked, hpicked]
  refine ⟨(hnames o').2 ⟨hothers, fun _ => habsent⟩, fun name p' s' hf' => ?_⟩
  rw [lookup_middle o habsent.1 habsent.2, lookup_middle o' habsent.1 habsent.2]
  by_cases hname : name = k
  · subst hname
    rw [hf] at hf'
    cases hf'
    rw [if_pos rfl, if_pos rfl]
    exact h
  · rw [if_neg hname, if_neg hname]
    exact .refl p' s' _

theorem names_of_labelled {b b₁ : Nat} (h : (es.mapM labelled).runFrom d b = some (ls, b₁))
    (hes : Unnamed name es) : name ∉ ls.map (·.1) := by
  induction es generalizing b ls with
  | nil =>
    cases h
    exact List.not_mem_nil
  | cons e es ih =>
    obtain ⟨⟨k, hk, hne⟩, hrest⟩ := List.forall_mem_cons.1 hes
    have htext (b : Nat) : (text e.1).runFrom d b = some (k.text, b) := by
      rw [hk]
      rfl
    simp only [List.mapM_cons, labelled, bind_assoc, pure_bind, runFrom_bind, htext,
      Option.bind_some, Option.bind_eq_some_iff] at h
    obtain ⟨⟨rest, b₂⟩, hrun, h⟩ := h
    cases h
    rw [List.map_cons, List.mem_cons, not_or]
    exact ⟨fun h => hne h.symm, ih hrun hrest⟩

section Rows

variable {xs ys : List (Node × Node)} (hxs : free → ∀ e ∈ xs, e.1.IsTree)
  (hys : free → ∀ e ∈ ys, e.1.IsTree)

include hxs

theorem keeps_labelled_all : Keeps free d d' Eq (xs.mapM labelled) (xs.mapM labelled) :=
  .mapM_self fun e he => keeps_labelled fun hf => hxs hf e he

theorem keeps_labelled_unnamed (name : String) :
    Keeps free d d' (fun ls ls' => ls = ls' ∧ (Unnamed name xs → name ∉ ls.map (·.1)))
      (xs.mapM labelled) (xs.mapM labelled) :=
  (keeps_labelled_all hxs).and fun _ _ _ => names_of_labelled

include hys

theorem keeps_labelled_around (k : Scalar) (o o' : Option Node) :
    Keeps free d d' (fun ls ls' => ∃ as bs, ls = as ++ o.toList.map (k.text, ·) ++ bs ∧
        ls' = as ++ o'.toList.map (k.text, ·) ++ bs ∧
        (Unnamed k.text xs → k.text ∉ as.map (·.1)) ∧ (Unnamed k.text ys → k.text ∉ bs.map (·.1)))
      ((xs ++ o.toList.map (Node.scalar k, ·) ++ ys).mapM labelled)
      ((xs ++ o'.toList.map (Node.scalar k, ·) ++ ys).mapM labelled) := by
  have hentry (o : Option Node) : (o.toList.map (Node.scalar k, ·)).mapM labelled =
      (pure (o.toList.map (k.text, ·)) : Decoder _) := by
    cases o <;> rfl
  simp only [List.mapM_append, hentry, bind_assoc, pure_bind]
  apply (keeps_labelled_unnamed hxs k.text).bind
  rintro as _ ⟨rfl, has⟩
  apply (keeps_labelled_unnamed hys k.text).bind
  rintro bs _ ⟨rfl, hbs⟩
  exact .pure ⟨as, bs, rfl, rfl, has, hbs⟩

end Rows

theorem keeps_fields_mapping {tag : Option String} (hn : free → (Node.mapping tag es).IsTree)
    (h : Keeps free d d' (Matches fs) (es.mapM labelled) (es'.mapM labelled)) :
    Keeps free d d' (Agree free fs) (fields (fs.map (·.1)) (.mapping tag es))
      (fields (fs.map (·.1)) (.mapping tag es')) := by
  rw [fields_eq, fields_eq]
  exact keeps_picked (fun hf e he => ((hn hf).entries e he).2) h

theorem keeps_fields_around {tag : Option String} (xs ys : List (Node × Node)) (k : Scalar)
    (o o' : Option Node) (hes : es = xs ++ o.toList.map (Node.scalar k, ·) ++ ys)
    (hes' : es' = xs ++ o'.toList.map (Node.scalar k, ·) ++ ys)
    (hn : free → (Node.mapping tag es).IsTree)
    (h : ∀ as bs, (Unnamed k.text xs → k.text ∉ as.map (·.1)) →
      (Unnamed k.text ys → k.text ∉ bs.map (·.1)) →
      Matches fs (as ++ o.toList.map (k.text, ·) ++ bs) (as ++ o'.toList.map (k.text, ·) ++ bs)) :
    Keeps free d d' (Agree free fs)
      (fields (fs.map (·.1)) (.mapping tag es)) (fields (fs.map (·.1)) (.mapping tag es')) := by
  subst hes hes'
  have hxs (hf : free) (e : Node × Node) (he : e ∈ xs) : e.1.IsTree :=
    ((hn hf).entries e (List.mem_append_left _ (List.mem_append_left _ he))).1
  have hys (hf : free) (e : Node × Node) (he : e ∈ ys) : e.1.IsTree :=
    ((hn hf).entries e (List.mem_append_right _ he)).1
  apply keeps_fields_mapping hn
  refine (keeps_labelled_around hxs hys k o o').mono ?_
  rintro _ _ ⟨as, bs, rfl, rfl, has, hbs⟩
  exact h as bs has hbs

/-- The fields of a record are found as before, as far as they were not edited. -/
theorem keeps_fields (hn : free → n.IsTree) (h : Edit (.record fs) n n') :
    Keeps free d d' (Agree free fs) (fields (fs.map (·.1)) n) (fields (fs.map (·.1)) n') := by
  cases h with
  | same =>
    rw [fields_eq]
    apply (keeps_entries hn).bind
    rintro es _ ⟨rfl, hes⟩
    apply keeps_picked fun hf e he => (hes hf e he).2
    exact (keeps_labelled_all fun hf e he => (hes hf e he).1).mono fun ls _ h => h ▸ .refl fs ls
  | @permute _ _ xs ys h =>
    have hxs (hf : free) (e : Node × Node) (he : e ∈ xs) : e.1.IsTree :=
      ((hn hf).entries e he).1
    have hperm : Keeps free d d List.Perm (xs.mapM labelled) (ys.mapM labelled) :=
      .mapM_perm h fun e he => keeps_labelled fun hf => hxs hf e he
    have hys : Keeps free d d' Eq (ys.mapM labelled) (ys.mapM labelled) :=
      keeps_labelled_all fun hf e he => hxs hf e (h.mem_iff.2 he)
    apply keeps_fields_mapping hn
    refine (hperm.trans hys).mono ?_
    rintro ls _ ⟨ls', hls, rfl⟩
    exact .perm hls
  | @insert _ _ xs ys k v h =>
    refine keeps_fields_around xs ys k none (some v) (by simp) (by simp) hn fun as bs _ _ => ?_
    simpa using Matches.insert h v
  | @leaveOut _ _ xs ys k s v hf hv =>
    exact keeps_fields_around xs ys k (some v) none (by simp) (by simp) hn
      fun as bs _ _ => .slot hf (.leftOut hv) nofun
  | @clear _ _ xs ys k s v w hf hv hw =>
    exact keeps_fields_around xs ys k (some v) (some w) (by simp) (by simp) hn
      fun as bs _ _ => .slot hf (.cleared hv hw) nofun
  | @addNull _ _ xs ys k s w hf hxs hys hw =>
    exact keeps_fields_around xs ys k none (some w) (by simp) (by simp) hn
      fun as bs has hbs => .slot hf (.nullAdded hw) fun _ => ⟨has hxs, hbs hys⟩
  | @field _ _ xs ys k p s v w hf h =>
    exact keeps_fields_around xs ys k (some v) (some w) (by simp) (by simp) hn
      fun as bs _ _ => .slot hf (.given h) nofun

theorem tolerant_text : Tolerant free d d' .text text := by
  intro n n' hn h
  cases h with
  | same => exact keeps_text hn

theorem tolerant_bool : Tolerant free d d' .flag bool := by
  intro n n' hn h
  cases h with
  | same => exact keeps_bool hn

section Insert

variable {k k' : String} {x y y' : α} {l : List (String × α)}

theorem insertSorted_of_lt (h : k < k') :
    insertSorted k x ((k', y) :: l) = (k, x) :: (k', y) :: l := by
  rw [insertSorted, if_neg (by simpa using String.ne_of_lt h), if_pos h]

theorem insertSorted_self : insertSorted k x ((k, y) :: l) = (k, x) :: l := by
  rw [insertSorted, if_pos (beq_self_eq_true k)]

theorem insertSorted_of_gt (h : k' < k) :
    insertSorted k x ((k', y) :: l) = (k', y) :: insertSorted k x l := by
  rw [insertSorted, if_neg (by simpa using (String.ne_of_lt h).symm), if_neg (String.lt_asymm h)]

theorem lt_or_eq_or_gt (k k' : String) : k < k' ∨ k = k' ∨ k' < k := by
  by_cases hlt : k < k'
  · exact .inl hlt
  · by_cases heq : k = k'
    · exact .inr (.inl heq)
    · exact .inr (.inr (Std.lt_of_le_of_ne (String.not_lt.1 hlt) (Ne.symm heq)))

theorem insertSorted_comm_of_lt (h : k < k') (x y : α) (l : List (String × α)) :
    insertSorted k x (insertSorted k' y l) = insertSorted k' y (insertSorted k x l) := by
  induction l with
  | nil =>
    have hk' : insertSorted k' y [] = [(k', y)] := rfl
    have hk : insertSorted k x [] = [(k, x)] := rfl
    rw [hk', hk, insertSorted_of_lt h, insertSorted_of_gt h, hk']
  | cons e l ih =>
    obtain ⟨n, w⟩ := e
    rcases lt_or_eq_or_gt k n with hk | rfl | hk
    · rcases lt_or_eq_or_gt k' n with hk' | rfl | hk'
      · rw [insertSorted_of_lt hk', insertSorted_of_lt h, insertSorted_of_lt hk,
          insertSorted_of_gt h, insertSorted_of_lt hk']
      · rw [insertSorted_self, insertSorted_of_lt h, insertSorted_of_lt h, insertSorted_of_gt h,
          insertSorted_self]
      · rw [insertSorted_of_gt hk', insertSorted_of_lt hk, insertSorted_of_lt hk,
          insertSorted_of_gt h, insertSorted_of_gt hk']
    · rw [insertSorted_of_gt h, insertSorted_self, insertSorted_self, insertSorted_of_gt h]
    · have hk' := String.lt_trans hk h
      rw [insertSorted_of_gt hk', insertSorted_of_gt hk, insertSorted_of_gt hk,
        insertSorted_of_gt hk', ih]

/-- Values under different names are put in their places in either order. -/
theorem insertSorted_comm (hne : k ≠ k') (x y : α) (l : List (String × α)) :
    insertSorted k x (insertSorted k' y l) = insertSorted k' y (insertSorted k x l) := by
  rcases lt_or_eq_or_gt k k' with h | h | h
  · exact insertSorted_comm_of_lt h x y l
  · exact absurd h hne
  · exact (insertSorted_comm_of_lt h y x l).symm

end Insert

theorem keeps_setting {depth : Nat} {e : Node × Node} (he : free → e.1.IsTree ∧ e.2.IsTree) :
    Keeps free d d' Eq (setting depth e) (setting depth e) :=
  (keeps_text fun hf => (he hf).1).bind_eq fun _ =>
    (keeps_value depth fun hf => (he hf).2).bind_eq fun _ => .pure rfl

theorem names_of_setting {depth b b₁ : Nat} {ks : List Scalar} {ps : List (String × Value)}
    (hks : es.map (·.1) = ks.map .scalar)
    (h : (es.mapM (setting depth)).runFrom d b = some (ps, b₁)) :
    ps.map (·.1) = ks.map (·.text) := by
  induction es generalizing b ps ks with
  | nil =>
    cases h
    obtain rfl : ks = [] := by simpa using hks
    rfl
  | cons e es ih =>
    obtain ⟨k, ks, rfl⟩ : ∃ k ks', ks = k :: ks' := by
      cases ks with
      | nil => cases hks
      | cons k ks => exact ⟨k, ks, rfl⟩
    obtain ⟨hk, hks⟩ := List.cons.inj hks
    have hk : e.1 = .scalar k := hk
    have htext (b : Nat) : (text e.1).runFrom d b = some (k.text, b) := by
      rw [hk]
      rfl
    simp only [List.mapM_cons, setting, bind_assoc, pure_bind, runFrom_bind, htext,
      Option.bind_some, Option.bind_eq_some_iff] at h
    obtain ⟨⟨v, b₂⟩, -, ⟨rest, b₃⟩, hrun, h⟩ := h
    cases h
    rw [List.map_cons, List.map_cons, ih hks hrun]

theorem tolerant_table (depth : Nat) : Tolerant free d d' .table (table depth) := by
  intro n n' hn h
  rw [table_eq, table_eq]
  cases h with
  | same =>
    apply (keeps_entries hn).bind
    rintro es _ ⟨rfl, hes⟩
    refine (Keeps.mapM_self fun e he => ?_).bind_eq fun ps => .pure rfl
    exact keeps_setting fun hf => hes hf e he
  | @settings tag xs ys h hxs =>
    have hentries (es : List (Node × Node)) : entries (.mapping tag es) = pure es := rfl
    have hself {d'' : Document} (e : Node × Node) (he : e ∈ xs) :
        Keeps free d d'' Eq (setting depth e) (setting depth e) :=
      keeps_setting fun hf => (hn hf).entries e he
    obtain ⟨ks, hks, hnodup⟩ := hxs
    have hperm := (Keeps.mapM_perm h hself).and (P := fun ps => (ps.map (·.1)).Nodup)
      fun _ _ _ hrun => by rwa [names_of_setting hks hrun]
    have hys : Keeps free d d' Eq (ys.mapM (setting depth)) (ys.mapM (setting depth)) :=
      .mapM_self fun e he => hself e (h.mem_iff.2 he)
    rw [hentries, hentries, pure_bind, pure_bind]
    refine (hperm.trans hys).bind ?_
    rintro ps _ ⟨qs, ⟨hps, hnames⟩, rfl⟩
    refine .pure (hps.foldl_eq' ?_ [])
    intro p hp q hq done
    by_cases hname : p.1 = q.1
    · rw [List.inj_on_of_nodup_map hnames hp hq hname]
    · exact insertSorted_comm (Ne.symm hname) _ _ _

variable {f : Node → Decoder α}

theorem Tolerant.same (h : Tolerant free d d' s f) (hn : free → n.IsTree) :
    Keeps free d d' Eq (f n) (f n) :=
  h n n hn (.same n)

theorem Tolerant.items (h : Tolerant free d d' s f) : Tolerant free d d' (.list s) (items f) := by
  intro n n' hn hedit
  cases hedit with
  | same =>
    apply (keeps_follow hn).bind
    rintro m _ ⟨rfl, hm⟩
    rcases m with s | ⟨tag, ns⟩ | ⟨tag, es⟩ | number
    · dsimp only
      split <;> first | exact .pure rfl | exact .failure
    · exact .mapM_self fun n hmem => h.same fun hf => (hm hf).items n hmem
    · exact .failure
    · exact .failure
  | @item _ tag xs ys v w hv =>
    have hself (ns : List Node) (hns : ∀ n ∈ ns, n ∈ xs ++ v :: ys) :
        List.Forall₂ (fun n n' => Keeps free d d' Eq (f n) (f n')) ns ns :=
      List.forall₂_same.2 fun n hmem => h.same fun hf => (hn hf).items n (hns n hmem)
    have hall : List.Forall₂ (fun n n' => Keeps free d d' Eq (f n) (f n')) (xs ++ v :: ys)
        (xs ++ w :: ys) := by
      refine List.rel_append (hself xs fun n hmem => List.mem_append_left _ hmem)
        (.cons ?_ (hself ys (by simp +contextual)))
      exact h v w (fun hf => (hn hf).items v (by simp)) hv
    exact Keeps.mapM hall

theorem Tolerant.optional (h : Tolerant free d d' s f) : Tolerant free d d' s (optional f) := by
  intro n n' hn hedit
  have hsome : Keeps free d d' Eq (f n) (f n') := h n n' hn hedit
  cases hedit with
  | same =>
    apply (keeps_follow hn).bind
    rintro m _ ⟨rfl, hm⟩
    have hmsome : Keeps free d d' Eq (do return some (← f m)) (do return some (← f m)) :=
      (h.same hm).bind_eq fun v => .pure rfl
    rcases m with s | ⟨tag, ns⟩ | ⟨tag, es⟩ | number
    · dsimp only
      split
      · exact .failure
      · exact .pure rfl
      · exact hmsome
    all_goals exact hmsome
  | _ => exact hsome.bind_eq fun v => .pure rfl

theorem optional_of_isNull (f : Node → Decoder α) (hw : w.IsNull) : optional f w = pure none := by
  cases hw with
  | plain h =>
    simp only [List.mem_cons, List.not_mem_nil, or_false] at h
    rcases h with rfl | rfl | rfl | rfl | rfl <;> rfl
  | tagged h =>
    simp only [List.mem_cons, List.not_mem_nil, or_false] at h
    rcases h with rfl | rfl | rfl | rfl <;> rfl

section Fields

variable (h : Agree free fs ls ls')

include h

theorem Agree.required (hf : fs.lookup name = some (.required, s)) (ht : Tolerant free d d' s f) :
    Keeps free d d' Eq (required ls name f) (required ls' name f) := by
  obtain ⟨hslot, htree⟩ := h name _ s hf
  rw [Decoder.required, Decoder.required]
  generalize ls.lookup name = o at hslot htree
  generalize ls'.lookup name = o' at hslot
  cases hslot with
  | missing => exact .failure
  | given hedit => exact ht _ _ (fun hf => htree hf _ rfl) hedit

theorem Agree.withDefault (hf : fs.lookup name = some (.defaulted, s))
    (ht : Tolerant free d d' s f) (v : α) :
    Keeps free d d' Eq (withDefault ls name v f) (withDefault ls' name v f) := by
  obtain ⟨hslot, htree⟩ := h name _ s hf
  rw [Decoder.withDefault, Decoder.withDefault]
  generalize ls.lookup name = o at hslot htree
  generalize ls'.lookup name = o' at hslot
  cases hslot with
  | missing => exact .pure rfl
  | given hedit => exact ht _ _ (fun hf => htree hf _ rfl) hedit

/-- A field that may be null is read alike, where an empty value and none count as alike. -/
theorem Agree.nullable (hf : fs.lookup name = some (.nullable, s)) (ht : Tolerant free d d' s f)
    {R : Option α → Option α → Prop} (hR : ∀ o, R o o)
    (hempty : ∀ v, s.IsEmpty v → ∃ e, optional f v = pure (some e) ∧ R (some e) none) :
    Keeps free d d' R (optionalField ls name f) (optionalField ls' name f) := by
  obtain ⟨hslot, htree⟩ := h name _ s hf
  rw [optionalField, optionalField, Decoder.withDefault, Decoder.withDefault]
  generalize ls.lookup name = o at hslot htree
  generalize ls'.lookup name = o' at hslot
  cases hslot with
  | missing => exact .pure (hR none)
  | given hedit =>
    exact (ht.optional _ _ (fun hf => htree hf _ rfl) hedit).mono fun o _ ho => ho ▸ hR o
  | leftOut hv =>
    obtain ⟨e, he, hR⟩ := hempty _ hv
    dsimp only
    rw [he]
    exact .pure hR
  | cleared hv hw =>
    obtain ⟨e, he, hR⟩ := hempty _ hv
    dsimp only
    rw [he, optional_of_isNull f hw]
    exact .pure hR
  | nullAdded hw =>
    dsimp only
    rw [optional_of_isNull f hw]
    exact .pure (hR none)

theorem Agree.optionalField (hf : fs.lookup name = some (.nullable, s))
    (ht : Tolerant free d d' s f) (hs : ∀ v, ¬ s.IsEmpty v) :
    Keeps free d d' Eq (optionalField ls name f) (optionalField ls' name f) :=
  h.nullable hf ht (fun _ => rfl) fun v hv => absurd hv (hs v)

theorem Agree.requiredText (hf : fs.lookup name = some (.required, .text)) :
    Keeps free d d' Eq (Decoder.required ls name text) (Decoder.required ls' name text) :=
  h.required hf tolerant_text

theorem Agree.optionalText (hf : fs.lookup name = some (.nullable, .text)) :
    Keeps free d d' Eq (Decoder.optionalField ls name text) (Decoder.optionalField ls' name text) :=
  h.optionalField hf tolerant_text nofun

theorem Agree.listField (hf : fs.lookup name = some (.nullable, .list s))
    (ht : Tolerant free d d' s f) :
    Keeps free d d' Eq (listField ls name f) (listField ls' name f) := by
  refine (h.nullable hf ht.items (R := fun o o' => o.getD [] = o'.getD []) (fun _ => rfl) ?_).bind
    fun o o' ho => .pure ho
  rintro _ ⟨⟩
  exact ⟨[], rfl, rfl⟩

theorem Agree.table (hf : fs.lookup name = some (.nullable, .table)) (depth : Nat) :
    Keeps free d d' (fun o o' => o.getD [] = o'.getD [])
      (Decoder.optionalField ls name (table depth))
      (Decoder.optionalField ls' name (table depth)) := by
  refine h.nullable hf (tolerant_table depth) (fun _ => rfl) ?_
  rintro _ ⟨⟩
  exact ⟨[], rfl, rfl⟩

end Fields

end Decoder

end ClusterAccess.Yaml
