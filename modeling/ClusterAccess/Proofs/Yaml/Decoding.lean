import ClusterAccess.Yaml.Decode
import Mathlib.Data.List.Forall2

namespace ClusterAccess.Yaml

/-- A node within which nothing is an alias. -/
inductive Node.IsTree : Node → Prop where
  | scalar (s : Scalar) : IsTree (.scalar s)
  | sequence {tag : Option String} {ns : List Node} (h : ∀ n ∈ ns, IsTree n) :
    IsTree (.sequence tag ns)
  | mapping {tag : Option String} {es : List (Node × Node)} (hk : ∀ e ∈ es, IsTree e.1)
    (hv : ∀ e ∈ es, IsTree e.2) : IsTree (.mapping tag es)

theorem Node.IsTree.items {tag : Option String} {ns : List Node} (h : IsTree (.sequence tag ns)) :
    ∀ n ∈ ns, n.IsTree := by
  cases h with
  | sequence h => exact h

theorem Node.IsTree.entries {tag : Option String} {es : List (Node × Node)}
    (h : IsTree (.mapping tag es)) : ∀ e ∈ es, e.1.IsTree ∧ e.2.IsTree := by
  cases h with
  | mapping hk hv => exact fun e he => ⟨hk e he, hv e he⟩

namespace Decoder

variable {α β γ δ : Type} {free : Prop} {d d' : Document} {R : α → β → Prop} {S : γ → δ → Prop}
  {m : Decoder α} {m' : Decoder β} {n : Node} {b b₁ : Nat} {v : α}

/-- What is read when aliases may be followed so often, and how often they may after that. -/
def runFrom (m : Decoder α) (d : Document) (b : Nat) : Option (α × Nat) :=
  StateT.run (ReaderT.run m d) b

/-- What one reader reads another reads as something related, following no more aliases. -/
def Keeps (free : Prop) (d d' : Document) (R : α → β → Prop) (m : Decoder α) (m' : Decoder β) :
    Prop :=
  ∀ b v b₁, b = 0 ∨ d'.anchored = d.anchored → m.runFrom d b = some (v, b₁) →
    ∃ t v', t + b₁ ≤ b ∧ (free → b₁ = b) ∧ R v v' ∧
      ∀ rest, m'.runFrom d' (t + rest) = some (v', rest)

theorem runFrom_pure (v : α) (d : Document) (b : Nat) :
    runFrom (pure v) d b = some (v, b) :=
  rfl

theorem runFrom_bind (m : Decoder α) (f : α → Decoder γ) (d : Document) (b : Nat) :
    (m >>= f).runFrom d b = (m.runFrom d b).bind fun r => (f r.1).runFrom d r.2 :=
  rfl

theorem Keeps.pure {v' : β} (h : R v v') : Keeps free d d' R (pure v) (pure v') := by
  intro b w b₁ _ hrun
  cases hrun
  exact ⟨0, v', Nat.le_of_eq (Nat.zero_add _), fun _ => rfl, h, fun rest => by
    rw [Nat.zero_add, runFrom_pure]⟩

theorem Keeps.failure : Keeps free d d' R failure m' := by
  intro b v b₁ _ hrun
  cases hrun

theorem Keeps.bind {f : α → Decoder γ} {g : β → Decoder δ} (h : Keeps free d d' R m m')
    (hf : ∀ v v', R v v' → Keeps free d d' S (f v) (g v')) :
    Keeps free d d' S (m >>= f) (m' >>= g) := by
  intro b w b₂ hd hrun
  rw [runFrom_bind, Option.bind_eq_some_iff] at hrun
  obtain ⟨⟨v, b₁⟩, hm, hfv⟩ := hrun
  obtain ⟨t, v', hle, hfree, hR, hm'⟩ := h b v b₁ hd hm
  have hd₁ : b₁ = 0 ∨ d'.anchored = d.anchored := hd.imp_left fun h => by omega
  obtain ⟨t', w', hle', hfree', hS, hgv⟩ := hf v v' hR b₁ w b₂ hd₁ hfv
  refine ⟨t + t', w', by omega, fun hf => (hfree' hf).trans (hfree hf), hS, fun rest => ?_⟩
  rw [runFrom_bind, Nat.add_assoc, hm', Option.bind_some, hgv]

theorem Keeps.bind_eq {x y : Decoder α} {f : α → Decoder γ} {g : α → Decoder δ}
    (h : Keeps free d d' Eq x y) (hf : ∀ v, Keeps free d d' S (f v) (g v)) :
    Keeps free d d' S (x >>= f) (y >>= g) :=
  h.bind fun v _ hv => hv ▸ hf v

theorem Keeps.mono {R' : α → β → Prop} (h : Keeps free d d' R m m')
    (hR : ∀ v v', R v v' → R' v v') : Keeps free d d' R' m m' := by
  intro b v b₁ hd hrun
  obtain ⟨t, v', hle, hfree, hv, hrun'⟩ := h b v b₁ hd hrun
  exact ⟨t, v', hle, hfree, hR v v' hv, hrun'⟩

theorem Keeps.and {P : α → Prop} (h : Keeps free d d' R m m')
    (hP : ∀ b v b₁, m.runFrom d b = some (v, b₁) → P v) :
    Keeps free d d' (fun v w => R v w ∧ P v) m m' := by
  intro b v b₁ hd hrun
  obtain ⟨t, v', hle, hfree, hv, hrun'⟩ := h b v b₁ hd hrun
  exact ⟨t, v', hle, hfree, ⟨hv, hP b v b₁ hrun⟩, hrun'⟩

/-- What is kept by a second reader of the same document is kept by what keeps that. -/
theorem Keeps.trans {free' : Prop} {Q : β → γ → Prop} {l : Decoder γ} (h : Keeps free d d R m m')
    (h' : Keeps free' d d' Q m' l) : Keeps free d d' (fun v w => ∃ v', R v v' ∧ Q v' w) m l := by
  intro b v b₁ hd hrun
  obtain ⟨t, v', hle, hfree, hR, hm'⟩ := h b v b₁ (.inr rfl) hrun
  obtain ⟨t', w, hle', -, hQ, hl⟩ := h' t v' 0 (hd.imp_left fun h => by omega) (hm' 0)
  exact ⟨t', w, by omega, hfree, ⟨v', hR, hQ⟩, hl⟩

theorem Keeps.trans_eq {free' : Prop} {x y z : Decoder α} (h : Keeps free d d Eq x y)
    (h' : Keeps free' d d' Eq y z) : Keeps free d d' Eq x z :=
  (h.trans h').mono fun _ _ ⟨_, hv, hv'⟩ => hv.trans hv'

/-- Two steps may change places. -/
theorem Keeps.swap {x : Decoder α} {y : Decoder β} {f : α → β → Decoder γ}
    {g : α → β → Decoder δ} (hx : Keeps free d d' Eq x x) (hy : Keeps free d d' Eq y y)
    (hf : ∀ v w, Keeps free d d' S (f v w) (g v w)) :
    Keeps free d d' S (do let v ← x; let w ← y; f v w) (do let w ← y; let v ← x; g v w) := by
  intro b u b₃ hd hrun
  simp only [runFrom_bind, Option.bind_eq_some_iff] at hrun
  obtain ⟨⟨v, b₁⟩, hxrun, ⟨w, b₂⟩, hyrun, hfrun⟩ := hrun
  obtain ⟨t₁, _, hle₁, hfree₁, rfl, hx'⟩ := hx b v b₁ hd hxrun
  obtain ⟨t₂, _, hle₂, hfree₂, rfl, hy'⟩ := hy b₁ w b₂ (hd.imp_left fun h => by omega) hyrun
  obtain ⟨t₃, u', hle₃, hfree₃, hS, hg⟩ :=
    hf v w b₂ u b₃ (hd.imp_left fun h => by omega) hfrun
  refine ⟨t₂ + (t₁ + t₃), u', by omega, fun hf => ?_, hS, fun rest => ?_⟩
  · rw [hfree₃ hf, hfree₂ hf, hfree₁ hf]
  · simp only [runFrom_bind, Nat.add_assoc, hy', hx', Option.bind_some, hg]

section Lists

variable {κ : Type} {f g : κ → Decoder α} {xs ys : List κ}

theorem Keeps.mapM (h : List.Forall₂ (fun x y => Keeps free d d' Eq (f x) (g y)) xs ys) :
    Keeps free d d' Eq (xs.mapM f) (ys.mapM g) := by
  induction h with
  | nil => exact .pure rfl
  | cons h _ ih =>
    rw [List.mapM_cons, List.mapM_cons]
    exact h.bind_eq fun v => ih.bind_eq fun vs => .pure rfl

theorem Keeps.mapM_self (h : ∀ x ∈ xs, Keeps free d d' Eq (f x) (f x)) :
    Keeps free d d' Eq (xs.mapM f) (xs.mapM f) :=
  .mapM (List.forall₂_same.2 h)

theorem Keeps.mapM_perm (hp : xs.Perm ys) (h : ∀ x ∈ xs, Keeps free d d Eq (f x) (f x)) :
    Keeps free d d List.Perm (xs.mapM f) (ys.mapM f) := by
  induction hp with
  | nil => exact .pure .nil
  | cons x _ ih =>
    obtain ⟨hx, hxs⟩ := List.forall_mem_cons.1 h
    rw [List.mapM_cons, List.mapM_cons]
    exact hx.bind_eq fun v => (ih hxs).bind fun vs vs' hvs => .pure (hvs.cons v)
  | swap x y xs =>
    obtain ⟨hy, hx, hxs⟩ : _ ∧ _ ∧ _ := by simpa only [List.forall_mem_cons] using h
    simp only [List.mapM_cons, bind_assoc, pure_bind]
    exact hy.swap hx fun v w => (Keeps.mapM_self hxs).bind_eq fun vs => .pure (.swap _ _ _)
  | trans hp _ ih ih' =>
    refine ((ih h).trans (ih' fun x hx => h x (hp.mem_iff.2 hx))).mono ?_
    rintro vs vs' ⟨_, hvs, hvs'⟩
    exact hvs.trans hvs'

theorem Keeps.foldlM_self {step : α → κ → Decoder α} (v : α)
    (h : ∀ w, ∀ x ∈ xs, Keeps free d d' Eq (step w x) (step w x)) :
    Keeps free d d' Eq (xs.foldlM step v) (xs.foldlM step v) := by
  induction xs generalizing v with
  | nil => exact .pure rfl
  | cons x xs ih =>
    rw [List.foldlM_cons]
    exact (h v x List.mem_cons_self).bind_eq fun w =>
      ih w fun w x hx => h w x (List.mem_cons_of_mem _ hx)

end Lists

theorem runFrom_follow_alias (number : Nat) (d : Document) (b : Nat) :
    (follow (.alias number)).runFrom d (b + 1) = (d.node? number).map fun n => (n, b) := by
  have hget : (get : Decoder Nat).runFrom d (b + 1) = some (b + 1, b + 1) := rfl
  have hset : (set b : Decoder PUnit).runFrom d (b + 1) = some (⟨⟩, b) := rfl
  have hread : (read : Decoder Document).runFrom d b = some (d, b) := rfl
  simp only [follow, runFrom_bind, hget, hset, hread, Option.bind_some]
  cases d.node? number <;> rfl

theorem node?_eq (h : d'.anchored = d.anchored) (number : Nat) :
    d'.node? number = d.node? number := by
  rw [Document.node?, h, Document.node?]

/-- A node that an alias stands for is the same in documents with the same anchors. -/
theorem keeps_follow (hn : free → n.IsTree) :
    Keeps free d d' (fun m m' => m = m' ∧ (free → m.IsTree)) (follow n) (follow n) := by
  rcases n with s | ⟨tag, ns⟩ | ⟨tag, es⟩ | number
  · exact .pure ⟨rfl, hn⟩
  · exact .pure ⟨rfl, hn⟩
  · exact .pure ⟨rfl, hn⟩
  · intro b v b₁ hd hrun
    rcases b with _ | b
    · cases hrun
    · rw [runFrom_follow_alias, Option.map_eq_some_iff] at hrun
      obtain ⟨n, hn', heq⟩ := hrun
      cases heq
      have htree : ¬ free := fun hf => by cases hn hf
      refine ⟨1, v, by omega, fun hf => absurd hf htree, ⟨rfl, fun hf => absurd hf htree⟩, ?_⟩
      intro rest
      rw [Nat.add_comm, runFrom_follow_alias, node?_eq (hd.resolve_left (Nat.succ_ne_zero _)), hn']
      rfl

theorem keeps_text (hn : free → n.IsTree) : Keeps free d d' Eq (text n) (text n) := by
  apply (keeps_follow hn).bind
  rintro m _ ⟨rfl, -⟩
  cases m <;> first | exact .pure rfl | exact .failure

theorem keeps_bool (hn : free → n.IsTree) : Keeps free d d' Eq (bool n) (bool n) := by
  apply (keeps_follow hn).bind
  rintro m _ ⟨rfl, -⟩
  repeat' split
  all_goals first | exact .pure rfl | exact .failure

theorem keeps_value (depth : Nat) (hn : free → n.IsTree) :
    Keeps free d d' Eq (value depth n) (value depth n) := by
  induction depth using Nat.strongRecOn generalizing n with
  | ind depth ih =>
    rw [value.eq_def]
    apply (keeps_follow hn).bind
    rintro m _ ⟨rfl, hm⟩
    rcases m with s | ⟨tag, ns⟩ | ⟨tag, es⟩ | number
    · dsimp only
      split <;> first | exact .pure rfl | exact .failure
    · rcases depth with _ | depth
      · exact .failure
      · have hns : ∀ n ∈ ns, Keeps free d d' Eq (value depth n) (value depth n) := by
          intro n hmem
          exact ih depth (Nat.lt_succ_self depth) fun hf => (hm hf).items n hmem
        exact (Keeps.mapM_self hns).bind_eq fun vs => .pure rfl
    · rcases depth with _ | depth
      · exact .failure
      · dsimp only
        refine (Keeps.foldlM_self [] fun done e he => ?_).bind_eq fun vs => .pure rfl
        have hk : Keeps free d d' Eq (value depth e.1) (value depth e.1) :=
          ih depth (Nat.lt_succ_self depth) fun hf => ((hm hf).entries e he).1
        have hv : Keeps free d d' Eq (value depth e.2) (value depth e.2) :=
          ih depth (Nat.lt_succ_self depth) fun hf => ((hm hf).entries e he).2
        refine hk.bind_eq fun k => hv.bind_eq fun v => ?_
        split <;> first | exact .pure rfl | exact .failure
    · exact .failure

def labelled (e : Node × Node) : Decoder (String × Node) := do
  return (← text e.1, e.2)

def setting (depth : Nat) (e : Node × Node) : Decoder (String × Value) := do
  return (← text e.1, ← value depth e.2)

theorem lookup_isSome_iff {l : List (String × α)} {name : String} :
    (l.lookup name).isSome = true ↔ name ∈ l.map (·.1) := by
  simp

/-- Fields are picked when all names are read, and none of those picked may come twice. -/
theorem pick_eq (names : List String) (es : List (Node × Node)) : pick names es = (do
    let ls ← es.mapM labelled
    let picked := ls.filter fun l => names.contains l.1
    if (picked.map (·.1)).Nodup then return picked else failure) := by
  induction es with
  | nil => rfl
  | cons e es ih =>
    obtain ⟨key, v⟩ := e
    simp only [pick, ih, List.mapM_cons, labelled, bind_assoc, pure_bind]
    congr 1
    funext name
    congr 1
    funext ls
    -- a name that is picked may not be among those picked after it
    by_cases hname : names.contains name = true
    · rw [List.filter_cons_of_pos (by exact hname), List.map_cons, hname]
      have hcons := List.nodup_cons (a := name)
        (l := (ls.filter fun l => names.contains l.1).map (·.1))
      by_cases hnodup : ((ls.filter fun l => names.contains l.1).map (·.1)).Nodup
      · rw [if_pos hnodup, pure_bind, if_neg (by decide)]
        by_cases hmem : name ∈ (ls.filter fun l => names.contains l.1).map (·.1)
        · rw [if_pos (lookup_isSome_iff.2 hmem), if_neg fun h => (hcons.1 h).1 hmem]
        · rw [if_neg (mt lookup_isSome_iff.1 hmem), if_pos (hcons.2 ⟨hmem, hnodup⟩)]
      · rw [if_neg hnodup, if_neg fun h => hnodup (hcons.1 h).2]
        rfl
    · rw [List.filter_cons_of_neg (by exact hname), Bool.eq_false_iff.2 hname]
      split <;> rfl

theorem foldlM_eq {κ : Type} (g : κ → Decoder β) (h : α → β → α) (xs : List κ) (v : α) :
    xs.foldlM (fun w x => do return h w (← g x)) v = do return (← xs.mapM g).foldl h v := by
  induction xs generalizing v with
  | nil => rfl
  | cons x xs ih =>
    simp only [List.foldlM_cons, List.mapM_cons, bind_assoc, pure_bind, ih, List.foldl_cons]

theorem table_eq (depth : Nat) (n : Node) : table depth n = do
    let ps ← (← entries n).mapM (setting depth)
    return ps.foldl (fun done p => insertSorted p.1 p.2 done) [] := by
  have hfold (es : List (Node × Node)) := foldlM_eq (setting depth)
    (fun (done : List (String × Value)) p => insertSorted p.1 p.2 done) es []
  simp only [setting, bind_assoc, pure_bind] at hfold
  simp only [table, hfold]

end Decoder

end ClusterAccess.Yaml
