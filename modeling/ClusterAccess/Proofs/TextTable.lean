import ClusterAccess.Command
import Mathlib.Data.List.Induction

namespace ClusterAccess.TextTable

variable {t : TextTable} {name text n : String} {pairs : List (String × String)}

theorem lookup_cons {α : Type} (k : String) (v : α) (t : List (String × α)) (n : String) :
    List.lookup n ((k, v) :: t) = if n = k then some v else t.lookup n := by
  rw [List.lookup_cons]
  by_cases hn : n = k
  · rw [if_pos hn, beq_iff_eq.2 hn]
  · rw [if_neg hn, beq_false_of_ne hn]

theorem lookup_insert (t : TextTable) (name text n : String) :
    (insert name text t).lookup n = if n = name then some text else t.lookup n := by
  induction t with
  | nil => rw [insert, lookup_cons]
  | cons e es ih =>
    obtain ⟨k, v⟩ := e
    rw [insert]
    split
    next he =>
      obtain rfl : k = name := beq_iff_eq.1 he
      rw [lookup_cons, lookup_cons]
      split <;> rfl
    next hne =>
      have hne : k ≠ name := fun h => hne (beq_iff_eq.2 h)
      split
      next =>
        rw [lookup_cons, lookup_cons, ih]
        by_cases hn : n = k
        · rw [if_pos hn, if_pos hn, if_neg (hn ▸ hne)]
        · rw [if_neg hn, if_neg hn]
      next => rw [lookup_cons]

/-- The last of the texts that a row of pairs gives to a name. -/
theorem lookup_ofList (pairs : List (String × String)) (n : String) :
    (ofList pairs).lookup n = pairs.reverse.lookup n := by
  induction pairs using List.reverseRecOn with
  | nil => rfl
  | append_singleton pairs p ih =>
    obtain ⟨k, v⟩ := p
    rw [ofList, List.foldl_append, List.foldl_cons, List.foldl_nil, lookup_insert,
      List.reverse_append, List.reverse_singleton, List.singleton_append, lookup_cons]
    split
    · rfl
    · exact ih

theorem lookup_isSome_iff : (List.lookup n t).isSome = true ↔ n ∈ t.map (·.1) := by
  simp

theorem mem_names_ofList : n ∈ (ofList pairs).map (·.1) ↔ n ∈ pairs.map (·.1) := by
  rw [← lookup_isSome_iff, lookup_ofList, lookup_isSome_iff, List.map_reverse, List.mem_reverse]

theorem mem_names_insert : n ∈ (insert name text t).map (·.1) ↔ n = name ∨ n ∈ t.map (·.1) := by
  rw [← lookup_isSome_iff, ← lookup_isSome_iff, lookup_insert]
  by_cases hn : n = name <;> simp [hn]

def Ascends (t : TextTable) : Prop := t.Pairwise (·.1 < ·.1)

theorem Ascends.insert (h : t.Ascends) (name text : String) : Ascends (insert name text t) := by
  induction t with
  | nil => exact List.pairwise_singleton _ _
  | cons e es ih =>
    obtain ⟨hfirst, hes⟩ := List.pairwise_cons.1 h
    rw [TextTable.insert]
    split
    next he =>
      obtain rfl : e.1 = name := beq_iff_eq.1 he
      exact List.pairwise_cons.2 ⟨hfirst, hes⟩
    next hne =>
      split
      next hlt =>
        refine List.pairwise_cons.2 ⟨?_, ih hes⟩
        intro p hp
        rcases mem_names_insert.1 (List.mem_map_of_mem hp) with hn | hn
        · rw [hn]
          exact hlt
        · obtain ⟨q, hq, hqp⟩ := List.mem_map.1 hn
          exact hqp ▸ hfirst q hq
      next hnlt =>
        have hlt : name < e.1 :=
          Std.lt_of_le_of_ne (String.not_lt.1 hnlt) fun he => hne (beq_iff_eq.2 he.symm)
        refine List.pairwise_cons.2 ⟨?_, h⟩
        intro p hp
        rcases List.mem_cons.1 hp with rfl | hp
        · exact hlt
        · exact String.lt_trans hlt (hfirst p hp)

theorem ascends_ofList (pairs : List (String × String)) : (ofList pairs).Ascends := by
  induction pairs using List.reverseRecOn with
  | nil => exact List.Pairwise.nil
  | append_singleton pairs p ih =>
    rw [ofList, List.foldl_append, List.foldl_cons, List.foldl_nil]
    exact ih.insert p.1 p.2

theorem Ascends.nodup (h : t.Ascends) : (t.map (·.1)).Nodup := by
  rw [List.Nodup, List.pairwise_map]
  exact h.imp String.ne_of_lt

end ClusterAccess.TextTable
