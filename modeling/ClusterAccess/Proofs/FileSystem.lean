import ClusterAccess.FileSystem
import ClusterAccess.Proofs.Except

namespace ClusterAccess

namespace Path

theorem parts_go_append_slash (seen cs ds : List Char) :
    parts.go seen (cs ++ '/' :: ds) = parts.go seen cs ++ parts.go [] ds := by
  induction cs generalizing seen with
  | nil => rfl
  | cons c cs ih =>
    simp only [List.cons_append, parts.go]
    split
    · rw [ih, List.cons_append]
    · exact ih _

theorem parts_append_slash (cs ds : List Char) :
    parts (String.ofList (cs ++ '/' :: ds)) =
      parts (String.ofList cs) ++ parts (String.ofList ds) := by
  simp only [parts, String.toList_ofList]
  exact parts_go_append_slash [] cs ds

theorem parts_go_of_not_mem {seen cs : List Char} (h : '/' ∉ cs) :
    parts.go seen cs = [String.ofList (seen.reverse ++ cs)] := by
  induction cs generalizing seen with
  | nil => rw [parts.go, List.append_nil]
  | cons c cs ih =>
    have hne : (c == '/') = false := beq_false_of_ne fun hc => h (hc ▸ List.mem_cons_self)
    rw [parts.go, hne, if_neg Bool.false_ne_true, ih fun hm => h (List.mem_cons_of_mem c hm),
      List.reverse_cons, List.append_assoc, List.singleton_append]

theorem parts_of_not_mem {cs : List Char} (h : '/' ∉ cs) :
    parts (String.ofList cs) = [String.ofList cs] := by
  rw [parts, String.toList_ofList, parts_go_of_not_mem h, List.reverse_nil, List.nil_append]

theorem parts_ne_nil (p : String) : parts p ≠ [] := by
  have hgo (seen cs : List Char) : parts.go seen cs ≠ [] := by
    induction cs generalizing seen with
    | nil => exact List.cons_ne_nil _ _
    | cons c cs ih =>
      rw [parts.go]
      split
      · exact List.cons_ne_nil _ _
      · exact ih _
  exact hgo [] p.toList

theorem isAbsolute_iff {p : String} :
    isAbsolute p = true ↔ ∃ cs, p = String.ofList ('/' :: cs) := by
  rw [isAbsolute, beq_iff_eq, List.head?_eq_some_iff]
  constructor
  · rintro ⟨cs, h⟩
    exact ⟨cs, by rw [← h, String.ofList_toList]⟩
  · rintro ⟨cs, rfl⟩
    exact ⟨cs, String.toList_ofList⟩

theorem isEmpty_eq_false_of_isAbsolute {p : String} (h : isAbsolute p = true) :
    p.isEmpty = false := by
  obtain ⟨cs, rfl⟩ := isAbsolute_iff.1 h
  simp

theorem exists_join_eq {base : String} (hb : isAbsolute base = true) :
    ∃ cs, (base = String.ofList cs ∨ base = String.ofList (cs ++ ['/'])) ∧
      ∀ p, isAbsolute p = false → join base p = String.ofList (cs ++ '/' :: p.toList) := by
  have hempty := isEmpty_eq_false_of_isAbsolute hb
  cases hlast : base.toList.getLast? == some '/' with
  | true =>
    obtain ⟨cs, hcs⟩ := List.getLast?_eq_some_iff.1 (beq_iff_eq.1 hlast)
    refine ⟨cs, .inr (by rw [← hcs, String.ofList_toList]), fun p hp => ?_⟩
    rw [join, hp, hempty, Bool.or_self, if_neg Bool.false_ne_true, if_pos hlast,
      ← String.toList_inj, String.toList_append, hcs, String.toList_ofList, List.append_assoc,
      List.singleton_append]
  | false =>
    refine ⟨base.toList, .inl String.ofList_toList.symm, fun p hp => ?_⟩
    rw [join, hp, hempty, Bool.or_self, if_neg Bool.false_ne_true,
      if_neg (Bool.eq_false_iff.1 hlast), ← String.toList_inj]
    simp only [String.toList_append, String.toList_ofList, List.append_assoc]
    rfl

theorem isAbsolute_append {cs ds : List Char} :
    isAbsolute (String.ofList (cs ++ '/' :: ds)) = isAbsolute (String.ofList (cs ++ ['/'])) := by
  simp only [isAbsolute, String.toList_ofList]
  cases cs <;> rfl

theorem isAbsolute_join {base p : String} (hb : isAbsolute base = true) :
    isAbsolute (join base p) = true := by
  cases hp : isAbsolute p with
  | true => rw [join, hp, Bool.true_or, if_pos rfl, hp]
  | false =>
    obtain ⟨cs, hcs, hjoin⟩ := exists_join_eq hb
    rw [hjoin p hp, isAbsolute_append]
    obtain rfl | rfl := hcs
    · obtain ⟨ds, hds⟩ := isAbsolute_iff.1 hb
      simp [isAbsolute, String.ofList_injective hds]
    · exact hb

theorem mem_toList_join {base p : String} {c : Char} (hb : isAbsolute base = true)
    (hp : isAbsolute p = false) :
    c ∈ (join base p).toList ↔ c ∈ base.toList ∨ c ∈ p.toList := by
  have hslash : '/' ∈ base.toList := by
    obtain ⟨ds, rfl⟩ := isAbsolute_iff.1 hb
    rw [String.toList_ofList]
    exact List.mem_cons_self
  obtain ⟨cs, hcs, hjoin⟩ := exists_join_eq hb
  rw [hjoin p hp, String.toList_ofList, List.mem_append, List.mem_cons]
  obtain rfl | rfl := hcs
  · rw [String.toList_ofList] at hslash ⊢
    by_cases hc : c = '/'
    · simp [hc, hslash]
    · simp [hc]
  · simp only [String.toList_ofList, List.mem_append, List.mem_singleton, or_assoc]

theorem expandHome_of_isAbsolute {home : Option String} {p : String} (h : isAbsolute p = true) :
    expandHome home p = p := by
  obtain ⟨cs, rfl⟩ := isAbsolute_iff.1 h
  cases home <;> simp [expandHome]

theorem getLast?_trimEnd (cs : List Char) : (trimEnd cs).getLast? = cs.getLast? := by
  fun_induction trimEnd cs with
  | case1 => rfl
  | case2 cs hne ih =>
    obtain ⟨c, cs, rfl⟩ := List.exists_cons_of_ne_nil hne
    rw [ih, List.getLast?_cons_cons]
  | case3 cs ih => rw [ih, List.getLast?_cons_cons]
  | case4 cs => rfl

theorem trimEnd_suffix (cs : List Char) : trimEnd cs <:+ cs := by
  fun_induction trimEnd cs with
  | case1 => exact List.suffix_rfl
  | case2 cs hne ih => exact ih.trans (List.suffix_cons _ _)
  | case3 cs ih => exact ih.trans (List.suffix_cons _ _)
  | case4 cs => exact List.suffix_rfl

theorem trimEnd_name {name cs : List Char} (hs : '/' ∉ name) (hn : name ≠ []) (hd : name ≠ ['.']) :
    trimEnd (name ++ '/' :: cs) = name ++ '/' :: cs := by
  obtain ⟨c, name, rfl⟩ := List.exists_cons_of_ne_nil hn
  generalize h : c :: name ++ '/' :: cs = path
  fun_cases trimEnd path with
  | case1 =>
    cases (List.cons.inj h).1
    exact (hs List.mem_cons_self).elim
  | case2 ds hne =>
    cases (List.cons.inj h).1
    exact (hs List.mem_cons_self).elim
  | case3 ds =>
    obtain ⟨rfl, htail⟩ := List.cons.inj h
    cases name with
    | nil => exact (hd rfl).elim
    | cons d name =>
      have hslash : d = '/' := (List.cons.inj htail).1
      subst hslash
      exact (hs (List.mem_cons_of_mem _ List.mem_cons_self)).elim
  | case4 => rfl

theorem parent?_append (cs : List Char) {name : List Char} (hs : '/' ∉ name) (hn : name ≠ [])
    (hd : name ≠ ['.']) :
    parent? (String.ofList (cs ++ '/' :: name)) =
      some (String.ofList (trimEnd ('/' :: cs.reverse)).reverse) := by
  have hs' : '/' ∉ name.reverse := fun h => hs (List.mem_reverse.1 h)
  have hn' : name.reverse ≠ [] := List.reverse_ne_nil_iff.2 hn
  have hd' : name.reverse ≠ ['.'] := fun h => hd (by rw [← List.reverse_reverse name, h]; rfl)
  have hdrop : (name.reverse ++ '/' :: cs.reverse).dropWhile (· != '/') = '/' :: cs.reverse := by
    rw [List.dropWhile_append_of_pos, List.dropWhile_cons_of_neg (by decide)]
    exact fun c hc => bne_iff_ne.2 fun he => hs' (he ▸ hc)
  rw [parent?, String.toList_ofList, List.reverse_append, List.reverse_cons, List.append_assoc,
    List.singleton_append, trimEnd_name hs' hn' hd']
  split
  next h => exact (List.append_ne_nil_of_left_ne_nil hn' _ h).elim
  next h =>
    obtain ⟨c, name', hname⟩ := List.exists_cons_of_ne_nil hn'
    rw [hname, List.cons_append, List.cons.injEq] at h
    exact (List.append_ne_nil_of_right_ne_nil _ (List.cons_ne_nil _ _) h.2).elim
  next => rw [hdrop]

theorem exists_last_slash {cs : List Char} (h : '/' ∈ cs) :
    ∃ ds name, cs = ds ++ '/' :: name ∧ '/' ∉ name := by
  obtain ⟨name, ds, hcs, hname⟩ := List.eq_append_cons_of_mem (List.mem_reverse.2 h)
  refine ⟨ds.reverse, name.reverse, ?_, fun hm => hname (List.mem_reverse.1 hm)⟩
  rw [← List.reverse_reverse cs, hcs, List.reverse_append, List.reverse_cons, List.append_assoc,
    List.singleton_append]

end Path

namespace FileSystem

variable {fs : FileSystem} {place place' : Place} {e e' : Entry} {xs ys : List String}

/-- A path is followed to its middle, and from there on. -/
theorem walk_append (h : fs.walk place e xs = .ok (.present place' e')) :
    fs.walk place e (xs ++ ys) = fs.walk place' e' ys := by
  fun_induction fs.walk place e xs with
  | case1 place e =>
    cases h
    rfl
  | case2 => cases h
  | case3 place part more hpart ih => rw [List.cons_append, walk, if_pos hpart, ih h]
  | case4 place part more hpart hup ih =>
    rw [List.cons_append, walk, if_neg hpart, if_pos hup, ih h]
  | case5 => cases h
  | case6 place part more hpart hup hlong e he ih =>
    rw [List.cons_append, walk, if_neg hpart, if_neg hup, if_neg hlong, he]
    exact ih h
  | case7 => cases h
  | case8 => cases h

theorem exists_walk_of_append (h : fs.walk place e (xs ++ ys) = .ok (.present place' e')) :
    ∃ place'' e'', fs.walk place e xs = .ok (.present place'' e'') := by
  fun_induction fs.walk place e xs with
  | case1 place e => exact ⟨place, e, rfl⟩
  | case2 => cases h
  | case3 place part more hpart ih =>
    rw [List.cons_append, walk, if_pos hpart] at h
    exact ih h
  | case4 place part more hpart hup ih =>
    rw [List.cons_append, walk, if_neg hpart, if_pos hup] at h
    exact ih h
  | case5 place part more hpart hup hlong =>
    rw [List.cons_append, walk, if_neg hpart, if_neg hup, if_pos hlong] at h
    cases h
  | case6 place part more hpart hup hlong e he ih =>
    rw [List.cons_append, walk, if_neg hpart, if_neg hup, if_neg hlong, he] at h
    exact ih h
  | case7 place part more hpart hup hlong hn hall =>
    rw [List.cons_append, walk, if_neg hpart, if_neg hup, if_neg hlong, hn] at h
    dsimp only at h
    split at h <;> cases h
  | case8 place part more hpart hup hlong hn hall =>
    rw [List.cons_append, walk, if_neg hpart, if_neg hup, if_neg hlong, hn] at h
    dsimp only at h
    split at h <;> cases h

/-- A file is only found by its name. -/
theorem walk_file_singleton {name : String} {bytes : List UInt8}
    (h : fs.walk place e [name] = .ok (.present place' (.file bytes))) :
    e = .directory ∧ name ≠ "" ∧ name ≠ "." := by
  cases e with
  | file => cases h
  | directory =>
    refine ⟨rfl, ?_, ?_⟩
    · rintro rfl
      cases h
    · rintro rfl
      cases h

theorem walk_append_still {part : String} (hp : part = "" ∨ part = ".")
    (h : fs.walk place e (xs ++ [part]) = .ok (.present place' .directory)) :
    fs.walk place e xs = .ok (.present place' .directory) := by
  obtain ⟨place'', e'', hx⟩ := exists_walk_of_append h
  rw [walk_append hx] at h
  cases e'' with
  | file => cases h
  | directory =>
    obtain rfl | rfl := hp
    · rw [hx]
      exact h
    · rw [hx]
      exact h

/-- What lies below a directory. -/
def below (fs : FileSystem) (place : Place) : FileSystem :=
  ⟨fun p => if p = [] then some .directory else fs.find? (place ++ p)⟩

/-- What is found below a directory, as it is found from the root. -/
def Found.under (place : Place) : Found → Found
  | .present p e => .present (place ++ p) e
  | .absent p slash => .absent (place ++ p) slash

theorem find?_below (fs : FileSystem) (place p : Place) (part : String) :
    (fs.below place).find? (p ++ [part]) = fs.find? (place ++ (p ++ [part])) := by
  simp [below]

theorem walk_below {place p : Place} (hx : ".." ∉ xs) :
    fs.walk (place ++ p) e xs = ((fs.below place).walk p e xs).map (Found.under place) := by
  fun_induction (fs.below place).walk p e xs with
  | case1 p e => rfl
  | case2 => rfl
  | case3 p part more hpart ih =>
    rw [walk, if_pos hpart]
    exact ih (List.not_mem_of_not_mem_cons hx)
  | case4 p part more hpart hup ih => exact (hx (beq_iff_eq.1 hup ▸ List.mem_cons_self)).elim
  | case5 p part more hpart hup hlong =>
    rw [walk, if_neg hpart, if_neg hup, if_pos hlong]
    rfl
  | case6 p part more hpart hup hlong e he ih =>
    rw [find?_below] at he
    rw [walk, if_neg hpart, if_neg hup, if_neg hlong, List.append_assoc, he]
    exact ih (List.not_mem_of_not_mem_cons hx)
  | case7 p part more hpart hup hlong hn hall =>
    rw [find?_below] at hn
    rw [walk, if_neg hpart, if_neg hup, if_neg hlong, List.append_assoc, hn]
    exact if_pos hall
  | case8 p part more hpart hup hlong hn hall =>
    rw [find?_below] at hn
    rw [walk, if_neg hpart, if_neg hup, if_neg hlong, List.append_assoc, hn]
    exact if_neg hall

structure Leads (fs : FileSystem) (base : String) (place : Place) : Prop where
  absolute : Path.isAbsolute base = true
  clean : '\x00' ∉ base.toList
  walked : fs.walk [] .directory (Path.parts base) = .ok (.present place .directory)

theorem Leads.exists_parts {base : String} (h : fs.Leads base place) :
    ∃ zs, fs.walk [] .directory zs = .ok (.present place .directory) ∧
      ∀ p, Path.isAbsolute p = false → Path.parts (Path.join base p) = zs ++ Path.parts p := by
  obtain ⟨hb, -, hw⟩ := h
  obtain ⟨cs, hcs, hjoin⟩ := Path.exists_join_eq hb
  refine ⟨Path.parts (String.ofList cs), ?_, fun p hp => ?_⟩
  · obtain rfl | rfl := hcs
    · exact hw
    · rw [Path.parts_append_slash] at hw
      exact walk_append_still (.inl rfl) hw
  · rw [hjoin p hp, Path.parts_append_slash, String.ofList_toList]

theorem walk_trimEnd {cs : List Char}
    (h : fs.walk [] .directory (Path.parts (String.ofList cs.reverse)) =
      .ok (.present place .directory)) :
    fs.walk [] .directory (Path.parts (String.ofList (Path.trimEnd cs).reverse)) =
      .ok (.present place .directory) := by
  fun_induction Path.trimEnd cs with
  | case1 => exact h
  | case2 cs hne ih =>
    rw [List.reverse_cons, Path.parts_append_slash] at h
    exact ih (walk_append_still (.inl rfl) h)
  | case3 cs ih =>
    rw [List.reverse_cons, List.reverse_cons, List.append_assoc, List.singleton_append,
      Path.parts_append_slash] at h
    rw [List.reverse_cons, Path.parts_append_slash] at ih
    apply ih
    rw [walk_append (walk_append_still (.inr rfl) h)]
    rfl
  | case4 => exact h

/-- The directory above a file is where the path of the file leads before its last name. -/
theorem exists_parent {path : String} {bytes : List UInt8} (ha : Path.isAbsolute path = true)
    (hc : '\x00' ∉ path.toList)
    (h : fs.walk [] .directory (Path.parts path) = .ok (.present place (.file bytes))) :
    ∃ xs name base directory, Path.parts path = xs ++ [name] ∧
      fs.walk [] .directory xs = .ok (.present directory .directory) ∧
      Path.parent? path = some base ∧ fs.Leads base directory := by
  obtain ⟨ds, rfl⟩ := Path.isAbsolute_iff.1 ha
  obtain ⟨cs, name, hcs, hname⟩ := Path.exists_last_slash (List.mem_cons_self : '/' ∈ '/' :: ds)
  rw [hcs] at ha hc h ⊢
  rw [Path.parts_append_slash, Path.parts_of_not_mem hname] at h ⊢
  obtain ⟨directory, e, hw⟩ := exists_walk_of_append h
  rw [walk_append hw] at h
  obtain ⟨rfl, hempty, hdot⟩ := walk_file_singleton h
  have hparent := Path.parent?_append cs hname (fun hn => hempty (by rw [hn]))
    fun hn => hdot (by rw [hn])
  have hslash : fs.walk [] .directory (Path.parts (String.ofList ('/' :: cs.reverse).reverse)) =
      .ok (.present directory .directory) := by
    rw [List.reverse_cons, List.reverse_reverse, Path.parts_append_slash, walk_append hw]
    rfl
  refine ⟨_, _, _, directory, rfl, hw, hparent, ?_, ?_, walk_trimEnd hslash⟩
  · rw [Path.isAbsolute, String.toList_ofList, List.head?_reverse, Path.getLast?_trimEnd,
      ← List.head?_reverse, List.reverse_cons, List.reverse_reverse]
    rw [Path.isAbsolute_append, Path.isAbsolute, String.toList_ofList] at ha
    exact ha
  · intro hm
    rw [String.toList_ofList, List.mem_reverse] at hm
    apply hc
    rw [String.toList_ofList]
    obtain hm | hm := List.mem_cons.1 ((Path.trimEnd_suffix _).subset hm)
    · cases hm
    · exact List.mem_append_left _ (List.mem_reverse.1 hm)

def Found.entry? : Found → Option Entry
  | .present _ e => some e
  | .absent .. => none

theorem entry?_walk_below (hx : ".." ∉ xs) :
    (fs.walk place e xs).map Found.entry? = ((fs.below place).walk [] e xs).map Found.entry? := by
  rw [← List.append_nil place, walk_below hx, List.append_nil]
  cases (fs.below place).walk [] e xs with
  | error => rfl
  | ok found => cases found <;> rfl

theorem below_append (fs : FileSystem) (place p : Place) :
    fs.below (place ++ p) = (fs.below place).below p := by
  simp only [below, mk.injEq]
  funext q
  by_cases hq : q = []
  · rw [if_pos hq, if_pos hq]
  · rw [if_neg hq, if_neg hq, if_neg (List.append_ne_nil_of_right_ne_nil _ hq), List.append_assoc]

theorem Leads.parent {bytes : List UInt8} {found : Place} {base p : String}
    (hl : fs.Leads base place) (hp : Path.isAbsolute p = false) (hup : ".." ∉ Path.parts p)
    (hc : '\x00' ∉ p.toList)
    (h : fs.walk [] .directory (Path.parts (Path.join base p)) = .ok (.present found (.file bytes))) :
    ∃ ys name q above, Path.parts p = ys ++ [name] ∧
      (fs.below place).walk [] .directory ys = .ok (.present q .directory) ∧
      Path.parent? (Path.join base p) = some above ∧ fs.Leads above (place ++ q) := by
  have hclean : '\x00' ∉ (Path.join base p).toList := fun hm =>
    ((Path.mem_toList_join hl.absolute hp).1 hm).elim hl.clean hc
  obtain ⟨xs, name, above, directory, hxs, hw, hparent, hleads⟩ :=
    exists_parent (Path.isAbsolute_join hl.absolute) hclean h
  obtain ⟨zs, hzs, hparts⟩ := hl.exists_parts
  obtain hnil | ⟨ys, name', hys⟩ := List.eq_nil_or_concat (Path.parts p)
  · exact (Path.parts_ne_nil p hnil).elim
  rw [List.concat_eq_append] at hys
  rw [hparts p hp, hys, ← List.append_assoc] at hxs
  obtain ⟨rfl, -⟩ := List.append_inj' hxs rfl
  have hupYs : ".." ∉ ys := fun hm => hup (hys ▸ List.mem_append_left _ hm)
  rw [walk_append hzs, ← List.append_nil place, walk_below hupYs, Except.map_eq_ok_iff] at hw
  obtain ⟨found', hq, hunder⟩ := hw
  cases found' with
  | absent => cases hunder
  | present q e =>
    cases hunder
    exact ⟨ys, name', q, above, hys, hq, hparent, hleads⟩

/-- Paths of two directories, each in a file system, with the same below them. -/
structure Twins (fs fs' : FileSystem) (base base' : String) (place place' : Place) : Prop where
  left : fs.Leads base place
  right : fs'.Leads base' place'
  same : fs'.below place' = fs.below place

namespace Twins

variable {fs' : FileSystem} {base base' p : String}

theorem entry?_walk_join (t : Twins fs fs' base base' place place')
    (hp : Path.isAbsolute p = false) (hup : ".." ∉ Path.parts p) :
    (fs'.walk [] .directory (Path.parts (Path.join base' p))).map Found.entry? =
      (fs.walk [] .directory (Path.parts (Path.join base p))).map Found.entry? := by
  obtain ⟨zs, hzs, hparts⟩ := t.left.exists_parts
  obtain ⟨zs', hzs', hparts'⟩ := t.right.exists_parts
  rw [hparts p hp, hparts' p hp, walk_append hzs, walk_append hzs', entry?_walk_below hup, t.same,
    ← entry?_walk_below hup]

theorem parent {bytes : List UInt8} {found : Place} (t : Twins fs fs' base base' place place')
    (hp : Path.isAbsolute p = false) (hup : ".." ∉ Path.parts p) (hc : '\x00' ∉ p.toList)
    (h : fs.walk [] .directory (Path.parts (Path.join base p)) =
      .ok (.present found (.file bytes))) :
    ∃ above above' q q', Path.parent? (Path.join base p) = some above ∧
      Path.parent? (Path.join base' p) = some above' ∧ Twins fs fs' above above' q q' := by
  have hsame := t.entry?_walk_join hp hup
  rw [h, Except.map, Except.map_eq_ok_iff] at hsame
  obtain ⟨found', h', hentry⟩ := hsame
  cases found' with
  | absent => cases hentry
  | present place e =>
    cases hentry
    obtain ⟨ys, name, q, above, hys, hq, hparent, hleads⟩ := t.left.parent hp hup hc h
    obtain ⟨ys', name', q', above', hys', hq', hparent', hleads'⟩ := t.right.parent hp hup hc h'
    obtain ⟨rfl, -⟩ := List.append_inj' (hys.symm.trans hys') rfl
    rw [t.same, hq] at hq'
    cases hq'
    exact ⟨above, above', _, _, hparent, hparent', hleads, hleads', by
      rw [below_append, below_append, t.same]⟩

end Twins

end FileSystem

/-- Paths have a greatest length. -/
def FileSystem.Fits (path : String) : Prop := (Text.utf8 path).length ≤ maxPath

instance (path : String) : Decidable (FileSystem.Fits path) := inferInstanceAs (Decidable (_ ≤ _))

namespace Host

variable {h h' : Host} {path path' : String}

theorem read_eq_of_find {h : Host} {path : String} :
    h.read path = (h.find path).map FileSystem.Found.entry? >>= fun
      | some (.file bytes) => .ok bytes
      | some .directory => .error .isDirectory
      | none => .error .notFound := by
  rw [read]
  cases h.find path with
  | error => rfl
  | ok found =>
    cases found with
    | present place e => cases e <;> rfl
    | absent => rfl

theorem read_congr (ha : Path.isAbsolute path = true) (ha' : Path.isAbsolute path' = true)
    (hc : '\x00' ∈ path'.toList ↔ '\x00' ∈ path.toList)
    (hf : FileSystem.Fits path' ↔ FileSystem.Fits path)
    (hw : (h'.files.walk [] .directory (Path.parts path')).map FileSystem.Found.entry? =
      (h.files.walk [] .directory (Path.parts path)).map FileSystem.Found.entry?) :
    h'.read path' = h.read path := by
  have hcontains : path'.toList.contains '\x00' = path.toList.contains '\x00' := by
    rw [Bool.eq_iff_iff, List.contains_iff_mem, List.contains_iff_mem, hc]
  have hlong : FileSystem.maxPath < (Text.utf8 path').length ↔
      FileSystem.maxPath < (Text.utf8 path).length := by
    rw [← Nat.not_le, ← Nat.not_le]
    exact not_congr hf
  rw [read_eq_of_find, read_eq_of_find]
  congr 1
  simp only [find, Path.isEmpty_eq_false_of_isAbsolute ha,
    Path.isEmpty_eq_false_of_isAbsolute ha', hcontains, hlong, if_pos ha, if_pos ha']
  split
  next => rfl
  next =>
    split
    next => rfl
    next =>
      split
      next => rfl
      next => exact hw

theorem walk_of_read {bytes : List UInt8} (ha : Path.isAbsolute path = true)
    (hr : h.read path = .ok bytes) :
    '\x00' ∉ path.toList ∧ ∃ place,
      h.files.walk [] .directory (Path.parts path) = .ok (.present place (.file bytes)) := by
  rw [read, Except.bind_eq_ok_iff] at hr
  obtain ⟨found, hfind, hfound⟩ := hr
  rw [find, Path.isEmpty_eq_false_of_isAbsolute ha, if_neg Bool.false_ne_true] at hfind
  split at hfind
  next => cases hfind
  next hc =>
    split at hfind
    next => cases hfind
    next =>
      refine ⟨fun hm => hc (List.contains_iff_mem.2 hm), ?_⟩
      cases found with
      | absent => cases hfound
      | present place e =>
        cases e with
        | directory => cases hfound
        | file =>
          cases hfound
          exact ⟨place, hfind⟩

theorem fits_of_read {bytes : List UInt8} (hr : h.read path = .ok bytes) :
    FileSystem.Fits path := by
  rw [read, Except.bind_eq_ok_iff] at hr
  obtain ⟨found, hfind, -⟩ := hr
  rw [find] at hfind
  split at hfind
  next => cases hfind
  next =>
    split at hfind
    next => cases hfind
    next =>
      split at hfind
      next => cases hfind
      next hlong => exact Nat.not_lt.1 hlong

theorem read_elsewhere (ha : Path.isAbsolute path = true) (place : Place) :
    ({ h with workingDirectory := place } : Host).read path = h.read path := by
  simp only [read, find, if_pos ha]

end Host

/-- Files with the same path below two directories hold the same. -/
theorem FileSystem.Twins.read_join {h h' : Host} {base base' p : String} {place place' : Place}
    (t : Twins h.files h'.files base base' place place') (hp : Path.isAbsolute p = false)
    (hup : ".." ∉ Path.parts p) (hf : Fits (Path.join base' p) ↔ Fits (Path.join base p)) :
    h'.read (Path.join base' p) = h.read (Path.join base p) := by
  refine Host.read_congr (Path.isAbsolute_join t.left.absolute)
    (Path.isAbsolute_join t.right.absolute) ?_ hf (t.entry?_walk_join hp hup)
  rw [Path.mem_toList_join t.left.absolute hp, Path.mem_toList_join t.right.absolute hp,
    or_iff_right t.left.clean, or_iff_right t.right.clean]

end ClusterAccess
