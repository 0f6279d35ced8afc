import ClusterAccess.Pem
import ClusterAccess.Proofs.Base64
import Mathlib.Data.List.TakeWhile

namespace ClusterAccess.Pem

open Base64 (Spelling symbol)

variable {b : UInt8} {l bytes symbols content rest : List UInt8} {rows lines : List (List UInt8)}
  {label : String} {n : Nat}

theorem linesOf_ne_nil (bytes : List UInt8) : linesOf bytes ≠ [] := by
  cases bytes with
  | nil => exact List.cons_ne_nil _ _
  | cons b bs =>
    rw [linesOf]
    split
    · split <;> exact List.cons_ne_nil _ _
    · exact List.cons_ne_nil _ _

theorem linesOf_break (rest : List UInt8) : linesOf (10 :: rest) = [] :: linesOf rest := by
  obtain ⟨l, ls, hlines⟩ := List.exists_cons_of_ne_nil (linesOf_ne_nil rest)
  rw [linesOf, hlines]
  rfl

theorem linesOf_cons (hb : b ≠ 10) (h : linesOf rest = l :: lines) :
    linesOf (b :: rest) = (b :: l) :: lines := by
  rw [linesOf, h]
  exact if_neg (mt beq_iff_eq.1 hb)

theorem linesOf_append_break (hl : 10 ∉ l) : linesOf (l ++ 10 :: rest) = l :: linesOf rest := by
  induction l with
  | nil => exact linesOf_break rest
  | cons b l ih =>
    obtain ⟨hb, hl⟩ := not_or.1 (mt List.mem_cons.2 hl)
    exact linesOf_cons (Ne.symm hb) (ih hl)

theorem linesOf_of_not_mem (hl : 10 ∉ l) : linesOf l = [l] := by
  induction l with
  | nil => rfl
  | cons b l ih =>
    obtain ⟨hb, hl⟩ := not_or.1 (mt List.mem_cons.2 hl)
    exact linesOf_cons (Ne.symm hb) (ih hl)

theorem linesOf_flatMap (h : ∀ l ∈ lines, 10 ∉ l) (rest : List UInt8) :
    linesOf (lines.flatMap (· ++ [10]) ++ rest) = lines ++ linesOf rest := by
  induction lines with
  | nil => rfl
  | cons l lines ih =>
    obtain ⟨hl, hlines⟩ := List.forall_mem_cons.1 h
    rw [List.flatMap_cons, List.append_assoc, List.append_assoc, List.singleton_append,
      linesOf_append_break hl, ih hlines, List.cons_append]

theorem exists_rows_wrap (n : Nat) (symbols : List UInt8) : ∃ first rows,
    wrap n symbols = (first :: rows).flatMap (· ++ [10]) ∧ (first :: rows).flatten = symbols ∧
      (∀ row ∈ rows, row ≠ []) ∧ (0 < n → symbols ≠ [] → first ≠ []) := by
  fun_induction wrap n symbols with
  | case1 n => exact ⟨[], [], rfl, rfl, nofun, fun _ hne => absurd rfl hne⟩
  | case2 b bs ih =>
    obtain ⟨first, rows, hwrap, hflat, hrows, -⟩ := ih
    refine ⟨[], (b :: first) :: rows, ?_, congrArg (b :: ·) hflat, ?_, fun hn => absurd hn nofun⟩
    · rw [hwrap]
      rfl
    · exact List.forall_mem_cons.2 ⟨List.cons_ne_nil b first, hrows⟩
  | case3 n b bs ih =>
    obtain ⟨first, rows, hwrap, hflat, hrows, -⟩ := ih
    refine ⟨b :: first, rows, ?_, congrArg (b :: ·) hflat, hrows,
      fun _ _ => List.cons_ne_nil b first⟩
    rw [hwrap]
    rfl

theorem trimLine_concat (hlow : 32 < b.toNat) (hhigh : b.toNat < 128) :
    trimLine (l ++ [b]) = l ++ [b] := by
  have hb : ¬ (decide (b ≤ 32) || decide (128 ≤ b)) = true := by
    rw [Bool.or_eq_true, decide_eq_true_eq, decide_eq_true_eq, UInt8.le_iff_toNat_le,
      UInt8.le_iff_toNat_le]
    change ¬ (b.toNat ≤ 32 ∨ 128 ≤ b.toNat)
    omega
  rw [trimLine, List.reverse_append, List.reverse_singleton, List.singleton_append,
    List.dropWhile_cons, if_neg hb, List.reverse_cons, List.reverse_reverse]

theorem trimLine_of_forall (h : ∀ b ∈ l, 32 < b.toNat ∧ b.toNat < 128) : trimLine l = l := by
  obtain rfl | ⟨l, b, rfl⟩ := List.eq_nil_or_concat l
  · rfl
  · rw [List.concat_eq_append] at h ⊢
    obtain ⟨hlow, hhigh⟩ := h b (List.mem_append_right _ (List.mem_singleton_self b))
    exact trimLine_concat hlow hhigh

def IsGap (bytes : List UInt8) : Prop := ∀ b ∈ bytes, b = 32 ∨ b = 9 ∨ b = 13

theorem IsGap.not_mem (h : IsGap l) : 10 ∉ l := by
  intro hb
  rcases h 10 hb with hb | hb | hb <;> exact absurd hb (by decide)

theorem IsGap.trimLine_append (h : IsGap rest) (l : List UInt8) :
    trimLine (l ++ rest) = trimLine l := by
  have hall : ∀ b ∈ rest.reverse, (decide (b ≤ 32) || decide (128 ≤ b)) = true := by
    intro b hb
    rcases h b (List.mem_reverse.1 hb) with rfl | rfl | rfl <;> decide
  rw [trimLine, List.reverse_append, List.dropWhile_append_of_pos hall, trimLine]

theorem not_mem_map_append (h : ∀ row ∈ rows, (10 : UInt8) ∉ row) (hrest : IsGap rest) :
    ∀ l ∈ rows.map (· ++ rest), (10 : UInt8) ∉ l := by
  intro l hl
  obtain ⟨row, hrow, rfl⟩ := List.mem_map.1 hl
  exact List.not_mem_append (h row hrow) hrest.not_mem

theorem map_trimLine_append (h : ∀ row ∈ rows, trimLine row = row) (hrest : IsGap rest) :
    (rows.map (· ++ rest)).map trimLine = rows := by
  rw [List.map_map]
  refine (List.map_congr_left fun row hrow => ?_).trans (List.map_id' rows)
  exact (hrest.trimLine_append row).trans (h row hrow)

theorem boundary_begin (label : String) :
    boundary "BEGIN" label = beginMark ++ (Text.utf8 label ++ dashes) := by
  have hmark : ("-----" ++ "BEGIN" ++ " " : String) = "-----BEGIN " := rfl
  rw [boundary, Text.utf8_append, Text.utf8_append, hmark, List.append_assoc, beginMark, dashes]

theorem boundary_end (label : String) :
    boundary "END" label = endMark ++ (Text.utf8 label ++ dashes) := by
  have hmark : ("-----" ++ "END" ++ " " : String) = "-----END " := rfl
  rw [boundary, Text.utf8_append, Text.utf8_append, hmark, List.append_assoc, endMark, dashes]

theorem trimLine_boundary (word label : String) :
    trimLine (boundary word label) = boundary word label := by
  have hdashes : Text.utf8 "-----" = [45, 45, 45, 45] ++ [45] := by decide
  rw [boundary, Text.utf8_append, hdashes, ← List.append_assoc]
  exact trimLine_concat (by decide) (by decide)

theorem opens?_boundary (label : String) : opens? (boundary "BEGIN" label) = some label := by
  have hprefix : beginMark.isPrefixOf (beginMark ++ (Text.utf8 label ++ dashes)) = true :=
    List.isPrefixOf_iff_prefix.2 (List.prefix_append _ _)
  have hsuffix : dashes.isSuffixOf (Text.utf8 label ++ dashes) = true :=
    List.isSuffixOf_iff_suffix.2 (List.suffix_append _ _)
  have hlength : (beginMark ++ (Text.utf8 label ++ dashes)).length - beginMark.length -
      dashes.length = (Text.utf8 label).length := by
    rw [List.length_append, List.length_append]
    omega
  rw [boundary_begin, opens?, List.drop_left, hprefix, hsuffix, Bool.and_self, if_pos rfl, hlength]
  dsimp only
  rw [List.take_left, Text.decodeUtf8Lossy_utf8]

theorem isPrefixOf_endMark_boundary (label : String) :
    endMark.isPrefixOf (boundary "END" label) = true := by
  rw [boundary_end]
  exact List.isPrefixOf_iff_prefix.2 (List.prefix_append _ _)

theorem exists_groups (h : Spelling content symbols) : ∃ values padding filler,
    symbols = values ++ List.replicate padding Base64.pad ∧ padding ≤ 2 ∧
      (∀ b ∈ values, b ≠ Base64.pad) ∧ groups symbols = some (content ++ filler) ∧
        filler.length = padding := by
  have hsymbol {v : Nat} (hv : v < 64) :
      (if symbol v == Base64.pad then some 0 else Base64.value? (symbol v)) = some v := by
    rw [if_neg (mt beq_iff_eq.1 (Base64.symbol_ne_pad hv)), Base64.value?_symbol v hv]
  have hpad : (if Base64.pad == Base64.pad then some 0 else Base64.value? Base64.pad) = some 0 :=
    rfl
  induction h with
  | nil => exact ⟨[], 0, [], rfl, by omega, nofun, rfl, rfl⟩
  | @one x y hx hy hrest =>
    refine ⟨[symbol x, symbol y], 2, [UInt8.ofNat (y % 16 * 16 + 0 / 4), UInt8.ofNat (0 % 4 * 64 + 0)],
      rfl, by omega, ?_, ?_, rfl⟩
    · simp [Base64.symbol_ne_pad hx, Base64.symbol_ne_pad hy]
    · simp only [groups, hsymbol hx, hsymbol hy, hpad]
      rfl
  | @two x y z hx hy hz hrest =>
    refine ⟨[symbol x, symbol y, symbol z], 1, [UInt8.ofNat (z % 4 * 64 + 0)], rfl, by omega, ?_, ?_,
      rfl⟩
    · simp [Base64.symbol_ne_pad hx, Base64.symbol_ne_pad hy, Base64.symbol_ne_pad hz]
    · simp only [groups, hsymbol hx, hsymbol hy, hsymbol hz, hpad]
      rfl
  | @three x y z w content symbols hx hy hz hw h ih =>
    obtain ⟨values, padding, filler, rfl, hpadding, hvalues, hgroups, hfiller⟩ := ih
    refine ⟨symbol x :: symbol y :: symbol z :: symbol w :: values, padding, filler, rfl, hpadding,
      ?_, ?_, hfiller⟩
    · simpa [Base64.symbol_ne_pad hx, Base64.symbol_ne_pad hy, Base64.symbol_ne_pad hz,
        Base64.symbol_ne_pad hw] using hvalues
    · simp only [groups, hsymbol hx, hsymbol hy, hsymbol hz, hsymbol hw, hgroups]
      rfl

theorem filter_encode (content : List UInt8) :
    (Base64.encode content).filter (fun b => !(b == 32 || b == 9 || b == 13)) =
      Base64.encode content := by
  apply List.filter_eq_self.2
  intro b hb
  obtain ⟨hlow, -, -, -⟩ := Base64.range_of_mem_encode hb
  simp only [Bool.not_eq_true', Bool.or_eq_false_iff, beq_eq_false_iff_ne, ne_eq]
  refine ⟨⟨?_, ?_⟩, ?_⟩ <;> rintro rfl <;> exact absurd hlow (by decide)

theorem takeWhile_encode (content : List UInt8) :
    (Base64.encode content).takeWhile (· != 45) = Base64.encode content := by
  apply List.takeWhile_eq_self_iff.2
  intro b hb
  obtain ⟨-, -, hb, -⟩ := Base64.range_of_mem_encode hb
  rw [bne_iff_ne]
  rintro rfl
  exact hb rfl

theorem content?_encode (hne : content ≠ []) :
    content? (Base64.encode content) = some content := by
  have hspelling := Base64.spelling_encode content
  obtain ⟨values, padding, filler, hsymbols, hpadding, hvalues, hgroups, hfiller⟩ :=
    exists_groups hspelling
  have hvalue : (Base64.encode content).takeWhile (· != Base64.pad) = values := by
    rw [hsymbols, List.takeWhile_append_of_pos fun b hb => bne_iff_ne.2 (hvalues b hb)]
    cases padding with
    | zero => exact List.append_nil values
    | succ padding => simp [List.replicate_succ]
  have hempty : (Base64.encode content).isEmpty = false :=
    List.isEmpty_eq_false_iff.2 (Base64.encode_ne_nil hne)
  rw [content?]
  simp only [filter_encode, takeWhile_encode, hvalue, hempty, hgroups]
  rw [hsymbols, List.drop_left]
  have hrest : ¬ (false || decide (2 < (List.replicate padding Base64.pad).length) ||
      (List.replicate padding Base64.pad).any (· != Base64.pad)) = true := by
    simp only [Bool.false_or, Bool.or_eq_true, decide_eq_true_eq, List.length_replicate,
      List.any_eq_true, List.mem_replicate, bne_iff_ne, ne_eq]
    rintro (hlong | ⟨b, ⟨-, hb⟩, hpad⟩)
    · omega
    · exact hpad hb
  rw [if_neg hrest, Option.map_some, List.length_replicate, List.length_append, hfiller,
    Nat.add_sub_cancel, List.take_left]

/-- Rows of symbols that are not empty are the body of a block without a header. -/
theorem body?_rows (hne : content ≠ []) (hrows : rows.flatten = Base64.encode content)
    (hfull : ∀ row ∈ rows, row ≠ []) : body? label rows = some ⟨label, false, content⟩ := by
  have hfirst : rows.takeWhile (!·.isEmpty) = rows := by
    apply List.takeWhile_eq_self_iff.2
    intro row hrow
    rw [Bool.not_eq_true', List.isEmpty_eq_false_iff]
    exact hfull row hrow
  have hcolon : ¬ (rows.any (·.contains 58)) = true := by
    rw [List.any_eq_true]
    rintro ⟨row, hrow, hc⟩
    have hmem : (58 : UInt8) ∈ Base64.encode content :=
      hrows ▸ List.mem_flatten.2 ⟨row, hrow, List.contains_iff_mem.1 hc⟩
    obtain ⟨-, -, -, hb⟩ := Base64.range_of_mem_encode hmem
    exact hb rfl
  rw [body?]
  simp only [hfirst, List.drop_length, if_neg hcolon, hrows, content?_encode hne, Option.map_some]

theorem blocksFrom_inside {before : List (List UInt8)}
    (h : ∀ row ∈ rows, endMark.isPrefixOf row = false) :
    blocksFrom (.inside label before) (rows ++ lines) =
      blocksFrom (.inside label (rows.reverse ++ before)) lines := by
  induction rows generalizing before with
  | nil => rfl
  | cons row rows ih =>
    obtain ⟨hrow, hrows⟩ := List.forall_mem_cons.1 h
    rw [List.cons_append, blocksFrom, hrow, if_neg Bool.false_ne_true, ih hrows, List.reverse_cons,
      List.append_assoc, List.singleton_append]

theorem blocksFrom_block (hbody : body? label rows = some ⟨label, false, content⟩)
    (h : ∀ row ∈ rows, endMark.isPrefixOf row = false) :
    blocksFrom .outside (boundary "BEGIN" label :: (rows ++ boundary "END" label :: lines)) =
      some ⟨label, false, content⟩ :: blocksFrom .outside lines := by
  rw [blocksFrom, opens?_boundary]
  dsimp only
  rw [blocksFrom_inside h, List.append_nil, blocksFrom, isPrefixOf_endMark_boundary, if_pos rfl,
    beq_self_eq_true, if_pos rfl, List.reverse_reverse, hbody]

theorem not_mem_boundary {word : String} (hword : (10 : UInt8) ∉ Text.utf8 word)
    (hlabel : (10 : UInt8) ∉ Text.utf8 label) : (10 : UInt8) ∉ boundary word label := by
  simp only [boundary, Text.utf8_append, List.mem_append, not_or]
  exact ⟨⟨⟨⟨by decide, hword⟩, by decide⟩, hlabel⟩, by decide⟩

theorem exists_rows_wrapped (hne : content ≠ []) : ∃ rows : List (List UInt8),
    wrapped (Base64.encode content) = rows.flatMap (· ++ [10]) ∧
      rows.flatten = Base64.encode content ∧ ∀ row ∈ rows, row ≠ [] := by
  have hsymbols := Base64.encode_ne_nil hne
  obtain ⟨first, rows, hwrap, hflat, hrows, hfirst⟩ :=
    exists_rows_wrap lineWidth (Base64.encode content)
  rw [wrapped, if_neg (mt List.isEmpty_iff.1 hsymbols)]
  exact ⟨first :: rows, hwrap, hflat,
    List.forall_mem_cons.2 ⟨hfirst (by decide) hsymbols, hrows⟩⟩

theorem trimLine_row (h : ∀ b ∈ l, b ∈ Base64.encode content) : trimLine l = l := by
  apply trimLine_of_forall
  intro b hb
  obtain ⟨hlow, hhigh, -, -⟩ := Base64.range_of_mem_encode (h b hb)
  exact ⟨by omega, hhigh⟩

theorem isPrefixOf_endMark_row (h : ∀ b ∈ l, b ∈ Base64.encode content) :
    endMark.isPrefixOf l = false := by
  rw [← Bool.not_eq_true, List.isPrefixOf_iff_prefix]
  intro hprefix
  have hdash : (45 : UInt8) ∈ l := hprefix.subset (by decide)
  obtain ⟨-, -, hb, -⟩ := Base64.range_of_mem_encode (h 45 hdash)
  exact hb rfl

/-- Blank lines, the border, the symbols in rows of any lengths, and the border. -/
inductive Armours (label : String) (content rest : List UInt8) : List UInt8 → Prop where
  | intro {blanks rows : List (List UInt8)} {gap after : List UInt8}
    (hblank : ∀ l ∈ blanks, IsGap l) (hrows : ∀ row ∈ rows, row ≠ [])
    (hflat : rows.flatten = Base64.encode content) (hgap : IsGap gap)
    (hafter : after = gap ++ 10 :: rest ∨ (after = [] ∧ rest = [])) :
    Armours label content rest (blanks.flatMap (· ++ [10]) ++
      (((boundary "BEGIN" label :: rows).map (· ++ gap)).flatMap (· ++ [10]) ++
        (boundary "END" label ++ after)))

theorem armours_encode (label : String) (hne : content ≠ []) (rest : List UInt8) :
    Armours label content rest (encode label content ++ rest) := by
  obtain ⟨rows, hwrap, hflat, hfull⟩ := exists_rows_wrapped hne
  have harmours : Armours label content rest (([] : List (List UInt8)).flatMap (· ++ [10]) ++
      (((boundary "BEGIN" label :: rows).map (· ++ [])).flatMap (· ++ [10]) ++
        (boundary "END" label ++ ([] ++ 10 :: rest)))) :=
    .intro nofun hfull hflat nofun (.inl rfl)
  simpa [encode, hwrap] using harmours

/-- Empty lines between blocks make no difference. -/
theorem armours_encode_nil (label : String) (hne : content ≠ []) :
    Armours label content [] (encode label content) := by
  have harmours := armours_encode label hne []
  rw [List.append_nil] at harmours
  exact harmours

theorem blocksFrom_blank {blanks : List (List UInt8)} (h : ∀ l ∈ blanks, IsGap l) :
    blocksFrom .outside (blanks.map trimLine ++ lines) = blocksFrom .outside lines := by
  induction blanks with
  | nil => rfl
  | cons l blanks ih =>
    obtain ⟨hl, hblanks⟩ := List.forall_mem_cons.1 h
    have hempty : trimLine l = [] := hl.trimLine_append []
    have hopens : opens? [] = none := by decide
    rw [List.map_cons, List.cons_append, hempty, blocksFrom, hopens]
    exact ih hblanks

theorem exists_lines_after {gap after : List UInt8} (hl : 10 ∉ l) (hgap : IsGap gap)
    (hafter : after = gap ++ 10 :: rest ∨ (after = [] ∧ rest = [])) : ∃ more,
      (linesOf (l ++ after)).map trimLine = trimLine l :: more ∧
        blocksFrom .outside more = blocks rest := by
  rcases hafter with rfl | ⟨rfl, rfl⟩
  · have hbreak : 10 ∉ l ++ gap := List.not_mem_append hl hgap.not_mem
    refine ⟨(linesOf rest).map trimLine, ?_, rfl⟩
    rw [← List.append_assoc, linesOf_append_break hbreak, List.map_cons, hgap.trimLine_append]
  · refine ⟨[], ?_, by decide⟩
    rw [List.append_nil, linesOf_of_not_mem hl]
    rfl

/-- A block is the first block that is read, and what follows it is read after it. -/
theorem Armours.blocks_eq (h : Armours label content rest bytes)
    (hlabel : (10 : UInt8) ∉ Text.utf8 label) (hne : content ≠ []) :
    blocks bytes = some ⟨label, false, content⟩ :: blocks rest := by
  cases h with
  | @intro blanks rows gap after hblank hrows hflat hgap hafter =>
    have hmem : ∀ row ∈ rows, ∀ b ∈ row, b ∈ Base64.encode content := by
      intro row hrow b hb
      rw [← hflat]
      exact List.mem_flatten.2 ⟨row, hrow, hb⟩
    have hend : (10 : UInt8) ∉ boundary "END" label := not_mem_boundary (by decide) hlabel
    have hbreak : ∀ row ∈ boundary "BEGIN" label :: rows, (10 : UInt8) ∉ row := by
      refine List.forall_mem_cons.2
        ⟨not_mem_boundary (by decide) hlabel, fun row hrow hb => ?_⟩
      obtain ⟨hlow, -, -, -⟩ := Base64.range_of_mem_encode (hmem row hrow 10 hb)
      exact absurd hlow (by decide)
    have hplain : ∀ row ∈ boundary "BEGIN" label :: rows, trimLine row = row :=
      List.forall_mem_cons.2
        ⟨trimLine_boundary "BEGIN" label, fun row hrow => trimLine_row (hmem row hrow)⟩
    obtain ⟨more, hmore, hrest⟩ := exists_lines_after hend hgap hafter
    rw [blocks, linesOf_flatMap fun l hl => (hblank l hl).not_mem, List.map_append,
      blocksFrom_blank hblank, linesOf_flatMap (not_mem_map_append hbreak hgap), List.map_append,
      map_trimLine_append hplain hgap, hmore, trimLine_boundary, List.cons_append,
      blocksFrom_block (body?_rows hne hflat hrows)
        fun row hrow => isPrefixOf_endMark_row (hmem row hrow), hrest]

/-- Blank lines before the border of a block are passed over. -/
theorem isArmoured_blank {blanks : List (List UInt8)} (h : ∀ l ∈ blanks, IsGap l)
    (label : String) (rest : List UInt8) :
    isArmoured (blanks.flatMap (· ++ [10]) ++ (boundary "BEGIN" label ++ rest)) = true := by
  have hbegin : beginMark = Text.utf8 "-----BEGIN" ++ [32] := by decide
  have hfirst : Text.utf8 "-----BEGIN" = 45 :: Text.utf8 "----BEGIN" := by decide
  have hblank : ∀ b ∈ blanks.flatMap (· ++ [10]),
      (b == 32 || b == 9 || b == 10 || b == 12 || b == 13) = true := by
    intro b hb
    obtain ⟨l, hl, hb⟩ := List.mem_flatMap.1 hb
    rcases List.mem_append.1 hb with hb | hb
    · rcases h l hl b hb with rfl | rfl | rfl <;> decide
    · obtain rfl := List.mem_singleton.1 hb
      decide
  rw [isArmoured, List.dropWhile_append_of_pos hblank, boundary_begin, hbegin, List.append_assoc,
    List.append_assoc, hfirst, List.cons_append, List.dropWhile_cons, if_neg (by decide)]
  exact List.isPrefixOf_iff_prefix.2 (List.prefix_append (45 :: Text.utf8 "----BEGIN") _)

theorem Armours.isArmoured (h : Armours label content rest bytes) : isArmoured bytes = true := by
  cases h with
  | intro hblank =>
    rw [List.map_cons, List.flatMap_cons]
    simp only [List.append_assoc]
    exact isArmoured_blank hblank label _

theorem ascii_lines (h : ∀ l ∈ lines, ∀ b ∈ l, b.toNat < 128) :
    ∀ b ∈ lines.flatMap (· ++ [10]), b.toNat < 128 := by
  intro b hb
  obtain ⟨l, hl, hb⟩ := List.mem_flatMap.1 hb
  rcases List.mem_append.1 hb with hb | hb
  · exact h l hl b hb
  · obtain rfl := List.mem_singleton.1 hb
    decide

theorem IsGap.ascii (h : IsGap l) : ∀ b ∈ l, b.toNat < 128 := by
  intro b hb
  rcases h b hb with rfl | rfl | rfl <;> decide

theorem ascii_of_all (h : l.all (·.toNat < 128) = true) : ∀ b ∈ l, b.toNat < 128 := by
  intro b hb
  exact of_decide_eq_true (List.all_eq_true.1 h b hb)

theorem ascii_boundary {word : String} (hword : (Text.utf8 word).all (·.toNat < 128) = true)
    (hlabel : (Text.utf8 label).all (·.toNat < 128) = true) :
    ∀ b ∈ boundary word label, b.toNat < 128 := by
  have hdashes : (Text.utf8 "-----").all (·.toNat < 128) = true := by decide
  have hspace : (Text.utf8 " ").all (·.toNat < 128) = true := by decide
  apply ascii_of_all
  simp only [boundary, Text.utf8_append, List.all_append, hdashes, hword, hspace, hlabel,
    Bool.and_self]

theorem Armours.ascii (h : Armours label content rest bytes)
    (hlabel : (Text.utf8 label).all (·.toNat < 128) = true) (hrest : ∀ b ∈ rest, b.toNat < 128) :
    ∀ b ∈ bytes, b.toNat < 128 := by
  cases h with
  | @intro blanks rows gap after hblank hrows hflat hgap hafter =>
    have hborder : ∀ b ∈ boundary "BEGIN" label, b.toNat < 128 := ascii_boundary (by decide) hlabel
    have hrow : ∀ row ∈ rows, ∀ b ∈ row, b.toNat < 128 := by
      intro row hrow b hb
      have hmem : b ∈ Base64.encode content := hflat ▸ List.mem_flatten.2 ⟨row, hrow, hb⟩
      obtain ⟨-, hlt, -, -⟩ := Base64.range_of_mem_encode hmem
      exact hlt
    have hlines : ∀ l ∈ (boundary "BEGIN" label :: rows).map (· ++ gap), ∀ b ∈ l, b.toNat < 128 := by
      intro l hl
      obtain ⟨row, hmem, rfl⟩ := List.mem_map.1 hl
      exact List.forall_mem_append.2 ⟨List.forall_mem_cons.2 ⟨hborder, hrow⟩ row hmem, hgap.ascii⟩
    have hend : ∀ b ∈ after, b.toNat < 128 := by
      rcases hafter with rfl | ⟨rfl, -⟩
      · exact List.forall_mem_append.2 ⟨hgap.ascii, List.forall_mem_cons.2 ⟨by decide, hrest⟩⟩
      · exact nofun
    simp only [List.forall_mem_append]
    exact ⟨ascii_lines fun l hl => (hblank l hl).ascii, ascii_lines hlines,
      ascii_boundary (by decide) hlabel, hend⟩

end ClusterAccess.Pem
