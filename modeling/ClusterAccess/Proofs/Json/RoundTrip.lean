import ClusterAccess.Proofs.Json.Literals

namespace ClusterAccess.Json

variable {v : Json} {t : Token} {depth : Nat}

mutual

def tokens : Json → List Token
  | .null => [.null]
  | .bool b => [.bool b]
  | .number n => [.number n.literal]
  | .string s => [.string (pieces s)]
  | .array items => .beginArray :: [.comma].intercalate (itemTokens items) ++ [.endArray]
  | .object members => .beginObject :: [.comma].intercalate (memberTokens members) ++ [.endObject]

def itemTokens : List Json → List (List Token)
  | [] => []
  | v :: vs => tokens v :: itemTokens vs

def memberTokens : List (String × Json) → List (List Token)
  | [] => []
  | (name, v) :: ms => (.string (pieces name) :: .colon :: tokens v) :: memberTokens ms

end

mutual

/-- A value is read as its tokens when it is written on one line. -/
theorem spells_chars : ∀ v : Json, Spells v.chars v.tokens
  | .null => spells_null
  | .bool b => spells_bool b
  | .number n => spells_number n
  | .string s => (closes_string s).spells
  | .array items =>
    (closes_enclosed (divides_punctuation '[' rfl fun _ => rfl).closes divides_comma
      (spells_itemChars items) (divides_punctuation ']' rfl fun _ => rfl)).spells
  | .object members =>
    (closes_enclosed (divides_punctuation '\x7b' rfl fun _ => rfl).closes divides_comma
      (spells_memberChars members) (divides_punctuation '\x7d' rfl fun _ => rfl)).spells

theorem spells_itemChars : ∀ items : List Json,
    List.Forall₂ Spells (itemChars items) (itemTokens items)
  | [] => .nil
  | v :: vs => .cons (spells_chars v) (spells_itemChars vs)

theorem spells_memberChars : ∀ members : List (String × Json),
    List.Forall₂ Spells (memberChars members) (memberTokens members)
  | [] => .nil
  | (name, v) :: ms => by
    refine .cons ?_ (spells_memberChars ms)
    have h := (closes_name name).append_spells (spells_chars v)
    rw [List.append_assoc] at h
    exact h

end

theorem closes_block (level : Nat) {opening closing : Char} {parts : List (List Char)}
    {rows : List (List Token)} {t' : Token} (ho : Closes [opening] [t])
    (hc : Divides [closing] [t']) (h : List.Forall₂ Spells parts rows) :
    Closes (block level opening closing parts) (t :: [.comma].intercalate rows ++ [t']) := by
  rw [block]
  split
  next he =>
    rw [List.isEmpty_iff.1 he] at h
    cases h
    exact ho.append hc.closes
  next =>
    have hopen := ho.append (divides_lineBreak (level + 1)).closes
    have hsep := divides_comma.append_closes (divides_lineBreak (level + 1)).closes
    have hclose := (divides_lineBreak level).append_closes hc.closes
    have henclosed := closes_enclosed hopen hsep h hclose
    simpa only [List.append_assoc, List.singleton_append, List.cons_append, List.nil_append]
      using henclosed

mutual

/-- A value is read as its tokens when it has a line for each item or member. -/
theorem spells_indentedChars (level : Nat) : ∀ v : Json, Spells (indentedChars level v) v.tokens
  | .null => spells_null
  | .bool b => spells_bool b
  | .number n => spells_number n
  | .string s => (closes_string s).spells
  | .array items =>
    (closes_block level (divides_punctuation '[' rfl fun _ => rfl).closes
      (divides_punctuation ']' rfl fun _ => rfl) (spells_indentedItems (level + 1) items)).spells
  | .object members =>
    (closes_block level (divides_punctuation '\x7b' rfl fun _ => rfl).closes
      (divides_punctuation '\x7d' rfl fun _ => rfl)
      (spells_indentedMembers (level + 1) members)).spells

theorem spells_indentedItems (level : Nat) : ∀ items : List Json,
    List.Forall₂ Spells (indentedItems level items) (itemTokens items)
  | [] => .nil
  | v :: vs => .cons (spells_indentedChars level v) (spells_indentedItems level vs)

theorem spells_indentedMembers (level : Nat) : ∀ members : List (String × Json),
    List.Forall₂ Spells (indentedMembers level members) (memberTokens members)
  | [] => .nil
  | (name, v) :: ms => by
    refine .cons ?_ (spells_indentedMembers level ms)
    have hspace := (closes_name name).append (closes_space (c := ' ') rfl)
    have h := hspace.append_spells (spells_indentedChars level v)
    simp only [List.append_assoc] at h
    exact h

end

mutual

def toDocument : Json → Document
  | .null => .null
  | .bool b => .bool b
  | .number n => .number n.literal
  | .string s => .string (pieces s)
  | .array items => .array (itemDocuments items)
  | .object members => .object (memberDocuments members)

def itemDocuments : List Json → List Document
  | [] => []
  | v :: vs => toDocument v :: itemDocuments vs

def memberDocuments : List (String × Json) → List (List Piece × Document)
  | [] => []
  | (name, v) :: ms => (pieces name, toDocument v) :: memberDocuments ms

end

def Progress.run (p : Progress) (ts : List Token) : Option Progress := ts.foldlM step p

theorem Progress.run_cons (p : Progress) (t : Token) (ts : List Token) :
    p.run (t :: ts) = (p.step t).bind (run · ts) := rfl

theorem Progress.run_append (p : Progress) (ts us : List Token) :
    p.run (ts ++ us) = (p.run ts).bind (run · us) := List.foldlM_append

mutual

/-- The tokens of a value add up to its document, whatever containers are open around it. -/
theorem run_tokens (stack : List Frame) (mayClose : Bool) : ∀ v : Json,
    (Progress.value stack mayClose).run v.tokens = some (.complete v.toDocument stack)
  | .null => by simp [tokens, Progress.run, Progress.step, toDocument]
  | .bool b => by simp [tokens, Progress.run, Progress.step, toDocument]
  | .number n => by simp [tokens, Progress.run, Progress.step, toDocument]
  | .string s => by simp [tokens, Progress.run, Progress.step, toDocument]
  | .array items => by
    have hbegin : (Progress.value stack mayClose).step .beginArray =
        some (.value (.array [] :: stack) true) := by simp only [Progress.step]
    have hitems := run_itemTokens stack true [] items
    rw [tokens, List.cons_append, Progress.run_cons, hbegin, Option.bind_some]
    cases items with
    | nil => simp [itemTokens, Progress.run, Progress.step, toDocument, itemDocuments]
    | cons => exact hitems (List.cons_ne_nil _ _)
  | .object members => by
    have hbegin : (Progress.value stack mayClose).step .beginObject =
        some (.key [] stack true) := by simp only [Progress.step]
    have hmembers := run_memberTokens stack true [] members
    rw [tokens, List.cons_append, Progress.run_cons, hbegin, Option.bind_some]
    cases members with
    | nil => simp [memberTokens, Progress.run, Progress.step, toDocument, memberDocuments]
    | cons => exact hmembers (List.cons_ne_nil _ _)

theorem run_itemTokens (stack : List Frame) (mayClose : Bool) (before : List Document) :
    ∀ items : List Json, items ≠ [] →
      (Progress.value (.array before :: stack) mayClose).run
          ([.comma].intercalate (itemTokens items) ++ [.endArray]) =
        some (.complete (.array (before.reverse ++ itemDocuments items)) stack)
  | [], h => absurd rfl h
  | [v], _ => by
    have hv := run_tokens (.array before :: stack) mayClose v
    rw [itemTokens, itemTokens, List.intercalate_singleton, Progress.run_append, hv]
    simp [Progress.run, Progress.step, itemDocuments]
  | v :: w :: ws, _ => by
    have hv := run_tokens (.array before :: stack) mayClose v
    have hrest := run_itemTokens stack false (v.toDocument :: before) (w :: ws)
      (List.cons_ne_nil _ _)
    rw [List.reverse_cons, List.append_assoc] at hrest
    rw [itemTokens, itemTokens, List.intercalate_cons_cons, List.append_assoc, List.append_assoc,
      Progress.run_append, hv]
    exact hrest

theorem run_memberTokens (stack : List Frame) (mayClose : Bool)
    (before : List (List Piece × Document)) : ∀ members : List (String × Json), members ≠ [] →
      (Progress.key before stack mayClose).run
          ([.comma].intercalate (memberTokens members) ++ [.endObject]) =
        some (.complete (.object (before.reverse ++ memberDocuments members)) stack)
  | [], h => absurd rfl h
  | [(name, v)], _ => by
    have hv := run_tokens (.object before (pieces name) :: stack) false v
    rw [memberTokens, memberTokens, List.intercalate_singleton, List.cons_append, List.cons_append,
      Progress.run_cons]
    simp only [Progress.step, Option.bind_some, Progress.run_cons]
    rw [Progress.run_append, hv]
    simp [Progress.run, Progress.step, memberDocuments]
  | (name, v) :: (name', w) :: ws, _ => by
    have hv := run_tokens (.object before (pieces name) :: stack) false v
    have hrest := run_memberTokens stack false ((pieces name, v.toDocument) :: before)
      ((name', w) :: ws) (List.cons_ne_nil _ _)
    rw [List.reverse_cons, List.append_assoc] at hrest
    rw [memberTokens, memberTokens, List.intercalate_cons_cons, List.append_assoc,
      List.append_assoc, List.cons_append, List.cons_append, Progress.run_cons]
    simp only [Progress.step, Option.bind_some, Progress.run_cons]
    rw [Progress.run_append, hv]
    exact hrest

end

theorem ofTokens?_tokens (v : Json) : Document.ofTokens? v.tokens = some v.toDocument := by
  have hrun := run_tokens [] false v
  rw [Progress.run] at hrun
  rw [Document.ofTokens?, hrun]

theorem parse?_of_spells {cs : List Char} (h : Spells cs v.tokens) :
    Document.parse? (String.ofList cs) = some v.toDocument := by
  rw [Document.parse?, String.toList_ofList, scan_of_spells h, Option.bind_some, ofTokens?_tokens]

theorem parse?_document_compact (v : Json) : Document.parse? v.compact = some v.toDocument :=
  parse?_of_spells (spells_chars v)

theorem parse?_document_indented (v : Json) : Document.parse? v.indented = some v.toDocument :=
  parse?_of_spells (spells_indentedChars 0 v)

theorem keyText?_pieces (s : String) : keyText? (pieces s) = some s := by
  have htext (cs : List Char) : textOf? (cs.map piece) = some cs := by
    induction cs with
    | nil => rfl
    | cons c cs ih =>
      rw [List.map_cons, piece]
      split
      next hc =>
        have hlow : c.toNat < 0xD800 := by
          simp only [Bool.and_eq_true, decide_eq_true_eq] at hc
          omega
        unfold textOf?
        simp [hlow, ih, Char.ofNat_toNat]
      next => rw [textOf?, ih, Option.map_some]
  rw [keyText?, pieces, htext, Option.map_some, String.ofList_toList]

/-- A number that is read as it is written: one of 64 bits. -/
def Number.IsExact : Number → Prop
  | .natural n => n < Nat.pow 2 64
  | .negative n => 0 < n ∧ n ≤ Nat.pow 2 63
  | .decimal _ => False

/-- Containers nested no deeper than that, different names in an object, and exact numbers. -/
inductive Fits : Nat → Json → Prop where
  | null {depth : Nat} : Fits depth .null
  | bool {depth : Nat} {b : Bool} : Fits depth (.bool b)
  | number {depth : Nat} {n : Number} (h : n.IsExact) : Fits depth (.number n)
  | string {depth : Nat} {s : String} : Fits depth (.string s)
  | array {depth : Nat} {items : List Json} (h : ∀ v ∈ items, Fits depth v) :
    Fits (depth + 1) (.array items)
  | object {depth : Nat} {members : List (String × Json)} (hnames : (members.map (·.1)).Nodup)
    (h : ∀ m ∈ members, Fits depth m.2) : Fits (depth + 1) (.object members)

theorem ofLiteral?_literal {n : Number} (h : n.IsExact) : Number.ofLiteral? n.literal = some n := by
  cases n with
  | natural k =>
    have hk : (decide (k < Nat.pow 2 64)) = true := decide_eq_true h
    simp only [Number.ofLiteral?, Number.literal, Text.digitsValue_digits, List.isEmpty_nil,
      Option.isNone_none, Bool.not_false, Bool.and_self, Bool.true_and, hk, if_true]
  | negative k =>
    have hpos : (decide (0 < k)) = true := decide_eq_true h.1
    have hle : (decide (k ≤ Nat.pow 2 63)) = true := decide_eq_true h.2
    simp only [Number.ofLiteral?, Number.literal, Text.digitsValue_digits, List.isEmpty_nil,
      Option.isNone_none, Bool.not_true, Bool.and_self, Bool.and_false, Bool.false_and,
      Bool.false_eq_true, if_false, hpos, hle, if_true]
  | decimal d => exact h.elim

theorem ofItems?_itemDocuments {items : List Json}
    (h : ∀ v ∈ items, ofDocument? depth v.toDocument = some v) :
    ofItems? depth (itemDocuments items) = some items := by
  induction items with
  | nil => rfl
  | cons v vs ih =>
    have hv := h v List.mem_cons_self
    have hvs := ih fun w hw => h w (List.mem_cons_of_mem v hw)
    rw [itemDocuments, ofItems?, hv, hvs]
    rfl

theorem insertMember_of_not_mem {members : List (String × Json)} {name : String}
    (h : name ∉ members.map (·.1)) : insertMember members name v = members ++ [(name, v)] := by
  have hany : members.any (·.1 == name) = false := by
    rw [List.any_eq_false]
    intro m hm he
    exact h (beq_iff_eq.1 he ▸ List.mem_map_of_mem hm)
  rw [insertMember, hany, if_neg Bool.false_ne_true]

theorem ofMembers?_memberDocuments {before members : List (String × Json)}
    (hnames : ((before ++ members).map (·.1)).Nodup)
    (h : ∀ m ∈ members, ofDocument? depth m.2.toDocument = some m.2) :
    ofMembers? depth before (memberDocuments members) = some (before ++ members) := by
  induction members generalizing before with
  | nil => rw [memberDocuments, ofMembers?, List.append_nil]
  | cons m ms ih =>
    obtain ⟨name, v⟩ := m
    have hv := h (name, v) List.mem_cons_self
    have hnew : name ∉ before.map (·.1) := by
      intro hmem
      rw [List.map_append, List.nodup_append] at hnames
      exact hnames.2.2 name hmem name List.mem_cons_self rfl
    have hsplit : before ++ (name, v) :: ms = (before ++ [(name, v)]) ++ ms := by
      rw [List.append_assoc, List.singleton_append]
    rw [hsplit] at hnames ⊢
    rw [memberDocuments, ofMembers?, keyText?_pieces, Option.bind_eq_bind, Option.bind_some, hv,
      Option.bind_eq_bind, Option.bind_some, insertMember_of_not_mem hnew]
    exact ih hnames fun m hm => h m (List.mem_cons_of_mem _ hm)

theorem Fits.ofDocument?_eq (h : v.Fits depth) : ofDocument? depth v.toDocument = some v := by
  induction h with
  | null => rfl
  | bool => rfl
  | number h => rw [toDocument, ofDocument?, ofLiteral?_literal h, Option.map_some]
  | string => rw [toDocument, ofDocument?, keyText?_pieces, Option.map_some]
  | array h ih => rw [toDocument, ofDocument?, ofItems?_itemDocuments ih, Option.map_some]
  | @object depth members hnames h ih =>
    have hmembers : ofMembers? depth [] (memberDocuments members) = some members :=
      ofMembers?_memberDocuments hnames ih
    rw [toDocument, ofDocument?, hmembers, Option.map_some]

/-- What is written on one line is read back. -/
theorem parse?_compact (h : v.Fits maxDepth) : parse? v.compact = some v := by
  rw [parse?, parse?_document_compact, Option.bind_some, h.ofDocument?_eq]

end ClusterAccess.Json
