import ClusterAccess.Yaml.Node
import ClusterAccess.Yaml.Value

namespace ClusterAccess.Yaml

/-- The number counts how often an alias may yet be followed. -/
abbrev Decoder (α : Type) := ReaderT Document (StateT Nat Option) α

namespace Decoder

def maxDepth : Nat := 128

/-- How often aliases may be followed, for each unit of a document's size. -/
def followsPerSize : Nat := 100

def follow : Node → Decoder Node
  | .alias number => do
    match ← get with
    | 0 => failure
    | left + 1 =>
      set left
      match (← read).node? number with
      | some n => return n
      | none => failure
  | n => return n

def text (n : Node) : Decoder String := do
  match ← follow n with
  | .scalar s => return s.text
  | _ => failure

def coreTag (name : String) : String := "tag:yaml.org,2002:" ++ name

/-- A truth value: a plain scalar, or a literal one with the tag of truth values. -/
def bool (n : Node) : Decoder Bool := do
  match ← follow n with
  | .scalar s =>
    if s.style == .plain || (s.style == .literal && s.tag == some (coreTag "bool")) then
      match readBool? s.text with
      | some b => return b
      | none => failure
    else failure
  | _ => failure

/-- A scalar with the tag of null has to spell null. -/
def Scalar.isNull? (s : Scalar) : Option Bool :=
  if s.style != .plain then some false
  else
    match s.tag with
    | none => some (s.text == "" || isNull s.text)
    | some tag =>
      if tag == coreTag "null" then if isNull s.text then some true else none else some false

def optional {α : Type} (f : Node → Decoder α) (n : Node) : Decoder (Option α) := do
  let n ← follow n
  match n with
  | .scalar s =>
    match Scalar.isNull? s with
    | none => failure
    | some true => return none
    | some false => return some (← f n)
  | _ => return some (← f n)

def Scalar.isBlank (s : Scalar) : Bool := s.text == "" && s.style == .plain

def items {α : Type} (f : Node → Decoder α) (n : Node) : Decoder (List α) := do
  match ← follow n with
  | .sequence _ ns => ns.mapM f
  | .scalar s => if Scalar.isBlank s then return [] else failure
  | _ => failure

def entries (n : Node) : Decoder (List (Node × Node)) := do
  match ← follow n with
  | .mapping _ es => return es
  | .scalar s => if Scalar.isBlank s then return [] else failure
  | _ => failure

/-- Picks the given fields from the entries of a mapping; none of them may come twice. -/
def pick (names : List String) : List (Node × Node) → Decoder (List (String × Node))
  | [] => return []
  | (key, v) :: es => do
    let name ← text key
    let fields ← pick names es
    if !names.contains name then return fields
    else if (fields.lookup name).isSome then failure
    else return (name, v) :: fields

def fields (names : List String) (n : Node) : Decoder (List (String × Node)) := do
  pick names (← entries n)

def required {α : Type} (fs : List (String × Node)) (name : String) (f : Node → Decoder α) :
    Decoder α :=
  match fs.lookup name with
  | some n => f n
  | none => failure

def withDefault {α : Type} (fs : List (String × Node)) (name : String) (v : α)
    (f : Node → Decoder α) : Decoder α :=
  match fs.lookup name with
  | some n => f n
  | none => return v

def optionalField {α : Type} (fs : List (String × Node)) (name : String) (f : Node → Decoder α) :
    Decoder (Option α) :=
  withDefault fs name none (optional f)

def listField {α : Type} (fs : List (String × Node)) (name : String) (f : Node → Decoder α) :
    Decoder (List α) := do
  return (← optionalField fs name (items f)).getD []

def ownTag? (tag : Option String) : Option String :=
  tag.bind fun t => if t.toList.head? == some '!' then some (dropMark (dropMark t)) else none

/-- A tag of the core schema fixes the type, and one of the document's own says nothing of it. -/
def scalarValue (s : Scalar) : Option Value :=
  let untagged := if s.style == .plain then Value.ofPlain? s.text else some (.string s.text)
  match s.tag with
  | none => untagged
  | some tag =>
    if (ownTag? s.tag).isSome then untagged
    else if tag == coreTag "bool" then (readBool? s.text).map .bool
    else if tag == coreTag "int" then
      match IntegerReading.ofText s.text with
      | .number n => some (.number n)
      | _ => none
    else if tag == coreTag "float" then (readReal? s.text).map .number
    else if tag == coreTag "null" then if isNull s.text then some .null else none
    else some (.string s.text)

def withTag (tag : Option String) (v : Value) : Value :=
  match ownTag? tag with
  | some t => .tagged t v
  | none => v

def withPair? (es : List (Value × Value)) (k v : Value) : Option (List (Value × Value)) :=
  if es.any fun (l, _) => k.same l then none else some (es ++ [(k, v)])

def value : Nat → Node → Decoder Value
  | depth, n => do
    match ← follow n with
    | .scalar s =>
      match scalarValue s with
      | some v => return withTag s.tag v
      | none => failure
    | .sequence tag ns =>
      match depth with
      | 0 => failure
      | depth + 1 => return withTag tag (.sequence (← ns.mapM (value depth)))
    | .mapping tag es =>
      match depth with
      | 0 => failure
      | depth + 1 =>
        let step := fun (done : List (Value × Value)) (e : Node × Node) => do
          let k ← value depth e.1
          let v ← value depth e.2
          match withPair? done k v with
          | some done => return done
          | none => failure
        return withTag tag (.mapping (← es.foldlM step []))
    | .alias _ => failure

/-- Puts a value in ascending order of names, in place of the one that was there. -/
def insertSorted {α : Type} (name : String) (v : α) : List (String × α) → List (String × α)
  | [] => [(name, v)]
  | (n, w) :: more =>
    if name == n then (name, v) :: more
    else if name < n then (name, v) :: (n, w) :: more
    else (n, w) :: insertSorted name v more

/-- The values of a mapping by name in ascending order; of several with one name the last counts. -/
def table (depth : Nat) (n : Node) : Decoder (List (String × Value)) := do
  let step := fun (done : List (String × Value)) (e : Node × Node) => do
    let name ← text e.1
    let v ← value depth e.2
    return insertSorted name v done
  (← entries n).foldlM step []

end Decoder

def Document.decode? {α : Type} (d : Document) (f : Node → Decoder α) : Option α :=
  (StateT.run (ReaderT.run (f d.root) d) (Decoder.followsPerSize * d.size)).map (·.1)

end ClusterAccess.Yaml
