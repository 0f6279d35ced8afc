import ClusterAccess.Yaml.Lexer

namespace ClusterAccess.Yaml

structure Scalar where
  tag : Option String
  style : Style
  text : String
  deriving DecidableEq, Repr

inductive Node where
  | scalar (s : Scalar)
  | sequence (tag : Option String) (items : List Node)
  | mapping (tag : Option String) (entries : List (Node × Node))
  | alias (number : Nat)
  deriving Inhabited

def Node.empty : Node := .scalar ⟨none, .plain, ""⟩

/-- A node that an anchor names: the number of the anchor, and how many nodes began before it. -/
structure Anchored where
  number : Nat
  order : Nat
  node : Node

/-- The size counts one for scalars and aliases, and two for sequences and mappings. -/
structure Document where
  root : Node
  anchored : List Anchored
  size : Nat

/-- The node that an alias stands for: of several with its number the one that began last. -/
def Document.node? (d : Document) (number : Nat) : Option Node :=
  let latest := fun (best : Option Anchored) (a : Anchored) =>
    if a.number != number then best
    else
      match best with
      | some b => if b.order < a.order then some a else best
      | none => some a
  (d.anchored.foldl latest none).map (·.node)

/-- What the grammar knows between two tokens; a name that is given again is numbered anew. -/
structure Progress where
  tokens : List Token
  names : List (String × Nat)
  anchored : List Anchored
  handles : List (String × String)
  size : Nat

abbrev Grammar (α : Type) := StateT Progress Option α

namespace Grammar

def peek : Grammar (Option Token) := do return (← get).tokens.head?

def advance : Grammar Unit := modify fun p => { p with tokens := p.tokens.tail }

def accept (t : Token) : Grammar Bool := do
  if (← peek) == some t then
    advance
    return true
  else return false

def sees (ts : List Token) : Grammar Bool := do return (← peek).any ts.contains

/-- Counts a node of a size that begins here. Gives how many were counted before. -/
def count (size : Nat) : Grammar Nat :=
  modifyGet fun p => (p.size, { p with size := p.size + size })

def nothing : Grammar Node := do
  let _ ← count 1
  return .empty

structure Properties where
  anchor : Option String
  tag : Option String

def meaning (handle suffix : String) : Grammar String := do
  if handle == "" then return suffix
  else
    match (← get).handles.lookup handle with
    | some m => return m ++ suffix
    | none => failure

def anchor? : Grammar (Option String) := do
  match ← peek with
  | some (.anchor name) => advance; return some name
  | _ => return none

def tag? : Grammar (Option (String × String)) := do
  match ← peek with
  | some (.tag handle suffix) => advance; return some (handle, suffix)
  | _ => return none

def properties : Grammar Properties := do
  let before ← anchor?
  let tag ← tag?
  let after ← if before.isNone && tag.isSome then anchor? else pure none
  let tag ← tag.mapM fun (handle, suffix) => meaning handle suffix
  return ⟨before <|> after, tag⟩

def declare (name : Option String) : Grammar (Option Nat) := do
  match name with
  | none => return none
  | some name =>
    let names := (← get).names
    let number := names.length
    let others := names.filter (·.1 != name)
    modify fun p => { p with names := (name, number) :: others }
    return some number

def remember (number : Option Nat) (order : Nat) (node : Node) : Grammar Node := do
  match number with
  | none => return node
  | some number =>
    modify fun p => { p with anchored := ⟨number, order, node⟩ :: p.anchored }
    return node

def scalar (p : Properties) (style : Style) (text : String) : Grammar Node := do
  let number ← declare p.anchor
  let order ← count 1
  remember number order (.scalar ⟨p.tag, style, text⟩)

def sequence (p : Properties) (items : Grammar (List Node)) : Grammar Node := do
  let number ← declare p.anchor
  let order ← count 2
  remember number order (.sequence p.tag (← items))

def mapping (p : Properties) (entries : Grammar (List (Node × Node))) : Grammar Node := do
  let number ← declare p.anchor
  let order ← count 2
  remember number order (.mapping p.tag (← entries))

def aliased (name : String) : Grammar Node := do
  match (← get).names.lookup name with
  | some number =>
    let _ ← count 1
    return .alias number
  | none => failure

/-- Where a node stands decides which forms it may have. -/
inductive Place where
  | flow
  | block
  | entry
  deriving DecidableEq

def separator (first : Bool) : Grammar Bool := if first then pure true else accept .comma

mutual

def node : Nat → Place → Grammar Node
  | 0, _ => failure
  | fuel + 1, place => do
    match ← peek with
    | some (.alias name) =>
      advance
      aliased name
    | _ =>
      let p ← properties
      match ← peek with
      | some (.scalar style text) =>
        advance
        scalar p style text
      | some .flowSequence =>
        advance
        sequence p (flowItems fuel true)
      | some .flowMapping =>
        advance
        mapping p (flowEntries fuel true)
      | some .item =>
        if place == .entry then sequence p (looseItems fuel) else bare p
      | some .blockSequence =>
        if place == .flow then bare p
        else
          advance
          sequence p (blockItems fuel)
      | some .blockMapping =>
        if place == .flow then bare p
        else
          advance
          mapping p (blockEntries fuel)
      | _ => bare p

def bare (p : Properties) : Grammar Node := do
  if p.anchor.isNone && p.tag.isNone then failure
  else
    let number ← declare p.anchor
    let order ← count 1
    remember number order (.scalar ⟨p.tag, .plain, ""⟩)

def optionalNode : Nat → Place → List Token → Grammar Node
  | 0, _, _ => failure
  | fuel + 1, place, ends => do
    if ← sees ends then nothing else node fuel place

def blockItems : Nat → Grammar (List Node)
  | 0 => failure
  | fuel + 1 => do
    if ← accept .blockEnd then return []
    else if ← accept .item then
      let item ← optionalNode fuel .block [.item, .blockEnd]
      return item :: (← blockItems fuel)
    else failure

def looseItems : Nat → Grammar (List Node)
  | 0 => failure
  | fuel + 1 => do
    if ← accept .item then
      let item ← optionalNode fuel .block [.item, .key, .value, .blockEnd]
      return item :: (← looseItems fuel)
    else return []

def blockEntries : Nat → Grammar (List (Node × Node))
  | 0 => failure
  | fuel + 1 => do
    if ← accept .blockEnd then return []
    else if ← accept .key then
      let key ← optionalNode fuel .entry [.key, .value, .blockEnd]
      let v ←
        if ← accept .value then optionalNode fuel .entry [.key, .value, .blockEnd] else nothing
      return (key, v) :: (← blockEntries fuel)
    else failure

/-- The items of a sequence in brackets, with a comma before each but the first. -/
def flowItems : Nat → Bool → Grammar (List Node)
  | 0, _ => failure
  | fuel + 1, first => do
    if ← accept .flowSequenceEnd then return []
    else if !(← separator first) then failure
    else if ← accept .flowSequenceEnd then return []
    else
      let item ← if ← accept .key then mapping ⟨none, none⟩ (pair fuel) else node fuel .flow
      return item :: (← flowItems fuel false)

/-- Where the key is left out, the token after it is passed over. -/
def pair : Nat → Grammar (List (Node × Node))
  | 0 => failure
  | fuel + 1 => do
    let key ←
      if ← sees [.value, .comma, .flowSequenceEnd] then
        advance
        nothing
      else node fuel .flow
    let v ←
      if ← accept .value then optionalNode fuel .flow [.comma, .flowSequenceEnd] else nothing
    return [(key, v)]

def flowEntries : Nat → Bool → Grammar (List (Node × Node))
  | 0, _ => failure
  | fuel + 1, first => do
    if ← accept .flowMappingEnd then return []
    else if !(← separator first) then failure
    else if ← accept .flowMappingEnd then return []
    else
      let entry ←
        if ← accept .key then
          let key ← optionalNode fuel .flow [.value, .comma, .flowMappingEnd]
          let v ←
            if ← accept .value then optionalNode fuel .flow [.comma, .flowMappingEnd] else nothing
          pure (key, v)
        else
          let key ← node fuel .flow
          pure (key, ← nothing)
      return entry :: (← flowEntries fuel false)

end

def standardHandles : List (String × String) := [("!", "!"), ("!!", "tag:yaml.org,2002:")]

/-- At most one version, and meanings of handles, each at most once. -/
def directives : Nat → Bool → List (String × String) → Grammar Bool
  | 0, _, _ => failure
  | fuel + 1, versioned, handles => do
    match ← peek with
    | some (.version major minor) =>
      if versioned || major != 1 || (minor != 1 && minor != 2) then failure
      else
        advance
        directives fuel true handles
    | some (.tagShorthand handle meaning) =>
      if (handles.lookup handle).isSome then failure
      else
        advance
        directives fuel versioned (handles ++ [(handle, meaning)])
    | _ =>
      modify fun p => { p with handles := handles ++ standardHandles }
      return versioned || !handles.isEmpty

def document (fuel : Nat) : Grammar (Option Node) := do
  if (← peek).isNone then return none
  else
    let directed ← directives fuel false []
    let explicit ← accept .documentStart
    if directed && !explicit then failure
    else
      let root ←
        if explicit then
          if (← peek).isNone || (← sees [.documentStart, .documentEnd]) then nothing
          else node fuel .block
        else node fuel .block
      let more := (← get).tokens.dropWhile (· == .documentEnd)
      if more.isEmpty then return some root else failure

end Grammar

/-- The document that a text spells; a text without one is an empty document. -/
def Document.parse? (text : String) : Option Document := do
  let tokens ← Token.scan? text
  let (root, p) ← (Grammar.document (4 * tokens.length + 8)).run ⟨tokens, [], [], [], 0⟩
  pure ⟨root.getD .empty, p.anchored, p.size⟩

end ClusterAccess.Yaml
