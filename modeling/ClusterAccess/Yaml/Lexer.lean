import ClusterAccess.Yaml.Lexeme

namespace ClusterAccess.Yaml

/-- A word that may turn out to be a key, and has to if it begins a line of the block. -/
structure KeyCandidate where
  position : Nat
  line : Nat
  column : Nat
  required : Bool

/-- `levels` has the candidates of the open collections, the innermost first. -/
structure Lexer where
  cursor : Cursor
  indent : Int
  outerIndents : List Int
  mayBeKey : Bool
  levels : List (Option KeyCandidate)
  tokens : List Token
  count : Nat

namespace Lexer

def start (cs : List Char) : Lexer := ⟨⟨cs, 0, 0⟩, -1, [], true, [none], [], 0⟩

def inFlow (l : Lexer) : Bool := 1 < l.levels.length

def emit (l : Lexer) (t : Token) : Lexer := { l with tokens := t :: l.tokens, count := l.count + 1 }

def emitAt (l : Lexer) (position : Nat) (t : Token) : Lexer :=
  let (after, before) := l.tokens.splitAt (l.count - position)
  { l with tokens := after ++ t :: before, count := l.count + 1 }

/-- Begins a block at a column that is further in than the block around it. -/
def openBlock (l : Lexer) (column position : Nat) (t : Token) : Lexer :=
  if l.inFlow || (column : Int) ≤ l.indent then l
  else { l.emitAt position t with indent := column, outerIndents := l.indent :: l.outerIndents }

def closeBlocks (l : Lexer) (column : Int) : Lexer :=
  if l.inFlow then l
  else go l.indent l.outerIndents l
where
  go (indent : Int) : List Int → Lexer → Lexer
    | outer :: more, l =>
      if column < indent then
        go outer more { l.emit .blockEnd with indent := outer, outerIndents := more }
      else l
    | [], l => l

/-- A candidate is out of reach when its line is over or lies more than 1024 characters back. -/
def isStale (c : Cursor) (k : KeyCandidate) : Bool := k.line < c.line || k.column + 1024 < c.column

/-- Gives up the candidates that are out of reach; none of them may be required. -/
def dropStale? (l : Lexer) : Option Lexer :=
  if l.levels.any fun k => k.any fun k => isStale l.cursor k && k.required then none
  else some { l with levels := l.levels.map (·.filter fun k => !isStale l.cursor k) }

def dropCandidate? (l : Lexer) : Option Lexer :=
  match l.levels with
  | some k :: more => if k.required then none else some { l with levels := none :: more }
  | _ => some l

def saveCandidate? (l : Lexer) : Option Lexer :=
  if !l.mayBeKey then some l
  else do
    let l ← l.dropCandidate?
    let k : KeyCandidate :=
      ⟨l.count, l.cursor.line, l.cursor.column, !l.inFlow && l.indent == l.cursor.column⟩
    pure { l with levels := some k :: l.levels.tail }

/-- Tabs may not stand where a key may. -/
def skipGap : Nat → Lexer → Lexer
  | 0, l => l
  | fuel + 1, l =>
    let c := if l.cursor.column == 0 && l.cursor.sees '\ufeff' then l.cursor.next else l.cursor
    let tabs := l.inFlow || !l.mayBeKey
    let c := (c.skipWhile fun x => x == ' ' || (tabs && x == '\t')).skipComment
    if c.rest.head?.any isBreak then
      skipGap fuel { l with cursor := c.next, mayBeKey := l.mayBeKey || !l.inFlow }
    else { l with cursor := c }

def takeMark? (l : Lexer) (length : Nat) (mayBeKey : Bool) (t : Token) : Option Lexer := do
  let l ← l.dropCandidate?
  pure ({ l with mayBeKey, cursor := l.cursor.skip length }.emit t)

def takeWord? (l : Lexer) (read : Cursor → Option (Token × Cursor)) : Option Lexer := do
  let l ← l.saveCandidate?
  let (t, c) ← read l.cursor
  pure ({ l with mayBeKey := false, cursor := c }.emit t)

def takeFlowStart? (l : Lexer) (t : Token) : Option Lexer := do
  let l ← l.saveCandidate?
  pure ({ l with mayBeKey := true, cursor := l.cursor.next, levels := none :: l.levels }.emit t)

def takeFlowEnd? (l : Lexer) (t : Token) : Option Lexer := do
  let l ← l.dropCandidate?
  let levels := if l.inFlow then l.levels.tail else l.levels
  pure ({ l with mayBeKey := false, cursor := l.cursor.next, levels }.emit t)

/-- Takes the sign of an item or of a key, which in a block may stand only where a key may. -/
def takeSign? (l : Lexer) (block t : Token) (mayBeKey : Bool) : Option Lexer :=
  if !l.inFlow && !l.mayBeKey then none
  else (l.openBlock l.cursor.column l.count block).takeMark? 1 mayBeKey t

/-- Takes the colon before a value: what is before it is a key, or else there is none. -/
def takeColon? (l : Lexer) : Option Lexer :=
  match l.levels with
  | some k :: more =>
    let l := (l.emitAt k.position .key).openBlock k.column k.position .blockMapping
    some ({ l with levels := none :: more, mayBeKey := false, cursor := l.cursor.next }.emit .value)
  | _ =>
    if !l.inFlow && !l.mayBeKey then none
    else
      let l := l.openBlock l.cursor.column l.count .blockMapping
      some ({ l with mayBeKey := !l.inFlow, cursor := l.cursor.next }.emit .value)

/-- Takes a plain scalar. A key may follow one that ends before a line break. -/
def takePlain? (l : Lexer) : Option Lexer := do
  let l ← l.saveCandidate?
  let (text, broken, c) ← readPlain? l.inFlow (l.indent + 1) (l.cursor.rest.length + 1) l.cursor []
  pure ({ l with mayBeKey := broken, cursor := c }.emit (.scalar .plain (String.ofList text)))

def takeBlockScalar? (l : Lexer) (style : Style) : Option Lexer := do
  let l ← l.dropCandidate?
  let (text, c) ← blockScalar? l.indent l.cursor
  pure ({ l with mayBeKey := true, cursor := c }.emit (.scalar style (String.ofList text)))

def startsPlain (flow : Bool) : List Char → Bool
  | [] => false
  | c :: cs =>
    !(isGapChar c || "-?:,[]\x7b\x7d#&*!|>'\"%@\x60".toList.contains c) ||
      (c == '-' && !cs.head?.any isSpaceOrTab) || (!flow && (c == '?' || c == ':') && !endsWord cs)

def takeNext? (l : Lexer) (x : Char) (xs : List Char) : Option Lexer :=
  if l.cursor.column == 0 && x == '%' then do
    let l ← (l.closeBlocks (-1)).dropCandidate?
    let (t, c) ← directive? l.cursor
    pure ({ l with mayBeKey := false, cursor := c }.emit t)
  else if l.cursor.atDocumentMark '-' then (l.closeBlocks (-1)).takeMark? 3 false .documentStart
  else if l.cursor.atDocumentMark '.' then (l.closeBlocks (-1)).takeMark? 3 false .documentEnd
  else if x == '[' then l.takeFlowStart? .flowSequence
  else if x == '\x7b' then l.takeFlowStart? .flowMapping
  else if x == ']' then l.takeFlowEnd? .flowSequenceEnd
  else if x == '\x7d' then l.takeFlowEnd? .flowMappingEnd
  else if x == ',' then l.takeMark? 1 true .comma
  else if x == '-' && endsWord xs then
    if l.inFlow then l.takeMark? 1 true .item else l.takeSign? .blockSequence .item true
  else if x == '?' && (l.inFlow || endsWord xs) then l.takeSign? .blockMapping .key (!l.inFlow)
  else if x == ':' && (l.inFlow || endsWord xs) then l.takeColon?
  else if x == '*' then l.takeWord? fun c => (anchorName? c).map fun (n, c) => (.alias n, c)
  else if x == '&' then l.takeWord? fun c => (anchorName? c).map fun (n, c) => (.anchor n, c)
  else if x == '!' then l.takeWord? (tagToken? l.inFlow)
  else if x == '|' && !l.inFlow then l.takeBlockScalar? .literal
  else if x == '>' && !l.inFlow then l.takeBlockScalar? .folded
  else if x == '\'' || x == '"' then
    l.takeWord? fun c => (quotedScalar? c).map fun (text, c) =>
      (.scalar (if x == '"' then .doubleQuoted else .singleQuoted) (String.ofList text), c)
  else if startsPlain l.inFlow (x :: xs) then l.takePlain?
  else none

def run? : Nat → Lexer → Option Lexer
  | 0, _ => none
  | fuel + 1, l => do
    let l ← (skipGap (l.cursor.rest.length + 1) l).dropStale?
    let l := l.closeBlocks l.cursor.column
    match l.cursor.rest with
    | [] => (l.closeBlocks (-1)).dropCandidate?
    | x :: xs => run? fuel (← l.takeNext? x xs)

end Lexer

def Token.scan? (text : String) : Option (List Token) := do
  let cs ← readable? text.toList
  let l ← Lexer.run? (cs.length + 1) (Lexer.start cs)
  pure l.tokens.reverse

end ClusterAccess.Yaml
