import ClusterAccess.Command
import ClusterAccess.Shell.Reader
import ClusterAccess.Shell.Tool

namespace ClusterAccess.Shell

/-- Where a stream leads: to one of the rows of bytes that are collected, to a file, or nowhere. -/
inductive Sink where
  | buffer (number : Nat)
  | file (path : String)
  | nowhere
  deriving DecidableEq, Repr, Inhabited

inductive Ending where
  | exited
  | killed
  deriving DecidableEq, Repr, Inhabited

/-- A process that carries out scripts. The time counts milliseconds. -/
structure Process where
  host : Host
  name : Bytes
  args : List Bytes
  assigned : List (String × Bytes)
  number : Nat
  status : Nat
  buffers : List Bytes
  input : Bytes
  output : Sink
  errors : Sink
  time : Nat
  ending : Option Ending

namespace Process

def value (p : Process) (name : String) : Bytes := (p.assigned.lookup name).getD []

def assign (p : Process) (name : String) (value : Bytes) : Process :=
  { p with assigned := (name, value) :: p.assigned.filter (·.1 != name) }

def write (p : Process) (sink : Sink) (bs : Bytes) : Process :=
  match sink with
  | .buffer n => { p with buffers := p.buffers.modify n (· ++ bs) }
  | .file path =>
    let before := (p.host.read path).toOption.getD []
    { p with host := (p.host.write path (before ++ bs)).toOption.getD p.host }
  | .nowhere => p

def parameter (p : Process) (name : String) : Bytes :=
  match name.toList with
  | ['?'] => Text.utf8 (Text.decimal p.status)
  | ['$'] => Text.utf8 (Text.decimal p.number)
  | ['#'] => Text.utf8 (Text.decimal p.args.length)
  | ['@'] | ['*'] => [32].intercalate p.args
  | ['!'] | ['-'] => []
  | cs =>
    match Text.readDigits? cs with
    | some 0 => p.name
    | some n => (p.args[n - 1]?).getD []
    | none => p.value name

def finish (p : Process) (r : Run) : Process :=
  let p := (p.write p.output r.output).write p.errors r.errors
  { p with status := r.status, time := p.time + r.time }

end Process

/-- The fields of words as they are put together; `current` is the one that is not finished. -/
structure Fields where
  finished : List Bytes
  current : Option Bytes

namespace Fields

def add (f : Fields) (bs : Bytes) : Fields := { f with current := some (f.current.getD [] ++ bs) }

def close (f : Fields) : Fields := ⟨f.finished ++ f.current.toList, none⟩

def split (f : Fields) (bs : Bytes) : Fields :=
  bs.foldl (fun f b => if b == 32 || b == 9 || b == 10 then f.close else f.add [b]) f

def addAll (f : Fields) : List Bytes → Fields
  | [] => f
  | a :: rest => rest.foldl (fun f b => f.close.add b) (f.add a)

end Fields

abbrev Outputs := Process → List Char → Bytes × Process

def expandWord (outputs : Outputs) (p : Process) (f : Fields) : Word → Process × Fields
  | [] => (p, f)
  | .text cs :: ps => expandWord outputs p (f.add (Text.utf8Chars cs)) ps
  | .quoted cs :: ps => expandWord outputs p (f.add (Text.utf8Chars cs)) ps
  | .variable name isQuoted :: ps =>
    let f :=
      if isQuoted then
        if name == "@" then f.addAll p.args else f.add (p.parameter name)
      else f.split (p.parameter name)
    expandWord outputs p f ps
  | .fallback name text isQuoted :: ps =>
    let value := p.parameter name
    let bs := if value.isEmpty then Text.utf8Chars text else value
    expandWord outputs p (if isQuoted then f.add bs else f.split bs) ps
  | .output script isQuoted :: ps =>
    let (bs, p) := outputs p script
    let bs := (bs.reverse.dropWhile (· == 10)).reverse
    expandWord outputs p (if isQuoted then f.add bs else f.split bs) ps

def expandWords (outputs : Outputs) (p : Process) : List Word → Process × List Bytes
  | [] => (p, [])
  | w :: ws =>
    let (p, f) := expandWord outputs p ⟨[], none⟩ w
    let (p, rest) := expandWords outputs p ws
    (p, f.close.finished ++ rest)

def expandWhole (outputs : Outputs) (p : Process) (w : Word) : Process × Bytes :=
  let w := w.map fun piece =>
    match piece with
    | .variable name _ => if name == "@" then Piece.variable "*" true else .variable name true
    | .fallback name text _ => .fallback name text true
    | .output script _ => .output script true
    | piece => piece
  let (p, f) := expandWord outputs p ⟨[], none⟩ w
  (p, f.current.getD [])

def assignAll (outputs : Outputs) (p : Process) (as : List (String × Word)) : Process :=
  as.foldl (fun p (name, w) =>
    let (p, value) := expandWhole outputs p w
    p.assign name value) p

/-- Redirects a stream; `none` stands for one that cannot be. -/
def redirect (outputs : Outputs) (p : Process) (r : Redirection) : Option Process :=
  let (p, target) := expandWhole outputs p r.target
  let path := textOf target
  let lead := fun (p : Process) (sink : Sink) =>
    if r.stream == 1 then { p with output := sink }
    else if r.stream == 2 then { p with errors := sink }
    else p
  match r.kind with
  | .read =>
    if path == "/dev/null" then some { p with input := [] }
    else (p.host.read path).toOption.map fun bs => { p with input := bs }
  | .write =>
    if path == "/dev/null" then some (lead p .nowhere)
    else if path == "/dev/stderr" then some (lead p p.errors)
    else if path == "/dev/stdout" then some (lead p p.output)
    else (p.host.write path []).toOption.map fun h => lead { p with host := h } (.file path)
  | .append =>
    if path == "/dev/null" then some (lead p .nowhere)
    else
      let before := (p.host.read path).toOption.getD []
      (p.host.write path before).toOption.map fun h => lead { p with host := h } (.file path)
  | .duplicate =>
    if path == "1" then some (lead p p.output)
    else if path == "2" then some (lead p p.errors)
    else if path == "-" then some (lead p .nowhere)
    else if path == "0" then some p
    else none

def redirectAll (outputs : Outputs) (p : Process) (rs : List Redirection) : Option Process :=
  rs.foldlM (redirect outputs) p

def Process.restore (p before : Process) : Process :=
  { p with input := before.input, output := before.output, errors := before.errors }

/-- What was written, the time and a violent end are kept. -/
def Process.rejoin (before apart : Process) : Process :=
  { before with
    host := apart.host
    status := apart.status
    buffers := apart.buffers
    time := apart.time
    ending := if apart.ending == some .killed then some .killed else before.ending }

def Process.exit (p : Process) (status : Nat) : Process :=
  { p with status, ending := some .exited }

def endsProcess (signal : String) : Bool :=
  (["0", "17", "18", "23", "28", "CHLD", "CONT", "URG", "WINCH"].contains signal) == false

def kill (p : Process) (args : List Bytes) : Process :=
  let (signal, targets) := match args.map textOf with
    | "-s" :: s :: ts => (s, ts)
    | t :: ts => if t.startsWith "-" then ((t.drop 1).toString, ts) else ("TERM", t :: ts)
    | [] => ("TERM", [])
  if targets.contains (Text.decimal p.number) && endsProcess signal then
    { p with ending := some .killed, status := 137 }
  else { p with status := if targets.isEmpty then 2 else 0 }

def readLine (p : Process) (args : List Bytes) : Process :=
  let line := p.input.takeWhile (· != 10)
  let rest := p.input.drop line.length
  let status := if rest.isEmpty then 1 else 0
  match (args.map textOf).filter (!·.startsWith "-") with
  | [] => { p with input := rest.drop 1, status }
  | name :: _ =>
    let text := Text.utf8 (Text.trim (textOf line))
    { (p.assign name text) with input := rest.drop 1, status }

def builtIn? (p : Process) (name : String) (args : List Bytes) : Option Process :=
  match name with
  | "exit" =>
    match args.head? with
    | none => some (p.exit p.status)
    | some a =>
      match Text.readDigits? (textOf a).toList with
      | some n => some (p.exit (n % 256))
      | none => some ((p.finish (.complain 2
          ("sh: 1: exit: Illegal number: " ++ textOf a))).exit 2)
  | "kill" => some (kill p args)
  | "read" => some (readLine p args)
  | "pwd" =>
    some (p.finish (.ok (Text.utf8 ("/" ++ "/".intercalate p.host.workingDirectory ++ "\n"))))
  | "printenv" =>
    match args.map textOf with
    | [name] =>
      match p.assigned.lookup name with
      | some v => some (p.finish (.ok (v ++ [10])))
      | none => some { p with status := 1 }
    | _ => none
  | "shift" =>
    if p.args.isEmpty then
      some ((p.finish (.complain 2 "sh: 1: shift: can't shift that many")).exit 2)
    else some { p with args := p.args.drop 1, status := 0 }
  | "set" =>
    match args with
    | [45, 45] :: rest => some { p with args := rest, status := 0 }
    | _ => some { p with status := 0 }
  | "unset" =>
    let names := args.map textOf
    some { p with assigned := p.assigned.filter fun v => !names.contains v.1, status := 0 }
  | "export" | "readonly" | "local" =>
    some <| args.foldl (fun p a =>
      match Text.splitChars (· == '=') (textOf a).toList with
      | name :: v :: vs => p.assign (String.ofList name) (Text.utf8Chars (['='].intercalate (v :: vs)))
      | _ => p) { p with status := 0 }
  | _ => none

def isShellName (name : String) : Bool := ["sh", "dash", "bash"].contains name

def programName (path : String) : String :=
  match ["/bin/", "/usr/bin/"].find? fun d => path.startsWith d with
  | some d => (path.drop d.length).toString
  | none => path

mutual

def outputOf : Nat → Outputs
  | 0, p, _ => ([], p)
  | fuel + 1, p, script =>
    let number := p.buffers.length
    let apart :=
      runScript fuel { p with buffers := p.buffers ++ [[]], output := .buffer number } script
    ((apart.buffers[number]?).getD [], p.rejoin apart)

def runScript : Nat → Process → List Char → Process
  | 0, p, _ => { p with status := 2 }
  | fuel + 1, p, script =>
    match Command.ofScript? script with
    | some c => runCommand fuel p c
    | none => p.finish (.complain 2 "sh: 1: Syntax error")

def runCommand : Nat → Process → Command → Process
  | 0, p, _ => { p with status := 2 }
  | fuel + 1, p, c =>
    if p.ending.isSome then p
    else
      match c with
      | .simple as [] rs =>
        let p := assignAll (outputOf fuel) { p with status := 0 } as
        match redirectAll (outputOf fuel) p rs with
        | some q => q.restore p
        | none => { p with status := 2 }
      | .simple as ws rs =>
        let (p, fields) := expandWords (outputOf fuel) p ws
        match redirectAll (outputOf fuel) p rs with
        | none => p.finish (.complain 2 "sh: 1: cannot open file")
        | some q =>
          let q := assignAll (outputOf fuel) q as
          let q := match fields with
            | [] => { q with status := 0 }
            | name :: args => runProgram fuel q (textOf name) args
          { q.restore p with assigned := if as.isEmpty then q.assigned else p.assigned }
      | .pipe first second =>
        let number := p.buffers.length
        let apart :=
          runCommand fuel { p with buffers := p.buffers ++ [[]], output := .buffer number } first
        let q := p.rejoin apart
        let apart' :=
          runCommand fuel { q with input := (apart.buffers[number]?).getD [], time := p.time } second
        { q.rejoin apart' with time := max apart.time apart'.time }
      | .sequence first second => runCommand fuel (runCommand fuel p first) second
      | .both first second =>
        let p := runCommand fuel p first
        if p.status == 0 then runCommand fuel p second else p
      | .either first second =>
        let p := runCommand fuel p first
        if p.status == 0 then p else runCommand fuel p second
      | .negation c =>
        let p := runCommand fuel p c
        if p.ending.isSome then p else { p with status := if p.status == 0 then 1 else 0 }
      | .group isApart body rs =>
        match redirectAll (outputOf fuel) p rs with
        | none => p.finish (.complain 2 "sh: 1: cannot open file")
        | some q =>
          let q := runCommand fuel q body
          if isApart then p.rejoin q else q.restore p
      | .choice condition yes no =>
        let p := runCommand fuel p condition
        if p.status == 0 then runCommand fuel p yes else runCommand fuel { p with status := 0 } no
      | .each name ws body =>
        let (p, fields) := expandWords (outputOf fuel) p ws
        fields.foldl (fun p f => runCommand fuel (p.assign name f) body) { p with status := 0 }

def runProgram : Nat → Process → String → List Bytes → Process
  | 0, p, _, _ => { p with status := 2 }
  | fuel + 1, p, name, args =>
    match builtIn? p name args with
    | some p => p
    | none =>
      let program := programName name
      if name == "exec" then
        match args with
        | [] => { p with status := 0 }
        | name :: args =>
          let p := runProgram fuel p (textOf name) args
          if p.ending.isSome then p else p.exit p.status
      else if isShellName program then
        let q := runShell fuel { p with number := p.number + 1 } name args
        let q' := p.rejoin { q with ending := none }
        if q.ending == some .killed then { q' with status := 137 } else q'
      else
        match Tool.ofName? program with
        | some t => p.finish (t.run (program == name) program p.host args p.input)
        | none => p.finish (.complain 127 ("sh: 1: " ++ name ++ ": not found"))

/-- Runs the language as a program: a script among the arguments, in a file or in the input. -/
def runShell : Nat → Process → String → List Bytes → Process
  | 0, p, _, _ => { p with status := 2 }
  | fuel + 1, p, name, args =>
    match args with
    | [] => runScript fuel { p with name := Text.utf8 name, args := [], input := [] }
        (textOf p.input).toList
    | [45, 99] :: script :: rest =>
      let (name, args) := match rest with
        | n :: as => (n, as)
        | [] => (Text.utf8 name, [])
      runScript fuel { p with name, args } (textOf script).toList
    | (45 :: letters) :: rest =>
      if letters.contains 99 then runShell fuel p name ([45, 99] :: rest)
      else runShell fuel p name rest
    | file :: args =>
      match p.host.readText (textOf file) with
      | .ok script => runScript fuel { p with name := file, args } script.toList
      | .error _ =>
        p.finish (.complain 2 ("sh: 0: cannot open " ++ textOf file ++ ": No such file"))

end

end ClusterAccess.Shell
