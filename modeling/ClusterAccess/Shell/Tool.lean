import ClusterAccess.FileSystem
import ClusterAccess.Shell.Format
import ClusterAccess.Text.Blank

namespace ClusterAccess.Shell

structure Run where
  output : Bytes
  errors : Bytes
  status : Nat
  time : Nat
  deriving DecidableEq, Repr, Inhabited

namespace Run

def ok (output : Bytes) : Run := ⟨output, [], 0, 0⟩

def ofStatus (status : Nat) : Run := ⟨[], [], status, 0⟩

def complain (status : Nat) (text : String) : Run := ⟨[], Text.utf8 (text ++ "\n"), status, 0⟩

def andThen (a b : Run) : Run :=
  ⟨a.output ++ b.output, a.errors ++ b.errors, max a.status b.status, a.time + b.time⟩

end Run

def textOf (bs : Bytes) : String := Text.decodeUtf8Lossy bs

def cat (h : Host) (args : List Bytes) (input : Bytes) : Run :=
  match args.filter (· != [45, 117]) with
  | [] => .ok input
  | names => names.foldl (fun r name =>
      if name == [45] then r.andThen (.ok input)
      else r.andThen <| match h.read (textOf name) with
        | .ok bs => .ok bs
        | .error e => .complain 1
          ("cat: " ++ textOf name ++ ": " ++ (e.message.splitOn " (os error").headD "")) (.ok [])

def duration? (arg : Bytes) : Option Nat :=
  let cs := (textOf arg).toList
  let (cs, unit) := match cs.getLast? with
    | some 's' => (cs.dropLast, 1)
    | some 'm' => (cs.dropLast, 60)
    | some 'h' => (cs.dropLast, 3600)
    | some 'd' => (cs.dropLast, 86400)
    | _ => (cs, 1)
  match Text.splitChars (· == '.') cs with
  | [whole] => (Text.readDigits? whole).map (· * 1000 * unit)
  | [whole, part] =>
    if (whole ++ part).isEmpty || !(whole ++ part).all Text.isDigit then none
    else some ((Text.digitsValue (whole ++ part) * 1000 * unit) / Nat.pow 10 part.length)
  | _ => none

def sleep (args : List Bytes) : Run :=
  match args with
  | [] => .complain 1 "sleep: missing operand"
  | _ =>
    match args.mapM duration? with
    | some times => { Run.ok [] with time := times.foldl (· + ·) 0 }
    | none => .complain 1 ("sleep: invalid time interval '" ++ textOf (args.headD []) ++ "'")

def wc (args : List Bytes) (input : Bytes) : Run :=
  let lines := input.count 10
  let words := (Text.words (textOf input)).length
  let counts := match args with
    | [] => [lines, words, input.length]
    | option :: _ =>
      (if option.contains 108 then [lines] else []) ++ (if option.contains 119 then [words] else []) ++
        if option.contains 99 then [input.length] else []
  match counts with
  | [n] => .ok (Text.utf8 (Text.decimal n ++ "\n"))
  | ns => .ok (Text.utf8 (" ".intercalate (ns.map fun n =>
      String.ofList (List.replicate (7 - (Text.digits n).length) ' ' ++ Text.digits n)) ++ "\n"))

/-- The bytes of a set as `tr` has it: escapes and ranges. -/
def byteSet : Nat → List Char → Bytes
  | 0, _ => []
  | _, [] => []
  | fuel + 1, '\\' :: cs =>
    match readEscape? false cs with
    | some (b, rest) => b :: byteSet fuel rest
    | none => byteSet fuel cs
  | fuel + 1, a :: '-' :: b :: cs =>
    ((List.range (b.toNat + 1 - a.toNat)).map fun i => UInt8.ofNat (a.toNat + i)) ++ byteSet fuel cs
  | fuel + 1, c :: cs => String.utf8EncodeChar c ++ byteSet fuel cs

def tr (args : List Bytes) (input : Bytes) : Run :=
  let set := fun (arg : Bytes) =>
    let cs := (textOf arg).toList
    byteSet (cs.length + 1) cs
  match args with
  | [[45, 100], arg] => .ok (input.filter fun b => !(set arg).contains b)
  | [source, target] =>
    let images := set target
    .ok (input.map fun b =>
      match (set source).idxOf? b with
      | some i => (images[i]?).getD (images.getLastD b)
      | none => b)
  | _ => .complain 1 "tr: missing operand"

def head (args : List Bytes) (input : Bytes) : Run :=
  let count := fun (arg : Bytes) => (Text.readDigits? (textOf arg).toList).getD 10
  let lines := fun (n : Nat) =>
    (input.foldl (fun (acc : Bytes × Nat) b =>
      if acc.2 < n then (b :: acc.1, if b == 10 then acc.2 + 1 else acc.2) else acc) ([], 0)).1.reverse
  match args with
  | [[45, 99], n] => .ok (input.take (count n))
  | [[45, 110], n] => .ok (lines (count n))
  | [45 :: 99 :: n] => .ok (input.take (count n))
  | [45 :: 110 :: n] => .ok (lines (count n))
  | [45 :: n] => .ok (lines (count n))
  | _ => .ok (lines 10)

/-- Whether a condition holds; `none` is one that makes no sense. -/
def condition? (h : Host) : List Bytes → Option Bool
  | [] => some false
  | [a] => some !a.isEmpty
  | [op, a] =>
    let path := textOf a
    match textOf op with
    | "-n" => some !a.isEmpty
    | "-z" => some a.isEmpty
    | "-e" => some (h.isDirectory path || (h.read path).isOk)
    | "-f" => some (h.read path).isOk
    | "-r" => some (h.isDirectory path || (h.read path).isOk)
    | "-d" => some (h.isDirectory path)
    | "-s" => some (match h.read path with
        | .ok bs => !bs.isEmpty
        | .error _ => false)
    | "!" => some a.isEmpty
    | _ => none
  | [a, op, b] =>
    let compare := fun (holds : Int → Int → Bool) =>
      match readNumber? a, readNumber? b with
      | some x, some y => some (holds x y)
      | _, _ => none
    match textOf op with
    | "=" | "==" => some (a == b)
    | "!=" => some (a != b)
    | "-eq" => compare (· == ·)
    | "-ne" => compare (· != ·)
    | "-lt" => compare (· < ·)
    | "-le" => compare (· ≤ ·)
    | "-gt" => compare (· > ·)
    | "-ge" => compare (· ≥ ·)
    | _ => if textOf a == "!" then (condition? h [op, b]).map (!·) else none
  | a :: rest => if textOf a == "!" then (condition? h rest).map (!·) else none

def test (h : Host) (args : List Bytes) : Run :=
  match condition? h args with
  | some true => .ofStatus 0
  | some false => .ofStatus 1
  | none => .complain 2 "sh: 1: test: unexpected operator"

inductive Tool where
  | true
  | false
  | echo
  | printf
  | cat
  | sleep
  | wc
  | tr
  | head
  | test
  deriving DecidableEq, Repr, Inhabited

namespace Tool

def ofName? : String → Option Tool
  | "true" | ":" => some .true
  | "false" => some .false
  | "echo" => some .echo
  | "printf" => some .printf
  | "cat" => some .cat
  | "sleep" => some .sleep
  | "wc" => some .wc
  | "tr" => some .tr
  | "head" => some .head
  | "test" | "[" => some .test
  | _ => none

/-- Runs a program by its name. One that belongs to the language itself has a dialect of its own. -/
def run (t : Tool) (isBuiltIn : Bool) (name : String) (h : Host) (args : List Bytes)
    (input : Bytes) : Run :=
  match t with
  | .true => .ofStatus 0
  | .false => .ofStatus 1
  | .echo => .ok (Shell.echo isBuiltIn args)
  | .printf =>
    match args with
    | [] => .complain 2 "printf: missing operand"
    | pattern :: args =>
      let (bs, fits) := Shell.printf pattern args
      { Run.ok bs with status := if fits then 0 else 1 }
  | .cat => Shell.cat h args input
  | .sleep => Shell.sleep args
  | .wc => Shell.wc args input
  | .tr => Shell.tr args input
  | .head => Shell.head args input
  | .test =>
    if name == "[" then
      if args.getLast? == some [93] then Shell.test h args.dropLast
      else .complain 2 "sh: 1: [: missing ]"
    else Shell.test h args

end Tool

end ClusterAccess.Shell
