import ClusterAccess.Der
import ClusterAccess.Text.Utf8

namespace ClusterAccess

structure Attribute where
  kind : List UInt8
  value : Der.Element
  deriving DecidableEq, Repr

structure Name where
  sets : List (List Attribute)
  deriving DecidableEq, Repr

namespace Attribute

/-- The tags of strings: UTF-8, numeric, printable, teletex, IA5, universal and BMP. -/
def stringTags : List UInt8 := [12, 18, 19, 20, 22, 28, 30]

def units (width : Nat) (bytes : List UInt8) : Option (List Nat) :=
  if bytes.length % width != 0 then none
  else some ((List.range (bytes.length / width)).map fun i =>
    Crypto.ofBytes ((bytes.drop (i * width)).take width))

def char? (n : Nat) : Option Char := if h : n.isValidChar then some (Char.ofNatAux n h) else none

def utf16? : List Nat → Option (List Char)
  | [] => some []
  | u :: rest =>
    if 0xD800 ≤ u && u < 0xDC00 then
      match rest with
      | v :: rest =>
        if 0xDC00 ≤ v && v < 0xE000 then do
          let c ← char? (0x10000 + (u - 0xD800) * 1024 + (v - 0xDC00))
          return c :: (← utf16? rest)
        else none
      | [] => none
    else do
      let c ← char? u
      return c :: (← utf16? rest)

/-- The tags of the other values that may stand in a name, whose content is not checked. -/
def otherTags : List UInt8 := [7, 8, 9, 10, 11, 13, 14, 15, 18, 19, 20, 22, 29, Der.sequenceId]

def isAdmissible (value : Der.Element) : Bool :=
  match value.identifier with
  | 12 => (Text.decodeUtf8? value.content).isSome
  | 28 => ((units 4 value.content).bind (·.mapM char?)).isSome
  | 30 => value.content.length % 2 == 0
  | 3 => value.bits?.isSome
  | id => otherTags.contains id

def ofElement? (e : Der.Element) : Option Attribute := do
  match ← e.sequence? with
  | [kind, value] =>
    let kind ← kind.objectId?
    if isAdmissible value then some ⟨kind, value⟩ else none
  | _ => none

def kindNames : List (String × String) :=
  [("2.5.4.3", "CN"), ("2.5.4.6", "C"), ("2.5.4.7", "L"), ("2.5.4.8", "ST"), ("2.5.4.10", "O"),
    ("2.5.4.11", "OU"), ("0.9.2342.19200300.100.1.25", "DC"), ("1.2.840.113549.1.9.1", "Email"),
    ("2.5.4.4", "surname"), ("2.5.4.5", "serialNumber"), ("2.5.4.9", "streetAddress"),
    ("2.5.4.12", "title"), ("2.5.4.13", "description"), ("2.5.4.15", "businessCategory"),
    ("2.5.4.16", "postalAddress"), ("2.5.4.17", "postalCode"), ("2.5.4.41", "name"),
    ("2.5.4.42", "givenName"), ("2.5.4.43", "initials"), ("2.5.4.44", "generationQualifier"),
    ("2.5.4.45", "uniqueIdentifier"), ("2.5.4.46", "dnQualifier"),
    ("0.9.2342.19200300.100.1.1", "userId"), ("1.2.840.113549.1.9.2", "unstructuredName"),
    ("1.2.840.113549.1.9.8", "unstructuredAddress")]

def kindName (kind : List UInt8) : String :=
  let number := Der.objectIdText kind
  match kindNames.lookup number with
  | some name => name
  | none => "OID(" ++ number ++ ")"

/-- The text of a value: strings as they are, other values in hexadecimal digits. -/
def valueText? (value : Der.Element) : Option String :=
  match value.identifier with
  | 28 => ((units 4 value.content).bind (·.mapM char?)).map String.ofList
  | 30 => ((units 2 value.content).bind utf16?).map String.ofList
  | id =>
    if stringTags.contains id then Text.decodeUtf8? value.content
    else some (String.ofList ((Text.hex value.content).toList.map Char.toUpper))

def text? (a : Attribute) : Option String :=
  (valueText? a.value).map fun v => kindName a.kind ++ "=" ++ v

/-- The characters of a string that names are compared by; a numeric string has none. -/
def comparedChars? (value : Der.Element) : Option (List Char) :=
  match value.identifier with
  | 12 => (Text.decodeUtf8? value.content).map String.toList
  | 28 => (units 4 value.content).bind (·.mapM char?)
  | 30 => (units 2 value.content).bind utf16?
  | id =>
    if [19, 20, 22].contains id then some (value.content.map fun b => Char.ofNat b.toNat) else none

def isSpace (c : Char) : Bool := c == ' ' || ('\t' ≤ c && c ≤ '\r')

def collapse : List Char → List Char
  | [] => []
  | a :: rest =>
    if !isSpace a then a :: collapse rest
    else if rest.head?.any isSpace then collapse rest
    else ' ' :: collapse rest

/-- A string as it is compared: no spaces around it, single spaces in it, lower case. -/
def foldChars (cs : List Char) : List Char :=
  let inner := ((cs.dropWhile isSpace).reverse.dropWhile isSpace).reverse
  (collapse inner).map Char.toLower

def comparisonKey (a : Attribute) : List UInt8 :=
  let value := match comparedChars? a.value with
    | some cs => Der.Element.mk 12 (Text.utf8Chars (foldChars cs))
    | none => a.value
  Der.encodeSequence ((Der.Element.mk 6 a.kind).encode ++ value.encode)

end Attribute

namespace Name

def setOfElement? (e : Der.Element) : Option (List Attribute) :=
  if e.identifier == Der.setId then e.parts?.bind (·.mapM Attribute.ofElement?) else none

def ofElement? (e : Der.Element) : Option Name :=
  (e.sequence?.bind (·.mapM setOfElement?)).map Name.mk

def setText? (s : List Attribute) : Option String :=
  (s.mapM Attribute.text?).map (" + ".intercalate ·)

def text? (n : Name) : Option String :=
  if n.sets.any (·.isEmpty) then none
  else some (match n.sets.mapM setText? with
    | some texts => ", ".intercalate texts
    | none => "<X509Error: Invalid X.509 name>")

def bytesLe : List UInt8 → List UInt8 → Bool
  | [], _ => true
  | _ :: _, [] => false
  | a :: as, b :: bs => a < b || (a == b && bytesLe as bs)

/-- The bytes that a name is compared by, set by set; the order within a set is immaterial. -/
def comparisonKey (n : Name) : List (List (List UInt8)) :=
  (n.sets.filter (!·.isEmpty)).map fun s => (s.map Attribute.comparisonKey).mergeSort bytesLe

def same (m n : Name) : Bool := m.comparisonKey == n.comparisonKey

end Name

end ClusterAccess
