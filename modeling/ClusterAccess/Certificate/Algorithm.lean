import ClusterAccess.Der

namespace ClusterAccess

structure Algorithm where
  number : List UInt8
  parameters : Option Der.Element
  deriving DecidableEq, Repr

namespace Algorithm

def ofElement? (e : Der.Element) : Option Algorithm := do
  match ← e.sequence? with
  | [number] => return ⟨← number.objectId?, none⟩
  | [number, parameters] =>
    if parameters.isValue then return ⟨← number.objectId?, some parameters⟩ else none
  | _ => none

def encode (a : Algorithm) : List UInt8 :=
  Der.encodeSequence ((Der.Element.mk 6 a.number).encode ++
    (a.parameters.map Der.Element.encode).getD [])

end Algorithm

end ClusterAccess
