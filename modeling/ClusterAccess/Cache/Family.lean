import ClusterAccess.Cache

namespace ClusterAccess

structure Family where
  cells : List Cache
  holders : List Nat

namespace Family

def ofInitial (initial : Option Credential) : Family := ⟨[.ofInitial initial], [0]⟩

def cache? (f : Family) (k : Nat) : Option Cache := (f.holders[k]?).bind (f.cells[·]?)

inductive Event where
  | act (holder : Nat) (e : Cache.Event)
  | clone (holder : Nat)

def step (f : Family) : Event → Option Family
  | .act k e =>
    (f.holders[k]?).bind fun n =>
      ((f.cells[n]?).bind (·.step e)).map fun c => { f with cells := f.cells.set n c }
  | .clone k =>
    (f.cache? k).map fun c => ⟨f.cells ++ [c.snapshot], f.holders ++ [f.cells.length]⟩

def run (f : Family) (es : List Event) : Option Family := es.foldlM step f

end Family

end ClusterAccess
