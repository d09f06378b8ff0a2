/-
Module: Bindery.Stream.Drained
Layer: Stream
Purpose: What a stream gave until it ended: the items, and the fault it ended with, if any. Items
  that came before a fault are kept.
Imports: none
Main exports: Drained, Drained.done, Drained.failed, Drained.cons, Drained.prepend, Drained.toExcept
-/

namespace Bindery

/-- The items of a stream and the fault that ended it. -/
structure Drained (α ε : Type) where
  items : List α
  fault : Option ε
deriving DecidableEq, Repr

namespace Drained

variable {α ε : Type}

/-- A stream that ends without a fault. -/
def done (items : List α) : Drained α ε := ⟨items, none⟩

def failed (fault : ε) : Drained α ε := ⟨[], some fault⟩

/-- One more item in front. -/
def cons (item : α) (rest : Drained α ε) : Drained α ε := ⟨item :: rest.items, rest.fault⟩

/-- More items in front. -/
def prepend (items : List α) (rest : Drained α ε) : Drained α ε := ⟨items ++ rest.items, rest.fault⟩

/-- The items as the answer, unless the stream failed. -/
def toExcept (drained : Drained α ε) : Except ε (List α) :=
  match drained.fault with
  | none => .ok drained.items
  | some fault => .error fault

end Drained

end Bindery
