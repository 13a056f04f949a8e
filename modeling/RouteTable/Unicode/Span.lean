namespace RouteTable.Unicode

-- The code points from the first to the last one, in steps.
structure Span where
  first : Nat
  last : Nat
  step : Nat
deriving DecidableEq, Repr

def Span.contains (span : Span) (code : Nat) : Bool :=
  span.first ≤ code && code ≤ span.last && (code - span.first) % span.step == 0

def inSpans (spans : List Span) (c : Char) : Bool :=
  spans.any (·.contains c.toNat)

-- A span whose members move together: the first one goes to `target`, the others keep their
-- distance from it.
structure Shift extends Span where
  target : Nat
deriving DecidableEq, Repr

def Shift.image? (shift : Shift) (code : Nat) : Option Nat :=
  if shift.contains code then some (shift.target + (code - shift.first)) else none

def Shift.origin? (shift : Shift) (code : Nat) : Option Nat :=
  if shift.target ≤ code && shift.contains (shift.first + (code - shift.target)) then
    some (shift.first + (code - shift.target))
  else none

end RouteTable.Unicode
