import RouteTable.Unicode.CharSet

namespace RouteTable.Unicode

abbrev CodeRange := Nat × Nat

def lastCode : Nat := 0x10FFFF

def following (code : Nat) : Nat := if code = 0xD7FF then 0xE000 else code + 1

def preceding (code : Nat) : Nat := if code = 0xE000 then 0xD7FF else code - 1

def Span.ranges (span : Span) : List CodeRange :=
  if span.step = 1 then [(span.first, span.last)]
  else (List.range ((span.last - span.first) / span.step + 1)).map fun i =>
    (span.first + i * span.step, span.first + i * span.step)

namespace CodeRange

def join : List CodeRange → List CodeRange
  | [] => []
  | range :: rest => go range rest
where
  go (current : CodeRange) : List CodeRange → List CodeRange
    | [] => [current]
    | next :: rest =>
      if next.1 ≤ current.2 + 1 then go (current.1, max current.2 next.2) rest
      else current :: go next rest

def ofUnordered (ranges : List CodeRange) : List CodeRange :=
  join (ranges.mergeSort fun a b => a.1 ≤ b.1)

def unite (a b : List CodeRange) : List CodeRange :=
  join (List.merge a b fun x y => x.1 ≤ y.1)

def intersect : List CodeRange → List CodeRange → List CodeRange
  | a :: as, b :: bs =>
    let rest := if a.2 < b.2 then intersect as (b :: bs) else intersect (a :: as) bs
    if max a.1 b.1 ≤ min a.2 b.2 then (max a.1 b.1, min a.2 b.2) :: rest else rest
  | _, _ => []
termination_by as bs => as.length + bs.length

def subtract : List CodeRange → List CodeRange → List CodeRange
  | a :: as, b :: bs =>
    if b.2 < a.1 then subtract (a :: as) bs
    else if a.2 < b.1 then a :: subtract as (b :: bs)
    else
      let rest :=
        if b.2 < a.2 then subtract ((following b.2, a.2) :: as) bs else subtract as (b :: bs)
      if a.1 < b.1 then (a.1, preceding b.1) :: rest else rest
  | as, _ => as
termination_by as bs => as.length + bs.length

-- What lies between neighbours. Where only surrogates do, there is nothing.
def gaps (start : Nat) : List CodeRange → List CodeRange
  | [] => if start ≤ lastCode then [(start, lastCode)] else []
  | range :: rest =>
    if start < range.1 && start ≤ preceding range.1 then
      (start, preceding range.1) :: gaps (following range.2) rest
    else gaps (following range.2) rest

def complement (ranges : List CodeRange) : List CodeRange := gaps 0 ranges

def foldedPairs : List (Nat × Nat) :=
  caseFoldings.flatMap fun shift => (shift.toSpan.ranges.flatMap fun range =>
    (List.range (range.2 + 1 - range.1)).map fun i =>
      (range.1 + i, shift.target + (range.1 + i - shift.first)))

def asciiPairs : List (Nat × Nat) := (List.range 26).map fun i => (0x41 + i, 0x61 + i)

def sortPairs (pairs : List (Nat × Nat)) : List (Nat × Nat) :=
  pairs.mergeSort fun a b => a.1 ≤ b.1

-- A character to its folded form, and a folded form to the characters that fold to it.
structure Folding where
  forth : List (Nat × Nat)
  back : List (Nat × Nat)

def Folding.ofPairs (pairs : List (Nat × Nat)) : Folding :=
  ⟨sortPairs pairs, sortPairs (pairs.map fun pair => (pair.2, pair.1))⟩

def simpleFolding : Folding := .ofPairs foldedPairs

def asciiFolding : Folding := .ofPairs asciiPairs

def images : List (Nat × Nat) → List CodeRange → List CodeRange
  | pair :: pairs, range :: rest =>
    if range.2 < pair.1 then images (pair :: pairs) rest
    else if pair.1 < range.1 then images pairs (range :: rest)
    else (pair.2, pair.2) :: images pairs (range :: rest)
  | _, _ => []
termination_by pairs ranges => pairs.length + ranges.length

-- The folded forms come in, then everything that folds to a member.
def closeUnderCase (folding : Folding) (ranges : List CodeRange) : List CodeRange :=
  let folded := unite ranges (ofUnordered (images folding.forth ranges))
  unite folded (ofUnordered (images folding.back folded))

end CodeRange

namespace CharSet

open CodeRange

def ranges : CharSet → List CodeRange
  | table spans => ofUnordered (spans.flatMap (·.ranges))
  | union a b => unite a.ranges b.ranges
  | inter a b => intersect a.ranges b.ranges
  | diff a b => subtract a.ranges b.ranges
  | symmDiff a b =>
    let first := a.ranges
    let second := b.ranges
    subtract (unite first second) (intersect first second)
  | compl a => complement a.ranges
  | caseClosure .unicode a => closeUnderCase simpleFolding a.ranges
  | caseClosure .ascii a => closeUnderCase asciiFolding a.ranges

def only? (set : CharSet) : Option Char :=
  match set.ranges with
  | [(first, last)] => if first = last then some (Char.ofNat first) else none
  | _ => none

-- The characters that are not in a set. Two ranges that only surrogates keep apart count their ends
-- beside the surrogates as lying between them.
def negate (set : CharSet) : CharSet :=
  let ranges := set.ranges
  if ranges.any (·.2 = 0xD7FF) && ranges.any (·.1 = 0xE000) then
    union (compl set) (table [⟨0xD7FF, 0xE000, 1⟩])
  else compl set

end CharSet

end RouteTable.Unicode
