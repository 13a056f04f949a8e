import RouteTable.Regex.Basic

namespace RouteTable.Regex

open Unicode (Alphabet CharSet)

def factors : Regex → List Regex
  | empty => []
  | seq a rest => a :: rest.factors
  | a => [a]

def branches : Regex → List Regex
  | alt a rest => a :: rest.branches
  | a => [a]

-- Whether two expressions agree part by part. Sets of one alphabet agree when they have the same
-- ranges, and a group agrees with none: it is a place of its own.
def agrees : Regex → Regex → Bool
  | empty, empty => true
  | literal c cs, literal d ds => c = d && cs = ds
  | char alphabet a, char alphabet' b => alphabet = alphabet' && (a = b || a.ranges = b.ranges)
  | look a, look b => a = b
  | seq a as, seq b bs => a.agrees b && as.agrees bs
  | alt a as, alt b bs => a.agrees b && as.agrees bs
  | repeated low high greedy a, repeated low' high' greedy' b =>
    low = low' && high = high' && greedy = greedy' && a.agrees b
  | _, _ => false

-- What alternatives share at the beginning is matched once, before the choice.
def commonPrefix : List Regex → List Regex → List Regex
  | a :: as, b :: bs => if a.agrees b then a :: commonPrefix as bs else []
  | _, _ => []

theorem commonPrefix_prefix_left (as bs : List Regex) : commonPrefix as bs <+: as := by
  fun_induction commonPrefix as bs with
  | case1 a as b bs same ih => exact (List.prefix_cons_inj a).mpr ih
  | case2 | case3 => exact List.nil_prefix

-- What all alternatives begin with. A lone part is not taken from its alternative.
def sharedFactors (alternatives : List Regex) : List Regex :=
  if alternatives.all fun a => 2 ≤ a.factors.length then
    match alternatives with
    | [] => []
    | first :: rest => rest.foldl (fun shared a => commonPrefix shared a.factors) first.factors
  else []

def letter? : Regex → Option Char
  | literal c [] => some c
  | _ => none

def set? : Regex → Option CharSet
  | char _ set => some set
  | _ => none

def joinedSet? (alternatives : List Regex) : Option CharSet :=
  ((alternatives.mapM letter?).map fun letters => .ofList letters).or
    ((alternatives.mapM set?).map fun sets => sets.foldr .union .empty)

def anyOf : List Regex → Regex
  | [] => never
  | [a] => a
  | a :: rest => alt a (anyOf rest)

def oneOf (alternatives : List Regex) : Regex :=
  match joinedSet? alternatives with
  | some set => ofSet .unicode set
  | none => anyOf alternatives

def alternation (alternatives : List Regex) : Regex :=
  match alternatives.flatMap branches with
  | [a] => a
  | all =>
    let shared := sharedFactors all
    if shared.isEmpty then oneOf all
    else
      let rests := all.map fun a => sequence (a.factors.drop shared.length)
      (sequence shared).append (oneOf (rests.flatMap branches))

end RouteTable.Regex
