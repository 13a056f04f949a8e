import RouteTable.Regex.Escape

namespace RouteTable.Regex

def asciiClassNames : List String :=
  ["alnum", "alpha", "ascii", "blank", "cntrl", "digit", "graph", "lower", "print", "punct",
   "space", "upper", "word", "xdigit"]

def readAsciiClass (s : Text) : Option (ClassAst × Rest s) :=
  match s with
  | ':' :: inner =>
    let negated := inner.head? == some '^'
    let body := if negated then inner.drop 1 else inner
    let name := body.takeWhile (· != ':')
    match _closed : body.dropWhile (· != ':') with
    | ':' :: ']' :: rest =>
      if asciiClassNames.any (·.toList = name) then
        some (.ascii name negated, ⟨rest, by
          have := Text.length_dropWhile_le (· != ':') body
          rw [_closed] at this
          have : body.length ≤ inner.length := by
            simp only [body]
            split <;> simp
          simp only [List.length_cons] at *
          omega⟩)
      else none
    | _ => none
  | _ => none

def readItem (free : Bool) (c : Char) (s : Text) : Option (Atom × Rest s) :=
  if c = '\\' then readEscape free s
  else some (.literal ⟨c, false⟩, .whole s)

def Atom.toClass? : Atom → Option ClassAst
  | .literal l => some (.literal l)
  | .assertion _ => none
  | «class» set => some set

def Atom.toLiteral? : Atom → Option Literal
  | .literal l => some l
  | _ => none

-- What stands after a hyphen, blanks and one number sign left out: enough to tell a range from a
-- hyphen that stands for itself.
def peekAfterHyphen (free : Bool) (s : Text) : Option Char :=
  if free then
    match s.dropWhile Unicode.isWhitespace with
    | '#' :: rest => ((rest.dropWhile Unicode.isWhitespace).head?).or s.head?
    | rest => rest.head?.or s.head?
  else s.head?

def readRange (free : Bool) (c : Char) (s : Text) : Option (ClassAst × Rest s) :=
  match readItem free c s with
  | none => none
  | some (low, afterLow) =>
    match _hyphen : skip free afterLow.1 with
    | '-' :: tail =>
      have shorter : tail.length < s.length := by
        have := length_skip_le free afterLow.1
        rw [_hyphen] at this
        have := afterLow.2
        simp only [List.length_cons] at *
        omega
      if [some ']', some '-'].contains (peekAfterHyphen free tail) then
        low.toClass?.map fun item => (item, afterLow)
      else match next? free tail with
        | none => none
        | some (first, rest) =>
          match readItem free first rest.1 with
          | none => none
          | some (high, afterHigh) =>
            match low.toLiteral?, high.toLiteral? with
            | some lo, some hi =>
              if lo.char ≤ hi.char then
                some (.range lo hi, ⟨afterHigh.1, by
                  have := afterHigh.2
                  have := rest.2
                  omega⟩)
              else none
            | _, _ => none
    | _ => low.toClass?.map fun item => (item, afterLow)

structure OpenClass where
  negated : Bool
  pending : Option (SetOperator × ClassAst) := none
  items : ClassAst := .empty

namespace OpenClass

def add (level : OpenClass) (item : ClassAst) : OpenClass :=
  { level with
      items := match level.items with
        | .empty => item
        | items => .union items item }

-- The items so far together with the operator that waited for them; operators group to the left.
def value (level : OpenClass) : ClassAst :=
  match level.pending with
  | none => level.items
  | some (operator, left) => .operation operator left level.items

def operate (level : OpenClass) (operator : SetOperator) : OpenClass :=
  { level with pending := some (operator, level.value), items := .empty }

def close (level : OpenClass) : ClassAst := .bracketed level.negated level.value

end OpenClass

def leadingHyphens (free : Bool) (level : OpenClass) (s : Text) : OpenClass × Rest s :=
  match next? free s with
  | none => (level, .whole s)
  | some (c, rest) =>
    if c = '-' then
      let (level, later) := leadingHyphens free (level.add (.literal ⟨'-', false⟩)) rest.1
      (level, (rest.trans later).toRest)
    else (level, .whole s)
termination_by s.length
decreasing_by exact rest.2

-- Reads what follows an opening bracket: a caret, hyphens, and a closing bracket that comes first
-- and so stands for itself.
def openClass (free : Bool) (s : Text) : OpenClass × Rest s :=
  let (negated, (start : Rest s)) := match next? free s with
    | some ('^', rest) => (true, rest.toRest)
    | _ => (false, .whole s)
  let (level, inner) := leadingHyphens free { negated } start.1
  match next? free inner.1, level.items with
  | some (']', rest), .empty =>
    (level.add (.literal ⟨']', false⟩), start.trans (inner.trans rest.toRest))
  | _, _ => (level, start.trans inner)

def readClassItems (free : Bool) (outer : List OpenClass) (level : OpenClass) (s : Text) :
    Option (ClassAst × Rest s) :=
  match next? free s with
  | none => none
  | some (c, rest) =>
    let onward (outer : List OpenClass) (level : OpenClass) (later : Rest rest.1) :
        Option (ClassAst × Rest s) :=
      match readClassItems free outer level later.1 with
      | none => none
      | some (set, final) => some (set, (rest.trans (later.trans final)).toRest)
    let here : Rest rest.1 := .whole _
    let doubled : Rest rest.1 := .drop 1 _
    if c = '[' then
      match readAsciiClass rest.1 with
      | some (item, later) => onward outer (level.add item) later
      | none =>
        let (inner, later) := openClass free rest.1
        onward (level :: outer) inner later
    else if c = ']' then
      match outer with
      | [] => some (level.close, rest.toRest)
      | parent :: outer => onward outer (parent.add level.close) here
    else if c = '&' && rest.1.head? == some '&' then
      onward outer (level.operate .intersection) doubled
    else if c = '-' && rest.1.head? == some '-' then
      onward outer (level.operate .difference) doubled
    else if c = '~' && rest.1.head? == some '~' then
      onward outer (level.operate .symmetricDifference) doubled
    else
      match readRange free c rest.1 with
      | none => none
      | some (item, later) => onward outer (level.add item) later
termination_by s.length
decreasing_by
  all_goals
    have := later.2
    have := rest.2
    omega

def readClass (free : Bool) (s : Text) : Option (ClassAst × Rest s) :=
  let (level, inner) := openClass free s
  (readClassItems free [] level inner.1).map fun (set, rest) =>
    (set, inner.trans rest)

end RouteTable.Regex
