import RouteTable.Unicode.CaseFolding

namespace RouteTable.Unicode

-- Which characters are letters with case variants: those of ASCII among themselves, or all.
inductive Alphabet where
  | ascii
  | unicode
deriving DecidableEq, Repr

def asciiVariants (c : Char) : List Char := if c.isAlpha then [c.toLower, c.toUpper] else [c]

def Alphabet.variants : Alphabet → Char → List Char
  | ascii, c => asciiVariants c
  | unicode, c => caseVariants c

inductive CharSet where
  | table (spans : List Span)
  | union (a b : CharSet)
  | inter (a b : CharSet)
  | diff (a b : CharSet)
  | symmDiff (a b : CharSet)
  | compl (a : CharSet)
  | caseClosure (alphabet : Alphabet) (a : CharSet)
deriving DecidableEq, Repr

namespace CharSet

def contains : CharSet → Char → Bool
  | table spans, c => inSpans spans c
  | union a b, c => a.contains c || b.contains c
  | inter a b, c => a.contains c && b.contains c
  | diff a b, c => a.contains c && !b.contains c
  | symmDiff a b, c => a.contains c ^^ b.contains c
  | compl a, c => !a.contains c
  | caseClosure alphabet a, c => (alphabet.variants c).any a.contains

def empty : CharSet := table []

def range (lo hi : Char) : CharSet := table [⟨lo.toNat, hi.toNat, 1⟩]

def single (c : Char) : CharSet := range c c

def ofList (cs : List Char) : CharSet := table (cs.map fun c => ⟨c.toNat, c.toNat, 1⟩)

def ofString (s : String) : CharSet := ofList s.toList

def ofTables (tables : List (List Span)) : CharSet :=
  tables.foldr (fun spans set => union (table spans) set) empty

def all : CharSet := compl empty

def ascii : CharSet := table [⟨0, 0x7F, 1⟩]

-- Tables that meet in a union become one table.
def join : CharSet → CharSet → CharSet
  | table [], b => b
  | table spans, table more => table (spans ++ more)
  | a, b => union a b

-- Whether the form of a set shows that it holds all case variants of its members.
def isClosed (alphabet : Alphabet) : CharSet → Bool
  | table spans => spans = []
  | union a b => a.isClosed alphabet && b.isClosed alphabet
  | inter a b => a.isClosed alphabet && b.isClosed alphabet
  | diff a b => a.isClosed alphabet && b.isClosed alphabet
  | symmDiff a b => a.isClosed alphabet && b.isClosed alphabet
  | compl a => a.isClosed alphabet
  | caseClosure other _ => alphabet = other

def hasClosure : CharSet → Bool
  | table _ => false
  | union a b => a.hasClosure || b.hasClosure
  | inter a b => a.hasClosure || b.hasClosure
  | diff a b => a.hasClosure || b.hasClosure
  | symmDiff a b => a.hasClosure || b.hasClosure
  | compl a => a.hasClosure
  | caseClosure _ _ => true

-- The set with the case variants of its members. Closing a union closes its parts, so sets that are
-- closed already are not closed again.
def close (alphabet : Alphabet) : CharSet → CharSet
  | union a b =>
    if a.hasClosure || b.hasClosure then union (a.close alphabet) (b.close alphabet)
    else caseClosure alphabet (union a b)
  | a => if a.isClosed alphabet then a else caseClosure alphabet a

theorem contains_join (a b : CharSet) (c : Char) :
    (a.join b).contains c = (a.contains c || b.contains c) := by
  fun_cases join a b <;> simp [contains, inSpans]

end CharSet

end RouteTable.Unicode
