import RouteTable.Text.Basic
import RouteTable.Unicode.Property
import RouteTable.Unicode.Ranges

namespace RouteTable

open Unicode (Alphabet CharSet)

inductive Look where
  | textStart
  | textEnd
  | lineStart
  | lineEnd
  | anyLineStart
  | anyLineEnd
  | wordBoundary (unicode : Bool)
  | notWordBoundary (unicode : Bool)
  | wordStart (unicode : Bool)
  | wordEnd (unicode : Bool)
  | wordStartHalf (unicode : Bool)
  | wordEndHalf (unicode : Bool)
deriving DecidableEq, Repr

namespace Look

def isWord (unicode : Bool) (c : Char) : Bool :=
  if unicode then Unicode.isWordCharacter c else c.isAlphanum || c == '_'

-- A line ends at a line feed; where carriage returns count too, the pair of both ends one line.
def holds (look : Look) (before after : Option Char) : Bool :=
  match look with
  | textStart => before.isNone
  | textEnd => after.isNone
  | lineStart => before.all (· == '\n')
  | lineEnd => after.all (· == '\n')
  | anyLineStart => before.all (· == '\n') || before == some '\r' && after != some '\n'
  | anyLineEnd => after.all (· == '\r') || after == some '\n' && before != some '\r'
  | wordBoundary u => before.any (isWord u) != after.any (isWord u)
  | notWordBoundary u => before.any (isWord u) == after.any (isWord u)
  | wordStart u => !before.any (isWord u) && after.any (isWord u)
  | wordEnd u => before.any (isWord u) && !after.any (isWord u)
  | wordStartHalf u => !before.any (isWord u)
  | wordEndHalf u => !after.any (isWord u)

end Look

-- A literal is a run of characters, and a set offers a choice of characters of an alphabet. A group
-- without a name captures nothing and only keeps its content together.
inductive Regex where
  | empty
  | literal (first : Char) (rest : Text)
  | char (alphabet : Alphabet) (set : CharSet)
  | look (assertion : Look)
  | seq (a b : Regex)
  | alt (a b : Regex)
  | repeated (low : Nat) (high : Option Nat) (greedy : Bool) (a : Regex)
  | group (name : Option Text) (a : Regex)
deriving DecidableEq, Repr

namespace Regex

-- The fewest characters of a match. An expression with a part that never matches has none.
def minLength? : Regex → Option Nat
  | empty => some 0
  | literal _ rest => some (rest.length + 1)
  | char _ set => if set = .empty then none else some 1
  | look _ => some 0
  | seq a b => do return (← a.minLength?) + (← b.minLength?)
  | alt a b => do return min (← a.minLength?) (← b.minLength?)
  | repeated low _ _ a => do return low * (← a.minLength?)
  | group _ a => a.minLength?

def consumes (r : Regex) : Bool := r.minLength?.any (0 < ·)

def matchesOnlyEmpty : Regex → Bool
  | empty => true
  | literal _ _ => false
  | char _ _ => false
  | look _ => true
  | seq a b => a.matchesOnlyEmpty && b.matchesOnlyEmpty
  | alt a b => a.matchesOnlyEmpty && b.matchesOnlyEmpty
  | repeated _ _ _ a => a.matchesOnlyEmpty
  | group _ a => a.matchesOnlyEmpty

def cons : Regex → Regex → Regex
  | empty, b => b
  | a, empty => a
  | literal c cs, literal d ds => literal c (cs ++ d :: ds)
  | literal c cs, seq (literal d ds) b => seq (literal c (cs ++ d :: ds)) b
  | a, b => seq a b

-- One expression after another. Sequences lean to the right and hold neither empty parts nor
-- literals side by side.
def append : Regex → Regex → Regex
  | seq a rest, b => a.cons (rest.append b)
  | a, b => a.cons b

def sequence (parts : List Regex) : Regex := parts.foldr append empty

-- A repetition with bounds, open without an upper one. Rounds that match only the empty text add
-- nothing to one another, so one is enough; nothing stands for no round, and one round for itself.
def between (low : Nat) (high : Option Nat) (greedy : Bool) (a : Regex) : Regex :=
  let low := if a.matchesOnlyEmpty then min low 1 else low
  let high := if a.matchesOnlyEmpty then some (min (high.getD 1) 1) else high
  if high = some 0 then empty
  else if low = 1 && high = some 1 then a
  else repeated low high greedy a

def never : Regex := char .ascii .empty

def ofSet (alphabet : Alphabet) (set : CharSet) : Regex :=
  match set.only? with
  | some c => literal c []
  | none => if set.ranges.isEmpty then never else char alphabet set

def ofVariants (alphabet : Alphabet) (c : Char) : Regex :=
  if (alphabet.variants c).all (· = c) then literal c []
  else char alphabet (.caseClosure alphabet (.single c))

end Regex

end RouteTable
