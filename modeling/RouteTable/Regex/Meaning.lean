import RouteTable.Regex.Alternation
import RouteTable.Regex.Program
import RouteTable.Regex.Reader

namespace RouteTable.Regex

open Unicode (Alphabet CharSet)

structure Flags where
  caseInsensitive : Bool := false
  multiLine : Bool := false
  dotMatchesNewline : Bool := false
  swapGreed : Bool := false
  unicode : Bool := true
  carriageReturn : Bool := false
deriving DecidableEq, Repr

def Flags.apply (flags : Flags) (change : FlagChange) : Flags where
  caseInsensitive := (change.state? .caseInsensitive).getD flags.caseInsensitive
  multiLine := (change.state? .multiLine).getD flags.multiLine
  dotMatchesNewline := (change.state? .dotMatchesNewline).getD flags.dotMatchesNewline
  swapGreed := (change.state? .swapGreed).getD flags.swapGreed
  unicode := (change.state? .unicode).getD flags.unicode
  carriageReturn := (change.state? .carriageReturn).getD flags.carriageReturn

def Flags.alphabet (flags : Flags) : Alphabet := if flags.unicode then .unicode else .ascii

namespace ClassAst

def fold (flags : Flags) (set : CharSet) : CharSet :=
  if flags.caseInsensitive then set.close flags.alphabet else set

def negate? (flags : Flags) (negated : Bool) (set : CharSet) : Option CharSet :=
  if !negated then some set else if flags.unicode then some set.negate else none

def asciiClass (name : Text) : CharSet :=
  let ranges (pairs : List (Char × Char)) : CharSet :=
    .table (pairs.map fun (lo, hi) => ⟨lo.toNat, hi.toNat, 1⟩)
  if name = "alnum".toList then ranges [('0', '9'), ('A', 'Z'), ('a', 'z')]
  else if name = "alpha".toList then ranges [('A', 'Z'), ('a', 'z')]
  else if name = "ascii".toList then .ascii
  else if name = "blank".toList then ranges [('\t', '\t'), (' ', ' ')]
  else if name = "cntrl".toList then ranges [('\x00', '\x1f'), ('\x7f', '\x7f')]
  else if name = "digit".toList then ranges [('0', '9')]
  else if name = "graph".toList then ranges [('!', '~')]
  else if name = "lower".toList then ranges [('a', 'z')]
  else if name = "print".toList then ranges [(' ', '~')]
  else if name = "punct".toList then ranges [('!', '/'), (':', '@'), ('[', '\x60'), ('\x7b', '~')]
  else if name = "space".toList then ranges [('\t', '\r'), (' ', ' ')]
  else if name = "upper".toList then ranges [('A', 'Z')]
  else if name = "word".toList then ranges [('0', '9'), ('A', 'Z'), ('_', '_'), ('a', 'z')]
  else if name = "xdigit".toList then ranges [('0', '9'), ('A', 'F'), ('a', 'f')]
  else .empty

def wordClass (unicode : Bool) : WordClass → CharSet
  | .digit => if unicode then .table Unicode.decimalDigits else asciiClass "digit"
  | .space => if unicode then .table Unicode.whiteSpace else asciiClass "space"
  | .word => if unicode then Unicode.wordCharacters else asciiClass "word"

def inDomain (flags : Flags) (literal : Literal) : Bool :=
  flags.unicode || literal.char.toNat < 0x80

def set? (flags : Flags) : ClassAst → Option CharSet
  | empty => some .empty
  | literal l => if inDomain flags l then some (.single l.char) else none
  | range lo hi =>
    if inDomain flags lo && inDomain flags hi then some (.range lo.char hi.char) else none
  | ascii name negated => negate? flags negated (fold flags (asciiClass name))
  | word kind negated => negate? flags negated (wordClass flags.unicode kind)
  | property query negated => do
    guard flags.unicode
    let set ← match query with
      | .name name => Unicode.property? name
      | .value name value => Unicode.propertyValue? name value
    negate? flags negated (fold flags set)
  | bracketed negated body => do negate? flags negated (fold flags (← body.set? flags))
  | union a b => return .join (← a.set? flags) (← b.set? flags)
  | operation operator a b => do
    let left := fold flags (← a.set? flags)
    let right := fold flags (← b.set? flags)
    match operator with
    | .intersection => return .inter left right
    | .difference => return .diff left right
    | .symmetricDifference => return .symmDiff left right

end ClassAst

def AssertionAst.look (flags : Flags) : AssertionAst → Look
  | caret =>
    if !flags.multiLine then .textStart
    else if flags.carriageReturn then .anyLineStart else .lineStart
  | dollar =>
    if !flags.multiLine then .textEnd
    else if flags.carriageReturn then .anyLineEnd else .lineEnd
  | textStart => .textStart
  | textEnd => .textEnd
  | wordBoundary => .wordBoundary flags.unicode
  | notWordBoundary => .notWordBoundary flags.unicode
  | wordStart => .wordStart flags.unicode
  | wordEnd => .wordEnd flags.unicode
  | wordStartHalf => .wordStartHalf flags.unicode
  | wordEndHalf => .wordEndHalf flags.unicode

namespace Ast

-- Without `unicode`, a character given as a byte has to be one of ASCII.
def letter? (flags : Flags) (literal : Literal) : Option Regex :=
  if !flags.unicode && literal.asByte && 0x80 ≤ literal.char.toNat then none
  else if flags.caseInsensitive then some (ofVariants flags.alphabet literal.char)
  else some (.literal literal.char [])

def dotSet? (flags : Flags) : Option CharSet :=
  if !flags.unicode then none
  else if flags.dotMatchesNewline then some .all
  else if flags.carriageReturn then some (.compl (.ofString "\r\n"))
  else some (.compl (.single '\n'))

-- The alternatives that a pattern text offers, and the flags that hold after it.
def branches? (flags : Flags) : Ast → Option (List Regex × Flags)
  | empty => some ([.empty], flags)
  | .flags change => some ([.empty], flags.apply change)
  | literal l => do return ([← letter? flags l], flags)
  | dot => do return ([.char .unicode (← dotSet? flags)], flags)
  | assertion kind => some ([.look (kind.look flags)], flags)
  | «class» set => do return ([ofSet flags.alphabet (← set.set? flags)], flags)
  | repetition a low high greedy => do
    let (body, flags) ← a.branches? flags
    return ([(Regex.alternation body).between low high (greedy != flags.swapGreed)], flags)
  | capture name a => do
    let (body, _) ← a.branches? flags
    return ([.group name (Regex.alternation body)], flags)
  | group change a => do
    let (body, _) ← a.branches? (flags.apply change)
    return ([Regex.alternation body], flags)
  | concat a b => do
    let (first, flags) ← a.branches? flags
    let (second, flags) ← b.branches? flags
    return ([(Regex.alternation first).append (Regex.alternation second)], flags)
  | alternation a b => do
    let (first, flags) ← a.branches? flags
    let (second, flags) ← b.branches? flags
    return (first ++ second, flags)

def meaning? (flags : Flags) (ast : Ast) : Option Regex := do
  return Regex.alternation (← ast.branches? flags).1

end Ast

-- Repetitions are written out in a program, so programs are bounded. Engines bound the memory that
-- one takes, at ten mebibytes, and how deep a pattern nests, at 250 levels; here the instructions
-- are counted in the place of the memory, and any depth is taken.
def sizeLimit : Nat := 1000000

def ofText? (caseInsensitive : Bool) (pattern : Text) : Option Regex := do
  let regex ← (← Ast.ofText? pattern).meaning? { caseInsensitive }
  if sizeLimit < regex.size then none else some regex

end RouteTable.Regex
