import RouteTable.Text.Basic

namespace RouteTable.Regex

inductive Flag where
  | caseInsensitive
  | multiLine
  | dotMatchesNewline
  | swapGreed
  | unicode
  | carriageReturn
  | freeSpacing
deriving DecidableEq, Repr

-- A list of flags as written: those before the hyphen are switched on, those after it off.
structure FlagChange where
  on : List Flag := []
  off : List Flag := []
deriving DecidableEq, Repr

-- A character; `asByte` when it was written as two hexadecimal digits after a backslash and an x.
structure Literal where
  char : Char
  asByte : Bool := false
deriving DecidableEq, Repr

inductive WordClass where
  | digit
  | space
  | word
deriving DecidableEq, Repr

inductive PropertyQuery where
  | name (name : Text)
  | value (name value : Text)
deriving DecidableEq, Repr

inductive SetOperator where
  | intersection
  | difference
  | symmetricDifference
deriving DecidableEq, Repr

inductive ClassAst where
  | empty
  | literal (literal : Literal)
  | range (lo hi : Literal)
  | ascii (name : Text) (negated : Bool)
  | word (kind : WordClass) (negated : Bool)
  | property (query : PropertyQuery) (negated : Bool)
  | bracketed (negated : Bool) (body : ClassAst)
  | union (a b : ClassAst)
  | operation (operator : SetOperator) (a b : ClassAst)
deriving Repr

inductive AssertionAst where
  | caret
  | dollar
  | textStart
  | textEnd
  | wordBoundary
  | notWordBoundary
  | wordStart
  | wordEnd
  | wordStartHalf
  | wordEndHalf
deriving DecidableEq, Repr

inductive Ast where
  | empty
  | flags (change : FlagChange)
  | literal (literal : Literal)
  | dot
  | assertion (kind : AssertionAst)
  | class (set : ClassAst)
  | repetition (a : Ast) (low : Nat) (high : Option Nat) (greedy : Bool)
  | capture (name : Option Text) (a : Ast)
  | group (change : FlagChange) (a : Ast)
  | concat (a b : Ast)
  | alternation (a b : Ast)
deriving Repr

namespace Ast

-- Lists of parts are kept last part first while they grow.
def ofParts : List Ast → Ast
  | [] => empty
  | last :: earlier => earlier.foldl (fun tail part => concat part tail) last

def ofBranches : List Ast → Ast
  | [] => empty
  | last :: earlier => earlier.foldl (fun tail branch => alternation branch tail) last

-- A change of flags is no operand: nothing can be repeated right after it.
def isOperand : Ast → Bool
  | empty => false
  | flags _ => false
  | _ => true

end Ast

end RouteTable.Regex
