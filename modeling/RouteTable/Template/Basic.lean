import RouteTable.Text.Basic

namespace RouteTable

-- A hole written as a group is optional, and the literal text after it belongs to it.
structure Placeholder where
  name : Text
  -- What one unit of a value has to match; a value is one unit or more.
  requirement : Text
  optional : Bool := false
  trailing : Text := []
deriving DecidableEq, Repr

inductive Segment where
  | literal (text : Text)
  | hole (placeholder : Placeholder)
deriving DecidableEq, Repr

structure Template where
  text : Text
  segments : List Segment
deriving DecidableEq, Repr

def defaultRequirement : Text := "[a-z0-9\\-._]"

namespace Template

def placeholders (template : Template) : List Placeholder :=
  template.segments.filterMap fun
    | .literal _ => none
    | .hole placeholder => some placeholder

def position? (template : Template) (name : Text) : Option Nat :=
  template.placeholders.findIdx? (·.name == name)

def placeholder? (template : Template) (name : Text) : Option Placeholder :=
  template.placeholders.find? (·.name == name)

def hasPlaceholder (template : Template) (name : Text) : Bool :=
  (template.placeholder? name).isSome

-- Holes by their position among the placeholders.
def numbered (template : Template) : List (Text ⊕ Nat) := go 0 template.segments
where
  go (count : Nat) : List Segment → List (Text ⊕ Nat)
    | [] => []
    | .literal text :: rest => .inl text :: go count rest
    | .hole _ :: rest => .inr count :: go (count + 1) rest

def skeleton (template : Template) : Text :=
  template.numbered.flatMap fun
    | .inl text => text
    | .inr index => ['\x7b'] ++ Nat.toDigits 10 index ++ ['\x7d']

end Template

end RouteTable
