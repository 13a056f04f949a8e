import RouteTable.Error
import RouteTable.Regex.Meaning

namespace RouteTable.Requirement

-- The pattern of whole values: one unit or more.
def wholeValue (requirement : Text) : Text :=
  "^(?:".toList ++ requirement ++ ")+$".toList

-- A quantifier stands for itself after an odd number of backslashes.
def endsWithQuantifier (requirement : Text) : Bool :=
  match requirement.reverse with
  | [] => false
  | last :: before =>
    (last == '+' || last == '*' || last == '?') &&
      (before.takeWhile (· == '\\')).length % 2 == 0

-- The requirement itself is only compiled inside the pattern of whole values.
def check (name requirement : Text) : Except TemplateFault Unit :=
  if requirement.isEmpty then .error (.emptyRequirement name)
  else if endsWithQuantifier requirement then .error (.trailingQuantifier requirement name)
  else if (Regex.ofText? false (wholeValue requirement)).isNone then
    .error (.invalidRequirement requirement name)
  else .ok ()

end RouteTable.Requirement
