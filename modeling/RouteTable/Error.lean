import RouteTable.Text.Quoted

namespace RouteTable

inductive TemplateFault where
  | unnamedPlaceholder
  | nameStartsWithDigit (name : Text)
  | unterminatedPlaceholder (name : Text)
  | groupWithoutPlaceholder
  | nestedGroup
  | unterminatedGroup
  | unbalanced (bracket : Char)
  | repeatedPlaceholder (name : Text)
  | emptyRequirement (name : Text)
  | trailingQuantifier (requirement name : Text)
  | invalidRequirement (requirement name : Text)
  | invalidMatcher
  | invalidHost
  | unknownPlaceholder (name : Text)
  | rejectedDefault (value name : Text)
deriving DecidableEq, Repr

inductive RouteError where
  | template (template : Text) (fault : TemplateFault)
  | argument (route placeholder : Text) (value : Option Text)
  | routeNotFound (sought : Text)
  | noCurrentRoute
  | missingHost (route : Text)
deriving DecidableEq, Repr

def marked (name : Text) : Text := ['\x60'] ++ name ++ ['\x60']

-- Stands for the explanation that a regular expression compiler would give.
def regexErrorText : Text := "<regex error>"

def TemplateFault.reason : TemplateFault → Text
  | unnamedPlaceholder => "placeholder without a name"
  | nameStartsWithDigit name =>
    "placeholder name ".toList ++ marked name ++ " must not start with a digit".toList
  | unterminatedPlaceholder name => "unterminated placeholder ".toList ++ marked name
  | groupWithoutPlaceholder => "an optional group must start with a placeholder"
  | nestedGroup => "optional groups hold a single placeholder and cannot nest"
  | unterminatedGroup => "unterminated optional group"
  | unbalanced bracket => "unbalanced ".toList ++ marked [bracket]
  | repeatedPlaceholder name =>
    "placeholder ".toList ++ marked name ++ " appears more than once".toList
  | emptyRequirement name =>
    "placeholder ".toList ++ marked name ++ " has an empty requirement".toList
  | trailingQuantifier requirement name =>
    "requirement ".toList ++ marked requirement ++ " of ".toList ++ marked name ++
      " must not end with a quantifier".toList
  | invalidRequirement requirement name =>
    "requirement ".toList ++ marked requirement ++ " of ".toList ++ marked name ++
      " is not a valid regex: ".toList ++ regexErrorText
  | invalidMatcher => regexErrorText
  | invalidHost => "invalid host pattern: ".toList ++ regexErrorText
  | unknownPlaceholder name => "unknown placeholder ".toList ++ marked name
  | rejectedDefault value name =>
    "default ".toList ++ Text.Quoted.quote value ++
      " does not satisfy the requirement of ".toList ++ marked name

def RouteError.message : RouteError → Text
  | template text fault =>
    "invalid route pattern ".toList ++ marked text ++ ": ".toList ++ fault.reason
  | argument route placeholder value =>
    "placeholder ".toList ++ marked placeholder ++ " of route ".toList ++ marked route ++
      match value with
      | some value => " rejects value ".toList ++ Text.Quoted.quote value
      | none => " has no value".toList
  | routeNotFound sought => "no route found for ".toList ++ marked sought
  | noCurrentRoute => "no current route to build a self link from"
  | missingHost route =>
    "cannot build absolute URL for route ".toList ++ marked route ++ " without host".toList

end RouteTable
