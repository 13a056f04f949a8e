import RouteTable.Arguments
import RouteTable.Host
import RouteTable.Template.Scan

namespace RouteTable

-- A placeholder with the requirement in force.
structure Hole where
  placeholder : Placeholder
  requirement : Text
  -- Accepts a whole value: one unit of the requirement or more, whatever the case of the letters.
  validator : Regex

structure Route where
  name : Option Text := none
  target : Text
  template : Template
  holes : List Hole
  matcher : Regex
  defaults : Arguments := {}
  methods : List Text := []
  scheme : Option Text := none
  host : Option HostPattern := none

namespace Route

def stripSlash (text : Text) : Text := (Text.dropSuffix? ['/'] text).getD text

-- A required hole captures one unit or more; an optional one is left out together with its trailing
-- text.
def segmentPattern (requirementOf : Placeholder → Text) (isLast : Bool) : Segment → Text
  | .literal text => Regex.escape (if isLast then stripSlash text else text)
  | .hole placeholder =>
    let units := "(?P<".toList ++ placeholder.name ++ ">(?:".toList ++ requirementOf placeholder
    if placeholder.optional then
      "(?:".toList ++ units ++ ")*)".toList ++
        Regex.escape (if isLast then stripSlash placeholder.trailing else placeholder.trailing) ++
        ")?".toList
    else units ++ ")+)".toList

def segmentsPattern (requirementOf : Placeholder → Text) : List Segment → Text
  | [] => []
  | [segment] => segmentPattern requirementOf true segment
  | segment :: rest =>
    segmentPattern requirementOf false segment ++ segmentsPattern requirementOf rest

def matcherPattern (requirementOf : Placeholder → Text) (segments : List Segment) : Text :=
  "^".toList ++ segmentsPattern requirementOf segments ++ "/?$".toList

def compileHole (requirementOf : Placeholder → Text) (placeholder : Placeholder) :
    Except TemplateFault Hole :=
  let requirement := requirementOf placeholder
  match Regex.ofText? true (Requirement.wholeValue requirement) with
  | none => .error .invalidMatcher
  | some validator => .ok { placeholder, requirement, validator }

def compile (template : Template) (requirementOf : Placeholder → Text) :
    Except TemplateFault (Regex × List Hole) :=
  match Regex.ofText? true (matcherPattern requirementOf template.segments) with
  | none => .error .invalidMatcher
  | some matcher => (template.placeholders.mapM (compileHole requirementOf)).map (matcher, ·)

def ofTemplate (text target : Text) : Except RouteError Route := do
  let template ← Template.read text
  match compile template (·.requirement) with
  | .error fault => .error (.template text fault)
  | .ok (matcher, holes) => .ok { target, template, holes, matcher }

def hole? (route : Route) (name : Text) : Option Hole :=
  route.holes.find? (·.placeholder.name == name)

def requirement? (route : Route) (name : Text) : Option Text :=
  (route.hole? name).map (·.requirement)

def requirements (route : Route) : List (Text × Text) :=
  route.holes.map fun hole => (hole.placeholder.name, hole.requirement)

def pattern (route : Route) : Text :=
  matcherPattern (fun placeholder =>
    (route.requirement? placeholder.name).getD placeholder.requirement) route.template.segments

-- Methods are kept in capitals and once each.
def withMethods (route : Route) (methods : List Text) : Route :=
  { route with
      methods := methods.foldl (fun known method =>
        let method := Text.asciiUpper method
        if known.contains method then known else known ++ [method]) route.methods }

def withScheme (route : Route) (scheme : Text) : Route :=
  { route with scheme := some (Text.asciiLower scheme) }

def withHost (route : Route) (pattern : Text) : Except RouteError Route :=
  (HostPattern.compile pattern).map fun host => { route with host := some host }

-- Whether a value may stand as the default of a name: names without a placeholder take anything.
def acceptsDefault (holes : List Hole) (name value : Text) : Bool :=
  match holes.find? (·.placeholder.name == name) with
  | some hole => hole.validator.isMatch value
  | none => true

-- A default that is already set has to satisfy the new requirement.
def overrideRequirement (route : Route) (name requirement : Text) :
    Except TemplateFault Route := do
  if !route.template.hasPlaceholder name then throw (.unknownPlaceholder name)
  Requirement.check name requirement
  let requirementOf (placeholder : Placeholder) : Text :=
    if placeholder.name = name then requirement
    else (route.requirement? placeholder.name).getD placeholder.requirement
  let (matcher, holes) ← compile route.template requirementOf
  match route.defaults.get? name with
  | some value =>
    if acceptsDefault holes name value then return { route with matcher, holes }
    else throw (.rejectedDefault value name)
  | none => return { route with matcher, holes }

def withRequirement (route : Route) (name requirement : Text) : Except RouteError Route :=
  (route.overrideRequirement name requirement).mapError (.template route.template.text)

def withDefault (route : Route) (name value : Text) : Except RouteError Route :=
  if acceptsDefault route.holes name value then
    .ok { route with defaults := route.defaults.insert name value }
  else .error (.template route.template.text (.rejectedDefault value name))

def displayName (route : Route) : Text := route.name.getD route.template.text

end Route

end RouteTable
