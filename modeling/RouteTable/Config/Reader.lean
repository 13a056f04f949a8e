import RouteTable.Config.Basic
import RouteTable.Toml.Document
import RouteTable.Unicode.Character

namespace RouteTable

namespace Toml

def Value.text? : Value → Option Text
  | .text content => some content
  | _ => none

def Value.texts? : Value → Option (List Text)
  | .array _ elements => elements.mapM text?
  | _ => none

-- A moment counts as a table whose only entry has a reserved name.
def momentName : Text := "$__toml_private_datetime"

def Value.nameMap? : Value → Option NameMap
  | .table _ entries =>
    (entries.mapM fun (entry : Text × Value) => entry.2.text?.map (entry.1, ·)).map NameMap.ofList
  | .moment time => some (NameMap.empty.insert momentName time)
  | _ => none

def Entries.optional? {α : Type} (entries : Entries) (name : Text) (read : Value → Option α) :
    Option (Option α) :=
  match entries.lookup name with
  | none => some none
  | some value => (read value).map some

def Entries.required? {α : Type} (entries : Entries) (name : Text) (read : Value → Option α) :
    Option α :=
  (entries.lookup name).bind read

end Toml

namespace RouteEntry

def ofEntries? (entries : Toml.Entries) : Option RouteEntry := do
  let name ← entries.required? "name" Toml.Value.text?
  let pattern ← entries.required? "pattern" Toml.Value.text?
  let target ← entries.required? "target" Toml.Value.text?
  let methods ← entries.optional? "methods" Toml.Value.texts?
  let scheme ← entries.optional? "scheme" Toml.Value.text?
  let host ← entries.optional? "host" Toml.Value.text?
  let requirements ← entries.optional? "requirements" Toml.Value.nameMap?
  let defaults ← entries.optional? "defaults" Toml.Value.nameMap?
  return {
    name, pattern, target, scheme, host
    methods := methods.getD []
    requirements := requirements.getD .empty
    defaults := defaults.getD .empty }

def names : List Text :=
  ["name", "pattern", "target", "methods", "scheme", "host", "requirements", "defaults"]

def ofValue? : Toml.Value → Option RouteEntry
  | .table _ entries => ofEntries? entries
  | .array _ elements => ofEntries? (names.zip elements)
  | _ => none

end RouteEntry

namespace Config

def ofEntries? (entries : Toml.Entries) : Option Config := do
  let defaultHost ← entries.optional? "default_host" Toml.Value.text?
  let routes ← entries.optional? "routes" fun
    | .array _ elements => elements.mapM RouteEntry.ofValue?
    | _ => none
  return { defaultHost, routes := routes.getD [] }

-- A blank text is the empty configuration.
def ofText? (text : Text) : Option Config :=
  if text.all Unicode.isWhitespace then some {}
  else (Toml.read? text).bind ofEntries?

end Config

end RouteTable
