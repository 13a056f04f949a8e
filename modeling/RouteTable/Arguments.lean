import RouteTable.Text.Basic

namespace RouteTable

-- An unset entry stands for an optional placeholder that was absent.
structure Arguments where
  entries : List (Text × Option Text) := []
deriving DecidableEq, Repr

namespace Arguments

def empty : Arguments := {}

def names (args : Arguments) : List Text := args.entries.map (·.1)

def lookup (args : Arguments) (name : Text) : Option (Option Text) :=
  args.entries.lookup name

def get? (args : Arguments) (name : Text) : Option Text :=
  (args.lookup name).join

def contains (args : Arguments) (name : Text) : Bool :=
  (args.lookup name).isSome

def size (args : Arguments) : Nat := args.entries.length

def isEmpty (args : Arguments) : Bool := args.entries.isEmpty

def setEntry (name : Text) (value : Option Text) :
    List (Text × Option Text) → List (Text × Option Text)
  | [] => [(name, value)]
  | (key, old) :: rest =>
    if key = name then (name, value) :: rest else (key, old) :: setEntry name value rest

-- Replaces the value in place, or adds the name at the end.
def set (args : Arguments) (name : Text) (value : Option Text) : Arguments :=
  ⟨setEntry name value args.entries⟩

def insert (args : Arguments) (name value : Text) : Arguments := args.set name (some value)

def unset (args : Arguments) (name : Text) : Arguments := args.set name none

def erase (args : Arguments) (name : Text) : Arguments :=
  ⟨args.entries.eraseP (·.1 == name)⟩

-- Writes every entry of `top` over `args`, unset ones included.
def overlay (args top : Arguments) : Arguments :=
  top.entries.foldl (fun result (name, value) => result.set name value) args

def ofList (pairs : List (Text × Text)) : Arguments :=
  pairs.foldl (fun result (name, value) => result.insert name value) empty

end Arguments

end RouteTable
