import RouteTable.Toml.Quoted
import RouteTable.Toml.Scalar

namespace RouteTable.Toml

-- Values stand in fewer than this many brackets and braces, and keys have fewer names.
def nestingLimit : Nat := 80

def skipBlanks (s : Text) : Rest s := (Text.span isBlank s).2

def comment? (s : Text) : Option (Rest s) :=
  let (comment, later) := Text.span (fun c => c != '\n' && c != '\r') s
  if comment.all isPlain then some later else none

def skipComment? (s : Text) : Option (Rest s) :=
  match s with
  | '#' :: rest => (comment? rest).map (·.cons.toRest)
  | s => some (.whole s)

def isBareKeyChar (c : Char) : Bool := c.isAlphanum || c == '_' || c == '-'

def name? (s : Text) : Option (Text × Shorter s) :=
  match s with
  | [] => none
  | c :: rest =>
    if isBareKeyChar c then
      let (more, later) := Text.span isBareKeyChar rest
      some (c :: more, later.cons)
    else quoted? (c :: rest)

def names? (s : Text) : Option (List Text × Shorter s) :=
  match name? (skipBlanks s).1 with
  | none => none
  | some (name, after) =>
    let next : Shorter s := (skipBlanks s).transShorter (after.trans (skipBlanks after.1))
    match next.token? '.' with
    | none => some ([name], next)
    | some start =>
      (names? start.1).map fun (names, later) => (name :: names, start.trans later.toRest)
termination_by s.length
decreasing_by exact start.2

def KeyPath.ofNames? (names : List Text) : Option KeyPath :=
  names.getLast?.map fun key => { parents := names.dropLast, key }

def keyPath? (s : Text) : Option (KeyPath × Shorter s) :=
  match names? s with
  | none => none
  | some (names, later) =>
    if names.length < nestingLimit then (KeyPath.ofNames? names).map fun path => (path, later)
    else none

abbrev ValueReader := (s : Text) → Option (Value × Shorter s)

def pair? (value? : ValueReader) (s : Text) : Option ((KeyPath × Value) × Shorter s) :=
  match keyPath? s with
  | none => none
  | some (path, afterKey) =>
    match afterKey.token? '=' with
    | none => none
    | some start =>
      let start := start.trans (skipBlanks start.1)
      (value? start.1).map fun (value, later) => ((path, value), start.trans later.toRest)

def skipLines? (s : Text) : Option (Rest s) :=
  let start := skipBlankLines s
  if start.1.head? = some '#' then
    match skipComment? start.1 with
    | none => none
    | some comment =>
      match lineEnd? comment.1 with
      | none => none
      | some ended =>
        let next : Shorter s := start.transShorter (comment.transShorter ended)
        (skipLines? next.1).map fun later => (next.trans later).toRest
  else some start
termination_by s.length
decreasing_by exact next.2

-- The elements of an array after its opening bracket. A comma may follow the last one.
def elements? (value? : ValueReader) (s : Text) : Option (List Value × Shorter s) :=
  match skipLines? s with
  | none => none
  | some start =>
    match start.token? ']' with
    | some closed => some ([], closed)
    | none =>
      match value? start.1 with
      | none => none
      | some (value, afterValue) =>
        match skipLines? afterValue.1 with
        | none => none
        | some afterLines =>
          let next : Shorter s := start.transShorter (afterValue.trans afterLines)
          match next.token? ']', next.token? ',' with
          | some closed, _ => some ([value], closed)
          | none, some more =>
            (elements? value? more.1).map fun (values, later) =>
              (value :: values, more.trans later.toRest)
          | none, none => none
termination_by s.length
decreasing_by exact more.2

-- The pairs of a table in braces, from the first one on. They stand on one line, and no comma
-- follows the last one.
def pairs? (value? : ValueReader) (s : Text) : Option (List (KeyPath × Value) × Shorter s) :=
  match pair? value? s with
  | none => none
  | some (pair, afterPair) =>
    let next : Shorter s := afterPair.trans (skipBlanks afterPair.1)
    match next.token? '\x7d', next.token? ',' with
    | some closed, _ => some ([pair], closed)
    | none, some more =>
      (pairs? value? more.1).map fun (pairs, later) => (pair :: pairs, more.trans later.toRest)
    | none, none => none
termination_by s.length
decreasing_by exact more.2

def Entries.ofPairs? (pairs : List (KeyPath × Value)) : Option Entries :=
  pairs.foldlM (fun entries (path, value) => (entries.addAt path value .inline).map (·.2)) []

def inlineTable? (value? : ValueReader) (s : Text) : Option (Value × Shorter s) :=
  let start := skipBlanks s
  match start.token? '\x7d' with
  | some closed => some (.table .inline [], closed)
  | none =>
    match pairs? value? start.1 with
    | none => none
    | some (pairs, later) => (Entries.ofPairs? pairs).map fun entries =>
        (.table .inline entries, start.transShorter later)

def scalar? (s : Text) : Option (Value × Shorter s) :=
  match s with
  | [] => none
  | c :: rest =>
    match Scalar.token (c :: rest) with
    | [] => none
    | token => (Scalar.ofToken? token).map fun value =>
        (value, (Rest.drop (token.length - 1) rest).cons)

def value? (depth : Nat) (s : Text) : Option (Value × Shorter s) :=
  match s with
  | [] => none
  | c :: rest =>
    let inside {α : Type} (read : Option (α × Shorter rest)) (value : α → Value) :
        Option (Value × Shorter (c :: rest)) :=
      read.map fun (content, later) => (value content, later.toRest.cons)
    if c = '"' || c = '\'' then
      (text? (c :: rest)).map fun (text, later) => (.text text, later)
    else if c = '[' then
      match depth with
      | 0 => none
      | depth + 1 => inside (elements? (value? depth) rest) (.array .inline)
    else if c = '\x7b' then
      match depth with
      | 0 => none
      | depth + 1 => inside (inlineTable? (value? depth) rest) id
    else scalar? (c :: rest)

end RouteTable.Toml
