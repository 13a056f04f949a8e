import RouteTable.Toml.Reader

namespace RouteTable.Toml

inductive Statement where
  -- `[path]`
  | table (path : KeyPath)
  -- `[[path]]`
  | element (path : KeyPath)
  -- `path = value`
  | pair (path : KeyPath) (value : Value)

def finish? (s : Text) : Option (Rest s) :=
  if s.isEmpty then some (.whole s) else (lineEnd? s).map (·.toRest)

def lineRest? (s : Text) : Option (Rest s) :=
  match skipComment? (skipBlanks s).1 with
  | none => none
  | some comment =>
    (finish? comment.1).map fun later => (skipBlanks s).trans (comment.trans later)

def header? (closing : Text) (s : Text) : Option (KeyPath × Rest s) :=
  match keyPath? s with
  | none => none
  | some (path, later) =>
    if closing.isPrefixOf later.1 then
      some (path, (later.trans (.drop closing.length later.1)).toRest)
    else none

def statement? (s : Text) : Option (Statement × Shorter s) :=
  match s with
  | '[' :: '[' :: rest => (header? "]]" rest).map fun (path, later) =>
      (.element path, later.cons.toRest.cons)
  | '[' :: rest => (header? "]" rest).map fun (path, later) =>
      (.table path, later.cons)
  | s => (pair? (value? (nestingLimit - 1)) s).map fun ((path, value), later) =>
      (.pair path value, later)

def emptyLine? (s : Text) : Option (Shorter s) :=
  match s with
  | '#' :: rest =>
    match comment? rest with
    | none => none
    | some comment => (finish? comment.1).map fun later => (comment.trans later).cons
  | s => lineEnd? s

def statements? (s : Text) : Option (List Statement) :=
  let start := skipBlanks s
  if start.1.isEmpty then some []
  else match emptyLine? start.1 with
    | some ended =>
      let next : Shorter s := start.transShorter ended
      statements? next.1
    | none =>
      match statement? start.1 with
      | none => none
      | some (statement, after) =>
        match lineRest? after.1 with
        | none => none
        | some later =>
          let next : Shorter s := start.transShorter (after.trans later)
          (statements? next.1).map (statement :: ·)
termination_by s.length
decreasing_by all_goals exact next.2

structure Document where
  entries : Entries := []
  -- The way to the table that was opened last.
  way : List Text := []

namespace Document

def change (document : Document) (change : Entries.Change) : Option Document :=
  (change .header document.entries).map fun (_, entries) => { document with entries }

def add (document : Document) : Statement → Option Document
  | .table path => do
    let changed ← document.change (Entries.openTable path)
    return { changed with way := path.parents ++ [path.key] }
  | .element path => do
    let changed ← document.change (Entries.openElement path)
    return { changed with way := path.parents ++ [path.key] }
  | .pair path value =>
    document.change (Entries.changeAt .implicit (Entries.addAt path value) document.way)

end Document

-- A byte order mark at the start does not count.
def dropMark : Text → Text
  | '\uFEFF' :: rest => rest
  | s => s

def read? (s : Text) : Option Entries := do
  let statements ← statements? (dropMark s)
  let document ← statements.foldlM Document.add {}
  return document.entries

end RouteTable.Toml
