import RouteTable.Regex.ClassReader

namespace RouteTable.Regex

def Flag.ofChar? : Char → Option Flag
  | 'i' => some .caseInsensitive
  | 'm' => some .multiLine
  | 's' => some .dotMatchesNewline
  | 'U' => some .swapGreed
  | 'u' => some .unicode
  | 'R' => some .carriageReturn
  | 'x' => some .freeSpacing
  | _ => none

def FlagChange.isEmpty (change : FlagChange) : Bool := change.on.isEmpty && change.off.isEmpty

def FlagChange.state? (change : FlagChange) (flag : Flag) : Option Bool :=
  if change.on.contains flag then some true
  else if change.off.contains flag then some false
  else none

-- Flags up to a closing parenthesis or a colon. No flag is named twice, and the hyphen stands once
-- and before a flag.
def readFlags (change : FlagChange) (negating dangling : Bool) (s : Text) :
    Option (FlagChange × Char × Rest s) :=
  match s with
  | [] => none
  | c :: rest =>
    if c = ')' || c = ':' then
      if dangling then none else some (change, c, (Shorter.tail c rest).toRest)
    else
      let read := if c = '-' then
          if negating then none else readFlags change true true rest
        else match Flag.ofChar? c with
          | none => none
          | some flag =>
            if change.on.contains flag || change.off.contains flag then none
            else if negating then
              readFlags { change with off := flag :: change.off } true false rest
            else readFlags { change with on := flag :: change.on } false false rest
      read.map fun (change, c, later) => (change, c, later.cons.toRest)

def isNameStart (c : Char) : Bool := c == '_' || Unicode.isAlphabetic c

def isNameChar (c : Char) : Bool :=
  c == '_' || c == '.' || c == '[' || c == ']' || Unicode.isAlphanumeric c

inductive Opening where
  | capture (name : Option Text)
  | group (change : FlagChange)
  | flags (change : FlagChange)

def readName (s : Text) : Option (Opening × Rest s) :=
  let name := s.takeWhile (· != '>')
  match _closed : s.dropWhile (· != '>') with
  | [] => none
  | _ :: rest =>
    if name.head?.any isNameStart && name.all isNameChar then
      some (.capture (some name), ⟨rest, by
        have := Text.length_dropWhile_le (· != '>') s
        rw [_closed] at this
        simp only [List.length_cons] at this
        omega⟩)
    else none

-- What stands after an opening parenthesis. Groups that look around are not supported.
def readOpening (free : Bool) (s : Text) : Option (Opening × Rest s) :=
  let start := skip free s
  have fits : start.length ≤ s.length := length_skip_le free s
  match _marked : start with
  | '?' :: '=' :: _ => none
  | '?' :: '!' :: _ => none
  | '?' :: '<' :: '=' :: _ => none
  | '?' :: '<' :: '!' :: _ => none
  | '?' :: 'P' :: '<' :: rest => (readName rest).map fun (opening, later) =>
      (opening, ⟨later.1, by
        have := later.2
        simp_all only [List.length_cons]
        omega⟩)
  | '?' :: '<' :: rest => (readName rest).map fun (opening, later) =>
      (opening, ⟨later.1, by
        have := later.2
        simp_all only [List.length_cons]
        omega⟩)
  | '?' :: rest =>
    match readFlags {} false false rest with
    | none => none
    | some (change, c, later) =>
      let final : Rest s := ⟨later.1, by
        have := later.2
        simp_all only [List.length_cons]
        omega⟩
      if c = ':' then some (.group change, final)
      else if change.isEmpty then none
      else some (.flags change, final)
  | rest => some (.capture none, ⟨rest, fits⟩)

def readBounds (free : Bool) (s : Text) : Option ((Nat × Option Nat × Bool) × Rest s) :=
  let laziness (low : Nat) (high : Option Nat) (rest : Text) (fits : rest.length ≤ s.length) :
      (Nat × Option Nat × Bool) × Rest s :=
    have := length_skip_le free rest
    match _lazy : skip free rest with
    | '?' :: later => ((low, high, false), ⟨later, by
        rw [_lazy] at this
        simp only [List.length_cons] at this
        omega⟩)
    | _ => ((low, high, true), ⟨rest, fits⟩)
  let start := skip free s
  have fits : start.length ≤ s.length := length_skip_le free s
  match decimal? free start with
  | none => none
  | some (low, afterLow) =>
    have fitsLow := afterLow.2
    match _separator : afterLow.1 with
    | '\x7d' :: rest => some (laziness low (some low) rest (by
        simp only [_separator, List.length_cons] at fitsLow
        omega))
    | ',' :: rest =>
      have := length_skip_le free rest
      match _open : skip free rest with
      | '\x7d' :: final => some (laziness low none final (by
          simp only [_separator, _open, List.length_cons] at *
          omega))
      | inner =>
        match decimal? free inner with
        | none => none
        | some (high, afterHigh) =>
          have fitsHigh := afterHigh.2
          match _end : afterHigh.1 with
          | '\x7d' :: final =>
            if low ≤ high then
              some (laziness low (some high) final (by
                simp only [_separator, _open, _end, List.length_cons] at *
                omega))
            else none
          | _ => none
    | _ => none

structure OpenGroup where
  opening : Opening
  parts : List Ast
  branches : List Ast
  free : Bool

-- Groups that are open stand on a stack; parts and branches are kept last first.
structure Reader where
  parts : List Ast := []
  branches : List Ast := []
  free : Bool := false
  names : List Text := []
  groups : List OpenGroup := []

namespace Reader

def push (reader : Reader) (part : Ast) : Reader :=
  { reader with parts := part :: reader.parts }

def branch (reader : Reader) : Reader :=
  { reader with parts := [], branches := Ast.ofParts reader.parts :: reader.branches }

def body (reader : Reader) : Ast :=
  Ast.ofBranches (Ast.ofParts reader.parts :: reader.branches)

-- Blanks count again, or stop counting, from a change of flags to the end of its group.
def open? (reader : Reader) (opening : Opening) : Option Reader :=
  let inside := { reader with
    parts := [], branches := []
    groups := ⟨opening, reader.parts, reader.branches, reader.free⟩ :: reader.groups }
  match opening with
  | .flags change =>
    some { reader.push (.flags change) with
      free := (change.state? .freeSpacing).getD reader.free }
  | .group change => some { inside with free := (change.state? .freeSpacing).getD reader.free }
  | .capture none => some inside
  | .capture (some name) =>
    if reader.names.contains name then none
    else some { inside with names := name :: reader.names }

def close? (reader : Reader) : Option Reader :=
  match reader.groups with
  | [] => none
  | innermost :: groups =>
    let part := match innermost.opening with
      | .capture name => Ast.capture name reader.body
      | .group change => Ast.group change reader.body
      | .flags change => Ast.flags change
    some { reader with
      parts := part :: innermost.parts, branches := innermost.branches
      free := innermost.free, groups }

def repeat? (reader : Reader) (low : Nat) (high : Option Nat) (greedy : Bool) : Option Reader :=
  match reader.parts with
  | [] => none
  | part :: parts =>
    if part.isOperand then
      some { reader with parts := .repetition part low high greedy :: parts }
    else none

def read (reader : Reader) (s : Text) : Option Ast :=
  match next? reader.free s with
  | none => if reader.groups.isEmpty then some reader.body else none
  | some (c, rest) =>
    let quantified (low : Nat) (high : Option Nat) : Option Ast :=
      match _lazy : rest.1 with
      | '?' :: later =>
        match reader.repeat? low high false with
        | none => none
        | some reader => read reader later
      | _ =>
        match reader.repeat? low high true with
        | none => none
        | some reader => read reader rest.1
    match c with
    | '(' =>
      match readOpening reader.free rest.1 with
      | none => none
      | some (opening, later) =>
        match reader.open? opening with
        | none => none
        | some reader => read reader later.1
    | ')' =>
      match reader.close? with
      | none => none
      | some reader => read reader rest.1
    | '|' => read reader.branch rest.1
    | '[' =>
      match readClass reader.free rest.1 with
      | none => none
      | some (set, later) => read (reader.push (.class set)) later.1
    | '?' => quantified 0 (some 1)
    | '*' => quantified 0 none
    | '+' => quantified 1 none
    | '\x7b' =>
      match readBounds reader.free rest.1 with
      | none => none
      | some ((low, high, greedy), later) =>
        match reader.repeat? low high greedy with
        | none => none
        | some reader => read reader later.1
    | '\\' =>
      match readEscape reader.free rest.1 with
      | none => none
      | some (atom, later) => read (reader.push atom.toAst) later.1
    | '.' => read (reader.push .dot) rest.1
    | '^' => read (reader.push (.assertion .caret)) rest.1
    | '$' => read (reader.push (.assertion .dollar)) rest.1
    | c => read (reader.push (.literal ⟨c, false⟩)) rest.1
termination_by s.length
decreasing_by
  all_goals
    have := rest.2
    try have := later.2
    try simp only [_lazy, List.length_cons] at this
    omega

end Reader

def Ast.ofText? (pattern : Text) : Option Ast := Reader.read {} pattern

end RouteTable.Regex
