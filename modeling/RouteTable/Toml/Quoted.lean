import RouteTable.Text.Rest

namespace RouteTable.Toml

-- Tabs are the only control characters that stand unescaped.
def isPlain (c : Char) : Bool := c == '\t' || 0x20 ≤ c.toNat && c.toNat != 0x7F

def isBlank (c : Char) : Bool := c == ' ' || c == '\t'

def lineEnd? (s : Text) : Option (Shorter s) :=
  match s with
  | '\n' :: rest => some (.tail _ rest)
  | '\r' :: '\n' :: rest => some (Shorter.tail _ rest).toRest.cons
  | _ => none

def skipBlankLines (s : Text) : Rest s :=
  match s with
  | [] => .whole []
  | c :: rest =>
    if isBlank c then (skipBlankLines rest).cons.toRest
    else match lineEnd? (c :: rest) with
      | none => .whole _
      | some ended => (ended.trans (skipBlankLines ended.1)).toRest
termination_by s.length
decreasing_by
  · simp
  · exact ended.2

def numbered? (count : Nat) (s : Text) : Option (Char × Rest s) :=
  let digits := s.take count
  if digits.length = count && digits.all Text.isHexDigit then
    (Text.charOfCode? (Text.numberValue 16 digits)).map fun c => (c, .drop count s)
  else none

def escape? (s : Text) : Option (Char × Shorter s) :=
  match s with
  | [] => none
  | c :: rest =>
    let one (value : Char) : Option (Char × Shorter (c :: rest)) := some (value, .tail c rest)
    let many (count : Nat) : Option (Char × Shorter (c :: rest)) :=
      (numbered? count rest).map fun (value, later) => (value, later.cons)
    match c with
    | 'b' => one '\x08'
    | 't' => one '\t'
    | 'n' => one '\n'
    | 'f' => one '\x0c'
    | 'r' => one '\r'
    | '"' => one '"'
    | '\\' => one '\\'
    | 'u' => many 4
    | 'U' => many 8
    | _ => none

def lineText? (mark : Char) (s : Text) : Option (Text × Shorter s) :=
  match s with
  | [] => none
  | c :: rest =>
    if c = mark then some ([], .tail c rest)
    else if c = '\\' && mark = '"' then
      match escape? rest with
      | none => none
      | some (value, after) => (lineText? mark after.1).map fun (text, later) =>
          (value :: text, (after.trans later.toRest).toRest.cons)
    else if isPlain c then
      (lineText? mark rest).map fun (text, later) => (c :: text, later.toRest.cons)
    else none
termination_by s.length
decreasing_by
  · have := after.2
    simp only [List.length_cons]
    omega
  · simp

-- Three marks close a text on several lines; up to two more in front of them belong to it.
def closing? (mark : Char) (s : Text) : Option (Text × Shorter s) :=
  let count := (s.takeWhile (· == mark)).length
  if _enough : 3 ≤ count then
    let inside := min (count - 3) 2
    some (List.replicate inside mark, ⟨s.drop (inside + 3), by
      have : (s.takeWhile (· == mark)).length ≤ s.length := (List.takeWhile_prefix _).length_le
      simp only [List.length_drop]
      omega⟩)
  else none

-- The rest of a text on several lines. Every line end counts as a line feed; a backslash at the end
-- of a line takes away the blanks and line ends after it.
def linesText? (mark : Char) (s : Text) : Option (Text × Shorter s) :=
  match closing? mark s with
  | some closed => some closed
  | none =>
    match s with
    | [] => none
    | c :: rest =>
      let onward (value : Text) (after : Shorter (c :: rest)) :
          Option (Text × Shorter (c :: rest)) :=
        (linesText? mark after.1).map fun (text, later) => (value ++ text, after.trans later.toRest)
      match lineEnd? (c :: rest) with
      | some after => onward ['\n'] after
      | none =>
        if c = '\\' && mark = '"' then
          let blanks := Text.span isBlank rest
          match lineEnd? blanks.2.1 with
          | some ended =>
            onward [] (blanks.2.trans (ended.trans (skipBlankLines ended.1)).toRest).cons
          | none =>
            match escape? rest with
            | none => none
            | some (value, after) => onward [value] after.toRest.cons
        else if isPlain c then onward [c] (.tail c rest)
        else none
termination_by s.length
decreasing_by exact after.2

def quoted? (s : Text) : Option (Text × Shorter s) :=
  match s with
  | c :: rest =>
    if c = '"' || c = '\'' then
      (lineText? c rest).map fun (text, later) => (text, later.toRest.cons)
    else none
  | [] => none

-- A text of either form. A line end right after three opening marks does not count.
def text? (s : Text) : Option (Text × Shorter s) :=
  match s with
  | a :: b :: c :: rest =>
    if a = b && b = c && (a = '"' || a = '\'') then
      let start : Rest rest := match lineEnd? rest with
        | some later => later.toRest
        | none => .whole rest
      (linesText? a start.1).map fun (text, later) =>
        (text, (start.trans later.toRest).cons.toRest.cons.toRest.cons)
    else quoted? (a :: b :: c :: rest)
  | s => quoted? s

end RouteTable.Toml
