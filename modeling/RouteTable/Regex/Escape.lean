import RouteTable.Regex.Ast
import RouteTable.Regex.Spacing

namespace RouteTable.Regex

inductive Atom where
  | literal (literal : Literal)
  | assertion (kind : AssertionAst)
  | class (set : ClassAst)

def Atom.toAst : Atom → Ast
  | literal l => .literal l
  | assertion kind => .assertion kind
  | «class» set => .class set

-- The characters that have a meaning of their own somewhere in a pattern.
def isMeta (c : Char) : Bool :=
  "\\.+*?()|[]\x7b\x7d^$#&-~".toList.contains c

-- A backslash before punctuation or a control of ASCII only takes away its meaning.
def isPlainEscape (c : Char) : Bool :=
  isMeta c || c.toNat < 0x80 && !c.isAlphanum && c != '<' && c != '>'

def escape (s : Text) : Text :=
  s.flatMap fun c => if isMeta c then ['\\', c] else [c]

def hexLiteral? (digits : Text) (asByte : Bool) : Option Atom :=
  if digits.isEmpty || !digits.all Text.isHexDigit then none
  else (Text.charOfCode? (Text.numberValue 16 digits)).map fun c => .literal ⟨c, asByte⟩

def fixed? (free : Bool) (count : Nat) (s : Text) : Option (Text × Rest s) :=
  match count with
  | 0 => some ([], .whole s)
  | count + 1 =>
    match next? free s with
    | none => none
    | some (c, rest) =>
      match fixed? free count rest.1 with
      | none => none
      | some (chars, later) =>
        some (c :: chars, (rest.trans later).toRest)

def readHex (free : Bool) (count : Nat) (s : Text) : Option (Atom × Rest s) :=
  match next? free s with
  | none => none
  | some (c, rest) =>
    if c = '\x7b' then
      match upToBrace free rest.1 with
      | none => none
      | some (digits, later) => (hexLiteral? digits false).map fun atom =>
          (atom, (rest.trans later).toRest)
    else
      match fixed? free count s with
      | none => none
      | some (digits, later) => (hexLiteral? digits (count == 2)).map fun atom => (atom, later)

-- What a property in braces asks for, and whether an unequal sign asks for the opposite.
def PropertyQuery.ofText (text : Text) : PropertyQuery × Bool :=
  match Text.cutAt? "!=" text with
  | some (property, sought) => (.value property sought, true)
  | none =>
    match (Text.cutAt? ":" text).or (Text.cutAt? "=" text) with
    | some (property, sought) => (.value property sought, false)
    | none => (.name text, false)

def readProperty (free negated : Bool) (s : Text) : Option (Atom × Rest s) :=
  match next? free s with
  | none => none
  | some (c, rest) =>
    if c = '\x7b' then
      match upToBrace free rest.1 with
      | none => none
      | some (text, later) =>
        let (query, opposite) := PropertyQuery.ofText text
        some (.class (.property query (negated != opposite)), (rest.trans later).toRest)
    else if c = '\\' then none
    else some (.class (.property (.name [c]) negated), rest.toRest)

def boundaryOf? (name : Text) : Option AssertionAst :=
  if name = "start".toList then some .wordStart
  else if name = "end".toList then some .wordEnd
  else if name = "start-half".toList then some .wordStartHalf
  else if name = "end-half".toList then some .wordEndHalf
  else none

-- A word boundary may be named in braces. Braces that do not start with a name are left for the
-- repetition that they are.
def readBoundary (free : Bool) (s : Text) : Option (Atom × Rest s) :=
  match s with
  | '\x7b' :: inner =>
    let named := run free (fun c => c.isAlpha || c == '-') inner
    if named.1.isEmpty then
      if named.2.1.isEmpty then none
      else some (.assertion .wordBoundary, .whole _)
    else match _closed : named.2.1 with
      | [] => none
      | c :: rest =>
        if c = '\x7d' then
          (boundaryOf? named.1).map fun kind => (.assertion kind, ⟨rest, by
            have := named.2.2
            rw [_closed] at this
            simp only [List.length_cons] at this ⊢
            omega⟩)
        else none
  | s => some (.assertion .wordBoundary, .whole s)

def simpleEscape? (c : Char) : Option Atom :=
  match c with
  | 'd' => some (.class (.word .digit false))
  | 'D' => some (.class (.word .digit true))
  | 's' => some (.class (.word .space false))
  | 'S' => some (.class (.word .space true))
  | 'w' => some (.class (.word .word false))
  | 'W' => some (.class (.word .word true))
  | 'a' => some (.literal ⟨'\x07', false⟩)
  | 'f' => some (.literal ⟨'\x0c', false⟩)
  | 't' => some (.literal ⟨'\t', false⟩)
  | 'n' => some (.literal ⟨'\n', false⟩)
  | 'r' => some (.literal ⟨'\r', false⟩)
  | 'v' => some (.literal ⟨'\x0b', false⟩)
  | 'A' => some (.assertion .textStart)
  | 'z' => some (.assertion .textEnd)
  | 'B' => some (.assertion .notWordBoundary)
  | '<' => some (.assertion .wordStart)
  | '>' => some (.assertion .wordEnd)
  | c => if isPlainEscape c then some (.literal ⟨c, false⟩) else none

-- Reads what follows a backslash. Digits would refer back to groups, which is not supported.
def readEscape (free : Bool) (s : Text) : Option (Atom × Rest s) :=
  match s with
  | [] => none
  | c :: rest =>
    let longer (later : Rest rest) : Rest (c :: rest) := later.cons.toRest
    match c with
    | 'x' => (readHex free 2 rest).map fun (atom, later) => (atom, longer later)
    | 'u' => (readHex free 4 rest).map fun (atom, later) => (atom, longer later)
    | 'U' => (readHex free 8 rest).map fun (atom, later) => (atom, longer later)
    | 'p' => (readProperty free false rest).map fun (atom, later) => (atom, longer later)
    | 'P' => (readProperty free true rest).map fun (atom, later) => (atom, longer later)
    | 'b' => (readBoundary free rest).map fun (atom, later) => (atom, longer later)
    | c => (simpleEscape? c).map fun atom => (atom, longer (.whole rest))

end RouteTable.Regex
