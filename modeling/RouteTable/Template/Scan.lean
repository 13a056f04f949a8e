import RouteTable.Template.Basic
import RouteTable.Template.Requirement

namespace RouteTable.Template

def isNameChar (c : Char) : Bool := c.isAlphanum || c == '_'

-- A requirement up to the brace that closes its hole: braces inside it balance, and a backslash
-- takes the next character as it is.
def readRequirement (depth : Nat) (escaped : Bool) : Text → Option (Text × Text)
  | [] => none
  | c :: rest =>
    let onward (depth : Nat) (escaped : Bool) : Option (Text × Text) :=
      (readRequirement depth escaped rest).map fun (requirement, later) => (c :: requirement, later)
    if escaped then onward depth false
    else match c, depth with
      | '\\', _ => onward depth true
      | '\x7b', _ => onward (depth + 1) false
      | '\x7d', 0 => some ([], rest)
      | '\x7d', depth + 1 => onward depth false
      | _, _ => onward depth false

def readHole (s : Text) : Except TemplateFault (Text × Text × Text) :=
  let name := s.takeWhile isNameChar
  if name.isEmpty then .error .unnamedPlaceholder
  else if name.head?.any Char.isDigit then .error (.nameStartsWithDigit name)
  else match s.dropWhile isNameChar with
    | '\x7d' :: rest => .ok (name, defaultRequirement, rest)
    | ':' :: rest =>
      match readRequirement 0 false rest with
      | none => .error (.unterminatedPlaceholder name)
      | some (requirement, later) =>
        match Requirement.check name requirement with
        | .error fault => .error fault
        | .ok () => .ok (name, requirement, later)
    | _ => .error (.unterminatedPlaceholder name)

def readTrailing : Text → Except TemplateFault (Text × Text)
  | [] => .error .unterminatedGroup
  | c :: rest =>
    if c = ')' then .ok ([], rest)
    else if c = '\x7b' || c = '(' then .error .nestedGroup
    else if c = '\x7d' then .error (.unbalanced '\x7d')
    else match readTrailing rest with
      | .error fault => .error fault
      | .ok (text, later) => .ok (c :: text, later)

theorem length_of_readRequirement {depth : Nat} {escaped : Bool} {s requirement rest : Text}
    (read : readRequirement depth escaped s = some (requirement, rest)) :
    rest.length < s.length := by
  induction s generalizing depth escaped requirement with
  | nil => simp [readRequirement] at read
  | cons c tail ih =>
    simp only [readRequirement] at read
    split at read
    · simp only [Option.map_eq_some_iff, Prod.exists, Prod.mk.injEq] at read
      obtain ⟨_, _, later, _, rfl⟩ := read
      exact Nat.lt_succ_of_lt (ih later)
    · split at read
      case h_3 => simp_all
      all_goals
        simp only [Option.map_eq_some_iff, Prod.exists, Prod.mk.injEq] at read
        obtain ⟨_, _, later, _, rfl⟩ := read
        exact Nat.lt_succ_of_lt (ih later)

theorem length_of_readHole {s name requirement rest : Text}
    (read : readHole s = .ok (name, requirement, rest)) : rest.length < s.length := by
  have fits : (s.dropWhile isNameChar).length ≤ s.length := (List.dropWhile_suffix _).length_le
  simp only [readHole] at read
  split at read
  · simp at read
  · split at read
    · simp at read
    · split at read
      · next body =>
        simp only [Except.ok.injEq, Prod.mk.injEq] at read
        obtain ⟨_, _, rfl⟩ := read
        rw [body, List.length_cons] at fits
        omega
      · next body =>
        rw [body, List.length_cons] at fits
        split at read
        · simp at read
        · next inner =>
          have := length_of_readRequirement inner
          split at read
          · simp at read
          · simp only [Except.ok.injEq, Prod.mk.injEq] at read
            obtain ⟨_, _, rfl⟩ := read
            omega
      · simp at read

theorem length_of_readTrailing {s text rest : Text} (read : readTrailing s = .ok (text, rest)) :
    rest.length < s.length := by
  induction s generalizing text with
  | nil => simp [readTrailing] at read
  | cons c tail ih =>
    simp only [readTrailing] at read
    split at read
    · simp only [Except.ok.injEq, Prod.mk.injEq] at read
      obtain ⟨_, rfl⟩ := read
      simp
    · split at read
      · simp at read
      · split at read
        · simp at read
        · split at read
          · simp at read
          · next later =>
            simp only [Except.ok.injEq, Prod.mk.injEq] at read
            obtain ⟨_, rfl⟩ := read
            exact Nat.lt_succ_of_lt (ih later)

def flush (literal : Text) (segments : List Segment) : List Segment :=
  if literal.isEmpty then segments else .literal literal :: segments

-- `literal` is the literal text read since the last hole, last character first; `names` are the
-- names in use so far.
def scan (names : List Text) (literal : Text) (s : Text) : Except TemplateFault (List Segment) :=
  match s with
  | [] => .ok (flush literal.reverse [])
  | c :: rest =>
    if c = '\x7b' then
      match _hole : readHole rest with
      | .error fault => .error fault
      | .ok (name, requirement, later) =>
        if names.contains name then .error (.repeatedPlaceholder name)
        else match scan (name :: names) [] later with
          | .error fault => .error fault
          | .ok segments => .ok (flush literal.reverse (.hole { name, requirement } :: segments))
    else if c = '(' then
      match _group : rest with
      | '\x7b' :: inner =>
        match _hole : readHole inner with
        | .error fault => .error fault
        | .ok (name, requirement, afterHole) =>
          match _trailing : readTrailing afterHole with
          | .error fault => .error fault
          | .ok (trailing, later) =>
            if names.contains name then .error (.repeatedPlaceholder name)
            else match scan (name :: names) [] later with
              | .error fault => .error fault
              | .ok segments =>
                .ok (flush literal.reverse
                  (.hole { name, requirement, optional := true, trailing } :: segments))
      | _ => .error .groupWithoutPlaceholder
    else if c = ')' || c = '\x7d' then .error (.unbalanced c)
    else scan names (c :: literal) rest
termination_by s.length
decreasing_by
  · have := length_of_readHole _hole
    simp only [List.length_cons]
    omega
  · have := length_of_readHole _hole
    have := length_of_readTrailing _trailing
    simp only [List.length_cons]
    omega
  · simp

def read (text : Text) : Except RouteError Template :=
  match scan [] [] text with
  | .error fault => .error (.template text fault)
  | .ok segments => .ok { text, segments }

end RouteTable.Template
