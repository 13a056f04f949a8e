import RouteTable.Proofs.Regex.Reader

namespace RouteTable.Regex

inductive Token where
  | opening (opening : Opening)
  | closing
  | bar
  | quantifier (low : Nat) (high : Option Nat) (greedy : Bool)
  | part (ast : Ast)

-- A simple quantifier, made lazy by a question mark right behind it.
def quantified (low : Nat) (high : Option Nat) : Text → Token × Text
  | '?' :: later => (.quantifier low high false, later)
  | rest => (.quantifier low high true, rest)

def tokenFrom? (free : Bool) (c : Char) (rest : Text) : Option (Token × Text) :=
  match c with
  | '(' => (readOpening free rest).map fun (opening, later) => (.opening opening, later.1)
  | ')' => some (.closing, rest)
  | '|' => some (.bar, rest)
  | '[' => (readClass free rest).map fun (set, later) => (.part (.class set), later.1)
  | '?' => some (quantified 0 (some 1) rest)
  | '*' => some (quantified 0 none rest)
  | '+' => some (quantified 1 none rest)
  | '\x7b' => (readBounds free rest).map fun ((low, high, greedy), later) =>
      (.quantifier low high greedy, later.1)
  | '\\' => (readEscape free rest).map fun (atom, later) => (.part atom.toAst, later.1)
  | '.' => some (.part .dot, rest)
  | '^' => some (.part (.assertion .caret), rest)
  | '$' => some (.part (.assertion .dollar), rest)
  | c => some (.part (.literal ⟨c, false⟩), rest)

theorem quantified_greedy {low : Nat} {high : Option Nat} {rest : Text}
    (greedy : ∀ later, rest ≠ '?' :: later) :
    quantified low high rest = (.quantifier low high true, rest) := by
  unfold quantified
  split
  · exact absurd rfl (greedy _)
  · rfl

theorem next_of_end {free : Bool} {s : Text} (ended : skip free s = []) : next? free s = none := by
  unfold next?
  split
  · rfl
  · next found =>
    rw [ended] at found
    cases found

theorem next_of_skip {free : Bool} {s rest : Text} {c : Char} (found : skip free s = c :: rest) :
    ∃ shorter, next? free s = some (c, ⟨rest, shorter⟩) := by
  have shorter : rest.length < s.length := by
    have fits := length_skip_le free s
    rw [found] at fits
    exact fits
  refine ⟨shorter, ?_⟩
  unfold next?
  split
  · next none =>
    rw [found] at none
    cases none
  · next other =>
    rw [found] at other
    cases other
    rfl

-- What makes a token, and what it leaves of the text behind its first character.
inductive Made (free : Bool) (s : Text) : Token → Text → Prop
  | opening {opening : Opening} {later : Rest s} (read : readOpening free s = some (opening, later)) :
    Made free s (.opening opening) later.1
  | set {set : ClassAst} {later : Rest s} (read : readClass free s = some (set, later)) :
    Made free s (.part (.class set)) later.1
  | escape {atom : Atom} {later : Rest s} (read : readEscape free s = some (atom, later)) :
    Made free s (.part atom.toAst) later.1
  | bounds {low : Nat} {high : Option Nat} {greedy : Bool} {later : Rest s}
    (read : readBounds free s = some ((low, high, greedy), later)) :
    Made free s (.quantifier low high greedy) later.1
  | greedy (low : Nat) (high : Option Nat) : Made free s (.quantifier low high true) s
  | lazy (low : Nat) (high : Option Nat) {later : Text} (marked : s = '?' :: later) :
    Made free s (.quantifier low high false) later
  | closing : Made free s .closing s
  | bar : Made free s .bar s
  | dot : Made free s (.part .dot) s
  | assertion (kind : AssertionAst) : Made free s (.part (.assertion kind)) s
  | literal (l : Literal) : Made free s (.part (.literal l)) s

theorem made_of_token {free : Bool} {c : Char} {s later : Text} {token : Token}
    (read : tokenFrom? free c s = some (token, later)) : Made free s token later := by
  have quantify {low : Nat} {high : Option Nat}
      (read : some (quantified low high s) = some (token, later)) : Made free s token later := by
    unfold quantified at read
    split at read
    · cases read
      exact .lazy low high rfl
    · cases read
      exact .greedy low high
  unfold tokenFrom? at read
  split at read
  case h_1 =>
    obtain ⟨_, found, same⟩ := Option.map_eq_some_iff.mp read
    cases same
    exact .opening found
  case h_2 =>
    cases read
    exact .closing
  case h_3 =>
    cases read
    exact .bar
  case h_4 =>
    obtain ⟨_, found, same⟩ := Option.map_eq_some_iff.mp read
    cases same
    exact .set found
  case h_5 | h_6 | h_7 => exact quantify read
  case h_8 =>
    obtain ⟨_, found, same⟩ := Option.map_eq_some_iff.mp read
    cases same
    exact .bounds found
  case h_9 =>
    obtain ⟨_, found, same⟩ := Option.map_eq_some_iff.mp read
    cases same
    exact .escape found
  case h_10 =>
    cases read
    exact .dot
  case h_11 | h_12 =>
    cases read
    exact .assertion _
  case h_13 =>
    cases read
    exact .literal _

theorem length_of_tokenFrom {free : Bool} {c : Char} {rest later : Text} {token : Token}
    (read : tokenFrom? free c rest = some (token, later)) : later.length ≤ rest.length := by
  cases made_of_token read with
  | @opening _ later | @set _ later | @escape _ later | @bounds _ _ _ later => exact later.2
  | lazy _ _ marked => exact marked ▸ Nat.le_succ _
  | greedy | closing | bar | dot | assertion | literal => exact Nat.le_refl _

namespace Reader

variable {reader : Reader} {s rest : Text}

def advance? (reader : Reader) : Token → Option Reader
  | .opening opening => reader.open? opening
  | .closing => reader.close?
  | .bar => some reader.branch
  | .quantifier low high greedy => reader.repeat? low high greedy
  | .part ast => some (reader.push ast)

theorem read_end (ended : skip reader.free s = []) :
    reader.read s = if reader.groups.isEmpty then some reader.body else none := by
  rw [Reader.read, next_of_end ended]

theorem read_token {c : Char} (found : skip reader.free s = c :: rest) :
    reader.read s = (tokenFrom? reader.free c rest).bind fun (token, later) =>
      (reader.advance? token).bind fun next => next.read later := by
  obtain ⟨shorter, here⟩ := next_of_skip found
  rw [Reader.read, here]
  simp only
  split <;> unfold tokenFrom?
  case h_1 =>
    cases readOpening reader.free rest with
    | none => rfl
    | some pair =>
      simp only [Option.map_some, Option.bind_some, advance?]
      cases reader.open? pair.1 <;> rfl
  case h_2 =>
    simp only [Option.bind_some, advance?]
    cases reader.close? <;> rfl
  case h_3 => rfl
  case h_4 => cases readClass reader.free rest <;> rfl
  case h_5 | h_6 | h_7 =>
    simp only [Option.bind_some]
    split
    · simp only [quantified, advance?]
      split
      · next refused => rw [refused]; rfl
      · next allowed => rw [allowed]; rfl
    · next greedy =>
      rw [quantified_greedy greedy]
      simp only [advance?]
      split
      · next refused => rw [refused]; rfl
      · next allowed => rw [allowed]; rfl
  case h_8 =>
    cases readBounds reader.free rest with
    | none => rfl
    | some pair =>
      simp only [Option.map_some, Option.bind_some, advance?]
      cases reader.repeat? pair.1.1 pair.1.2.1 pair.1.2.2 <;> rfl
  case h_9 => cases readEscape reader.free rest <;> rfl
  case h_10 | h_11 | h_12 => rfl
  case h_13 =>
    split
    case h_13 => rfl
    all_goals contradiction

-- A way to the end of a text, and what of it is left: nothing that counts.
inductive Reads : Reader → Text → Reader → Text → Prop
  | ended {reader : Reader} {s : Text} (ended : skip reader.free s = []) :
    Reads reader s reader s
  | token {reader next final : Reader} {s rest later left : Text} {c : Char} {token : Token}
    (found : skip reader.free s = c :: rest)
    (read : tokenFrom? reader.free c rest = some (token, later))
    (applied : reader.advance? token = some next) (onward : Reads next later final left) :
    Reads reader s final left

theorem reads_of_read {reader : Reader} {s : Text} {ast : Ast} (read : reader.read s = some ast) :
    ∃ final left, Reads reader s final left ∧ final.groups = [] ∧ final.body = ast := by
  cases found : skip reader.free s with
  | nil =>
    rw [read_end found] at read
    split at read
    · next closed =>
      exact ⟨reader, s, .ended found, List.isEmpty_iff.mp closed, Option.some.inj read⟩
    · cases read
  | cons c rest =>
    rw [read_token found] at read
    obtain ⟨⟨token, later⟩, tokenized, read⟩ := Option.bind_eq_some_iff.mp read
    obtain ⟨next, applied, read⟩ := Option.bind_eq_some_iff.mp read
    obtain ⟨fits, _⟩ := next_of_skip found
    have shorter : later.length < s.length :=
      Nat.lt_of_le_of_lt (length_of_tokenFrom tokenized) fits
    obtain ⟨final, left, onward, closed, body⟩ := reads_of_read read
    exact ⟨final, left, .token found tokenized applied onward, closed, body⟩
termination_by s.length

end Reader

end RouteTable.Regex
