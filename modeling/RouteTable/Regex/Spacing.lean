import RouteTable.Text.Rest
import RouteTable.Unicode.Character

namespace RouteTable.Regex

def skipBlanks (inComment : Bool) : Text → Text
  | [] => []
  | c :: rest =>
    if inComment then skipBlanks (c != '\n') rest
    else if Unicode.isWhitespace c then skipBlanks false rest
    else if c = '#' then skipBlanks true rest
    else c :: rest

theorem length_skipBlanks_le (inComment : Bool) (s : Text) :
    (skipBlanks inComment s).length ≤ s.length := by
  induction s generalizing inComment with
  | nil => simp [skipBlanks]
  | cons c rest ih =>
    simp only [skipBlanks, List.length_cons]
    split
    · have := ih (c != '\n'); omega
    · split
      · have := ih false; omega
      · split
        · have := ih true; omega
        · simp

def skip (free : Bool) (s : Text) : Text := if free then skipBlanks false s else s

theorem length_skip_le (free : Bool) (s : Text) : (skip free s).length ≤ s.length := by
  cases free
  · exact Nat.le_refl _
  · exact length_skipBlanks_le false s

def next? (free : Bool) (s : Text) : Option (Char × Shorter s) :=
  match _skipped : skip free s with
  | [] => none
  | c :: rest =>
    some (c, ⟨rest, by
      have := length_skip_le free s
      rw [_skipped] at this
      exact this⟩)

def upToBrace (free : Bool) (s : Text) : Option (Text × Rest s) :=
  match next? free s with
  | none => none
  | some (c, rest) =>
    if c = '\x7d' then some ([], rest.toRest)
    else match upToBrace free rest.1 with
      | none => none
      | some (chars, later) =>
        some (c :: chars, (rest.trans later).toRest)
termination_by s.length
decreasing_by exact rest.2

def run (free : Bool) (kind : Char → Bool) (s : Text) : Text × Rest s :=
  match _skipped : skip free s with
  | [] => ([], ⟨[], Nat.zero_le _⟩)
  | c :: rest =>
    have shorter : rest.length < s.length := by
      have := length_skip_le free s
      rw [_skipped] at this
      exact this
    if kind c then
      let (chars, later) := run free kind rest
      (c :: chars, ⟨later.1, Nat.le_trans later.2 (Nat.le_of_lt shorter)⟩)
    else ([], ⟨c :: rest, shorter⟩)
termination_by s.length

-- A decimal number of at most 32 bits; blanks may stand around it in any mode.
def decimal? (free : Bool) (s : Text) : Option (Nat × Rest s) :=
  let start := s.dropWhile Unicode.isWhitespace
  let (digits, later) := run free Char.isDigit start
  if digits.isEmpty || 0x100000000 ≤ Text.numberValue 10 digits then none
  else
    some (Text.numberValue 10 digits, ⟨later.1.dropWhile Unicode.isWhitespace, by
      have := Text.length_dropWhile_le Unicode.isWhitespace later.1
      have := Text.length_dropWhile_le Unicode.isWhitespace s
      have := later.2
      simp only [start] at this
      omega⟩)

end RouteTable.Regex
