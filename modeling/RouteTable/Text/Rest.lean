import RouteTable.Text.Basic

namespace RouteTable

-- What is left of `s` after reading.
abbrev Rest (s : Text) := { rest : Text // rest.length ≤ s.length }

abbrev Shorter (s : Text) := { rest : Text // rest.length < s.length }

namespace Rest

def whole (s : Text) : Rest s := ⟨s, Nat.le_refl _⟩

def drop (count : Nat) (s : Text) : Rest s :=
  ⟨s.drop count, by rw [List.length_drop]; exact Nat.sub_le _ _⟩

def trans {s : Text} (first : Rest s) (later : Rest first.1) : Rest s :=
  ⟨later.1, Nat.le_trans later.2 first.2⟩

def cons {c : Char} {s : Text} (later : Rest s) : Shorter (c :: s) :=
  ⟨later.1, Nat.lt_succ_of_le later.2⟩

def transShorter {s : Text} (first : Rest s) (later : Shorter first.1) : Shorter s :=
  ⟨later.1, Nat.lt_of_lt_of_le later.2 first.2⟩

def token? {s : Text} (later : Rest s) (c : Char) : Option (Shorter s) :=
  match later with
  | ⟨[], _⟩ => none
  | ⟨next :: rest, fits⟩ => if next = c then some ⟨rest, fits⟩ else none

end Rest

namespace Shorter

def toRest {s : Text} (later : Shorter s) : Rest s := ⟨later.1, Nat.le_of_lt later.2⟩

def tail (c : Char) (s : Text) : Shorter (c :: s) := ⟨s, Nat.lt_succ_self _⟩

def trans {s : Text} (first : Shorter s) (later : Rest first.1) : Shorter s :=
  ⟨later.1, Nat.lt_of_le_of_lt later.2 first.2⟩

def token? {s : Text} (later : Shorter s) (c : Char) : Option (Shorter s) := later.toRest.token? c

end Shorter

namespace Text

theorem length_dropWhile_le (p : Char → Bool) (s : Text) : (s.dropWhile p).length ≤ s.length :=
  (List.dropWhile_suffix p).length_le

def span (kind : Char → Bool) (s : Text) : Text × Rest s :=
  (s.takeWhile kind, ⟨s.dropWhile kind, length_dropWhile_le kind s⟩)

def digitValue (c : Char) : Nat :=
  if c.isDigit then c.toNat - 48 else if c.isLower then c.toNat - 87 else c.toNat - 55

def numberValue (base : Nat) (digits : Text) : Nat :=
  digits.foldl (fun value c => value * base + digitValue c) 0

def isHexDigit (c : Char) : Bool :=
  c.isDigit || 'a' ≤ c && c ≤ 'f' || 'A' ≤ c && c ≤ 'F'

-- The character with a number; surrogates and numbers beyond the last plane have none.
def charOfCode? (code : Nat) : Option Char :=
  if code.isValidChar then some (Char.ofNat code) else none

end Text

end RouteTable
