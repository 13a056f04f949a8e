import RouteTable.Regex.Program

namespace RouteTable.Regex

inductive Mark where
  | enter (name : Text) (position : Nat)
  | leave (name : Text) (position : Nat)
deriving DecidableEq, Repr

structure Thread where
  address : Nat
  position : Nat
  before : Option Char
  rest : Text
  marks : List Mark
deriving DecidableEq, Repr

namespace Thread

def goto (thread : Thread) (address : Nat) : Thread := { thread with address }

def record (thread : Thread) (mark : Mark) : Thread :=
  { thread with marks := mark :: thread.marks }

def step (thread : Thread) : Instr → List Thread
  | .consume set next =>
    match thread.rest with
    | c :: rest =>
      if set.contains c then
        [{ thread with
            address := next, position := thread.position + 1, before := some c, rest := rest }]
      else []
    | [] => []
  | .check assertion next =>
    if assertion.holds thread.before thread.rest.head? then [thread.goto next] else []
  | .choose preferred other => [thread.goto preferred, thread.goto other]
  | .enter name next => [(thread.goto next).record (.enter name thread.position)]
  | .leave name next => [(thread.goto next).record (.leave name thread.position)]
  | .jump next => [thread.goto next]
  | .accept => []

end Thread

def starts (position : Nat) (before : Option Char) : Text → List Thread
  | [] => [⟨0, position, before, [], []⟩]
  | c :: rest => ⟨0, position, before, c :: rest, []⟩ :: starts (position + 1) (some c) rest

theorem xor_bit_lt {fresh key : Nat} (unexplored : fresh.testBit key = true) :
    fresh ^^^ 1 <<< key < fresh := by
  induction key generalizing fresh with
  | zero =>
    have odd : fresh % 2 = 1 := by simpa [Nat.testBit_zero] using unexplored
    have half : (fresh ^^^ 1 <<< 0) / 2 = fresh / 2 := by simp [Nat.xor_div_two]
    have even : (fresh ^^^ 1 <<< 0).testBit 0 = false := by rw [Nat.testBit_xor, unexplored]; rfl
    have : (fresh ^^^ 1 <<< 0) % 2 ≠ 1 := by simpa [Nat.testBit_zero] using even
    omega
  | succ key ih =>
    have half : (fresh ^^^ 1 <<< (key + 1)) / 2 = fresh / 2 ^^^ 1 <<< key := by
      simp [Nat.xor_div_two, Nat.shiftLeft_succ]
    have shifted : (fresh / 2).testBit key = true := by simpa [Nat.testBit_succ] using unexplored
    have := ih shifted
    omega

def rowSum : List Nat → Nat
  | [] => 0
  | row :: rows => row + rowSum rows

theorem rowSum_modify_lt {rows : List Nat} {i : Nat} {change : Nat → Nat} (inside : i < rows.length)
    (smaller : change rows[i] < rows[i]) : rowSum (rows.modify i change) < rowSum rows := by
  induction rows generalizing i with
  | nil => simp at inside
  | cons first rest ih =>
    cases i with
    | zero => simpa [rowSum] using smaller
    | succ i =>
      have := ih (by simpa using inside) (by simpa using smaller)
      simpa [rowSum] using this

-- The addresses that are still to be explored: a row for each position, and in it a binary one for
-- each address.
abbrev Fresh := Array Nat

namespace Fresh

def full (positions addresses : Nat) : Fresh := .replicate positions (1 <<< addresses - 1)

def contains (fresh : Fresh) (thread : Thread) : Bool :=
  fresh[thread.position]?.any (·.testBit thread.address)

def erase (fresh : Fresh) (thread : Thread) : Fresh :=
  fresh.modify thread.position (· ^^^ 1 <<< thread.address)

def total (fresh : Fresh) : Nat := rowSum fresh.toList

theorem total_erase_lt {fresh : Fresh} {thread : Thread} (fits : fresh.contains thread = true) :
    (fresh.erase thread).total < fresh.total := by
  simp only [contains, Option.any_eq_true] at fits
  obtain ⟨row, found, bit⟩ := fits
  obtain ⟨inside, rfl⟩ := Array.getElem?_eq_some_iff.mp found
  rw [total, erase, Array.toList_modify]
  exact rowSum_modify_lt (by simpa using inside) (by simpa using xor_bit_lt bit)

end Fresh

-- Depth first in order of preference. A configuration is explored once: it was left without success
-- before, or it is on the way already and coming back to it consumes nothing.
def explore (instrs : Array Instr) (fresh : Fresh) : List Thread → Option (List Mark)
  | [] => none
  | thread :: todo =>
    if _unexplored : fresh.contains thread then
      match instrs[thread.address]? with
      | some .accept => some thread.marks
      | some instr => explore instrs (fresh.erase thread) (thread.step instr ++ todo)
      | none => explore instrs (fresh.erase thread) todo
    else explore instrs fresh todo
termination_by todo => (fresh.total, todo.length)
decreasing_by
  · exact Prod.Lex.left _ _ (Fresh.total_erase_lt _unexplored)
  · exact Prod.Lex.left _ _ (Fresh.total_erase_lt _unexplored)
  · exact Prod.Lex.right _ (by simp)

def search (r : Regex) (text : Text) : Option (List Mark) :=
  let instrs := r.program
  explore instrs (.full (text.length + 1) instrs.size) (starts 0 none text)

def isMatch (r : Regex) (text : Text) : Bool := (r.search text).isSome

-- The text between the last entry and the last exit of a group.
def captured? (text : Text) (marks : List Mark) (name : Text) : Option Text := do
  let start ← marks.findSome? fun mark =>
    match mark with
    | .enter key position => if key = name then some position else none
    | .leave _ _ => none
  let stop ← marks.findSome? fun mark =>
    match mark with
    | .leave key position => if key = name then some position else none
    | .enter _ _ => none
  return (text.drop start).take (stop - start)

end RouteTable.Regex
