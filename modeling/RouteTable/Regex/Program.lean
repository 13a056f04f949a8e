import RouteTable.Regex.Basic

namespace RouteTable.Regex

open Unicode (CharSet)

inductive Instr where
  | consume (set : CharSet) (next : Nat)
  | check (assertion : Look) (next : Nat)
  | choose (preferred other : Nat)
  | enter (name : Text) (next : Nat)
  | leave (name : Text) (next : Nat)
  | jump (next : Nat)
  | accept
deriving Repr

-- A greedy choice prefers to go on with the body.
def choice (greedy : Bool) (body exit : Nat) : Instr :=
  if greedy then .choose body exit else .choose exit body

def size : Regex → Nat
  | empty => 1
  | literal _ rest => rest.length + 1
  | char _ _ => 1
  | look _ => 1
  | seq a b => a.size + b.size
  | alt a b => 1 + a.size + b.size
  | repeated low none _ a =>
    if low = 0 then if a.consumes then a.size + 1 else a.size + 2 else low * a.size + 1
  | repeated low (some high) _ a => low * a.size + (high - low) * (a.size + 1) + 1
  | group none a => a.size
  | group (some _) a => a.size + 2

def copies (count size here : Nat) (piece : Nat → List Instr) : List Instr :=
  (List.range count).flatMap fun i => piece (here + i * size)

theorem length_copies (count size here : Nat) (piece : Nat → List Instr)
    (fits : ∀ address, (piece address).length = size) :
    (copies count size here piece).length = count * size := by
  simp [copies, List.length_flatMap, fits, List.map_const']

def literalCode (first : Char) : Text → (here next : Nat) → List Instr
  | [], _, next => [.consume (.single first) next]
  | c :: rest, here, next =>
    .consume (.single first) (here + 1) :: literalCode c rest (here + 1) next

theorem length_literalCode (first : Char) (rest : Text) (here next : Nat) :
    (literalCode first rest here next).length = rest.length + 1 := by
  induction rest generalizing first here with
  | nil => rfl
  | cons c rest ih => simp [literalCode, ih]

-- The code of an expression placed at `here`, going on to `next`. Where a round surely consumes,
-- the choice before the first round is also the choice after every round. Otherwise the first round
-- has a choice of its own, and a later one that consumes nothing is not repeated.
def code : Regex → (here next : Nat) → List Instr
  | empty, _, next => [.jump next]
  | literal first rest, here, next => literalCode first rest here next
  | char _ set, _, next => [.consume set next]
  | look assertion, _, next => [.check assertion next]
  | seq a b, here, next => code a here (here + a.size) ++ code b (here + a.size) next
  | alt a b, here, next =>
    .choose (here + 1) (here + 1 + a.size) ::
      (code a (here + 1) next ++ code b (here + 1 + a.size) next)
  | repeated low none greedy a, here, next =>
    if low = 0 then
      choice greedy (here + 1) next ::
        if a.consumes then code a (here + 1) here
        else code a (here + 1) (here + 1 + a.size) ++ [choice greedy (here + 1) next]
    else
      copies low a.size here (fun start => code a start (start + a.size)) ++
        [choice greedy (here + (low - 1) * a.size) next]
  | repeated low (some high) greedy a, here, next =>
    let optional := here + low * a.size
    let finish := optional + (high - low) * (a.size + 1)
    copies low a.size here (fun start => code a start (start + a.size)) ++
      copies (high - low) (a.size + 1) optional (fun start =>
        choice greedy (start + 1) finish :: code a (start + 1) (start + 1 + a.size)) ++
      [.jump next]
  | group none a, here, next => code a here next
  | group (some name) a, here, next =>
    .enter name (here + 1) :: (code a (here + 1) (here + 1 + a.size) ++ [.leave name next])

theorem length_code (r : Regex) (here next : Nat) : (r.code here next).length = r.size := by
  induction r generalizing here next with
  | empty | char | look => rfl
  | literal first rest => exact length_literalCode first rest here next
  | seq a b iha ihb => simp [code, size, iha, ihb]
  | alt a b iha ihb => simp [code, size, iha, ihb]; omega
  | repeated low high greedy a ih =>
    have rounds (here) := length_copies low a.size here
      (fun start => a.code start (start + a.size)) fun _ => ih _ _
    cases high with
    | none =>
      simp only [code, size]
      split
      · split <;> simp [ih]
      · simp [rounds]
    | some high =>
      have options (here finish) := length_copies (high - low) (a.size + 1) here
        (fun start => choice greedy (start + 1) finish :: a.code (start + 1) (start + 1 + a.size))
        fun _ => by simp [ih]
      simp [code, size, rounds, options]; omega
  | group name a ih => cases name <;> simp [code, size, ih]

def program (r : Regex) : Array Instr := (r.code 0 r.size ++ [Instr.accept]).toArray

end RouteTable.Regex
