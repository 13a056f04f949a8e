import RouteTable.Proofs.Regex.Passage

namespace RouteTable.Regex

open Unicode (CharSet)

-- Runs of a program by the number of instructions.
inductive Run (instrs : Array Instr) : Nat → Thread → Thread → Prop where
  | stop {t : Thread} : Run instrs 0 t t
  | step {t u v : Thread} {instr : Instr} {length : Nat} (here : instrs[t.address]? = some instr)
      (next : u ∈ t.step instr) (later : Run instrs length u v) : Run instrs (length + 1) t v

def Placed (instrs : Array Instr) (here : Nat) (code : List Instr) : Prop :=
  ∀ (i : Nat) (instr : Instr), code[i]? = some instr → instrs[here + i]? = some instr

variable {instrs : Array Instr} {here next body : Nat} {t u v final : Thread}

theorem Run.trans {m n : Nat} (first : Run instrs m t u) (later : Run instrs n u v) :
    ∃ length, Run instrs length t v := by
  induction first with
  | stop => exact ⟨n, later⟩
  | step here next _ ih =>
    obtain ⟨length, rest⟩ := ih later
    exact ⟨length + 1, .step here next rest⟩

-- A run to an accepting thread cannot stop at an instruction that does something.
theorem Run.onward {length : Nat} {instr : Instr} (run : Run instrs length t final)
    (accepting : instrs[final.address]? = some .accept) (here : instrs[t.address]? = some instr)
    (working : instr ≠ .accept) :
    ∃ shorter u, length = shorter + 1 ∧ u ∈ t.step instr ∧ Run instrs shorter u final := by
  cases run with
  | stop =>
    rw [here] at accepting
    exact absurd (Option.some.inj accepting) working
  | @step _ u _ instr' shorter here' next later =>
    rw [here] at here'
    cases here'
    exact ⟨shorter, u, rfl, next, later⟩

theorem Placed.append {first later : List Instr} (placed : Placed instrs here (first ++ later)) :
    Placed instrs here first ∧ Placed instrs (here + first.length) later := by
  refine ⟨?_, ?_⟩
  · intro i instr found
    obtain ⟨inside, _⟩ := List.getElem?_eq_some_iff.mp found
    exact placed i instr (by rw [List.getElem?_append_left inside, found])
  · intro i instr found
    rw [Nat.add_assoc]
    apply placed (first.length + i) instr
    rw [List.getElem?_append_right (Nat.le_add_right _ _), Nat.add_sub_cancel_left, found]

theorem Placed.cons {instr : Instr} {later : List Instr}
    (placed : Placed instrs here (instr :: later)) :
    instrs[here]? = some instr ∧ Placed instrs (here + 1) later := by
  have split : Placed instrs here ([instr] ++ later) := placed
  exact ⟨placed 0 instr rfl, split.append.2⟩

-- Every run from `here` to `final` begins with a passage to `next`, and every passage is a run.
structure Realizes (instrs : Array Instr) (final : Thread) (here next : Nat) (a : Passage) :
    Prop where
  leads : ∀ (length : Nat) (p : Place) (old : List Mark),
    Run instrs length (p.thread here old) final →
      ∃ shorter ≤ length, ∃ q marks, a p marks q ∧
        Run instrs shorter (q.thread next (marks ++ old)) final
  allows : ∀ (p q : Place) (marks old : List Mark), a p marks q →
    ∃ length, Run instrs length (p.thread here old) (q.thread next (marks ++ old))

namespace Realizes

variable {a b : Passage} {middle : Nat}

theorem stay : Realizes instrs final here here .stay where
  leads length p old run := ⟨length, Nat.le_refl _, p, [], ⟨rfl, rfl⟩, run⟩
  allows p q marks old := by
    rintro ⟨rfl, rfl⟩
    exact ⟨0, .stop⟩

theorem andThen (first : Realizes instrs final here middle a)
    (later : Realizes instrs final middle next b) :
    Realizes instrs final here next (a.andThen b) where
  leads length p old run := by
    obtain ⟨m, fits, q, left, passed, run'⟩ := first.leads length p old run
    obtain ⟨n, fits', r, left', passed', run''⟩ := later.leads m q _ run'
    refine ⟨n, Nat.le_trans fits' fits, r, left' ++ left, ⟨q, left, left', passed, passed', rfl⟩,
      ?_⟩
    rwa [List.append_assoc]
  allows p r marks old := by
    rintro ⟨q, left, left', passed, passed', rfl⟩
    obtain ⟨m, run⟩ := first.allows p q left old passed
    obtain ⟨n, run'⟩ := later.allows q r left' (left ++ old) passed'
    rw [List.append_assoc]
    exact run.trans run'

theorem single {instr : Instr} (accepting : instrs[final.address]? = some .accept)
    (placed : instrs[here]? = some instr) (working : instr ≠ .accept)
    (steps : ∀ (p : Place) (old : List Mark) (u : Thread), u ∈ (p.thread here old).step instr ↔
      ∃ q marks, a p marks q ∧ u = q.thread next (marks ++ old)) :
    Realizes instrs final here next a where
  leads length p old run := by
    obtain ⟨shorter, u, rfl, stepped, later⟩ := run.onward accepting placed working
    obtain ⟨q, marks, passed, rfl⟩ := (steps p old u).mp stepped
    exact ⟨shorter, Nat.le_succ _, q, marks, passed, later⟩
  allows p q marks old passed :=
    ⟨1, .step placed ((steps p old _).mpr ⟨q, marks, passed, rfl⟩) .stop⟩

theorem mem_step_choice {greedy : Bool} {other : Nat} :
    u ∈ t.step (choice greedy body other) ↔ u = t.goto body ∨ u = t.goto other := by
  cases greedy <;> simp [choice, Thread.step, or_comm]

theorem choice_ne_accept (greedy : Bool) (other : Nat) : choice greedy body other ≠ .accept := by
  cases greedy <;> exact nofun

theorem choose (greedy : Bool) {other : Nat} (accepting : instrs[final.address]? = some .accept)
    (placed : instrs[here]? = some (choice greedy body other))
    (left : Realizes instrs final body next a) (right : Realizes instrs final other next b) :
    Realizes instrs final here next (a.either b) where
  leads length p old run := by
    obtain ⟨shorter, u, rfl, stepped, later⟩ :=
      run.onward accepting placed (choice_ne_accept _ _)
    rcases mem_step_choice.mp stepped with rfl | rfl
    · obtain ⟨n, fits, q, marks, passed, run'⟩ := left.leads shorter p old later
      exact ⟨n, Nat.le_succ_of_le fits, q, marks, Or.inl passed, run'⟩
    · obtain ⟨n, fits, q, marks, passed, run'⟩ := right.leads shorter p old later
      exact ⟨n, Nat.le_succ_of_le fits, q, marks, Or.inr passed, run'⟩
  allows p q marks old := by
    rintro (passed | passed)
    · obtain ⟨n, run⟩ := left.allows p q marks old passed
      exact ⟨n + 1, .step placed (mem_step_choice.mpr (Or.inl rfl)) run⟩
    · obtain ⟨n, run⟩ := right.allows p q marks old passed
      exact ⟨n + 1, .step placed (mem_step_choice.mpr (Or.inr rfl)) run⟩

-- A choice that is come back to after every round.
theorem loop {greedy : Bool} (accepting : instrs[final.address]? = some .accept)
    (gate : instrs[here]? = some (choice greedy body next))
    (round : Realizes instrs final body here a) :
    Realizes instrs final here next (a.repeated 0 none) where
  leads length p old run := by
    -- Every round leaves a shorter run, whatever it consumes.
    induction length using Nat.strongRecOn generalizing p old with
    | ind length ih =>
      obtain ⟨shorter, u, rfl, stepped, later⟩ :=
        run.onward accepting gate (choice_ne_accept _ _)
      rw [Passage.repeated_none]
      rcases mem_step_choice.mp stepped with rfl | rfl
      · obtain ⟨m, fits, q, left, passed, run'⟩ := round.leads shorter p old later
        obtain ⟨n, fits', r, left', passed', run''⟩ := ih m (Nat.lt_succ_of_le fits) q _ run'
        refine ⟨n, by omega, r, left' ++ left, Or.inl ⟨q, left, left', passed, passed', rfl⟩, ?_⟩
        rwa [List.append_assoc]
      · exact ⟨shorter, Nat.le_succ _, p, [], Or.inr ⟨rfl, rfl⟩, later⟩
  allows p q marks old repetition := by
    obtain ⟨count, -, -, passed⟩ := repetition
    induction count generalizing p marks old with
    | zero =>
      obtain ⟨rfl, rfl⟩ := passed
      exact ⟨1, .step gate (mem_step_choice.mpr (Or.inr rfl)) .stop⟩
    | succ count ih =>
      obtain ⟨r, left, left', passed, rest, rfl⟩ := passed
      obtain ⟨m, run⟩ := round.allows p r left old passed
      obtain ⟨n, run'⟩ := ih r left' (left ++ old) rest
      rw [List.append_assoc]
      have entered : Run instrs (m + 1) (p.thread here old) (r.thread here (left ++ old)) :=
        .step gate (mem_step_choice.mpr (Or.inl rfl)) run
      exact entered.trans run'

end Realizes

theorem copies_succ (count size here : Nat) (piece : Nat → List Instr) :
    copies (count + 1) size here piece = piece here ++ copies count size (here + size) piece := by
  simp only [copies, List.range_succ_eq_map, List.flatMap_cons, List.flatMap_map, Nat.zero_mul,
    Nat.add_zero, Nat.succ_mul]
  congr 2
  funext i
  rw [Nat.add_assoc, Nat.add_comm size]

theorem copies_last (count size here : Nat) (piece : Nat → List Instr) :
    copies (count + 1) size here piece =
      copies count size here piece ++ piece (here + count * size) := by
  simp [copies, List.range_succ]

-- Copies of one piece, each going on to the next one, make as many rounds.
theorem realizes_rounds {a : Passage} {size : Nat} {piece : Nat → List Instr}
    (fits : ∀ start, (piece start).length = size)
    (round : ∀ start, Placed instrs start (piece start) →
      Realizes instrs final start (start + size) a)
    (count here : Nat) (placed : Placed instrs here (copies count size here piece)) :
    Realizes instrs final here (here + count * size) (a.rounds count) := by
  induction count generalizing here with
  | zero =>
    rw [Nat.zero_mul, Nat.add_zero]
    exact .stay
  | succ count ih =>
    rw [copies_succ] at placed
    obtain ⟨first, later⟩ := placed.append
    rw [fits] at later
    have rest := ih (here + size) later
    rw [Nat.succ_mul, Nat.add_comm (count * size), ← Nat.add_assoc]
    exact (round here first).andThen rest

section

variable (accepting : instrs[final.address]? = some .accept)
include accepting

theorem realizes_consume {set : CharSet} (placed : instrs[here]? = some (.consume set next)) :
    Realizes instrs final here next (.oneOf (set.contains · = true)) := by
  apply Realizes.single accepting placed nofun
  intro p old u
  obtain ⟨past, rest⟩ := p
  cases rest with
  | nil =>
    simp only [Thread.step, Place.thread, List.not_mem_nil, false_iff]
    rintro ⟨q, marks, ⟨c, _, _, left, _⟩, _⟩
    cases left
  | cons c rest =>
    simp only [Thread.step, Place.thread]
    constructor
    · intro stepped
      split at stepped
      · next member =>
        obtain rfl := List.mem_singleton.mp stepped
        exact ⟨⟨past ++ [c], rest⟩, [], ⟨c, member, rfl, rfl, rfl⟩, by simp⟩
      · cases stepped
    · rintro ⟨⟨past', rest'⟩, marks, ⟨d, member, rfl, left, rfl⟩, rfl⟩
      obtain ⟨rfl, rfl⟩ := List.cons.inj left
      rw [if_pos member]
      simp

theorem realizes_check {assertion : Look}
    (placed : instrs[here]? = some (.check assertion next)) :
    Realizes instrs final here next (.checked assertion) := by
  apply Realizes.single accepting placed nofun
  intro p old u
  change u ∈ (if assertion.holds p.past.getLast? p.rest.head? = true then [p.thread next old]
    else []) ↔ _
  constructor
  · intro stepped
    split at stepped
    · next holds =>
      obtain rfl := List.mem_singleton.mp stepped
      exact ⟨p, [], ⟨holds, rfl, rfl⟩, rfl⟩
    · cases stepped
  · rintro ⟨q, marks, ⟨holds, rfl, rfl⟩, rfl⟩
    rw [if_pos holds]
    exact List.mem_singleton.mpr rfl

theorem realizes_jump (placed : instrs[here]? = some (.jump next)) :
    Realizes instrs final here next .stay := by
  apply Realizes.single accepting placed nofun
  intro p old u
  constructor
  · intro stepped
    obtain rfl := List.mem_singleton.mp stepped
    exact ⟨p, [], ⟨rfl, rfl⟩, rfl⟩
  · rintro ⟨q, marks, ⟨rfl, rfl⟩, rfl⟩
    exact List.mem_singleton.mpr rfl

theorem realizes_record {instr : Instr} (mark : Place → Mark)
    (placed : instrs[here]? = some instr) (working : instr ≠ .accept)
    (steps : ∀ (p : Place) (old : List Mark),
      (p.thread here old).step instr = [p.thread next (mark p :: old)]) :
    Realizes instrs final here next (fun p marks q => q = p ∧ marks = [mark p]) := by
  apply Realizes.single accepting placed working
  intro p old u
  rw [steps]
  constructor
  · intro stepped
    obtain rfl := List.mem_singleton.mp stepped
    exact ⟨p, [mark p], ⟨rfl, rfl⟩, rfl⟩
  · rintro ⟨q, marks, ⟨rfl, rfl⟩, rfl⟩
    exact List.mem_singleton.mpr rfl

theorem realizes_literal (first : Char) (rest : Text) (here : Nat)
    (placed : Placed instrs here (literalCode first rest here next)) :
    Realizes instrs final here next (.along (first :: rest)) := by
  induction rest generalizing first here with
  | nil =>
    rw [← oneOf_single]
    exact realizes_consume accepting placed.cons.1
  | cons c rest ih =>
    have head := realizes_consume accepting placed.cons.1
    have tail := ih c (here + 1) placed.cons.2
    rw [oneOf_single] at head
    have both := head.andThen tail
    rwa [Passage.along_andThen] at both

-- Copies that may each be the point where the rounds end.
theorem realizes_options {a : Passage} {greedy : Bool} {size finish : Nat}
    {piece : Nat → List Instr} (fits : ∀ start, (piece start).length = size)
    (round : ∀ start, Placed instrs start (piece start) →
      Realizes instrs final start (start + size) a)
    (count here : Nat) (ends : here + count * (size + 1) = finish)
    (placed : Placed instrs here (copies count (size + 1) here fun start =>
      choice greedy (start + 1) finish :: piece (start + 1))) :
    Realizes instrs final here finish (a.repeated 0 (some count)) := by
  induction count generalizing here with
  | zero =>
    rw [Passage.repeated_zero]
    simp only [Nat.zero_mul, Nat.add_zero] at ends
    rw [ends]
    exact .stay
  | succ count ih =>
    rw [copies_succ] at placed
    obtain ⟨first, later⟩ := placed.append
    simp only [List.length_cons, fits] at later
    have rest := ih (here + (size + 1)) (by rw [← ends, Nat.succ_mul]; omega) later
    have once := round (here + 1) first.cons.2
    rw [Nat.add_assoc, Nat.add_comm 1 size] at once
    rw [Passage.repeated_succ]
    exact .choose greedy accepting first.cons.1 (once.andThen rest) .stay

theorem realizes_unbounded {a : Regex} {greedy : Bool}
    (body : ∀ here next, Placed instrs here (a.code here next) →
      Realizes instrs final here next a.passage)
    (low here next : Nat)
    (placed : Placed instrs here ((repeated low none greedy a).code here next)) :
    Realizes instrs final here next (a.passage.repeated low none) := by
  simp only [code] at placed
  split at placed
  · next free =>
    subst free
    obtain ⟨gate, rest⟩ := placed.cons
    split at rest
    · exact .loop accepting gate (body _ _ rest)
    · obtain ⟨first, later⟩ := rest.append
      rw [length_code] at later
      have inside := body _ _ first
      rw [Passage.repeated_none]
      have rounds := inside.andThen (.loop accepting later.cons.1 inside)
      exact .choose greedy accepting gate rounds .stay
  · next needed =>
    obtain ⟨more, rfl⟩ := Nat.exists_eq_succ_of_ne_zero needed
    obtain ⟨rounds, later⟩ := placed.append
    rw [length_copies _ _ _ _ fun start => length_code a _ _] at later
    have round : ∀ start, Placed instrs start (a.code start (start + a.size)) →
        Realizes instrs final start (start + a.size) a.passage := fun start => body start _
    have all := realizes_rounds (fun start => length_code a _ _) round _ _ rounds
    -- The choice after the last copy goes back to the start of that copy.
    have last : Placed instrs (here + more * a.size)
        (a.code (here + more * a.size) (here + more * a.size + a.size)) := by
      rw [copies_last] at rounds
      have := rounds.append.2
      rwa [length_copies _ _ _ _ fun start => length_code a _ _] at this
    have again := round _ last
    have here_last : here + more * a.size + a.size = here + (more + 1) * a.size := by
      rw [Nat.succ_mul, Nat.add_assoc]
    rw [here_last] at again
    rw [Passage.repeated_eq]
    exact all.andThen (.loop accepting later.cons.1 again)

theorem realizes_bounded {a : Regex} {greedy : Bool}
    (body : ∀ here next, Placed instrs here (a.code here next) →
      Realizes instrs final here next a.passage)
    (low high here next : Nat)
    (placed : Placed instrs here ((repeated low (some high) greedy a).code here next)) :
    Realizes instrs final here next (a.passage.repeated low (some high)) := by
  have round : ∀ start, Placed instrs start (a.code start (start + a.size)) →
      Realizes instrs final start (start + a.size) a.passage := fun start => body start _
  obtain ⟨both, finish⟩ := placed.append
  obtain ⟨rounds, options⟩ := both.append
  rw [length_copies _ _ _ _ fun start => length_code a _ _] at options
  rw [List.length_append, length_copies _ _ _ _ fun start => length_code a _ _,
    length_copies _ _ _ _ fun start => by rw [List.length_cons, length_code], ← Nat.add_assoc]
    at finish
  have all := realizes_rounds (fun start => length_code a _ _) round _ _ rounds
  have some_more :=
    realizes_options accepting (fun start => length_code a _ _) round _ _ rfl options
  have done := (all.andThen some_more).andThen (realizes_jump accepting finish.cons.1)
  rw [Passage.repeated_eq]
  rwa [Passage.andThen_stay] at done

theorem realizes_code (r : Regex) (here next : Nat)
    (placed : Placed instrs here (r.code here next)) :
    Realizes instrs final here next r.passage := by
  induction r generalizing here next with
  | empty => exact realizes_jump accepting placed.cons.1
  | literal first rest => exact realizes_literal accepting first rest here placed
  | char alphabet set => exact realizes_consume accepting placed.cons.1
  | look assertion => exact realizes_check accepting placed.cons.1
  | seq a b iha ihb =>
    obtain ⟨first, later⟩ := placed.append
    rw [length_code] at later
    exact (iha _ _ first).andThen (ihb _ _ later)
  | alt a b iha ihb =>
    obtain ⟨here, both⟩ := placed.cons
    obtain ⟨first, later⟩ := both.append
    rw [length_code] at later
    exact .choose true accepting here (iha _ _ first) (ihb _ _ later)
  | group name a ih =>
    cases name with
    | none => exact ih here next placed
    | some name =>
      obtain ⟨entering, both⟩ := placed.cons
      obtain ⟨inside, leaving⟩ := both.append
      rw [length_code] at leaving
      have entered := realizes_record accepting (fun p => .enter name p.past.length) entering
        nofun fun p old => rfl
      have left := realizes_record accepting (fun p => .leave name p.past.length) leaving.cons.1
        nofun fun p old => rfl
      have all := entered.andThen ((ih _ _ inside).andThen left)
      rwa [← Passage.named_eq] at all
  | repeated low high greedy a ih =>
    cases high with
    | none => exact realizes_unbounded accepting ih low here next placed
    | some high => exact realizes_bounded accepting ih low high here next placed

end

end RouteTable.Regex
