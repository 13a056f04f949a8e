import RouteTable.Proofs.Regex.Program

namespace RouteTable.Regex

variable {instrs : Array Instr} {fresh : Fresh} {todo : List Thread} {t u : Thread} {text : Text}

theorem Place.eq_of_length {p q : Place} (same : p.text = q.text)
    (length : p.past.length = q.past.length) : p = q := by
  obtain ⟨past, rest⟩ := p
  obtain ⟨past', rest'⟩ := q
  obtain ⟨rfl, rfl⟩ := List.append_inj same length
  rfl

theorem step_place {p : Place} {address : Nat} {old : List Mark} {instr : Instr}
    (stepped : u ∈ (p.thread address old).step instr) :
    ∃ (q : Place) (address' : Nat) (marks : List Mark), q.text = p.text ∧
      u = q.thread address' (marks ++ old) ∧
      ∀ other, q.thread address' (marks ++ other) ∈ (p.thread address other).step instr := by
  -- A step adds its marks in front and does not look at those that are there.
  cases instr with
  | consume set next =>
    obtain ⟨past, rest⟩ := p
    cases rest with
    | nil => cases stepped
    | cons c rest =>
      simp only [Thread.step, Place.thread] at stepped
      split at stepped
      · next member =>
        obtain rfl := List.mem_singleton.mp stepped
        refine ⟨⟨past ++ [c], rest⟩, next, [], ?_, ?_, ?_⟩
        · simp [Place.text]
        · simp [Place.thread]
        · intro other
          simp [Thread.step, Place.thread, member]
      · cases stepped
  | check assertion next =>
    change u ∈ (if assertion.holds p.past.getLast? p.rest.head? = true then [p.thread next old]
      else []) at stepped
    split at stepped
    · next holds =>
      obtain rfl := List.mem_singleton.mp stepped
      refine ⟨p, next, [], rfl, rfl, ?_⟩
      intro other
      simp [Thread.step, Place.thread, holds, Thread.goto]
    · cases stepped
  | choose preferred other =>
    simp only [Thread.step, List.mem_cons, List.not_mem_nil, or_false] at stepped
    rcases stepped with rfl | rfl
    · exact ⟨p, preferred, [], rfl, rfl, fun _ => List.mem_cons_self⟩
    · exact ⟨p, other, [], rfl, rfl, fun _ => List.mem_cons_of_mem _ List.mem_cons_self⟩
  | enter name next =>
    obtain rfl := List.mem_singleton.mp stepped
    exact ⟨p, next, [.enter name p.past.length], rfl, rfl, fun _ => List.mem_singleton.mpr rfl⟩
  | leave name next =>
    obtain rfl := List.mem_singleton.mp stepped
    exact ⟨p, next, [.leave name p.past.length], rfl, rfl, fun _ => List.mem_singleton.mpr rfl⟩
  | jump next =>
    obtain rfl := List.mem_singleton.mp stepped
    exact ⟨p, next, [], rfl, rfl, fun _ => List.mem_singleton.mpr rfl⟩
  | accept => cases stepped

theorem mem_starts {past rest : Text} :
    t ∈ starts past.length past.getLast? rest ↔
      ∃ piece rest', rest = piece ++ rest' ∧ t = Place.thread ⟨past ++ piece, rest'⟩ 0 [] := by
  induction rest generalizing past with
  | nil =>
    simp only [starts, List.mem_singleton, List.nil_eq, List.append_eq_nil_iff]
    constructor
    · rintro rfl
      exact ⟨[], [], ⟨rfl, rfl⟩, by simp [Place.thread]⟩
    · rintro ⟨_, _, ⟨rfl, rfl⟩, rfl⟩
      simp [Place.thread]
  | cons c rest ih =>
    have next := @ih (past ++ [c])
    simp only [List.length_append, List.length_singleton, List.getLast?_append,
      List.getLast?_singleton, Option.some_or] at next
    simp only [starts, List.mem_cons, next]
    constructor
    · rintro (rfl | ⟨piece, rest', rfl, rfl⟩)
      · exact ⟨[], c :: rest, rfl, by simp [Place.thread]⟩
      · exact ⟨c :: piece, rest', rfl, by simp⟩
    · rintro ⟨piece, rest', whole, rfl⟩
      cases piece with
      | nil =>
        obtain rfl : c :: rest = rest' := whole
        exact Or.inl (by simp [Place.thread])
      | cons d piece =>
        obtain ⟨rfl, rfl⟩ := List.cons.inj whole
        exact Or.inr ⟨piece, rest', rfl, by simp⟩

theorem mem_starts_zero :
    t ∈ starts 0 none text ↔ ∃ p : Place, p.text = text ∧ t = p.thread 0 [] := by
  have all := @mem_starts t [] text
  simp only [List.length_nil, List.getLast?_nil, List.nil_append] at all
  rw [all]
  constructor
  · rintro ⟨piece, rest, rfl, rfl⟩
    exact ⟨⟨piece, rest⟩, rfl, rfl⟩
  · rintro ⟨p, rfl, rfl⟩
    exact ⟨p.past, p.rest, rfl, rfl⟩

namespace Fresh

theorem contains_full (positions addresses : Nat) :
    (full positions addresses).contains t =
      (decide (t.position < positions) && decide (t.address < addresses)) := by
  by_cases inside : t.position < positions
  · simp [full, contains, inside, Nat.one_shiftLeft, Nat.testBit_two_pow_sub_one]
  · simp [full, contains, inside]

theorem contains_erase (present : fresh.contains t = true) :
    (fresh.erase t).contains u = (fresh.contains u &&
      !(decide (u.position = t.position) && decide (u.address = t.address))) := by
  simp only [contains, Option.any_eq_true] at present
  obtain ⟨row, found, bit⟩ := present
  simp only [contains, erase, Array.getElem?_modify]
  by_cases position : t.position = u.position
  · rw [if_pos position, ← position, found]
    simp only [Option.map_some, Option.any_some, Nat.testBit_xor, Nat.one_shiftLeft,
      Nat.testBit_two_pow, decide_true, Bool.true_and]
    by_cases address : t.address = u.address
    · simp [← address, bit]
    · have other : ¬u.address = t.address := fun same => address same.symm
      simp [address, other]
  · have other : ¬u.position = t.position := fun same => position same.symm
    simp [position, other]

end Fresh

theorem explore_sound {marks : List Mark} (found : explore instrs fresh todo = some marks) :
    ∃ t ∈ todo, ∃ length u, Run instrs length t u ∧ instrs[u.address]? = some .accept ∧
      u.marks = marks := by
  fun_induction explore instrs fresh todo with
  | case1 => cases found
  | case2 fresh t todo unexplored accepting =>
    cases found
    exact ⟨t, List.mem_cons_self, 0, t, .stop, accepting, rfl⟩
  | case3 fresh t todo unexplored instr _ here ih =>
    obtain ⟨u, member, length, v, run, accepting, left⟩ := ih found
    rcases List.mem_append.mp member with stepped | waiting
    · exact ⟨t, List.mem_cons_self, length + 1, v, .step here stepped run, accepting, left⟩
    · exact ⟨u, List.mem_cons_of_mem _ waiting, length, v, run, accepting, left⟩
  | case4 fresh t todo unexplored _ ih =>
    obtain ⟨u, member, rest⟩ := ih found
    exact ⟨u, List.mem_cons_of_mem _ member, rest⟩
  | case5 fresh t todo explored ih =>
    obtain ⟨u, member, rest⟩ := ih found
    exact ⟨u, List.mem_cons_of_mem _ member, rest⟩

def Located (text : Text) (todo : List Thread) : Prop :=
  ∀ t ∈ todo, ∃ p address marks, p.text = text ∧ t = Place.thread p address marks

-- Nothing explored accepts, and what follows it is explored or waits.
def Settled (instrs : Array Instr) (text : Text) (fresh : Fresh) (todo : List Thread) : Prop :=
  ∀ (p : Place) (address : Nat) (instr : Instr), p.text = text →
    fresh.contains (p.thread address []) = false → instrs[address]? = some instr →
      instr ≠ .accept ∧ ∀ u ∈ (p.thread address []).step instr, fresh.contains u = false ∨
        ∃ v ∈ todo, v.address = u.address ∧ v.position = u.position

theorem Settled.skip (settled : Settled instrs text fresh (t :: todo))
    (explored : fresh.contains t = false) : Settled instrs text fresh todo := by
  intro p address instr same done here
  obtain ⟨working, onward⟩ := settled p address instr same done here
  refine ⟨working, ?_⟩
  intro u stepped
  rcases onward u stepped with gone | ⟨v, member, sameAddress, samePosition⟩
  · exact Or.inl gone
  · rcases List.mem_cons.mp member with rfl | waiting
    · apply Or.inl
      rwa [Fresh.contains, ← sameAddress, ← samePosition]
    · exact Or.inr ⟨v, waiting, sameAddress, samePosition⟩

-- A thread is taken from the list, and what follows it takes its place.
theorem Settled.take (settled : Settled instrs text fresh (t :: todo))
    (present : fresh.contains t = true) (located : Located text (t :: todo)) (next : List Thread)
    (working : instrs[t.address]? ≠ some .accept)
    (steps : ∀ instr, instrs[t.address]? = some instr → next = t.step instr) :
    Settled instrs text (fresh.erase t) (next ++ todo) := by
  obtain ⟨q, address', marks, sameText, rfl⟩ := located t List.mem_cons_self
  intro p address instr same done here
  -- The configuration taken is settled by the threads it steps to, all others as before.
  by_cases self : p = q ∧ address = address'
  · obtain ⟨rfl, rfl⟩ := self
    refine ⟨fun accepting => working (accepting ▸ here), ?_⟩
    intro u stepped
    obtain ⟨r, address', marks', _, rfl, carried⟩ := step_place stepped
    refine Or.inr ⟨r.thread address' (marks' ++ marks), ?_, rfl, rfl⟩
    rw [steps instr here]
    exact List.mem_append_left _ (carried marks)
  · have before : fresh.contains (p.thread address []) = false := by
      rw [Fresh.contains_erase present] at done
      cases inside : fresh.contains (p.thread address []) with
      | false => rfl
      | true =>
        rw [inside] at done
        simp only [Bool.true_and, Bool.not_eq_false', Bool.and_eq_true, decide_eq_true_eq] at done
        exact absurd ⟨Place.eq_of_length (same.trans sameText.symm) done.1, done.2⟩ self
    obtain ⟨working', onward⟩ := settled p address instr same before here
    refine ⟨working', ?_⟩
    intro u stepped
    rw [Fresh.contains_erase present]
    rcases onward u stepped with gone | ⟨v, member, sameAddress, samePosition⟩
    · exact Or.inl (by rw [gone, Bool.false_and])
    · rcases List.mem_cons.mp member with rfl | waiting
      · exact Or.inl (by simp [← sameAddress, ← samePosition])
      · exact Or.inr ⟨v, List.mem_append_right _ waiting, sameAddress, samePosition⟩

theorem Located.take (located : Located text (t :: todo)) (instr : Instr) :
    Located text (t.step instr ++ todo) := by
  intro u member
  rcases List.mem_append.mp member with stepped | waiting
  · obtain ⟨p, address, marks, rfl, rfl⟩ := located t List.mem_cons_self
    obtain ⟨q, address', marks', same, rfl, _⟩ := step_place stepped
    exact ⟨q, address', _, same, rfl⟩
  · exact located u (List.mem_cons_of_mem _ waiting)

theorem Located.tail (located : Located text (t :: todo)) : Located text todo :=
  fun u waiting => located u (List.mem_cons_of_mem _ waiting)

-- What a search leaves of the fresh configurations: none that was on its list, none that is new.
structure Spent (todo : List Thread) (before after : Fresh) : Prop where
  listed : ∀ t ∈ todo, after.contains t = false
  kept : ∀ t, before.contains t = false → after.contains t = false

theorem Spent.skip {after : Fresh} (spent : Spent todo fresh after)
    (explored : fresh.contains t = false) : Spent (t :: todo) fresh after where
  listed := List.forall_mem_cons.mpr ⟨spent.kept t explored, spent.listed⟩
  kept := spent.kept

theorem Spent.take {after : Fresh} (next : List Thread)
    (spent : Spent (next ++ todo) (fresh.erase t) after) (present : fresh.contains t = true) :
    Spent (t :: todo) fresh after where
  listed := by
    refine List.forall_mem_cons.mpr ⟨?_, ?_⟩
    · exact spent.kept t (by simp [Fresh.contains_erase present])
    · exact fun u waiting => spent.listed u (List.mem_append_right _ waiting)
  kept u gone := spent.kept u (by rw [Fresh.contains_erase present, gone, Bool.false_and])

theorem explore_none (failed : explore instrs fresh todo = none) (located : Located text todo)
    (settled : Settled instrs text fresh todo) :
    ∃ after : Fresh, Settled instrs text after [] ∧ Spent todo fresh after := by
  fun_induction explore instrs fresh todo with
  | case1 fresh => exact ⟨fresh, settled, nofun, fun _ => id⟩
  | case2 => cases failed
  | case3 fresh t todo unexplored instr working here ih =>
    have busy (accepting : instrs[t.address]? = some .accept) : False :=
      working (Option.some.inj (here.symm.trans accepting))
    have taken : Settled instrs text (fresh.erase t) (t.step instr ++ todo) := by
      apply settled.take unexplored located _ busy
      intro instr' here'
      rw [here] at here'
      cases here'
      rfl
    obtain ⟨after, done, spent⟩ := ih failed (located.take instr) taken
    exact ⟨after, done, spent.take _ unexplored⟩
  | case4 fresh t todo unexplored missing ih =>
    have taken : Settled instrs text (fresh.erase t) ([] ++ todo) := by
      refine settled.take unexplored located [] ?_ ?_
      · rw [missing]
        exact nofun
      · intro instr here
        rw [missing] at here
        cases here
    obtain ⟨after, done, spent⟩ := ih failed located.tail taken
    exact ⟨after, done, Spent.take [] spent unexplored⟩
  | case5 fresh t todo explored ih =>
    have gone : fresh.contains t = false := by simpa using explored
    obtain ⟨after, done, spent⟩ := ih failed located.tail (settled.skip gone)
    exact ⟨after, done, spent.skip gone⟩

-- No run leads from what was explored to acceptance.
theorem Settled.run (settled : Settled instrs text fresh []) {length : Nat}
    (run : Run instrs length t u) (located : Located text [t])
    (explored : fresh.contains t = false) : instrs[u.address]? ≠ some .accept := by
  induction run with
  | stop =>
    obtain ⟨p, address, marks, same, rfl⟩ := located _ List.mem_cons_self
    intro accepting
    exact (settled p address _ same explored accepting).1 rfl
  | step here stepped _ ih =>
    obtain ⟨p, address, marks, same, rfl⟩ := located _ List.mem_cons_self
    obtain ⟨q, address', marks', same', rfl, carried⟩ := step_place stepped
    refine ih ?_ ?_
    · intro v member
      obtain rfl := List.mem_singleton.mp member
      exact ⟨q, address', _, same'.trans same, rfl⟩
    · rcases (settled p address _ same explored here).2 _ (carried []) with gone | ⟨_, none, _⟩
      · exact gone
      · cases none

theorem program_accept (r : Regex) : r.program[r.size]? = some .accept := by
  simp [program, length_code]

theorem program_placed (r : Regex) : Placed r.program 0 (r.code 0 r.size) := by
  intro i instr found
  obtain ⟨inside, _⟩ := List.getElem?_eq_some_iff.mp found
  simp only [program, Nat.zero_add, List.getElem?_toArray]
  rw [List.getElem?_append_left inside, found]

theorem realizes_program (r : Regex) {final : Thread}
    (accepting : r.program[final.address]? = some .accept) :
    Realizes r.program final 0 r.size r.passage :=
  realizes_code accepting r 0 r.size (program_placed r)

theorem search_sound {r : Regex} {marks : List Mark} (found : r.search text = some marks) :
    ∃ p q, p.text = text ∧ r.passage p marks q := by
  obtain ⟨t, member, length, final, run, accepting, left⟩ := explore_sound found
  obtain ⟨p, same, rfl⟩ := mem_starts_zero.mp member
  obtain ⟨shorter, _, q, marks', passed, rest⟩ :=
    (realizes_program r accepting).leads length p [] run
  refine ⟨p, q, same, ?_⟩
  -- Nothing follows acceptance.
  cases rest with
  | stop =>
    rw [List.append_nil] at left
    rwa [← (show marks' = marks from left)]
  | step here stepped later =>
    rw [show r.program[(q.thread r.size (marks' ++ [])).address]? = some .accept from
      program_accept r] at here
    cases here
    cases stepped

theorem search_complete {r : Regex} {p q : Place} {marks : List Mark} (same : p.text = text)
    (passed : r.passage p marks q) : (r.search text).isSome = true := by
  cases result : r.search text with
  | some _ => rfl
  | none =>
    have located : Located text (starts 0 none text) := by
      intro t member
      obtain ⟨p, same, rfl⟩ := mem_starts_zero.mp member
      exact ⟨p, 0, [], same, rfl⟩
    -- At first only addresses outside the program count as explored.
    have settled : Settled r.program text (.full (text.length + 1) r.program.size)
        (starts 0 none text) := by
      intro p address instr same outside here
      obtain ⟨inside, _⟩ := Array.getElem?_eq_some_iff.mp here
      have position : p.past.length ≤ text.length := by
        rw [← same, Place.text, List.length_append]
        exact Nat.le_add_right _ _
      rw [Fresh.contains_full] at outside
      simp [Place.thread, inside, Nat.lt_succ_of_le position] at outside
    obtain ⟨after, done, spent⟩ := explore_none result located settled
    have start : p.thread 0 [] ∈ starts 0 none text := mem_starts_zero.mpr ⟨p, same, rfl⟩
    have accepting : r.program[(q.thread r.size (marks ++ [])).address]? = some .accept :=
      program_accept r
    obtain ⟨length, run⟩ := (realizes_program r accepting).allows p q marks [] passed
    have alone : Located text [p.thread 0 []] := by
      intro t member
      obtain rfl := List.mem_singleton.mp member
      exact ⟨p, 0, [], same, rfl⟩
    exact absurd accepting (done.run run alone (spent.listed _ start))

theorem isMatch_anchored {r : Regex} {body : Passage}
    (anchored : r.passage = (Passage.checked .textStart).andThen (body.andThen (.checked .textEnd))) :
    r.isMatch text = true ↔ ∃ marks q, q.rest = [] ∧ body ⟨[], text⟩ marks q := by
  constructor
  · intro accepted
    obtain ⟨all, found⟩ := Option.isSome_iff_exists.mp accepted
    obtain ⟨p, q, rfl, passed⟩ := search_sound found
    rw [anchored] at passed
    obtain ⟨first, _, _, ⟨start, rfl, rfl⟩, ⟨last, _, _, inside, ⟨finish, rfl, rfl⟩, rfl⟩, rfl⟩ :=
      passed
    obtain ⟨past, rest⟩ := first
    obtain rfl : past = [] := by simpa [Look.holds] using start
    have ended : q.rest = [] := by simpa [Look.holds] using finish
    exact ⟨_, q, ended, inside⟩
  · rintro ⟨marks, q, ended, inside⟩
    have start : Passage.checked .textStart ⟨[], text⟩ [] ⟨[], text⟩ := ⟨rfl, rfl, rfl⟩
    have finish : Passage.checked .textEnd q [] q := ⟨by simp [Look.holds, ended], rfl, rfl⟩
    have whole : r.passage ⟨[], text⟩ ([] ++ marks ++ []) q := by
      rw [anchored]
      exact ⟨_, _, _, start, ⟨_, _, _, inside, finish, rfl⟩, rfl⟩
    exact search_complete rfl whole

end RouteTable.Regex
