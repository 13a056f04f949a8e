import RouteTable.Proofs.Regex.Uses

namespace RouteTable.Regex

variable {a b : Regex} {regexes : List Regex}

-- One alternative, and a part of its own.
def Solid (r : Regex) : Prop := r.branches = [r] ∧ r ≠ .empty

theorem Solid.cons (solid : Solid b) : Solid (a.cons b) := by
  obtain ⟨single, nonempty⟩ := solid
  fun_cases Regex.cons a b with
  | case1 => exact ⟨single, nonempty⟩
  | case2 => exact absurd rfl nonempty
  | case3 | case4 | case5 =>
    refine ⟨rfl, ?_⟩
    intro empty
    cases empty

theorem Solid.append (solid : Solid b) : Solid (a.append b) := by
  fun_induction Regex.append a b with
  | case1 b a rest ih => exact (ih solid).cons
  | case2 a b => exact solid.cons

theorem Solid.alternation (solid : Solid a) : Regex.alternation [a] = a :=
  alternation_single solid.1

theorem Solid.look (assertion : Look) : Solid (.look assertion) := ⟨rfl, nofun⟩

def Tidy : Regex → Prop
  | seq a b => a ≠ empty ∧ b ≠ empty ∧ a.Tidy ∧ b.Tidy
  | alt a b => a.Tidy ∧ b.Tidy
  | empty | literal _ _ | char _ _ | look _ | repeated _ _ _ _ | group _ _ => True

theorem solid_cons (some_ : a ≠ empty) (more : b ≠ empty) : Solid (a.cons b) := by
  fun_cases Regex.cons a b with
  | case1 => exact absurd rfl some_
  | case2 => exact absurd rfl more
  | case3 | case4 | case5 =>
    refine ⟨rfl, ?_⟩
    intro empty
    cases empty

theorem Tidy.solid_append (tidy : a.Tidy) (some_ : a ≠ empty) (more : b ≠ empty) :
    Solid (a.append b) := by
  fun_induction Regex.append a b with
  | case1 b a rest ih =>
    obtain ⟨first, nonempty, _, tail⟩ := tidy
    exact solid_cons first (ih tail nonempty more).2
  | case2 => exact solid_cons some_ more

theorem Tidy.append_ne_empty (tidy : a.Tidy) (some_ : a ≠ empty) : a.append b ≠ empty := by
  fun_induction Regex.append a b with
  | case1 b a rest ih =>
    obtain ⟨first, nonempty, _, tail⟩ := tidy
    exact (solid_cons first (ih tail nonempty)).2
  | case2 a b =>
    fun_cases Regex.cons a b with
    | case1 => exact absurd rfl some_
    | case2 => exact some_
    | case3 | case4 | case5 =>
      intro empty
      cases empty

namespace Tidy

theorem cons (first : a.Tidy) (later : b.Tidy) : (a.cons b).Tidy := by
  fun_cases Regex.cons a b with
  | case1 => exact later
  | case2 => exact first
  | case3 => trivial
  | case4 c cs d ds b =>
    refine ⟨?_, later.2.1, trivial, later.2.2.2⟩
    intro empty
    cases empty
  | case5 a b some_ more => exact ⟨some_, more, first, later⟩

theorem append (first : a.Tidy) (later : b.Tidy) : (a.append b).Tidy := by
  fun_induction Regex.append a b with
  | case1 b a rest ih => exact first.2.2.1.cons (ih first.2.2.2 later)
  | case2 => exact first.cons later

theorem factors (tidy : a.Tidy) : ∀ b ∈ a.factors, b ≠ empty ∧ b.Tidy := by
  fun_induction Regex.factors a with
  | case1 => exact List.forall_mem_nil _
  | case2 a rest ih => exact List.forall_mem_cons.mpr ⟨⟨tidy.1, tidy.2.2.1⟩, ih tidy.2.2.2⟩
  | case3 a some_ => exact List.forall_mem_singleton.mpr ⟨some_, tidy⟩

theorem branches (tidy : a.Tidy) : ∀ b ∈ a.branches, b.Tidy := by
  fun_induction Regex.branches a with
  | case1 a rest ih => exact List.forall_mem_cons.mpr ⟨tidy.1, ih tidy.2⟩
  | case2 => exact List.forall_mem_singleton.mpr tidy

theorem kept : Kept Tidy where
  empty := trivial
  never := trivial
  joined _ _ := ofSet_induction (fun _ => trivial) (fun _ _ => trivial) _ _
  literal _ _ := trivial
  char _ _ := trivial
  alt first other := ⟨first, other⟩
  repeated _ _ _ _ := trivial
  append := append
  factors tidy b part := (factors tidy b part).2
  branches := branches

theorem offered {ast : Ast} {flags flags' : Flags} {offered : List Regex}
    (found : ast.branches? flags = some (offered, flags')) : ∀ b ∈ offered, b.Tidy :=
  ast.uses_all.offered kept (fun _ _ _ => trivial) (fun _ _ => trivial) (fun _ _ _ _ => trivial) found

end Tidy

theorem branches_concat_last (a : Regex) :
    ∃ init last, a.branches = init ++ [last] ∧ last.branches = [last] := by
  fun_induction Regex.branches a with
  | case1 a rest ih =>
    obtain ⟨init, last, joined, lone⟩ := ih
    exact ⟨a :: init, last, by rw [joined, List.cons_append], lone⟩
  | case2 a single =>
    refine ⟨[], a, rfl, ?_⟩
    unfold Regex.branches
    split
    · next first rest => exact absurd rfl (single first rest)
    · rfl

theorem flatMap_branches_last (some_ : regexes ≠ []) :
    ∃ init last, regexes.flatMap branches = init ++ [last] ∧ last.branches = [last] := by
  rcases List.eq_nil_or_concat regexes with rfl | ⟨earlier, a, rfl⟩
  · exact absurd rfl some_
  · obtain ⟨init, last, joined, lone⟩ := branches_concat_last a
    refine ⟨earlier.flatMap branches ++ init, last, ?_, lone⟩
    rw [List.concat_eq_append, List.flatMap_append, List.flatMap_singleton, joined,
      List.append_assoc]

theorem branches_anyOf {init : List Regex} {last : Regex} (lone : last.branches = [last]) :
    (anyOf (init ++ [last])).branches = init ++ [last] := by
  induction init with
  | nil => exact lone
  | cons a init ih =>
    have more : anyOf (a :: (init ++ [last])) = .alt a (anyOf (init ++ [last])) := by
      cases init <;> rfl
    rw [List.cons_append, more, branches, ih]

theorem solid_ofSet (alphabet : Unicode.Alphabet) (set : Unicode.CharSet) :
    Solid (ofSet alphabet set) := by
  unfold ofSet
  split
  · exact ⟨rfl, nofun⟩
  · split <;> exact ⟨rfl, nofun⟩

theorem length_flatMap_branches (regexes : List Regex) :
    regexes.length ≤ (regexes.flatMap branches).length := by
  induction regexes with
  | nil => exact Nat.le_refl _
  | cons a regexes ih =>
    obtain ⟨init, last, joined, _⟩ := branches_concat_last a
    rw [List.flatMap_cons, joined]
    simp only [List.length_append, List.length_cons, List.length_nil]
    omega

theorem oneOf_ne_empty (several : 2 ≤ regexes.length) : oneOf regexes ≠ empty := by
  unfold oneOf
  split
  · exact (solid_ofSet _ _).2
  · match regexes with
    | a :: b :: rest =>
      intro nothing
      cases nothing

theorem solid_shared {shared rest : List Regex} (some_ : shared ≠ [])
    (each : ∀ a ∈ shared, a ≠ empty ∧ a.Tidy) (several : 2 ≤ rest.length) :
    Solid ((sequence shared).append (oneOf rest)) := by
  have tidy : (sequence shared).Tidy := Tidy.kept.sequence fun a listed => (each a listed).2
  refine tidy.solid_append ?_ (oneOf_ne_empty several)
  cases shared with
  | nil => exact absurd rfl some_
  | cons a shared =>
    obtain ⟨nonempty, first⟩ := each a List.mem_cons_self
    exact first.append_ne_empty nonempty

theorem branches_alternation (each : ∀ a ∈ regexes, a.Tidy) :
    (alternation regexes).branches = [alternation regexes] ∨
      (alternation regexes).branches = regexes.flatMap branches := by
  have all : ∀ b ∈ regexes.flatMap branches, b.Tidy := by
    intro b member
    obtain ⟨a, listed, offered⟩ := List.mem_flatMap.mp member
    exact (each a listed).branches b offered
  -- An alternation that was joined into a set or whose beginning is shared is one branch.
  by_cases none_ : regexes = []
  · subst none_
    exact Or.inl (solid_ofSet .unicode (.ofList [])).1
  obtain ⟨init, last, joined, lone⟩ := flatMap_branches_last none_
  unfold alternation
  rw [joined] at all ⊢
  split
  · next a only =>
    rcases List.append_eq_singleton_iff.mp only with ⟨rfl, same⟩ | ⟨_, nothing⟩
    · cases same
      exact Or.inl lone
    · cases nothing
  · next several =>
    simp only
    split
    · unfold oneOf
      split
      · exact Or.inl (solid_ofSet _ _).1
      · exact Or.inr (branches_anyOf lone)
    · next shared =>
      refine Or.inl (solid_shared ?_ ?_ ?_).1
      · intro nothing
        exact shared (List.isEmpty_iff.mpr nothing)
      · intro b member
        obtain ⟨a, given, part⟩ := Joins.factor_of_shared member
        exact (all a given).factors b part
      · refine Nat.le_trans ?_ (length_flatMap_branches _)
        cases init with
        | nil => exact absurd rfl (several last)
        | cons a init => simp

theorem alternation_congr {others : List Regex}
    (same : regexes.flatMap branches = others.flatMap branches) :
    alternation regexes = alternation others := by
  unfold alternation
  rw [same]

theorem alternation_again (each : ∀ a ∈ regexes, a.Tidy) :
    alternation [alternation regexes] = alternation regexes := by
  rcases branches_alternation each with single | all
  · exact alternation_single single
  · exact alternation_congr (by rw [List.flatMap_singleton, all])

theorem alternation_meaning {ast : Ast} {flags : Flags} (meant : ast.meaning? flags = some a) :
    alternation [a] = a := by
  obtain ⟨⟨offered, flags'⟩, found, same⟩ := Option.bind_eq_some_iff.mp meant
  cases same
  exact alternation_again (Tidy.offered found)

theorem Tidy.meaning {ast : Ast} {flags : Flags} (meant : ast.meaning? flags = some a) :
    a.Tidy := by
  obtain ⟨⟨offered, flags'⟩, found, same⟩ := Option.bind_eq_some_iff.mp meant
  cases same
  exact Tidy.kept.alternation (Tidy.offered found)

theorem size_pos (a : Regex) : 1 ≤ a.size := by
  induction a with
  | empty | char | look => exact Nat.le_refl _
  | literal => exact Nat.le_add_left _ _
  | seq a b first _ => exact Nat.le_add_right_of_le first
  | alt a b => simp only [size]; omega
  | repeated low high greedy a =>
    cases high with
    | none =>
      simp only [size]
      split
      · split <;> omega
      · omega
    | some high => exact Nat.le_add_left _ _
  | group name a ih =>
    cases name with
    | none => exact ih
    | some name => exact Nat.le_add_left _ _

theorem Tidy.size_append (tidy : a.Tidy) (some_ : a ≠ empty) (more : b ≠ empty) :
    (a.append b).size = a.size + b.size := by
  fun_induction Regex.append a b with
  | case1 b a rest ih =>
    obtain ⟨first, nonempty, _, tail⟩ := tidy
    rw [size_cons first (tail.append_ne_empty nonempty), ih tail nonempty more, size, Nat.add_assoc]
  | case2 => exact size_cons some_ more

theorem Tidy.size_le_append (tidy : a.Tidy) (more : b ≠ empty) :
    a.size ≤ (a.append b).size ∧ b.size ≤ (a.append b).size := by
  by_cases nothing : a = empty
  · subst nothing
    exact ⟨size_pos b, Nat.le_refl _⟩
  · rw [tidy.size_append nothing more]
    exact ⟨Nat.le_add_right _ _, Nat.le_add_left _ _⟩

end RouteTable.Regex
