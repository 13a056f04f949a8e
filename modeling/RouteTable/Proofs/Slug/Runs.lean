import RouteTable.Proofs.Lowercase
import RouteTable.Proofs.Slug

namespace RouteTable.Slug

variable {last : Option Char} {gap : Bool} {s t : Text}

-- The longest runs of characters that a slug may have.
def runs : Text → List Text
  | [] => []
  | c :: rest =>
    if allowed c then (c :: rest.takeWhile allowed) :: runs (rest.dropWhile allowed)
    else runs rest
termination_by s => s.length
decreasing_by
  · exact Nat.lt_succ_of_le (Text.length_dropWhile_le allowed rest)
  · exact Nat.lt_succ_self _

def separator (left right : Text) : Text :=
  if left.getLast? = some '-' ∨ right.head? = some '-' then [] else ['-']

def glue : List Text → Text
  | [] => []
  | [run] => run
  | run :: next :: later => run ++ separator run next ++ glue (next :: later)

def lead (last : Option Char) : List Text → Text
  | [] => []
  | run :: _ => if last.any (· != '-') && run.head? != some '-' then ['-'] else []

theorem glue_cons (c : Char) (run : Text) (later : List Text) :
    glue ((c :: run) :: later) = (c :: run) ++ lead (run.getLast?.or (some c)) later ++ glue later := by
  cases later with
  | nil => simp [glue, lead]
  | cons next later =>
    have ends : (c :: run).getLast? = run.getLast?.or (some c) := by
      cases run with
      | nil => rfl
      | cons d run => rw [List.getLast?_cons_cons, List.getLast?_cons, Option.some_or]
    obtain ⟨d, written⟩ : ∃ d, run.getLast?.or (some c) = some d := by
      cases run.getLast? with
      | none => exact ⟨c, rfl⟩
      | some d => exact ⟨d, rfl⟩
    rw [glue, lead, separator, ends, written]
    by_cases here : d = '-' <;> by_cases there : next.head? = some '-' <;> simp [*]

theorem joinAllowed_run : joinAllowed last false s =
    s.takeWhile allowed ++
      joinAllowed ((s.takeWhile allowed).getLast?.or last) true (s.dropWhile allowed) := by
  induction s generalizing last with
  | nil => rfl
  | cons c rest ih =>
    cases fits : allowed c with
    | true =>
      have ends : ((rest.takeWhile allowed).getLast?.or (some c)) =
          (c :: rest.takeWhile allowed).getLast? := by
        cases rest.takeWhile allowed with
        | nil => rfl
        | cons d run => rw [List.getLast?_cons_cons, List.getLast?_cons, Option.some_or]
      rw [joinAllowed, if_pos fits, ih, List.takeWhile_cons_of_pos fits,
        List.dropWhile_cons_of_pos fits, ends, List.getLast?_cons, Option.some_or]
      rfl
    | false =>
      have refused : ¬allowed c = true := by rw [fits]; exact Bool.false_ne_true
      rw [List.takeWhile_cons_of_neg refused, List.dropWhile_cons_of_neg refused, joinAllowed,
        if_neg refused, joinAllowed, if_neg refused]
      rfl

theorem joinAllowed_gap : joinAllowed last true s = lead last (runs s) ++ glue (runs s) := by
  fun_induction runs s generalizing last with
  | case1 => rfl
  | case2 c rest fits ih =>
    have dash : (some c != some '-') = (c != '-') := by
      rw [Bool.eq_iff_iff, bne_iff_ne, bne_iff_ne, ne_eq, Option.some_inj]
    simp only [glue_cons, joinAllowed, if_pos fits, joinAllowed_run, ih, lead, List.head?_cons,
      dash, Bool.true_and]
    split <;> simp
  | case3 c rest refused ih => rw [joinAllowed, if_neg refused, ih]

theorem joinAllowed_none : joinAllowed none false s = glue (runs s) := by
  have start : joinAllowed none false s = joinAllowed none true s := by
    cases s with
    | nil => rfl
    | cons c rest => rw [joinAllowed, joinAllowed]; simp
  have nothing (found : List Text) : lead none found = [] := by cases found <;> rfl
  rw [start, joinAllowed_gap, nothing, List.nil_append]

-- A text as far as slugs go: the characters that stay, and the places of the others.
def kept (s : Text) : List (Option Char) := s.map fun c => if allowed c then some c else none

theorem kept_append : kept (s ++ t) = kept s ++ kept t := List.map_append

theorem joinAllowed_congr (same : kept s = kept t) : joinAllowed last gap s = joinAllowed last gap t := by
  induction s generalizing last gap t with
  | nil =>
    obtain rfl : t = [] := List.map_eq_nil_iff.mp same.symm
    rfl
  | cons c s ih =>
    cases t with
    | nil => cases same
    | cons d t =>
      obtain ⟨here, later⟩ := List.cons.inj same
      simp only [joinAllowed]
      simp only at here
      split at here
      · next fits =>
        split at here
        · next fits' =>
          obtain rfl := Option.some.inj here
          rw [if_pos fits, if_pos fits, ih later]
        · cases here
      · next refused =>
        split at here
        · cases here
        · next refused' => rw [if_neg refused, if_neg refused', ih later]

theorem runs_eq_nil : runs s = [] ↔ ∀ c ∈ s, allowed c = false := by
  fun_induction runs s with
  | case1 => simp
  | case2 c rest fits => simp [fits]
  | case3 c rest refused ih => simp_all

theorem nonempty_of_runs : ∀ run ∈ runs s, run ≠ [] := by
  fun_induction runs s with
  | case1 => nofun
  | case2 c rest fits ih => exact List.forall_mem_cons.mpr ⟨List.cons_ne_nil _ _, ih⟩
  | case3 c rest refused ih => exact ih

theorem glue_eq_nil {found : List Text} (filled : ∀ run ∈ found, run ≠ []) :
    glue found = [] ↔ found = [] := by
  fun_cases glue found with
  | case1 => simp
  | case2 run => simpa using filled run List.mem_cons_self
  | case3 run next later => simpa using fun none => absurd none (filled run List.mem_cons_self)

theorem ofText_eq_nil : ofText s = [] ↔ ∀ c ∈ s, ∀ letter ∈ spelled c, allowed letter = false := by
  rw [ofText, joinAllowed_none, glue_eq_nil nonempty_of_runs, runs_eq_nil, lowercase_transliterate]
  simp only [List.mem_flatMap, forall_exists_index, and_imp]
  exact ⟨fun none c member letter written => none letter c member written,
    fun none letter c member written => none c member letter written⟩

example : runs "..a b-".toList = ["..a".toList, "b-".toList] ∧
    glue ["..a".toList, "b-".toList, "c".toList] = "..a-b-c".toList := by
  refine ⟨?_, by decide⟩
  simp [runs, allowed]

end RouteTable.Slug
