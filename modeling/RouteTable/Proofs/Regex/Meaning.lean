import RouteTable.Proofs.Alike
import RouteTable.Proofs.Regex.Passage
import RouteTable.Proofs.Regex.Reader
import RouteTable.Regex.Meaning

namespace RouteTable.Regex

open Unicode (CharSet foldCase)

def insensitive : Flags := { caseInsensitive := true }

def isAtom : Regex → Bool
  | literal _ _ | char _ _ | look _ | repeated _ _ _ _ | group _ _ => true
  | empty | seq _ _ | alt _ _ => false

theorem append_of_isAtom {a b : Regex} (atom : a.isAtom = true) : a.append b = a.cons b := by
  cases a with
  | seq => cases atom
  | empty | literal | char | look | alt | repeated | group => rfl

theorem branches_append {a b : Regex} (atom : a.isAtom = true) :
    (a.append b).branches = [a.append b] := by
  rw [append_of_isAtom atom]
  fun_cases Regex.cons a b with
  | case1 => cases atom
  | case2 =>
    cases a with
    | empty | seq | alt => cases atom
    | literal | char | look | repeated | group => rfl
  | case3 | case4 | case5 => rfl

theorem branches_sequence {atoms : List Regex} (each : ∀ a ∈ atoms, a.isAtom = true) :
    (sequence atoms).branches = [sequence atoms] := by
  cases atoms with
  | nil => rfl
  | cons a atoms => exact branches_append (each a List.mem_cons_self)

theorem alternation_single {r : Regex} (single : r.branches = [r]) : alternation [r] = r := by
  simp [alternation, single]

theorem append_empty {a : Regex} (atom : a.isAtom = true) : a.append empty = a := by
  rw [append_of_isAtom atom]
  cases a with
  | empty | seq | alt => cases atom
  | literal | char | look | repeated | group => rfl

theorem matchesOnlyEmpty_cons (a b : Regex) :
    (a.cons b).matchesOnlyEmpty = (a.matchesOnlyEmpty && b.matchesOnlyEmpty) := by
  fun_cases Regex.cons a b <;> simp [matchesOnlyEmpty]

theorem matchesOnlyEmpty_sequence {atoms : List Regex} (each : ∀ a ∈ atoms, a.isAtom = true) :
    (sequence atoms).matchesOnlyEmpty = atoms.all matchesOnlyEmpty := by
  induction atoms with
  | nil => rfl
  | cons a atoms ih =>
    have rest := ih fun b member => each b (List.mem_cons_of_mem a member)
    change (a.append (sequence atoms)).matchesOnlyEmpty = _
    rw [append_of_isAtom (each a List.mem_cons_self), matchesOnlyEmpty_cons, rest, List.all_cons]

theorem size_cons {a b : Regex} (some_ : a ≠ empty) (more : b ≠ empty) :
    (a.cons b).size = a.size + b.size := by
  fun_cases Regex.cons a b with
  | case1 => exact absurd rfl some_
  | case2 => exact absurd rfl more
  | case3 => simp only [size, List.length_append, List.length_cons]; omega
  | case4 => simp only [size, List.length_append, List.length_cons]; omega
  | case5 => rfl

theorem ne_empty_of_isAtom {a : Regex} (atom : a.isAtom = true) : a ≠ empty := by
  rintro rfl
  cases atom

theorem cons_ne_empty {a : Regex} (some_ : a ≠ empty) (b : Regex) : a.cons b ≠ empty := by
  fun_cases Regex.cons a b with
  | case1 => exact absurd rfl some_
  | case2 => exact some_
  | case3 | case4 | case5 =>
    intro same
    cases same

theorem sequence_ne_empty {a : Regex} (atom : a.isAtom = true) (atoms : List Regex) :
    sequence (a :: atoms) ≠ empty := by
  change a.append (sequence atoms) ≠ empty
  rw [append_of_isAtom atom]
  exact cons_ne_empty (ne_empty_of_isAtom atom) _

def sizes : List Regex → Nat
  | [] => 0
  | a :: rest => a.size + sizes rest

theorem sizes_append (first later : List Regex) :
    sizes (first ++ later) = sizes first + sizes later := by
  induction first with
  | nil => exact (Nat.zero_add _).symm
  | cons a first ih => rw [List.cons_append, sizes, sizes, ih, Nat.add_assoc]

theorem size_sequence {atoms : List Regex} (each : ∀ a ∈ atoms, a.isAtom = true)
    (some_ : atoms ≠ []) : (sequence atoms).size = sizes atoms := by
  induction atoms with
  | nil => exact absurd rfl some_
  | cons a atoms ih =>
    obtain ⟨atom, others⟩ := List.forall_mem_cons.mp each
    change (a.append (sequence atoms)).size = _
    cases atoms with
    | nil =>
      change (a.append empty).size = _
      rw [append_empty atom]
      rfl
    | cons b rest =>
      have more := sequence_ne_empty (others b List.mem_cons_self) rest
      rw [append_of_isAtom atom, size_cons (ne_empty_of_isAtom atom) more,
        ih others (List.cons_ne_nil _ _)]
      rfl

namespace Passage

def sequence (passages : List Passage) : Passage := passages.foldr andThen stay

theorem sequence_append (first later : List Passage) :
    sequence (first ++ later) = (sequence first).andThen (sequence later) := by
  induction first with
  | nil => exact (stay_andThen _).symm
  | cons a first ih =>
    change a.andThen (sequence (first ++ later)) = _
    rw [ih, ← andThen_assoc]
    rfl

end Passage

theorem passage_sequence (atoms : List Regex) :
    (sequence atoms).passage = Passage.sequence (atoms.map passage) := by
  induction atoms with
  | nil => rfl
  | cons a atoms ih =>
    change (a.append (sequence atoms)).passage = _
    rw [passage_append, ih]
    rfl

theorem passage_sequence_append (atoms atoms' : List Regex) :
    (sequence (atoms ++ atoms')).passage =
      (sequence atoms).passage.andThen (sequence atoms').passage := by
  rw [passage_sequence, passage_sequence, passage_sequence, List.map_append,
    Passage.sequence_append]

theorem passage_ofVariants (c : Char) :
    (ofVariants .unicode c).passage = .oneOf fun d => foldCase d = foldCase c := by
  have variant : ∀ d, d ∈ (Unicode.Alphabet.unicode.variants c) ↔ foldCase d = foldCase c :=
    fun _ => Unicode.mem_caseVariants
  unfold ofVariants
  split
  · next alone =>
    -- A character without variants of its own is alone in its folding class.
    have folded : ∀ d, foldCase d = foldCase c ↔ d = c := by
      intro d
      constructor
      · intro alike
        simpa using List.all_eq_true.mp alone d ((variant d).mpr alike)
      · rintro rfl
        rfl
    simp only [folded, passage, ← oneOf_single, contains_single]
  · simp only [passage, CharSet.contains, List.any_eq_true, contains_single, exists_eq_right]
    refine congrArg Passage.oneOf (funext fun d => propext ?_)
    exact Unicode.mem_caseVariants.trans eq_comm

theorem isAtom_ofVariants (c : Char) : (ofVariants .unicode c).isAtom = true := by
  unfold ofVariants
  split <;> rfl

theorem size_ofVariants (c : Char) : (ofVariants .unicode c).size = 1 := by
  unfold ofVariants
  split <;> rfl

end RouteTable.Regex
