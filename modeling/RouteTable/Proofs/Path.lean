import Mathlib.Data.List.Chain
import RouteTable.Path
import RouteTable.Proofs.Alike
import RouteTable.Proofs.Occurrence

namespace RouteTable

namespace Text

variable {sep : Char} {s t : Text}

theorem splitAt_ne_nil (sep : Char) (s : Text) : splitAt sep s ≠ [] := by
  cases s with
  | nil => nofun
  | cons c rest =>
    unfold splitAt
    split
    · nofun
    · split <;> nofun

theorem splitAt_append (sep : Char) (s t : Text) :
    splitAt sep (s ++ sep :: t) = splitAt sep s ++ splitAt sep t := by
  induction s with
  | nil => simp [splitAt]
  | cons c s ih =>
    simp only [List.cons_append, splitAt, ih]
    split
    · rfl
    · cases pieces : splitAt sep s with
      | nil => exact absurd pieces (splitAt_ne_nil sep s)
      | cons piece pieces => rfl

theorem splitAt_of_not_mem (absent : sep ∉ s) : splitAt sep s = [s] := by
  induction s with
  | nil => rfl
  | cons c s ih =>
    simp only [List.mem_cons, not_or] at absent
    simp only [splitAt, ih absent.2, if_neg (Ne.symm absent.1)]

theorem flatMap_splitAt (sep : Char) (s : Text) :
    (splitAt sep s).flatMap (sep :: ·) = sep :: s := by
  induction s with
  | nil => rfl
  | cons c s ih =>
    unfold splitAt
    split
    · next same => rw [List.flatMap_cons, ih, same]; rfl
    · cases pieces : splitAt sep s with
      | nil => exact absurd pieces (splitAt_ne_nil sep s)
      | cons piece pieces =>
        rw [pieces, List.flatMap_cons] at ih
        simpa using ih

theorem empty_piece {c : Char} (empty : [] ∈ (splitAt sep (c :: s)).tail) :
    [sep, sep] <:+: c :: s ∨ (c :: s).getLast? = some sep := by
  induction s generalizing c with
  | nil =>
    simp only [splitAt] at empty
    split at empty
    · next same => exact Or.inr (by rw [same]; rfl)
    · cases empty
  | cons d s ih =>
    -- Either the two separators meet here, or the empty piece lies further on.
    have onward (later : [] ∈ (splitAt sep (d :: s)).tail) :
        [sep, sep] <:+: c :: d :: s ∨ (c :: d :: s).getLast? = some sep :=
      (ih later).imp (fun inside => List.infix_cons inside) fun last => by simpa using last
    rw [splitAt] at empty
    split at empty
    · next same =>
      rw [List.tail_cons] at empty
      by_cases next : d = sep
      · rw [next, same]
        exact Or.inl (List.prefix_append [sep, sep] s).isInfix
      · apply onward
        rw [splitAt, if_neg next] at empty ⊢
        cases pieces : splitAt sep s with
        | nil => exact absurd pieces (splitAt_ne_nil sep s)
        | cons piece pieces =>
          rw [pieces] at empty
          simpa using empty
    · apply onward
      cases pieces : splitAt sep (d :: s) with
      | nil => exact absurd pieces (splitAt_ne_nil sep _)
      | cons piece pieces =>
        rw [pieces] at empty
        exact empty

end Text

namespace Path

open Unicode (foldCase)

variable {s t path : Text}

theorem segments_append_slash (s t : Text) :
    segments (s ++ '/' :: t) = segments s ++ segments t := by
  rw [segments, Text.splitAt_append, List.filter_append]
  rfl

theorem segments_slash (t : Text) : segments ('/' :: t) = segments t :=
  segments_append_slash [] t

theorem segments_append_final (s : Text) : segments (s ++ ['/']) = segments s :=
  (segments_append_slash s []).trans (List.append_nil _)

theorem segments_piece (nonempty : s ≠ []) (within : '/' ∉ s) : segments s = [s] := by
  rw [segments, Text.splitAt_of_not_mem within]
  cases s with
  | nil => exact absurd rfl nonempty
  | cons => rfl

theorem segments_append_collapse (earlier s : Text) :
    segments (earlier ++ collapse s) = segments (earlier ++ s) := by
  fun_induction collapse s generalizing earlier with
  | case1 => rfl
  | case2 rest ih => rw [ih, segments_append_slash, segments_append_slash, segments_slash]
  | case3 c rest different ih => simpa using ih (earlier ++ [c])

theorem segments_collapse (s : Text) : segments (collapse s) = segments s :=
  segments_append_collapse [] s

theorem segments_dropWhile (s : Text) : segments (s.dropWhile (· == '/')) = segments s := by
  induction s with
  | nil => rfl
  | cons c s ih =>
    by_cases slash : c = '/'
    · subst slash
      exact ih.trans (segments_slash s).symm
    · rw [List.dropWhile_cons_of_neg (by simpa using slash)]

-- Written from the place that it is read at.
def Dotted (path : Text) : Prop := "./".toList <+: path

instance (path : Text) : Decidable (Dotted path) :=
  inferInstanceAs (Decidable ("./".toList <+: path))

theorem dotted_cons {c : Char} : Dotted (c :: path) ↔ c = '.' ∧ path.head? = some '/' := by
  change ['.', '/'] <+: c :: path ↔ _
  rw [List.cons_prefix_cons, List.singleton_prefix_iff_head?_eq_some, eq_comm]

theorem trimRelative_of_not_dotted (plain : ¬ Dotted path) : trimRelative path = path := by
  unfold trimRelative
  split
  · next rest => exact absurd (List.prefix_append "./".toList rest) plain
  · rfl

theorem segments_dotted (rest : Text) : segments ('.' :: '/' :: rest) = ['.'] :: segments rest := by
  have dot : segments ['.'] = [['.']] := segments_piece (List.cons_ne_nil _ _) (by decide)
  exact (segments_append_slash ['.'] rest).trans (congrArg (· ++ segments rest) dot)

theorem segments_trimRelative_suffix (path : Text) : segments (trimRelative path) <:+ segments path := by
  fun_induction trimRelative path with
  | case1 rest ih =>
    rw [segments_dotted]
    exact ih.trans (List.suffix_cons _ _)
  | case2 => exact List.suffix_rfl

-- Trimming takes segments away, unless there is nothing to trim.
theorem segments_trimRelative_eq_iff :
    segments (trimRelative path) = segments path ↔ ¬ Dotted path := by
  constructor
  · intro same dotted
    obtain ⟨rest, rfl⟩ := dotted
    have left : segments (trimRelative rest) = ['.'] :: segments rest :=
      same.trans (segments_dotted rest)
    have shorter := (segments_trimRelative_suffix rest).length_le
    rw [left, List.length_cons] at shorter
    exact Nat.not_succ_le_self _ shorter
  · intro plain
    rw [trimRelative_of_not_dotted plain]

theorem trimRelative_of_slash (rooted : path.head? = some '/') : trimRelative path = path := by
  apply trimRelative_of_not_dotted
  cases path with
  | nil => cases rooted
  | cons c rest =>
    intro dotted
    rw [(dotted_cons.mp dotted).1] at rooted
    cases rooted

theorem trimRelative_of_segments (plain : (segments path).head? ≠ some ['.']) :
    trimRelative path = path := by
  apply trimRelative_of_not_dotted
  intro dotted
  obtain ⟨rest, rfl⟩ := dotted
  exact plain (congrArg List.head? (segments_dotted rest))

theorem ofSegments_segments (canonical : isCanonical path = true) :
    ofSegments (segments path) = path := by
  simp only [isCanonical, Bool.and_eq_true, beq_iff_eq, Bool.not_eq_true', Bool.or_eq_true,
    bne_iff_ne] at canonical
  obtain ⟨⟨rooted, single⟩, ending⟩ := canonical
  cases path with
  | nil => cases rooted
  | cons c rest =>
    obtain rfl : c = '/' := by simpa using rooted
    rcases ending with root | open_
    · obtain rfl : rest = [] := by simpa using root
      rfl
    · have pieces : ∀ piece ∈ Text.splitAt '/' rest, (!piece.isEmpty) = true := by
        intro piece member
        cases piece with
        | cons => rfl
        | nil =>
          have empty : [] ∈ (Text.splitAt '/' ('/' :: rest)).tail := by simpa [Text.splitAt]
          rcases Text.empty_piece empty with double | last
          · exact absurd (Text.includes_of_infix double) (by simp_all)
          · exact absurd last open_
      have all : segments ('/' :: rest) = Text.splitAt '/' rest := by
        rw [segments_slash, segments, List.filter_eq_self.mpr pieces]
      rw [all, ← Text.flatMap_splitAt]
      cases same : Text.splitAt '/' rest with
      | nil => exact absurd same (Text.splitAt_ne_nil _ _)
      | cons => rfl

theorem normalize_eq (path : Text) :
    normalize path = ofSegments (segments (trimRelative path)) := by
  unfold normalize
  split
  · next canonical =>
    have rooted : path.head? = some '/' := by
      simp only [isCanonical, Bool.and_eq_true, beq_iff_eq] at canonical
      exact canonical.1.1
    rw [trimRelative_of_slash rooted, ofSegments_segments canonical]
  · rfl

def Single (path : Text) : Prop := path.IsChain fun c d => c = '/' → d ≠ '/'

instance (path : Text) : Decidable (Single path) :=
  inferInstanceAs (Decidable (path.IsChain fun c d => c = '/' → d ≠ '/'))

theorem collapse_of_single (single : Single path) : collapse path = path := by
  fun_induction collapse path with
  | case1 => rfl
  | case2 rest ih =>
    obtain ⟨apart, -⟩ := List.isChain_cons_cons.mp single
    exact absurd rfl (apart rfl)
  | case3 c rest different ih => rw [ih single.tail]

theorem single_of_not_mem (within : '/' ∉ s) : Single s := by
  refine (List.pairwise_of_forall_mem_list fun c member d _ slash => ?_).isChain
  exact absurd (slash ▸ member) within

theorem single_iff : Single path ↔ Text.includes "//" path = false := by
  rw [Single, List.isChain_iff_forall_rel_of_append_cons_cons]
  constructor
  · intro apart
    refine Bool.eq_false_iff.mpr fun inside => ?_
    obtain ⟨before, after, rfl⟩ := Text.exists_of_includes inside
    exact apart (List.append_assoc before "//".toList after) rfl rfl
  · rintro plain c d before after rfl rfl rfl
    have inside : "//".toList <:+: before ++ '/' :: '/' :: after :=
      ⟨before, after, List.append_assoc _ _ _⟩
    rw [Text.includes_of_infix inside] at plain
    cases plain

theorem single_append : Single (s ++ t) ↔
    Single s ∧ Single t ∧ (s.getLast? = some '/' → t.head? ≠ some '/') := by
  unfold Single
  rw [List.isChain_append]
  refine and_congr_right fun _ => and_congr_right fun _ => ?_
  constructor
  · intro apart last first
    exact apart '/' last '/' first rfl rfl
  · rintro apart c last d first rfl rfl
    exact apart last first

theorem head_collapse (path : Text) : (collapse path).head? = path.head? := by
  fun_induction collapse path with
  | case1 => rfl
  | case2 rest ih => exact ih
  | case3 => rfl

theorem single_collapse (path : Text) : Single (collapse path) := by
  fun_induction collapse path with
  | case1 => exact List.isChain_nil
  | case2 rest ih => exact ih
  | case3 c rest different ih =>
    refine List.isChain_cons.mpr ⟨?_, ih⟩
    rintro d next rfl rfl
    rw [head_collapse] at next
    obtain ⟨later, rfl⟩ := List.head?_eq_some_iff.mp next
    exact different later rfl rfl

theorem splitAt_fold (s : Text) :
    Text.splitAt '/' (s.map foldCase) = (Text.splitAt '/' s).map (·.map foldCase) := by
  induction s with
  | nil => rfl
  | cons c s ih =>
    simp only [List.map_cons, Text.splitAt, ih]
    by_cases slash : c = '/'
    · rw [if_pos slash, if_pos (foldCase_eq_slash.mpr slash)]
      rfl
    · rw [if_neg slash, if_neg fun folded => slash (foldCase_eq_slash.mp folded)]
      cases Text.splitAt '/' s <;> rfl

theorem segments_fold (s : Text) :
    segments (s.map foldCase) = (segments s).map (·.map foldCase) := by
  rw [segments, splitAt_fold, segments, List.filter_map]
  congr 1
  refine List.filter_congr fun piece _ => ?_
  cases piece <;> rfl

theorem single_of_alike (alike : Alike s t) (single : Single t) : Single s := by
  have folded (path : Text) : Single path ↔ Single (path.map foldCase) := by
    unfold Single
    rw [List.isChain_map]
    refine List.IsChain.iff fun c d => ?_
    rw [ne_eq, ne_eq, foldCase_eq_slash, foldCase_eq_slash]
  rw [folded, alike, ← folded]
  exact single

theorem ofSegments_fold (pieces : List Text) :
    (ofSegments pieces).map foldCase = ofSegments (pieces.map (·.map foldCase)) := by
  cases pieces with
  | nil => exact congrArg (fun c => [c]) foldCase_slash
  | cons piece pieces =>
    change ((piece :: pieces).flatMap ('/' :: ·)).map foldCase = _
    simp [ofSegments, List.map_flatMap, List.flatMap_map, foldCase_slash]

theorem generated_of_slash (rooted : path.head? = some '/') :
    generated path = (collapse path).dropWhile (· == '/') := by
  rw [generated, trimRelative_of_slash rooted]

-- The slash that a generated path lacks is the only one that was dropped.
theorem slash_generated (rooted : path.head? = some '/') :
    '/' :: generated path = collapse path := by
  have first := head_collapse path
  rw [rooted] at first
  obtain ⟨rest, same⟩ := List.head?_eq_some_iff.mp first
  have single := single_collapse path
  rw [same] at single
  rw [generated_of_slash rooted, same, List.dropWhile_cons_of_pos (by rfl)]
  cases rest with
  | nil => rfl
  | cons c rest =>
    obtain ⟨apart, -⟩ := List.isChain_cons_cons.mp single
    rw [List.dropWhile_cons_of_neg (by simpa using apart rfl)]

theorem segments_generated (rooted : path.head? = some '/') :
    segments (generated path) = segments path := by
  rw [generated_of_slash rooted, segments_dropWhile, segments_collapse]

end Path

end RouteTable
