import Mathlib.Data.List.SplitBy
import RouteTable.Proofs.Path

namespace RouteTable

namespace Text

variable {sep : Char} {s piece : Text}

theorem not_mem_of_mem_splitAt (member : piece ∈ splitAt sep s) : sep ∉ piece := by
  induction s generalizing piece with
  | nil =>
    rw [List.mem_singleton.mp member]
    exact List.not_mem_nil
  | cons c s ih =>
    unfold splitAt at member
    split at member
    · rcases List.mem_cons.mp member with rfl | later
      · exact List.not_mem_nil
      · exact ih later
    · next different =>
      cases pieces : splitAt sep s with
      | nil => exact absurd pieces (splitAt_ne_nil sep s)
      | cons first rest =>
        rw [pieces] at member ih
        rcases List.mem_cons.mp member with rfl | later
        · have within := ih List.mem_cons_self
          simp only [List.mem_cons, not_or]
          exact ⟨Ne.symm different, within⟩
        · exact ih (List.mem_cons_of_mem first later)

end Text

namespace Path

variable {path other piece : Text} {pieces : List Text}

structure IsSegment (piece : Text) : Prop where
  nonempty : piece ≠ []
  unslashed : '/' ∉ piece

theorem isSegment_of_mem (member : piece ∈ segments path) : IsSegment piece := by
  obtain ⟨listed, filled⟩ := List.mem_filter.mp member
  refine ⟨?_, Text.not_mem_of_mem_splitAt listed⟩
  simpa using filled

theorem isSegment_segments (path : Text) : ∀ piece ∈ segments path, IsSegment piece :=
  fun _ member => isSegment_of_mem member

theorem segments_flatMap (each : ∀ piece ∈ pieces, IsSegment piece) :
    segments (pieces.flatMap ('/' :: ·)) = pieces := by
  induction pieces with
  | nil => rfl
  | cons piece rest ih =>
    obtain ⟨here, later⟩ := List.forall_mem_cons.mp each
    have first := segments_piece here.nonempty here.unslashed
    have others := ih later
    rw [List.flatMap_cons, List.cons_append, segments_slash]
    cases rest with
    | nil => rw [List.flatMap_nil, List.append_nil, first]
    | cons next rest =>
      rw [List.flatMap_cons, List.cons_append, segments_slash] at others
      rw [List.flatMap_cons, List.cons_append, segments_append_slash, first, others]
      rfl

theorem segments_ofSegments (each : ∀ piece ∈ pieces, IsSegment piece) :
    segments (ofSegments pieces) = pieces := by
  cases pieces with
  | nil => rfl
  | cons piece rest => exact segments_flatMap each

theorem isCanonical_iff : isCanonical path = true ↔
    path.head? = some '/' ∧ Single path ∧ (path = ['/'] ∨ path.getLast? ≠ some '/') := by
  rw [single_iff]
  simp [isCanonical, and_assoc]

theorem single_flatMap (each : ∀ piece ∈ pieces, IsSegment piece) :
    Single (pieces.flatMap ('/' :: ·)) ∧ (pieces.flatMap ('/' :: ·)).getLast? ≠ some '/' := by
  induction pieces with
  | nil => exact ⟨List.isChain_nil, by decide⟩
  | cons piece rest ih =>
    obtain ⟨here, later⟩ := List.forall_mem_cons.mp each
    obtain ⟨single, open_⟩ := ih later
    have last : ('/' :: piece).getLast? ≠ some '/' := by
      intro slash
      rw [List.getLast?_cons_of_ne_nil here.nonempty] at slash
      exact here.unslashed (List.mem_of_getLast? slash)
    have first : Single ('/' :: piece) := by
      refine List.isChain_cons.mpr ⟨?_, single_of_not_mem here.unslashed⟩
      intro c next _ slash
      rw [slash] at next
      exact here.unslashed (List.mem_of_head? next)
    rw [List.flatMap_cons]
    refine ⟨single_append.mpr ⟨first, single, fun slash => absurd slash last⟩, ?_⟩
    rw [List.getLast?_append]
    intro slash
    rcases Option.or_eq_some_iff.mp slash with behind | ⟨_, before⟩
    · exact open_ behind
    · exact last before

theorem isCanonical_ofSegments (each : ∀ piece ∈ pieces, IsSegment piece) :
    isCanonical (ofSegments pieces) = true := by
  cases pieces with
  | nil => decide
  | cons piece rest =>
    obtain ⟨single, open_⟩ := single_flatMap each
    exact isCanonical_iff.mpr ⟨rfl, single, Or.inr open_⟩

theorem segments_normalize (path : Text) :
    segments (normalize path) = segments (trimRelative path) := by
  rw [normalize_eq, segments_ofSegments (isSegment_segments _)]

theorem isCanonical_normalize (path : Text) : isCanonical (normalize path) = true := by
  rw [normalize_eq]
  exact isCanonical_ofSegments (isSegment_segments _)

theorem normalize_of_canonical (canonical : isCanonical path = true) : normalize path = path :=
  if_pos canonical

theorem normalize_eq_self_iff : normalize path = path ↔ isCanonical path = true := by
  constructor
  · intro same
    rw [← same]
    exact isCanonical_normalize path
  · exact normalize_of_canonical

theorem normalize_normalize (path : Text) : normalize (normalize path) = normalize path :=
  normalize_of_canonical (isCanonical_normalize path)

theorem normalize_eq_normalize_iff : normalize path = normalize other ↔
    segments (trimRelative path) = segments (trimRelative other) := by
  constructor
  · intro same
    rw [← segments_normalize, same, segments_normalize]
  · intro same
    rw [normalize_eq, same, ← normalize_eq]

-- The segments joined by slashes, whether or not the path is canonical to begin with.
def rejoined (path : Text) : Text :=
  let joined := ['/'].intercalate (segments (trimRelative path))
  if joined.isEmpty then ['/'] else '/' :: joined

theorem flatMap_eq_intercalate (some : pieces ≠ []) :
    pieces.flatMap ('/' :: ·) = '/' :: ['/'].intercalate pieces := by
  induction pieces with
  | nil => exact absurd rfl some
  | cons piece rest ih =>
    cases rest with
    | nil => rw [List.flatMap_singleton, List.intercalate_singleton]
    | cons next rest =>
      rw [List.flatMap_cons, ih (List.cons_ne_nil _ _), List.intercalate_cons_cons]
      simp

theorem rejoined_eq (path : Text) : rejoined path = normalize path := by
  rw [normalize_eq, rejoined]
  cases same : segments (trimRelative path) with
  | nil => rfl
  | cons piece rest =>
    have here := isSegment_of_mem (same ▸ List.mem_cons_self : piece ∈ segments (trimRelative path))
    have filled : (['/'].intercalate (piece :: rest)).isEmpty = false := by
      cases rest with
      | nil => simpa using here.nonempty
      | cons next rest => simp [List.intercalate_cons_cons]
    simp only [filled, Bool.false_eq_true, if_false]
    exact (flatMap_eq_intercalate (List.cons_ne_nil piece rest)).symm

theorem collapse_cons {c : Char} (other : c ≠ '/') (path : Text) :
    collapse (c :: path) = c :: collapse path := by
  rw [collapse]
  intro _ slash
  exact absurd slash other

theorem collapse_slash (apart : path.head? ≠ some '/') :
    collapse ('/' :: path) = '/' :: collapse path := by
  rw [collapse]
  intro _ _ slash
  rw [slash] at apart
  exact apart rfl

theorem collapse_plain {s : Text} (unslashed : '/' ∉ s) (path : Text) :
    collapse (s ++ path) = s ++ collapse path := by
  induction s with
  | nil => rfl
  | cons c s ih =>
    simp only [List.mem_cons, not_or] at unslashed
    rw [List.cons_append, collapse_cons (Ne.symm unslashed.1), ih unslashed.2, List.cons_append]

theorem collapse_slashes {s : Text} (slashes : ∀ c ∈ s, c = '/') (apart : path.head? ≠ some '/') :
    collapse ('/' :: (s ++ path)) = '/' :: collapse path := by
  induction s with
  | nil => exact collapse_slash apart
  | cons c s ih =>
    obtain ⟨here, later⟩ := List.forall_mem_cons.mp slashes
    rw [here]
    exact ih later

-- One pass over a path that keeps in mind whether a slash came last.
def collapsePass (slash : Bool) : Text → Text
  | [] => []
  | c :: rest =>
    if c == '/' && slash then collapsePass true rest else c :: collapsePass (c == '/') rest

theorem collapsePass_cons {c : Char} (other : c ≠ '/') (slash : Bool) (rest : Text) :
    collapsePass slash (c :: rest) = c :: collapsePass false rest := by
  have plain : (c == '/') = false := by simpa using other
  rw [collapsePass, plain]
  rfl

-- Behind a slash the pass goes on as if that slash were still to come.
theorem collapsePass_eq (path : Text) : collapsePass false path = collapse path ∧
    '/' :: collapsePass true path = collapse ('/' :: path) := by
  induction path with
  | nil => exact ⟨rfl, rfl⟩
  | cons c rest ih =>
    obtain ⟨apart, behind⟩ := ih
    by_cases here : c = '/'
    · subst here
      exact ⟨behind, behind⟩
    · have next : (c :: rest).head? ≠ some '/' := by simpa using here
      rw [collapse_slash next, collapse_cons here, collapsePass_cons here, collapsePass_cons here,
        apart]
      exact ⟨rfl, rfl⟩

-- Whether two neighbours belong to one run, of slashes or of other characters.
def together (c d : Char) : Bool := (c == '/') == (d == '/')

def runs (path : Text) : List Text := path.splitBy together

def shortened (run : Text) : Text := if run.head? = some '/' then ['/'] else run

theorem together_of_chain {c : Char} {run : Text}
    (chain : (c :: run).IsChain fun c d => together c d = true) :
    ∀ d ∈ c :: run, (d == '/') = (c == '/') := by
  induction run generalizing c with
  | nil =>
    intro d member
    rw [List.mem_singleton.mp member]
  | cons d run ih =>
    obtain ⟨same, later⟩ := List.isChain_cons_cons.mp chain
    have here : (c == '/') = (d == '/') := beq_iff_eq.mp same
    intro e member
    rcases List.mem_cons.mp member with first | inside
    · rw [first]
    · exact (ih later e inside).trans here.symm

theorem collapse_run {c : Char} {run : Text} (kind : ∀ d ∈ c :: run, (d == '/') = (c == '/'))
    (apart : c = '/' → path.head? ≠ some '/') :
    collapse (c :: run ++ path) = shortened (c :: run) ++ collapse path := by
  by_cases slash : c = '/'
  · subst slash
    have slashes : ∀ d ∈ run, d = '/' := by
      intro d member
      exact beq_iff_eq.mp (kind d (List.mem_cons_of_mem _ member))
    exact collapse_slashes slashes (apart rfl)
  · have unslashed : '/' ∉ c :: run := by
      intro member
      exact slash (beq_iff_eq.mp (kind '/' member).symm)
    have kept : shortened (c :: run) = c :: run := if_neg (by simpa using slash)
    rw [collapse_plain unslashed, kept]

-- Where one run ends and the next begins, the kind of character changes.
def Turns (run next : Text) : Prop :=
  ∃ ends starts, together (run.getLast ends) (next.head starts) = false

theorem apart_of_turns {c : Char} {run : Text} {rest : List Text}
    (kind : ∀ d ∈ c :: run, (d == '/') = (c == '/')) (turns : ((c :: run) :: rest).IsChain Turns)
    (slash : c = '/') : rest.flatten.head? ≠ some '/' := by
  cases rest with
  | nil => exact nofun
  | cons next rest =>
    obtain ⟨⟨ends, starts, turn⟩, _⟩ := List.isChain_cons_cons.mp turns
    have last := kind _ (List.getLast_mem ends)
    rw [List.flatten_cons, List.head?_append_of_ne_nil _ starts, List.head?_eq_some_head starts]
    intro meets
    rw [together, last, Option.some.inj meets, slash] at turn
    cases turn

theorem collapse_flatten {parts : List Text} (filled : [] ∉ parts)
    (alike : ∀ run ∈ parts, run.IsChain fun c d => together c d = true)
    (turns : parts.IsChain Turns) : collapse parts.flatten = parts.flatMap shortened := by
  induction parts with
  | nil => rfl
  | cons run rest ih =>
    obtain ⟨chain, others⟩ := List.forall_mem_cons.mp alike
    simp only [List.mem_cons, not_or] at filled
    have later := ih filled.2 others turns.tail
    cases run with
    | nil => exact absurd rfl filled.1
    | cons c run =>
      have kind := together_of_chain chain
      rw [List.flatten_cons, List.flatMap_cons, collapse_run kind (apart_of_turns kind turns), later]

theorem collapse_eq_runs (path : Text) : collapse path = (runs path).flatMap shortened := by
  have whole := collapse_flatten (List.nil_notMem_splitBy together path)
    (fun _ member => List.isChain_of_mem_splitBy member) (List.isChain_getLast_head_splitBy together path)
  rwa [List.flatten_splitBy] at whole

theorem collapse_eq_pass (path : Text) : collapse path =
    if Text.includes "//" path then collapsePass false path else path := by
  cases double : Text.includes "//" path with
  | true => exact (collapsePass_eq path).1.symm
  | false => exact collapse_of_single (single_iff.mpr double)

theorem collapse_collapse (path : Text) : collapse (collapse path) = collapse path :=
  collapse_of_single (single_collapse path)

-- What normalizing and collapsing make of a path. Paths that are read from the root have one normal
-- form exactly when they have the same segments, and the shortcuts for paths that are in form already
-- change nothing.
structure NormalForms (path : Text) : Prop where
  canonical : isCanonical (normalize path) = true
  fixed : normalize path = path ↔ isCanonical path = true
  again : normalize (normalize path) = normalize path
  rejoined : normalize path = rejoined path
  same : ¬ Dotted path → ∀ other, ¬ Dotted other →
    (normalize path = normalize other ↔ segments path = segments other)
  shortcut : collapse path = if Text.includes "//" path then collapsePass false path else path
  untouched : Text.includes "//" path = false → (runs path).flatMap shortened = path
  pass : collapsePass false path = (runs path).flatMap shortened
  collapsed : collapse (collapse path) = collapse path

theorem normalForms (path : Text) : NormalForms path where
  canonical := isCanonical_normalize path
  fixed := normalize_eq_self_iff
  again := normalize_normalize path
  rejoined := (rejoined_eq path).symm
  same plain other otherPlain := by
    rw [normalize_eq_normalize_iff, trimRelative_of_not_dotted plain,
      trimRelative_of_not_dotted otherPlain]
  shortcut := collapse_eq_pass path
  untouched single := by
    rw [← collapse_eq_runs, collapse_of_single (single_iff.mpr single)]
  pass := by rw [(collapsePass_eq path).1, collapse_eq_runs]
  collapsed := collapse_collapse path

-- The same segments with and without slashes in excess, in front, between them and behind.
theorem normalForms_page : normalize "/path///to////page/" = normalize "path/to//page" ∧
    normalize (normalize "/path///to////page/") = normalize "/path///to////page/" := by
  have forms := normalForms "/path///to////page/"
  have segments : segments "/path///to////page/" = segments "path/to//page" := by decide
  exact ⟨(forms.same (by decide) _ (by decide)).mpr segments, forms.again⟩

end Path

end RouteTable
