import RouteTable.Proofs.Path.Canonical

namespace RouteTable.Path

variable {path : Text}

theorem dotted_collapse : Dotted (collapse path) ↔ Dotted path := by
  cases path with
  | nil => exact Iff.rfl
  | cons c rest =>
    by_cases dot : c = '.'
    · rw [dot, collapse_cons (by decide), dotted_cons, dotted_cons, head_collapse]
    · have first := head_collapse (c :: rest)
      obtain ⟨later, same⟩ := List.head?_eq_some_iff.mp first
      rw [same, dotted_cons, dotted_cons]
      exact iff_of_false (fun dotted => dot dotted.1) (fun dotted => dot dotted.1)

theorem collapse_behind_slash (path : Text) :
    collapse ('/' :: path) = '/' :: collapse (path.dropWhile (· == '/')) := by
  induction path with
  | nil => rfl
  | cons c rest ih =>
    by_cases slash : c = '/'
    · subst slash
      exact ih
    · rw [List.dropWhile_cons_of_neg (by simpa using slash), collapse_slash (by simpa using slash)]

-- The slashes behind a dot go away, so trimming does not stop at them.
theorem trimRelative_collapse (rest : Text) : trimRelative (collapse ('.' :: '/' :: rest)) =
    trimRelative (collapse (rest.dropWhile (· == '/'))) := by
  rw [collapse_cons (by decide), collapse_behind_slash]
  rfl

-- Where a dot stands behind slashes, no `./` is found before they are collapsed.
def Hidden (path : Text) : Prop := Dotted path ∧ Dotted ((trimRelative path).dropWhile (· == '/'))

instance (path : Text) : Decidable (Hidden path) := inferInstanceAs (Decidable (_ ∧ _))

theorem segments_trimRelative_collapse (rest : Text) :
    segments (trimRelative (collapse ('.' :: '/' :: rest))) = segments (trimRelative rest) ↔
      ¬ Dotted ((trimRelative rest).dropWhile (· == '/')) := by
  fun_induction trimRelative rest with
  | case1 rest ih =>
    rw [trimRelative_collapse]
    exact ih
  | case2 rest plain =>
    rw [trimRelative_collapse, ← segments_dropWhile rest,
      ← segments_collapse (rest.dropWhile (· == '/')), segments_trimRelative_eq_iff, dotted_collapse]

theorem normalize_collapse_iff :
    normalize (collapse path) = normalize path ↔ ¬ Hidden path := by
  rw [normalize_eq_normalize_iff, Hidden]
  by_cases dotted : Dotted path
  · rw [and_iff_right dotted]
    obtain ⟨rest, rfl⟩ := dotted
    exact segments_trimRelative_collapse rest
  · have plain := trimRelative_of_not_dotted (mt dotted_collapse.mp dotted)
    rw [plain, trimRelative_of_not_dotted dotted, segments_collapse]
    exact iff_of_true rfl fun hidden => dotted hidden.1

theorem normalize_append_slash (rooted : path.head? = some '/') :
    normalize (path ++ ['/']) = normalize path := by
  have longer : (path ++ ['/']).head? = some '/' := by
    rw [List.head?_append, rooted]
    rfl
  rw [normalize_eq_normalize_iff, trimRelative_of_slash rooted, trimRelative_of_slash longer,
    segments_append_final]

theorem normalize_relative_iff (rooted : path.head? = some '/') :
    normalize ("./".toList ++ path.dropWhile (· == '/')) = normalize path ↔
      ¬ Dotted (path.dropWhile (· == '/')) := by
  have trimmed : trimRelative ("./".toList ++ path.dropWhile (· == '/')) =
      trimRelative (path.dropWhile (· == '/')) := rfl
  rw [normalize_eq_normalize_iff, trimRelative_of_slash rooted, trimmed, ← segments_dropWhile path,
    segments_trimRelative_eq_iff]

-- Which spellings of a path have its normal form.
theorem normalize_spellings (path : Text) :
    (normalize (collapse path) = normalize path ↔ ¬ Hidden path) ∧
      (path.head? = some '/' →
        normalize (path ++ ['/']) = normalize path ∧
          (normalize ("./".toList ++ path.dropWhile (· == '/')) = normalize path ↔
            ¬ Dotted (path.dropWhile (· == '/')))) := by
  refine ⟨normalize_collapse_iff, ?_⟩
  intro rooted
  exact ⟨normalize_append_slash rooted, normalize_relative_iff rooted⟩

-- A dot further on is a segment like any other.
theorem normalize_spellings_page : "/docs//./intro".toList.head? = some '/' ∧
    normalize (collapse "/docs//./intro") = normalize "/docs//./intro" ∧
    normalize ("/docs//./intro".toList ++ ['/']) = normalize "/docs//./intro" ∧
    normalize "./docs//./intro" = normalize "/docs//./intro" := by
  obtain ⟨collapsed, rooted⟩ := normalize_spellings "/docs//./intro"
  obtain ⟨longer, relative⟩ := rooted rfl
  exact ⟨rfl, collapsed.mpr (by decide), longer, relative.mpr (by decide)⟩

-- Behind the slashes in front it goes with the `./` of a relative path.
theorem normalize_hidden_dot :
    normalize ".//./a" = "/./a".toList ∧ normalize (collapse ".//./a") = "/a".toList ∧
      normalize "/./a" = "/./a".toList ∧
      normalize ("./".toList ++ "/./a".toList.dropWhile (· == '/')) = "/a".toList := by
  decide

end RouteTable.Path
