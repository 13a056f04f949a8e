import RouteTable.Proofs.Route.Location
import RouteTable.Proofs.Router.HostLink

namespace RouteTable

namespace HostHint

variable {hint host : Text}

theorem dropWhileEnd_slash_eq_nil :
    Text.dropWhileEnd (· == '/') host = [] ↔ ∀ c ∈ host, c = '/' := by
  simp [Text.dropWhileEnd]

theorem cutAt?_of_slashes (slashes : ∀ c ∈ hint, c = '/') : Text.cutAt? "://" hint = none := by
  cases cut : Text.cutAt? "://" hint with
  | none => rfl
  | some parts =>
    rw [Text.eq_of_cutAt? cut] at slashes
    have colon := slashes ':' (by simp)
    cases colon

-- A hint of slashes, with or without a scheme in front of them.
def Hostless (hint : Text) : Prop :=
  (∀ c ∈ hint, c = '/') ∨ ∃ scheme slashes, Text.includes "://" scheme = false ∧
    (∀ c ∈ slashes, c = '/') ∧ hint = scheme ++ ("://".toList ++ slashes)

theorem host_eq_nil_iff : (ofText hint).host = [] ↔ Hostless hint := by
  constructor
  · intro empty
    unfold ofText at empty
    split at empty
    · next scheme after cut =>
      refine Or.inr ⟨scheme, after, ?_, dropWhileEnd_slash_eq_nil.mp empty, ?_⟩
      · exact Text.not_includes_of_cutAt? (List.cons_ne_nil _ _) cut
      · rw [Text.eq_of_cutAt? cut, List.append_assoc]
    · exact Or.inl (dropWhileEnd_slash_eq_nil.mp empty)
  · intro hostless
    unfold ofText
    rcases hostless with slashes | ⟨scheme, slashes, plain, each, rfl⟩
    · rw [cutAt?_of_slashes slashes]
      exact dropWhileEnd_slash_eq_nil.mpr slashes
    · rw [Text.cutAt?_scheme plain]
      exact dropWhileEnd_slash_eq_nil.mpr each

end HostHint

theorem HostPattern.resolve_nil (pattern : HostPattern) : pattern.resolve [] = pattern.pieces.flatten := by
  rw [resolve_eq_intercalate]
  induction pattern.pieces with
  | nil => rfl
  | cons piece rest ih =>
    cases rest with
    | nil => simp
    | cons next rest =>
      rw [List.intercalate_cons_cons, List.append_nil, ih]
      rfl

namespace Url

variable {scheme before after : Text}

theorem takeWhile_slash (host rest : Text) :
    (host ++ '/' :: rest).takeWhile (· != '/') = host.takeWhile (· != '/') := by
  induction host with
  | nil => rfl
  | cons c host ih =>
    rw [List.cons_append, List.takeWhile_cons, List.takeWhile_cons, ih]

theorem takeWhile_ne_nil_iff {s : Text} :
    s.takeWhile (· != '/') ≠ [] ↔ ∃ c, s.head? = some c ∧ c ≠ '/' := by
  cases s with
  | nil => simp
  | cons c s => by_cases slash : c = '/' <;> simp [slash]

theorem host?_of_plain (plain : Text.includes "://" scheme = false) (host rest : Text) :
    host? (scheme ++ ("://".toList ++ (host ++ '/' :: rest))) = some (host.takeWhile (· != '/')) := by
  rw [host?, Text.cutAt?_scheme plain]
  exact congrArg some (takeWhile_slash host rest)

theorem host?_of_marked (cut : Text.cutAt? "://" scheme = some (before, after)) (rest : Text) :
    host? (scheme ++ ("://".toList ++ rest)) = some ((after ++ [':']).takeWhile (· != '/')) := by
  have colon : after ++ ("://".toList ++ rest) = (after ++ [':']) ++ '/' :: '/' :: rest := by simp
  rw [host?, Text.cutAt?_append cut, colon]
  exact congrArg some (takeWhile_slash _ _)

end Url

namespace Route

variable {route : Route} {args : Arguments} {hint url : Text} {relative : Bool}
  {pattern : HostPattern}

theorem lacksHost_iff (hosted : route.host = some pattern) : route.LacksHost hint ↔ hint = [] := by
  rw [LacksHost, hosted]
  exact and_iff_right rfl

theorem hostFor_of_pattern (hosted : route.host = some pattern) (hint : HostHint) :
    route.hostFor hint = pattern.resolve hint.host := by
  rw [hostFor, hosted]
  rfl

theorem not_isRelative (hosted : route.host = some pattern) :
    route.isRelative hint relative = false := by
  rw [isRelative, hosted]
  rfl

theorem missingHost_iff (valid : route.check route.target args = true)
    (hosted : route.host = some pattern) :
    route.make hint args relative = .error (.missingHost route.displayName) ↔ hint = [] :=
  ((route.decided_of_makeFrom .empty hint args relative).missingHost valid).trans (lacksHost_iff hosted)

theorem make_of_hint (valid : route.check route.target args = true)
    (hosted : route.host = some pattern) (given : hint ≠ []) :
    ∃ rest, route.make hint args relative = .ok (route.schemeFor (.ofText hint) ++
      ("://".toList ++ (pattern.resolve (HostHint.ofText hint).host ++ '/' :: rest))) := by
  have decided := route.decided_of_makeFrom .empty hint args relative
  obtain ⟨url, made⟩ := (decided.made valid).mpr (mt (lacksHost_iff hosted).mp given)
  obtain ⟨rest, located⟩ := absolute_of_make made (not_isRelative hosted)
  rw [hostFor_of_pattern hosted] at located
  exact ⟨rest, made.trans (congrArg Except.ok located)⟩

theorem host?_of_make (unhosted : route.host = none) (made : route.make hint args relative = .ok url)
    (far : route.isRelative hint relative = false) :
    ∃ host, Url.host? url = some host ∧
      (Text.includes "://" (route.schemeFor (.ofText hint)) = false →
        (host ≠ [] ↔ ∃ c, (HostHint.ofText hint).host.head? = some c ∧ c ≠ '/')) ∧
      ∀ before after, Text.cutAt? "://" (route.schemeFor (.ofText hint)) = some (before, after) →
        (host ≠ [] ↔ after.head? ≠ some '/') := by
  obtain ⟨rest, rfl⟩ := absolute_of_make made far
  have own : route.hostFor (.ofText hint) = (HostHint.ofText hint).host := by
    rw [hostFor, unhosted]
    rfl
  rw [own]
  cases cut : Text.cutAt? "://" (route.schemeFor (.ofText hint)) with
  | none =>
    have plain : Text.includes "://" (route.schemeFor (.ofText hint)) = false := by
      rw [Text.includes, cut]
      rfl
    refine ⟨_, Url.host?_of_plain plain _ rest, fun _ => Url.takeWhile_ne_nil_iff, ?_⟩
    intro before after found
    cases found
  | some parts =>
    obtain ⟨before, after⟩ := parts
    refine ⟨_, Url.host?_of_marked cut _, ?_, ?_⟩
    · intro plain
      rw [Text.includes, cut] at plain
      cases plain
    · intro _ _ found
      cases found
      rw [Url.takeWhile_ne_nil_iff]
      cases after <;> simp

-- With a host pattern a URL fails for want of a host exactly when the hint is empty. Any other hint
-- is taken, also one that has no host in it: of the pattern its pieces are left then. Without a
-- host pattern the host of an absolute URL is that of the hint, and it is there when the hint has
-- one that does not begin with a slash.
theorem host_of_make (valid : route.check route.target args = true) (hint : Text) (relative : Bool) :
    (∀ pattern, route.host = some pattern →
      (route.make hint args relative = .error (.missingHost route.displayName) ↔ hint = []) ∧
      (hint ≠ [] → ∃ rest, route.make hint args relative = .ok (route.schemeFor (.ofText hint) ++
        ("://".toList ++ (pattern.resolve (HostHint.ofText hint).host ++ '/' :: rest)))) ∧
      pattern.resolve [] = pattern.pieces.flatten) ∧
    (route.host = none → ∀ url, route.make hint args relative = .ok url →
      route.isRelative hint relative = false → ∃ host, Url.host? url = some host ∧
        (Text.includes "://" (route.schemeFor (.ofText hint)) = false →
          (host ≠ [] ↔ ∃ c, (HostHint.ofText hint).host.head? = some c ∧ c ≠ '/')) ∧
        ∀ before after, Text.cutAt? "://" (route.schemeFor (.ofText hint)) = some (before, after) →
          (host ≠ [] ↔ after.head? ≠ some '/')) ∧
    ((HostHint.ofText hint).host = [] ↔ HostHint.Hostless hint) := by
  refine ⟨?_, ?_, HostHint.host_eq_nil_iff⟩
  · intro pattern hosted
    exact ⟨missingHost_iff valid hosted, make_of_hint valid hosted, pattern.resolve_nil⟩
  · intro unhosted url made far
    exact host?_of_make unhosted made far

theorem check_of_make (made : route.make hint args relative = .ok url) :
    route.check route.target args = true :=
  checked_iff.mpr (makeFrom_eq_ok.mp made).1

theorem check_hostedDocs : hostedDocs.check hostedDocs.target docsArgs = true :=
  check_of_make (make_docs_front none _ (List.cons_ne_nil 'a' []))

theorem resolve_docsHost (host : Text) : docsHost.resolve host = "docs.".toList ++ host := by
  have pieces : docsHost.pieces = ["docs.".toList, []] :=
    HostPattern.pieces_of_cut (by decide) (by decide)
  rw [HostPattern.resolve_eq_intercalate, pieces, List.intercalate_cons_cons,
    List.intercalate_singleton, List.append_nil]

-- No host, and one in the place of the token.
theorem host_of_make_hostedDocs :
    hostedDocs.make [] docsArgs true = .error (.missingHost hostedDocs.displayName) ∧
      ∃ rest, hostedDocs.make "docs.org" docsArgs true =
        .ok ("http".toList ++ ("://".toList ++ ("docs.docs.org".toList ++ '/' :: rest))) := by
  constructor
  · obtain ⟨hosted, _⟩ := host_of_make check_hostedDocs [] true
    exact (hosted _ rfl).1.mpr rfl
  · obtain ⟨hosted, _⟩ := host_of_make check_hostedDocs "docs.org" true
    obtain ⟨rest, made⟩ := (hosted _ rfl).2.1 (by decide)
    rw [resolve_docsHost] at made
    exact ⟨rest, made⟩

-- A scheme and nothing behind it.
theorem make_hostless :
    hostedDocs.check hostedDocs.target docsArgs = true ∧ (HostHint.ofText "https://").host = [] ∧
      hostedDocs.make "https://" docsArgs false =
        .ok ("https://docs./".toList ++ "docs.v1/intro/2/".toList) ∧
      (standardRoute "page" docs).isRelative "https://" false = false ∧
      (standardRoute "page" docs).make "https://" docsArgs false =
        .ok ("https:///".toList ++ "docs.v1/intro/2/".toList) ∧
      Url.host? ("https:///".toList ++ "docs.v1/intro/2/".toList) = some [] := by
  refine ⟨check_hostedDocs, by decide, ?_, rfl, make_docs_front none none (by decide), by decide⟩
  have front : hostedDocs.front "https://" false = "https://docs./" := by
    change "https".toList ++ "://".toList ++ docsHost.resolve [] ++ ['/'] = _
    rw [resolve_docsHost]
    rfl
  rw [← front]
  exact make_docs_front none _ (by decide)

end Route

end RouteTable
