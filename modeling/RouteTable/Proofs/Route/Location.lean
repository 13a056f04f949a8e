import RouteTable.Proofs.Host
import RouteTable.Proofs.Route.Checked

namespace RouteTable

def Url.scheme? (url : Text) : Option Text := (Text.cutAt? "://" url).map (·.1)

theorem HostHint.scheme_plain {hint own : Text} (given : (HostHint.ofText hint).scheme = some own) :
    Text.includes "://" own = false := by
  unfold HostHint.ofText at given
  split at given
  · next cut =>
    cases given
    exact Text.not_includes_of_cutAt? (List.cons_ne_nil _ _) cut
  · cases given

namespace Route

variable {route : Route} {current args : Arguments} {hint path place url : Text} {relative : Bool}

-- Whether the URL is to be read from the page that it stands on.
def isRelative (route : Route) (hint : Text) (relative : Bool) : Bool :=
  route.host.isNone && (relative || hint.isEmpty)

def schemeFor (route : Route) (hint : HostHint) : Text :=
  (hint.scheme.or route.scheme).getD defaultScheme

def hostFor (route : Route) (hint : HostHint) : Text :=
  route.host.elim hint.host (·.resolve hint.host)

def front (route : Route) (hint : Text) (relative : Bool) : Text :=
  if route.isRelative hint relative then "./"
  else route.schemeFor (.ofText hint) ++ "://".toList ++ route.hostFor (.ofText hint) ++ ['/']

theorem locate_eq_ok : route.locate hint path relative = .ok place ↔
    ¬ route.LacksHost hint ∧ place = route.front hint relative ++ path := by
  unfold locate front isRelative LacksHost hostFor
  cases hosted : route.host with
  | none =>
    by_cases here : (relative || hint.isEmpty) = true
    · simpa [here] using eq_comm
    · simpa [here, absolute, schemeFor] using eq_comm
  | some pattern =>
    by_cases unknown : hint = []
    · simp [unknown]
    · simpa [unknown, absolute, schemeFor] using eq_comm

theorem url_of_makeFrom (made : route.makeFrom current hint args relative = .ok url) :
    url = route.withQuery args (route.front hint relative ++ route.pathOf current args) := by
  obtain ⟨_, place, located, rfl⟩ := makeFrom_eq_ok.mp made
  rw [(locate_eq_ok.mp located).2]

theorem asciiLower_asciiLower (s : Text) : Text.asciiLower (Text.asciiLower s) = Text.asciiLower s := by
  simp only [Text.asciiLower, List.map_map, Function.comp_def, Unicode.toLower_toLower]

theorem Built.scheme_lower (built : Built route) {constraint : Text}
    (constrained : route.scheme = some constraint) : Text.asciiLower constraint = constraint := by
  induction built with
  | ofTemplate made =>
    obtain ⟨_, _, _, _, _, rfl⟩ := ofTemplate_ok made
    cases constrained
  | withMethods _ _ ih => exact ih constrained
  | withScheme _ scheme _ =>
    obtain rfl := Option.some.inj constrained
    exact asciiLower_asciiLower scheme
  | withHost _ changed ih =>
    obtain ⟨_, _, rfl⟩ := withHost_ok changed
    exact ih constrained
  | named _ _ ih => exact ih constrained
  | withRequirement _ changed ih =>
    obtain ⟨_, _, _, _, _, rfl, _⟩ := overrideRequirement_ok (withRequirement_ok changed)
    exact ih constrained
  | withDefault _ changed ih =>
    obtain ⟨_, rfl⟩ := withDefault_ok changed
    exact ih constrained

theorem absolute_of_make (made : route.make hint args relative = .ok url)
    (far : route.isRelative hint relative = false) :
    ∃ rest, url = route.schemeFor (.ofText hint) ++
      ("://".toList ++ (route.hostFor (.ofText hint) ++ '/' :: rest)) := by
  obtain ⟨query, added⟩ := route.exists_withQuery args
    (route.front hint relative ++ route.pathOf .empty args)
  refine ⟨route.pathOf .empty args ++ query, ?_⟩
  rw [url_of_makeFrom made, added, front, far]
  simp

theorem scheme?_of_make (made : route.make hint args relative = .ok url)
    (far : route.isRelative hint relative = false) :
    Url.scheme? url = some ((Url.scheme? (route.schemeFor (.ofText hint))).getD
      (route.schemeFor (.ofText hint))) := by
  obtain ⟨rest, rfl⟩ := absolute_of_make made far
  generalize route.schemeFor (.ofText hint) = scheme
  cases cut : Text.cutAt? "://" scheme with
  | none =>
    have plain : Text.includes "://" scheme = false := by rw [Text.includes, cut]; rfl
    rw [Url.scheme?, Text.cutAt?_scheme plain, Url.scheme?, cut]
    rfl
  | some parts =>
    rw [Url.scheme?, Text.cutAt?_append cut, Url.scheme?, cut]
    rfl

theorem scheme?_eq_none {scheme : Text} (plain : Text.includes "://" scheme = false) :
    Url.scheme? scheme = none := by
  rw [Url.scheme?, Option.map_eq_none_iff]
  exact Option.isNone_iff_eq_none.mp (Option.isSome_eq_false_iff.mp plain)

-- The scheme of an absolute URL is that of the hint, and without one the constraint of the route. It
-- passes the gate of the route exactly when the scheme of the hint does, or when there is none and the
-- constraint has no mark in it, which no scheme of a URL can contain.
theorem acceptsScheme_of_make (built : Built route) {constraint : Text}
    (constrained : route.scheme = some constraint)
    (made : route.make hint args relative = .ok url)
    (far : route.isRelative hint relative = false) :
    ∃ scheme, Url.scheme? url = some scheme ∧
      (∀ own, (HostHint.ofText hint).scheme = some own → scheme = own) ∧
      ((HostHint.ofText hint).scheme = none → Text.includes "://" constraint = false →
        scheme = constraint) ∧
      (route.acceptsScheme scheme = true ↔
        (∃ own, (HostHint.ofText hint).scheme = some own ∧
          Text.includes constraint (Text.asciiLower own) = true) ∨
        (HostHint.ofText hint).scheme = none ∧ Text.includes "://" constraint = false) := by
  refine ⟨_, scheme?_of_make made far, ?_⟩
  rw [schemeFor, acceptsScheme, constrained]
  cases given : (HostHint.ofText hint).scheme with
  | some own =>
    rw [Option.some_or, Option.getD_some, scheme?_eq_none (HostHint.scheme_plain given)]
    simp
  | none =>
    rw [Option.none_or, Option.getD_some]
    cases marked : Text.includes "://" constraint with
    | false =>
      have itself : Text.includes constraint constraint = true :=
        Text.includes_of_infix List.infix_rfl
      rw [scheme?_eq_none marked]
      simp [built.scheme_lower constrained, itself]
    | true =>
      obtain ⟨⟨before, after⟩, cut⟩ := Option.isSome_iff_exists.mp marked
      have read : Url.scheme? constraint = some before := by
        rw [Url.scheme?, cut]
        rfl
      -- What stands before the mark is shorter than the whole.
      have short : Text.includes constraint (Text.asciiLower before) = false := by
        refine Bool.eq_false_iff.mpr fun inside => ?_
        have fits := Text.length_of_includes inside
        have whole := Text.length_of_cutAt? cut
        have mark : "://".toList.length = 3 := rfl
        rw [Text.asciiLower, List.length_map] at fits
        omega
      rw [read]
      simp [short]

-- Pages that are served in secret only.
def secured : Route := (standardRoute "page" docs).withScheme "https"

theorem built_secured : Built secured := (built_docs "page").withScheme "https"

theorem make_docs_front (scheme : Option Text) (host : Option HostPattern) (given : hint ≠ []) :
    ({ standardRoute "page" docs with scheme, host } : Route).make hint docsArgs false =
      .ok (({ standardRoute "page" docs with scheme, host } : Route).front hint false ++
        "docs.v1/intro/2/".toList) := by
  obtain ⟨taken, _⟩ := makeFrom_eq_ok.mp make_docs
  have path : ({ standardRoute "page" docs with scheme, host } : Route).pathOf .empty docsArgs =
      "docs.v1/intro/2/" :=
    congrArg (fun values => Path.generated (fill docs.segments values)) slugs_docs
  refine makeFrom_eq_ok.mpr ⟨taken, _, locate_eq_ok.mpr ⟨?_, by rw [path]⟩, rfl⟩
  rintro ⟨_, missing⟩
  exact given missing

theorem make_secured (given : hint ≠ []) : secured.make hint docsArgs false =
    .ok (secured.front hint false ++ "docs.v1/intro/2/".toList) :=
  make_docs_front _ none given

theorem acceptsScheme_of_make_secured :
    secured.make "HTTPS://docs.org" docsArgs false =
      .ok ("HTTPS://docs.org/".toList ++ "docs.v1/intro/2/".toList) ∧
      secured.acceptsScheme "HTTPS" = true := by
  have made : secured.make "HTTPS://docs.org" docsArgs false = _ := make_secured nofun
  obtain ⟨scheme, _, hinted, _, accepted⟩ := acceptsScheme_of_make built_secured rfl made rfl
  refine ⟨made, ?_⟩
  rw [← hinted "HTTPS" rfl]
  exact accepted.mpr (Or.inl ⟨"HTTPS", rfl, by decide⟩)

-- The scheme of the hint goes before that of the route, which does not take it.
theorem make_secured_ftp :
    Built secured ∧ secured.scheme = some "https".toList ∧
      secured.isRelative "ftp://docs.org" false = false ∧
      secured.make "ftp://docs.org" docsArgs false =
        .ok ("ftp://docs.org/".toList ++ "docs.v1/intro/2/".toList) ∧
      Url.scheme? ("ftp://docs.org/".toList ++ "docs.v1/intro/2/".toList) = some "ftp".toList ∧
      secured.acceptsScheme "ftp" = false := by
  refine ⟨built_secured, rfl, rfl, make_secured nofun, ?_, ?_⟩
  · decide
  · decide

end Route

end RouteTable
