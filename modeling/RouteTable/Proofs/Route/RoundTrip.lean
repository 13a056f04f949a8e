import RouteTable.Proofs.Host
import RouteTable.Proofs.Route.Generation
import RouteTable.Proofs.Template.Shape

namespace RouteTable.Route

open Regex
open Unicode (foldCase)

variable {route : Route} {args : Arguments} {path : Text}

theorem segments_slashed {text : Text} (slashed : Slashed text path) :
    Path.segments path = Path.segments text := by
  rcases slashed with rfl | rfl
  · rfl
  · exact Path.segments_append_final text

-- Behind a match is a reading of the whole template, of a text with the segments of the path.
theorem Standard.reading_of_match (standard : Standard route)
    (matched : route.matchPath? path = some args) :
    ∃ values whole, Reading route.template.segments values whole ∧
      Path.segments whole = Path.segments path ∧
      route.template.placeholders.map (fun placeholder => args.lookup placeholder.name) =
        values.map (fun value => some (value.filter (!·.isEmpty))) ∧
      ∀ name ∉ holeNames route.template.segments,
        args.lookup name = route.defaults.lookup name := by
  obtain ⟨values, text, slashed, reading, lookups, others⟩ := standard.arguments matched
  obtain ⟨whole, slashed', reading⟩ := reading.of_bare
  rw [holeNames, List.map_map] at lookups
  exact ⟨values, whole, reading,
    (segments_slashed slashed').trans (segments_slashed slashed).symm, lookups, others⟩

theorem nonempty_of_suited (suited : ∀ placeholder ∈ route.template.placeholders,
    Suits placeholder (route.chosenValue .empty args placeholder.name)) :
    some [] ∉ route.template.placeholders.map (route.slugFor args) := by
  intro member
  obtain ⟨placeholder, listed, slugged⟩ := List.mem_map.mp member
  obtain ⟨value, chosen, empty⟩ := Option.map_eq_some_iff.mp slugged
  have suits := suited placeholder listed
  rw [chosen] at suits
  exact slug_nonempty suits.1 suits.2 empty

theorem chosenValue_of_lookup {name : Text} {value : Option Text}
    (found : args.lookup name = some value) :
    route.chosenValue .empty args name = value.filter (!·.isEmpty) := by
  rw [chosenValue, found]
  rfl

theorem chosen_of_lookups (route : Route) {values : List (Option Text)}
    {placeholders : List Placeholder}
    (lookups : placeholders.map (fun placeholder => args.lookup placeholder.name) =
      values.map fun value => some (value.filter (!·.isEmpty))) :
    placeholders.map (fun placeholder => route.chosenValue .empty args placeholder.name) =
      values.map (·.filter (!·.isEmpty)) := by
  have each : ∀ placeholder ∈ placeholders, route.chosenValue .empty args placeholder.name =
      (args.lookup placeholder.name).join := by
    intro placeholder member
    have found : args.lookup placeholder.name ∈
        placeholders.map fun placeholder => args.lookup placeholder.name :=
      List.mem_map_of_mem member
    rw [lookups] at found
    obtain ⟨value, _, same⟩ := List.mem_map.mp found
    rw [chosenValue_of_lookup same.symm, ← same]
    cases value with
    | none => rfl
    | some text => cases text <;> rfl
  rw [List.map_congr_left each]
  have joined := congrArg (List.map Option.join) lookups
  rw [List.map_map, List.map_map] at joined
  exact joined

theorem suits_of_reading {segments : List Segment} {values : List (Option Text)} {text : Text}
    {chosen : Placeholder → Option Text} (reading : Reading segments values text)
    (same : (segments.filterMap Segment.placeholder?).map chosen =
      values.map (·.filter (!·.isEmpty))) :
    ∀ placeholder ∈ segments.filterMap Segment.placeholder?,
      Suits placeholder (chosen placeholder) := by
  induction reading with
  | nil => nofun
  | @cons segment rest values values' piece later first onward ih =>
    cases first with
    | literal => exact ih same
    | @required placeholder _ required nonempty units =>
      obtain ⟨here, others⟩ := List.cons.inj same
      refine List.forall_mem_cons.mpr ⟨?_, ih others⟩
      rw [here.trans (filter_nonempty nonempty)]
      exact ⟨nonempty, units⟩
    | @absent placeholder optional =>
      obtain ⟨here, others⟩ := List.cons.inj same
      refine List.forall_mem_cons.mpr ⟨?_, ih others⟩
      rw [here]
      exact optional
    | @present placeholder value spelled optional units alike =>
      obtain ⟨here, others⟩ := List.cons.inj same
      refine List.forall_mem_cons.mpr ⟨?_, ih others⟩
      rw [here]
      by_cases empty : value = []
      · rw [empty]
        exact optional
      · rw [← here, here.trans (filter_nonempty empty)]
        exact ⟨empty, units⟩

-- The `./` in front of a URL is dropped again, unless the path itself begins with one.
theorem normalize_generated {filled : Text} (rooted : filled.head? = some '/')
    (plain : (Path.segments filled).head? ≠ some ['.']) :
    Path.normalize ("./".toList ++ Path.generated filled) =
      Path.ofSegments (Path.segments filled) := by
  have same := Path.segments_generated rooted
  have trimmed : Path.trimRelative (Path.generated filled) = Path.generated filled :=
    Path.trimRelative_of_segments (by rwa [same])
  rw [Path.normalize_eq, ← same]
  exact congrArg (fun path => Path.ofSegments (Path.segments path)) trimmed

theorem alike_normalize_generated {filled : Text} (rooted : filled.head? = some '/')
    (plain : (Path.segments path).head? ≠ some ['.'])
    (same : (Path.segments filled).map (·.map foldCase) =
      (Path.segments path).map (·.map foldCase)) :
    Alike (Path.normalize ("./".toList ++ Path.generated filled)) (Path.normalize path) := by
  have plainFilled : (Path.segments filled).head? ≠ some ['.'] := by
    intro first
    have folded := congrArg List.head? same
    rw [List.head?_map, List.head?_map, first] at folded
    obtain ⟨piece, found, alike⟩ := Option.map_eq_some_iff.mp folded.symm
    exact plain (found.trans (congrArg some (Alike.dot alike)))
  rw [normalize_generated rooted plainFilled, Path.normalize_eq,
    Path.trimRelative_of_segments plain, Alike, Path.ofSegments_fold, same, Path.ofSegments_fold]

theorem Built.fill_rooted (built : Built route) (rooted : route.template.text.head? = some '/')
    (values : List (Option Text)) : (fill route.template.segments values).head? = some '/' := by
  obtain ⟨first, rest, same, slash⟩ := Template.rooted_of_read built.compiled.read rooted
  obtain ⟨later, rfl⟩ := List.head?_eq_some_iff.mp slash
  rw [same]
  rfl

theorem host_none_of_make {relative : Bool} {url : Text}
    (made : route.make [] args relative = .ok url) : route.host = none := by
  cases host : route.host with
  | none => rfl
  | some pattern =>
    have failed (path : Text) :
        route.locate [] path relative = .error (.missingHost route.displayName) := by
      rw [locate, host]
      exact if_pos rfl
    rw [make, makeFrom] at made
    cases resolved : route.resolve .empty args with
    | error fault => rw [resolved] at made; cases made
    | ok values =>
      simp only [resolved, bind, Except.bind, failed] at made
      cases made

theorem hasPlaceholder_of_match
    (known : ∀ name ∈ route.defaults.names, route.template.hasPlaceholder name = true)
    (others : ∀ name ∉ holeNames route.template.segments,
      args.lookup name = route.defaults.lookup name) :
    ∀ name ∈ args.names, route.template.hasPlaceholder name = true := by
  intro name member
  rw [hasPlaceholder_iff]
  refine Classical.byContradiction fun absent => ?_
  have found := (Arguments.isSome_lookup args name).mpr member
  rw [others name absent] at found
  have defaulted := known name ((Arguments.isSome_lookup _ _).mp found)
  exact absent (hasPlaceholder_iff.mp defaulted)

-- What a match finds makes a URL for the same path, up to case and slashes. A route with a host
-- pattern makes no URL without a host.
theorem make_of_matchPath (built : Built route) (default : route.HasDefaultRequirements)
    (rooted : route.template.text.head? = some '/')
    (grouped : Grouped false route.template.segments)
    (known : ∀ name ∈ route.defaults.names, route.template.hasPlaceholder name = true)
    (relative : route.host = none) (matched : route.matchPath? path = some args)
    (plain : (Path.segments path).head? ≠ some ['.']) :
    ∃ url, route.make [] args true = .ok url ∧
      Alike (Path.normalize url) (Path.normalize path) := by
  have standard := built.standard default
  obtain ⟨values, whole, reading, pieces, lookups, others⟩ := standard.reading_of_match matched
  -- The values found are chosen again.
  have chosen := chosen_of_lookups route lookups
  have suited : ∀ placeholder ∈ route.template.placeholders,
      Suits placeholder (route.chosenValue .empty args placeholder.name) :=
    suits_of_reading reading chosen
  have slugs : route.template.placeholders.map (route.slugFor args) = values.map slugOf := by
    have mapped := congrArg (List.map (Option.map Slug.ofText)) chosen
    rw [List.map_map, List.map_map] at mapped
    exact mapped
  have knownArgs := hasPlaceholder_of_match known others
  refine ⟨_, (standard.make_iff knownArgs).mpr ⟨relative, suited, rfl⟩, ?_⟩
  refine alike_normalize_generated (built.fill_rooted rooted _) plain ?_
  rw [filled, slugs, reading.segments_fill grouped standard.scanned.alone, pieces]

theorem match_docs (built : Built route) (default : route.HasDefaultRequirements)
    (same : route.template = docs) :
    ∃ args, route.matchPath? "/DOCS.v1/Intro/2/" = some args := by
  refine Option.isSome_iff_exists.mp (((built.standard default).accepts_iff _).mpr ?_)
  rw [same]
  exact ⟨"/DOCS.v1/Intro/2", Or.inr (by decide), spells_docs⟩

theorem grouped_docs : Grouped false docs.segments := by simp [Grouped, docs]

theorem make_of_matchPath_docs :
    ∃ args url, (standardRoute "page" docs).matchPath? "/DOCS.v1/Intro/2/" = some args ∧
      (standardRoute "page" docs).make [] args true = .ok url ∧
      Alike (Path.normalize url) (Path.normalize "/DOCS.v1/Intro/2/") := by
  have default := hasDefaultRequirements_standardRoute "page" docs
  obtain ⟨args, matched⟩ := match_docs (built_docs "page") default rfl
  obtain ⟨url, made, alike⟩ := make_of_matchPath (built_docs "page") default (by decide)
    grouped_docs nofun rfl matched (by decide)
  exact ⟨args, url, matched, made, alike⟩

-- The same pages on hosts of their own.
def docsHost : HostPattern := .ofShort "docs.\x7bbasename\x7d" (by decide)

def hostedDocs : Route := { standardRoute "page" docs with host := some docsHost }

theorem built_hostedDocs : Built hostedDocs := (built_docs "page").withHost (withHost_text _ docsHost)

theorem make_of_matchPath_hostedDocs :
    Built hostedDocs ∧ hostedDocs.HasDefaultRequirements ∧
      hostedDocs.template.text.head? = some '/' ∧ Grouped false hostedDocs.template.segments ∧
      (∀ name ∈ hostedDocs.defaults.names, hostedDocs.template.hasPlaceholder name = true) ∧
      (Path.segments "/DOCS.v1/Intro/2/").head? ≠ some ['.'] ∧
      ∃ args, hostedDocs.matchPath? "/DOCS.v1/Intro/2/" = some args ∧
        ∀ url, hostedDocs.make [] args true ≠ .ok url := by
  have default : hostedDocs.HasDefaultRequirements :=
    hasDefaultRequirements_standardRoute "page" docs
  obtain ⟨args, matched⟩ := match_docs built_hostedDocs default rfl
  refine ⟨built_hostedDocs, default, by decide, grouped_docs, nofun, by decide, args, matched, ?_⟩
  intro url made
  exact absurd (host_none_of_make made) nofun

theorem Standard.lookups_of_match (standard : Standard route)
    (slotted : Slotted route.template.segments) (matched : route.matchPath? path = some args) :
    route.template.placeholders.map (fun placeholder => args.lookup placeholder.name) =
      (picked route.template.segments (Path.segments path)).map some := by
  obtain ⟨values, whole, reading, pieces, lookups, _⟩ := standard.reading_of_match matched
  rw [lookups, ← pieces, ← reading.picked slotted, List.map_map]
  rfl

-- A URL gives the slugs of the values it was made of, where holes stand between slashes.
theorem matchPath_of_make (built : Built route) (default : route.HasDefaultRequirements)
    (slotted : Slotted route.template.segments)
    (known : ∀ name ∈ args.names, route.template.hasPlaceholder name = true) {url : Text}
    (made : route.make [] args true = .ok url) :
    ∃ tail matched, url = "./".toList ++ tail ∧ route.matchPath? ('/' :: tail) = some matched ∧
      ∀ placeholder ∈ route.template.placeholders,
        matched.lookup placeholder.name =
            some ((route.chosenValue .empty args placeholder.name).map Slug.ofText) ∧
          (placeholder.optional = false →
            (route.chosenValue .empty args placeholder.name).isSome = true) := by
  have standard := built.standard default
  obtain ⟨_, suited, rfl⟩ := (standard.make_iff known).mp made
  have reading := standard.reading_filled suited
  have nonempty := nonempty_of_suited suited
  -- Nothing is collapsed, so the matcher sees the filled template.
  have whole : '/' :: Path.generated (route.filled args) = route.filled args :=
    (Path.slash_generated (slotted.rooted reading)).trans
      (Path.collapse_of_single (reading.single slotted nonempty))
  obtain ⟨text, slashed, bareReading⟩ := reading.to_bare
  obtain ⟨matched, found⟩ := Option.isSome_iff_exists.mp
    ((standard.accepts_iff _).mpr ⟨text, slashed, _, bareReading⟩)
  refine ⟨_, matched, rfl, by rw [whole]; exact found, ?_⟩
  -- The matcher reads the same segments, whatever it takes for the holes.
  have slugs : picked route.template.segments (Path.segments (route.filled args)) =
      route.template.placeholders.map (route.slugFor args) := by
    rw [← reading.picked slotted, filter_slugs nonempty]
  have same := (standard.lookups_of_match slotted found).trans (congrArg (List.map some) slugs)
  rw [List.map_map] at same
  have each := List.map_inj_left.mp same
  intro placeholder listed
  refine ⟨each placeholder listed, fun required => ?_⟩
  have suits := suited placeholder listed
  cases chosen : route.chosenValue .empty args placeholder.name with
  | some value => rfl
  | none =>
    rw [chosen] at suits
    exact absurd suits (by simp [Suits, required])

def docsArgs : Arguments := (Arguments.empty.insert "slug" "Intro").insert "page" "2"

theorem slugs_docs : docs.placeholders.map ((standardRoute "page" docs).slugFor docsArgs) =
    [some "intro".toList, some "2".toList] := by
  change [some (Slug.ofText "Intro"), some (Slug.ofText "2")] = _
  rw [Slug.ofText_of_ascii (by decide) (by decide), Slug.ofText_of_ascii (by decide) (by decide)]
  decide

theorem filled_docs : (standardRoute "page" docs).filled docsArgs = "/docs.v1/intro/2/" :=
  congrArg (fill docs.segments) slugs_docs

theorem make_docs : (standardRoute "page" docs).make [] docsArgs true =
    .ok ("./".toList ++ "docs.v1/intro/2/") := by
  have standard := (built_docs "page").standard (hasDefaultRequirements_standardRoute _ _)
  have slug : Suits { name := "slug", requirement := defaultRequirement } (some "Intro") :=
    ⟨by decide, units_of_ascii (by decide) (by decide)⟩
  have page : Suits
      { name := "page", requirement := defaultRequirement, optional := true, trailing := "/" }
      (some "2") :=
    ⟨by decide, units_of_ascii (by decide) (by decide)⟩
  exact (standard.make_iff (by decide)).mpr
    ⟨rfl, List.forall_mem_cons.mpr ⟨slug, List.forall_mem_cons.mpr ⟨page, nofun⟩⟩,
      by rw [filled_docs]; rfl⟩

theorem slotted_docs : Slotted docs.segments := by
  simp [Slotted, docs, IsStretch]
  decide

theorem matchPath_of_make_docs :
    ∃ matched, (standardRoute "page" docs).matchPath? "/docs.v1/intro/2/" = some matched ∧
      matched.lookup "slug" = some (some "intro".toList) ∧
      matched.lookup "page" = some (some "2".toList) := by
  obtain ⟨tail, matched, same, found, values⟩ := matchPath_of_make (built_docs "page")
    (hasDefaultRequirements_standardRoute _ _) slotted_docs (by decide) make_docs
  obtain rfl := List.append_cancel_left same
  obtain ⟨slug, others⟩ := List.forall_mem_cons.mp values
  obtain ⟨page, _⟩ := List.forall_mem_cons.mp others
  obtain ⟨slug', others'⟩ := List.cons.inj slugs_docs
  obtain ⟨page', _⟩ := List.cons.inj others'
  exact ⟨matched, found, slug.1.trans (congrArg some slug'), page.1.trans (congrArg some page')⟩

-- When a route accepts the URL it made: exactly when what is left of the filled template after
-- collapsing slashes still spells the template, as it does where there was nothing to collapse.
theorem matchPath_generated_iff (built : Built route) (default : route.HasDefaultRequirements)
    (rooted : route.template.text.head? = some '/')
    (known : ∀ name ∈ args.names, route.template.hasPlaceholder name = true) {url : Text}
    (made : route.make [] args true = .ok url) :
    ∃ tail, url = "./".toList ++ tail ∧ '/' :: tail = Path.collapse (route.filled args) ∧
      ((route.matchPath? ('/' :: tail)).isSome = true ↔
        ∃ text, Slashed text (Path.collapse (route.filled args)) ∧
          Spells (bare route.template.segments) text) ∧
      (Path.Single (route.filled args) → (route.matchPath? ('/' :: tail)).isSome = true) := by
  have standard := built.standard default
  obtain ⟨_, suited, rfl⟩ := (standard.make_iff known).mp made
  have whole : '/' :: Path.generated (route.filled args) = Path.collapse (route.filled args) :=
    Path.slash_generated (built.fill_rooted rooted _)
  have language := standard.accepts_iff (Path.collapse (route.filled args))
  refine ⟨_, rfl, whole, by rw [whole, language], fun single => ?_⟩
  obtain ⟨text, slashed, reading⟩ := (standard.reading_filled suited).to_bare
  rw [whole, language, Path.collapse_of_single single]
  exact ⟨text, slashed, _, reading⟩

theorem matchPath_generated_iff_docs :
    ((standardRoute "page" docs).matchPath? "/docs.v1/intro/2/").isSome = true := by
  obtain ⟨tail, same, _, _, accepted⟩ := matchPath_generated_iff (built_docs "page")
    (hasDefaultRequirements_standardRoute _ _) (by decide) (by decide) make_docs
  obtain rfl := List.append_cancel_left same
  apply accepted
  rw [filled_docs]
  decide

def between : Template where
  text := "/foo/({a}/)/bar"
  segments := [.literal "/foo/", .hole
      { name := "a", requirement := defaultRequirement, optional := true, trailing := "/" },
    .literal "/bar"]

theorem built_between (target : Text) : Built (standardRoute target between) := by
  have read : Template.read between.text = .ok between := ok_of_toOption (by decide +kernel)
  exact .ofTemplate (ofTemplate_plain read (by unfold Plain; decide) (by decide))

-- Without the group two slashes are left, and the matcher wants both.
theorem matchPath_generated_between :
    (standardRoute "page" between).make [] .empty true = .ok "./foo/bar".toList ∧
      (standardRoute "page" between).matchPath? "/foo/bar" = none := by
  have standard := (built_between "page").standard (hasDefaultRequirements_standardRoute _ _)
  constructor
  · exact (standard.make_iff (by decide)).mpr
      ⟨rfl, List.forall_mem_cons.mpr ⟨rfl, nofun⟩, by decide⟩
  · rw [← Option.not_isSome_iff_eq_none, standard.accepts_iff]
    rintro ⟨text, slashed, values, reading⟩
    obtain _ | ⟨first, reading⟩ := reading
    obtain _ | ⟨group, reading⟩ := reading
    obtain _ | ⟨last, reading⟩ := reading
    cases reading
    cases first with
    | literal start =>
      cases last with
      | literal ending =>
        have before : _ = 5 := start.length
        have after : _ = 4 := ending.length
        have whole : _ ≤ 8 := slashed.length_le
        simp only [List.length_append] at whole
        omega

end RouteTable.Route
