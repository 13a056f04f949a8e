import RouteTable.Proofs.Route.Built

namespace RouteTable.Route

open Regex

variable {route : Route} {path : Text}

def standardHole (placeholder : Placeholder) : Hole where
  placeholder
  requirement := defaultRequirement
  validator := sequence validatorAtoms

def standardRoute (target : Text) (template : Template) : Route where
  target
  template
  holes := template.placeholders.map standardHole
  matcher := sequence (matcherAtoms template.segments)

theorem ofText_validator : Regex.ofText? true (Requirement.wholeValue defaultRequirement) =
    some (sequence validatorAtoms) := by
  have small : ¬sizeLimit < (sequence validatorAtoms).size := by decide
  rw [compiles_validator.ofText?, if_neg small]

theorem compileHole_plain {requirementOf : Placeholder → Text} {placeholder : Placeholder}
    (plain : requirementOf placeholder = defaultRequirement) :
    compileHole requirementOf placeholder = .ok (standardHole placeholder) := by
  have read : Regex.ofText? true (Requirement.wholeValue (requirementOf placeholder)) =
      some (sequence validatorAtoms) := by
    rw [plain, ofText_validator]
  rw [compileHole_of_read read, plain]
  rfl

theorem ofTemplate_plain {text target : Text} {template : Template}
    (read : Template.read text = .ok template)
    (plain : Plain (·.requirement) template.segments)
    (fits : (sequence (matcherAtoms template.segments)).size ≤ sizeLimit) :
    Route.ofTemplate text target = .ok (standardRoute target template) := by
  have scanned := Template.scanned_of_scan (Template.scan_of_read read).2
  have matcher := (compiles_matcher plain scanned.valid scanned.nodup).ofText?
  rw [if_neg (Nat.not_lt.mpr fits)] at matcher
  refine ofTemplate_of_read read matcher ?_
  rw [List.map_map]
  exact List.map_congr_left fun placeholder listed => compileHole_plain (plain placeholder listed)

theorem hasDefaultRequirements_standardRoute (target : Text) (template : Template) :
    HasDefaultRequirements (standardRoute target template) := by
  intro hole member
  obtain ⟨placeholder, _, rfl⟩ := List.mem_map.mp member
  rfl

theorem Standard.accepts_iff (standard : Standard route) (path : Text) :
    (route.matchPath? path).isSome = true ↔
      ∃ text, Slashed text path ∧ Spells (bare route.template.segments) text := by
  rw [matchPath?, Option.isSome_map, standard.matcher]
  constructor
  · intro accepted
    obtain ⟨marks, found⟩ := Option.isSome_iff_exists.mp accepted
    obtain ⟨values, text, slashed, reading, _⟩ := reading_of_search standard.scanned.nodup found
    exact ⟨text, slashed, values, reading⟩
  · rintro ⟨text, slashed, values, reading⟩
    exact search_of_reading slashed reading

theorem lookup_of_match {args : Arguments} (matched : route.matchPath? path = some args) :
    ∃ marks, route.matcher.search path = some marks ∧ ∀ name, args.lookup name =
      if name ∈ route.holes.map (·.placeholder.name) then
        some ((captured? path marks name).filter (!·.isEmpty))
      else route.defaults.lookup name := by
  obtain ⟨marks, found, rfl⟩ := Option.map_eq_some_iff.mp matched
  refine ⟨marks, found, fun name => ?_⟩
  have fold : route.holes.foldl (fun args hole => args.set hole.placeholder.name
        ((captured? path marks hole.placeholder.name).filter (!·.isEmpty))) route.defaults =
      (route.holes.map (·.placeholder.name)).foldl (fun args name =>
        args.set name ((captured? path marks name).filter (!·.isEmpty))) route.defaults := by
    rw [List.foldl_map]
  rw [fold, Arguments.lookup_foldl_set]

theorem match_of_search {marks : List Mark} (found : route.matcher.search path = some marks) :
    ∃ args, route.matchPath? path = some args ∧ ∀ name, args.lookup name =
      if name ∈ route.holes.map (·.placeholder.name) then
        some ((captured? path marks name).filter (!·.isEmpty))
      else route.defaults.lookup name := by
  obtain ⟨args, taken⟩ : ∃ args, route.matchPath? path = some args := by
    rw [← Option.isSome_iff_exists, matchPath?, Option.isSome_map, found]
    rfl
  obtain ⟨marks', same, lookups⟩ := lookup_of_match taken
  obtain rfl := Option.some.inj (found.symm.trans same)
  exact ⟨args, taken, lookups⟩

theorem Standard.arguments (standard : Standard route) {args : Arguments}
    (matched : route.matchPath? path = some args) :
    ∃ values text, Slashed text path ∧ Reading (bare route.template.segments) values text ∧
      (holeNames route.template.segments).map args.lookup =
        values.map (fun value => some (value.filter (!·.isEmpty))) ∧
      ∀ name ∉ holeNames route.template.segments,
        args.lookup name = route.defaults.lookup name := by
  obtain ⟨marks, found, lookups⟩ := lookup_of_match matched
  rw [holeNames_of_placeholders standard.placeholders] at lookups
  rw [standard.matcher] at found
  obtain ⟨values, text, slashed, reading, captures⟩ :=
    reading_of_search standard.scanned.nodup found
  refine ⟨values, text, slashed, reading, ?_, ?_⟩
  · rw [← captures, List.map_map]
    exact List.map_congr_left fun name member => (lookups name).trans (if_pos member)
  · intro name absent
    exact (lookups name).trans (if_neg absent)

-- The language of the matcher, for a route that was built in any way from a template.
theorem matchPath_isSome_iff (built : Built route) (default : route.HasDefaultRequirements)
    (path : Text) :
    (route.matchPath? path).isSome = true ↔
      ∃ text, (path = text ∨ path = text ++ ['/']) ∧ Spells (bare route.template.segments) text :=
  (built.standard default).accepts_iff path

-- Pages of a document in a versioned part of a site; without a number it is the first page.
def docsText : Text := "/docs.v1/{slug}/({page}/)"

def docs : Template where
  text := docsText
  segments := [.literal "/docs.v1/", .hole { name := "slug", requirement := defaultRequirement },
    .literal "/", .hole
      { name := "page", requirement := defaultRequirement, optional := true, trailing := "/" }]

theorem ok_of_toOption {ε α : Type} {result : Except ε α} {value : α}
    (finished : result.toOption = some value) : result = .ok value := by
  cases result with
  | error => cases finished
  | ok => exact congrArg Except.ok (Option.some.inj finished)

theorem ofTemplate_docs (target : Text) :
    ofTemplate docsText target = .ok (standardRoute target docs) := by
  have read : Template.read docsText = .ok docs := ok_of_toOption (by decide +kernel)
  exact ofTemplate_plain read (by unfold Plain; decide) (by decide)

theorem built_docs (target : Text) : Built (standardRoute target docs) :=
  .ofTemplate (ofTemplate_docs target)

-- The dot of the template stands for a dot, and case does not matter.
theorem spells_docs : Spells (bare docs.segments) "/DOCS.v1/Intro/2" := by
  have first : Spelling (.literal "/docs.v1/") [] "/DOCS.v1/" :=
    .literal (.of_ascii (by decide) (by decide) (by decide))
  have slug : Spelling (.hole { name := "slug", requirement := defaultRequirement })
      [some "Intro"] "Intro" :=
    .required rfl (by decide) (units_of_ascii (by decide) (by decide))
  have page : Spelling
      (.hole { name := "page", requirement := defaultRequirement, optional := true })
      [some "2"] ("2".toList ++ []) :=
    .present rfl (units_of_ascii (by decide) (by decide)) (.refl _)
  exact ⟨_, .cons first (.cons slug (.cons (.literal (.refl "/")) (.cons page .nil)))⟩

theorem docs_accepts :
    ((standardRoute "page" docs).matchPath? "/DOCS.v1/Intro/2/").isSome = true :=
  (((built_docs "page").standard (hasDefaultRequirements_standardRoute _ _)).accepts_iff _).mpr
    ⟨"/DOCS.v1/Intro/2", Or.inr (by decide), spells_docs⟩

theorem matchPath_isSome_iff_docs :
    ((standardRoute "page" docs).matchPath? "/DOCS.v1/Intro/2/").isSome = true :=
  (matchPath_isSome_iff (built_docs "page") (hasDefaultRequirements_standardRoute _ _) _).mpr
    ⟨"/DOCS.v1/Intro/2", Or.inr (by decide), spells_docs⟩

def wholeAtoms (set : Unicode.CharSet) : List Regex :=
  [.look .textStart, .repeated 1 none true (.char .unicode set), .look .textEnd]

theorem isMatch_whole {set : Unicode.CharSet} {value : Text} :
    (sequence (wholeAtoms set)).isMatch value = true ↔
      value ≠ [] ∧ ∀ c ∈ value, set.contains c = true := by
  have parts : (sequence (wholeAtoms set)).passage =
      (Passage.checked .textStart).andThen
        ((Regex.repeated 1 none true (.char .unicode set)).passage.andThen
          (.checked .textEnd)) := by
    rw [passage_sequence]
    change Passage.andThen _ (Passage.andThen _ (Passage.andThen _ Passage.stay)) = _
    rw [Passage.andThen_stay]
    rfl
  rw [isMatch_anchored parts]
  constructor
  · rintro ⟨marks, q, ended, passed⟩
    obtain ⟨rfl, piece, least, units, moves⟩ := Passage.repeated_oneOf.mp passed
    obtain rfl : value = piece := by simpa [ended] using moves.1
    exact ⟨List.ne_nil_of_length_pos least, units⟩
  · rintro ⟨nonempty, units⟩
    have moves : Place.Moves ⟨[], value⟩ value ⟨value, []⟩ := ⟨by simp, by simp⟩
    have least : 1 ≤ value.length := List.length_pos_iff.mpr nonempty
    exact ⟨[], _, rfl, Passage.repeated_oneOf.mpr ⟨rfl, value, least, units, moves⟩⟩

theorem isMatch_validator {value : Text} :
    (sequence validatorAtoms).isMatch value = true ↔ value ≠ [] ∧ ∀ c ∈ value, UnitChar c := by
  change (sequence (wholeAtoms unitSet)).isMatch value = true ↔ _
  rw [isMatch_whole]
  simp only [contains_unitSet]

end RouteTable.Route
