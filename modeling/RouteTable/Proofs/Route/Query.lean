import RouteTable.Proofs.Percent
import RouteTable.Proofs.Route.Outcome
import RouteTable.Proofs.Route.RoundTrip

namespace RouteTable.Route

variable {route : Route} {current args other : Arguments} {hint url name : Text} {relative : Bool}

def extras (route : Route) (args : Arguments) : List (Text × Text) :=
  args.entries.filterMap fun (name, value) =>
    if route.template.hasPlaceholder name then none else value.map (name, ·)

def bound (route : Route) (args : Arguments) : Arguments :=
  ⟨args.entries.filter fun entry => route.template.hasPlaceholder entry.1⟩

theorem queryOf_eq (route : Route) (args : Arguments) :
    route.queryOf args = Query.write (route.extras args) := by
  rw [queryOf, Query.write, extras, List.map_filterMap]
  refine congrArg _ (List.filterMap_congr fun entry _ => ?_)
  obtain ⟨name, value⟩ := entry
  dsimp only
  cases route.template.hasPlaceholder name with
  | true => rfl
  | false => cases value <;> rfl

theorem lookup_filter {keep : Text → Bool} (kept : keep name = true)
    (entries : List (Text × Option Text)) :
    (entries.filter fun entry => keep entry.1).lookup name = entries.lookup name := by
  induction entries with
  | nil => rfl
  | cons entry rest ih =>
    obtain ⟨key, value⟩ := entry
    simp only [List.filter_cons]
    by_cases same : name = key
    · subst same
      rw [if_pos kept, List.lookup_cons_self, List.lookup_cons_self]
    · rw [List.lookup_cons (a := name), beq_false_of_ne same, ← ih]
      split
      · rw [List.lookup_cons, beq_false_of_ne same]
      · rfl

theorem lookup_bound (known : route.template.hasPlaceholder name = true) :
    (route.bound args).lookup name = args.lookup name :=
  lookup_filter known args.entries

theorem withQuery_eq (route : Route) (args : Arguments) (url : Text) : route.withQuery args url =
    if route.extras args = [] then url else url ++ '?' :: Query.write (route.extras args) := by
  rw [withQuery, queryOf_eq]
  simp only [List.isEmpty_iff, Query.write_eq_nil, List.append_assoc, List.singleton_append]

theorem extras_of_withQuery {place : Text}
    (same : route.withQuery args place = route.withQuery other place) :
    route.extras args = route.extras other := by
  rw [withQuery_eq, withQuery_eq] at same
  by_cases none : route.extras args = [] <;> by_cases none' : route.extras other = []
  · rw [none, none']
  · rw [if_pos none, if_neg none'] at same
    simp at same
  · rw [if_neg none, if_pos none'] at same
    simp at same
  · rw [if_neg none, if_neg none'] at same
    obtain ⟨_, written⟩ := List.cons.inj (List.append_cancel_left same)
    have read := congrArg Query.read? written
    rw [Query.read?_write none, Query.read?_write none'] at read
    exact Option.some.inj read

theorem Built.sameValues (built : Built route)
    (agree : ∀ name, route.template.hasPlaceholder name = true →
      other.lookup name = args.lookup name) (current : Arguments) :
    route.SameValues current other current args := by
  intro hole listed
  have known : route.template.hasPlaceholder hole.placeholder.name = true := by
    rw [Template.hasPlaceholder, Template.placeholder?, List.find?_isSome, ← built.placeholders]
    exact ⟨_, List.mem_map_of_mem listed, beq_self_eq_true _⟩
  rw [chosenValue, chosenValue, agree _ known]

theorem makeFrom_of_agree (built : Built route)
    (agree : ∀ name, route.template.hasPlaceholder name = true →
      other.lookup name = args.lookup name) {place : Text}
    (taken : route.refuser? current args = none)
    (located : route.locate hint (route.pathOf current args) relative = .ok place) :
    route.makeFrom current hint other relative = .ok (route.withQuery other place) := by
  have same := built.sameValues agree current
  exact makeFrom_eq_ok.mpr ⟨same.refuser?.trans taken, place, by rw [same.pathOf, located], rfl⟩

theorem extras_bound (route : Route) (args : Arguments) : route.extras (route.bound args) = [] := by
  refine List.filterMap_eq_nil_iff.mpr fun entry member => ?_
  exact if_pos (List.mem_filter.mp member).2

-- A URL with all arguments is the URL for the placeholders and a query, if there is anything to say in
-- it. The query reads back as the other arguments, so they can be told from the URL.
theorem query_of_make (built : Built route) (made : route.make hint args relative = .ok url) :
    ∃ place, route.make hint (route.bound args) relative = .ok place ∧
      (route.extras args = [] ∧ url = place ∨
        ∃ query, route.extras args ≠ [] ∧ url = place ++ '?' :: query ∧
          Query.read? query = some (route.extras args)) ∧
      ∀ other, (∀ name, route.template.hasPlaceholder name = true →
          other.lookup name = args.lookup name) →
        route.make hint other relative = .ok url → route.extras other = route.extras args := by
  obtain ⟨taken, place, located, rfl⟩ := makeFrom_eq_ok.mp made
  refine ⟨place, ?_, ?_, ?_⟩
  · have bare := makeFrom_of_agree built (fun name known => lookup_bound known) taken located
    rw [withQuery_eq, if_pos (route.extras_bound args)] at bare
    exact bare
  · rw [withQuery_eq]
    by_cases none : route.extras args = []
    · exact Or.inl ⟨none, if_pos none⟩
    · exact Or.inr ⟨_, none, if_neg none, Query.read?_write none⟩
  · intro other agree made'
    have again := makeFrom_of_agree built agree taken located
    exact extras_of_withQuery (Except.ok.inj (again.symm.trans made'))

-- Arguments for a search in a document, with an empty name and separators in the values.
def searchArgs : Arguments :=
  ((docsArgs.insert "q" "a b&c").unset "ignored").insert [] "ä=?"

theorem query_of_make_docs :
    (standardRoute "page" docs).make [] searchArgs true =
      .ok ("./docs.v1/intro/2/".toList ++ "?q=a%20b%26c&=%C3%A4%3D%3F".toList) ∧
      Query.read? "q=a%20b%26c&=%C3%A4%3D%3F" =
        some [("q".toList, "a b&c".toList), ([], "ä=?".toList)] := by
  have built := built_docs "page"
  obtain ⟨taken, place, located, same⟩ := makeFrom_eq_ok.mp make_docs
  have agree : ∀ name, docs.hasPlaceholder name = true →
      searchArgs.lookup name = docsArgs.lookup name := by
    intro name known
    have distinct {other : Text} (free : docs.hasPlaceholder other = false) : name ≠ other := by
      rintro rfl
      rw [known] at free
      cases free
    have query : name ≠ "q" := distinct (by decide)
    have ignored : name ≠ "ignored" := distinct (by decide)
    have empty : name ≠ [] := distinct (by decide)
    rw [searchArgs, Arguments.insert, Arguments.unset, Arguments.insert, Arguments.lookup_set,
      if_neg empty, Arguments.lookup_set, if_neg ignored, Arguments.lookup_set, if_neg query]
  have made := makeFrom_of_agree built agree taken located
  obtain rfl : "./docs.v1/intro/2/".toList = place := same
  refine ⟨made, ?_⟩
  obtain ⟨place, bare, ⟨none, _⟩ | ⟨query, _, located', read⟩, _⟩ := query_of_make built made
  · cases none
  · have bare' := makeFrom_of_agree built
      (fun name known => (lookup_bound known).trans (agree name known)) taken located
    rw [withQuery_eq, if_pos (extras_bound _ _)] at bare'
    obtain rfl := Except.ok.inj (bare'.symm.trans bare)
    change "./docs.v1/intro/2/".toList ++ '?' :: _ = _ at located'
    obtain ⟨_, rfl⟩ := List.cons.inj (List.append_cancel_left located')
    exact read

end RouteTable.Route
