import RouteTable.Proofs.Route.Location
import RouteTable.Proofs.Router.SelfLink

namespace RouteTable

namespace Slug

variable {s t : Text}

-- What a text is made of beside the characters of slugs.
def outside (s : Text) : Text := s.filter (!allowed ·)

@[simp] theorem outside_append (s t : Text) : outside (s ++ t) = outside s ++ outside t :=
  List.filter_append s t

@[simp] theorem outside_ofText (value : Text) : outside (ofText value) = [] := by
  refine List.filter_eq_nil_iff.mpr fun c member => ?_
  simp [allowed_ofText value c member]

theorem count_outside {c : Char} (reserved : allowed c = false) (s : Text) :
    (outside s).count c = s.count c :=
  List.count_filter (by rw [reserved]; rfl)

-- How slashes are lost on the way from one text to another, and nothing else that no slug has.
structure Sheds (s t : Text) : Prop where
  sublist : (outside t).Sublist (outside s)
  others : (outside t).filter (· != '/') = (outside s).filter (· != '/')

theorem Sheds.refl (s : Text) : Sheds s s := ⟨.refl _, rfl⟩

theorem Sheds.trans {u : Text} (first : Sheds s t) (later : Sheds t u) : Sheds s u :=
  ⟨later.sublist.trans first.sublist, later.others.trans first.others⟩

theorem Sheds.cons (c : Char) (sheds : Sheds s t) : Sheds (c :: s) (c :: t) := by
  have split (s : Text) : outside (c :: s) = outside [c] ++ outside s := outside_append [c] s
  refine ⟨?_, ?_⟩
  · rw [split s, split t]
    exact sheds.sublist.append_left _
  · rw [split s, split t, List.filter_append, List.filter_append, sheds.others]

theorem Sheds.slash (s : Text) : Sheds ('/' :: s) s := ⟨List.sublist_cons_self '/' _, rfl⟩

theorem Sheds.dotted (s : Text) : Sheds ('.' :: '/' :: s) s :=
  ⟨(Sheds.slash s).sublist, (Sheds.slash s).others⟩

end Slug

namespace Path

open Slug (Sheds)

theorem sheds_collapse (path : Text) : Sheds path (collapse path) := by
  fun_induction collapse path with
  | case1 => exact .refl []
  | case2 rest ih => exact (Sheds.slash _).trans ih
  | case3 c rest different ih => exact ih.cons c

theorem sheds_trimRelative (path : Text) : Sheds path (trimRelative path) := by
  fun_induction trimRelative path with
  | case1 rest ih => exact (Sheds.dotted rest).trans ih
  | case2 => exact .refl _

theorem sheds_dropWhile (path : Text) : Sheds path (path.dropWhile (· == '/')) := by
  induction path with
  | nil => exact .refl []
  | cons c path ih =>
    by_cases slash : c = '/'
    · subst slash
      exact (Sheds.slash path).trans ih
    · rw [List.dropWhile_cons_of_neg (by simpa using slash)]
      exact .refl _

theorem sheds_generated (path : Text) : Sheds path (generated path) :=
  ((sheds_trimRelative path).trans (sheds_collapse _)).trans (sheds_dropWhile _)

theorem head_generated (path : Text) : (generated path).head? ≠ some '/' := by
  intro slash
  have first := List.head?_dropWhile_not (· == '/') (collapse (trimRelative path))
  rw [generated] at slash
  rw [slash] at first
  cases first

theorem single_generated (path : Text) : Single (generated path) :=
  (single_collapse _).suffix (List.dropWhile_suffix _)

end Path

namespace Route

variable {route : Route} {current args : Arguments} {hint url : Text} {relative : Bool}

-- The literal text that goes into a path, given which holes have a value: the trailing text of a group
-- stands and falls with it.
def emitted (filled : Placeholder → Bool) : List Segment → Text
  | [] => []
  | .literal text :: rest => text ++ emitted filled rest
  | .hole placeholder :: rest =>
    (if filled placeholder then placeholder.trailing else []) ++ emitted filled rest

def hasValue (route : Route) (current args : Arguments) (placeholder : Placeholder) : Bool :=
  (route.chosenValue current args placeholder.name).isSome

theorem outside_fill (chosen : Placeholder → Option Text) (segments : List Segment) :
    Slug.outside (fill segments ((segments.filterMap Segment.placeholder?).map
        fun placeholder => (chosen placeholder).map Slug.ofText)) =
      Slug.outside (emitted (fun placeholder => (chosen placeholder).isSome) segments) := by
  induction segments with
  | nil => rfl
  | cons segment rest ih =>
    cases segment with
    | literal text =>
      rw [emitted, Slug.outside_append, ← ih]
      exact Slug.outside_append _ _
    | hole placeholder =>
      rw [emitted, Slug.outside_append, ← ih]
      change Slug.outside (fill (.hole placeholder :: rest)
        ((chosen placeholder).map Slug.ofText :: _)) = _
      cases chosen placeholder with
      | none => rfl
      | some value =>
        change Slug.outside (Slug.ofText value ++ placeholder.trailing ++ _) = _
        simp

-- How a path keeps to the template. `literal` is the text of the template that goes into it.
structure Contained (literal path : Text) : Prop where
  unrooted : path.head? ≠ some '/'
  single : Text.includes "//" path = false
  sublist : (Slug.outside path).Sublist (Slug.outside literal)
  others : (Slug.outside path).filter (· != '/') = (Slug.outside literal).filter (· != '/')

theorem Contained.count {literal path : Text} (contained : Contained literal path) {c : Char}
    (reserved : Slug.allowed c = false) : path.count c ≤ literal.count c := by
  rw [← Slug.count_outside reserved path, ← Slug.count_outside reserved literal]
  exact contained.sublist.count_le c

theorem Built.contained (built : Built route) (current args : Arguments) :
    Contained (emitted (route.hasValue current args) route.template.segments)
      (route.pathOf current args) := by
  have values : route.holes.map (route.slugAt current args) =
      (route.template.segments.filterMap Segment.placeholder?).map fun placeholder =>
        (route.chosenValue current args placeholder.name).map Slug.ofText := by
    rw [← Template.placeholders_eq, ← built.placeholders, List.map_map]
    rfl
  have literal := outside_fill (fun placeholder => route.chosenValue current args placeholder.name)
    route.template.segments
  have sheds := Path.sheds_generated (fill route.template.segments
    (route.holes.map (route.slugAt current args)))
  rw [← values] at literal
  refine ⟨Path.head_generated _, Path.single_iff.mp (Path.single_generated _), ?_, ?_⟩
  · have sublist := sheds.sublist
    rw [literal] at sublist
    exact sublist
  · have others := sheds.others
    rw [literal] at others
    exact others

-- No value adds anything to the structure of a URL. What comes before the path and after it does not
-- depend on the values of placeholders, and the path itself has the structure of the template.
theorem contained_of_makeFrom (built : Built route)
    (made : route.makeFrom current hint args relative = .ok url) :
    ∃ path, (route.queryOf args = [] ∧ url = route.front hint relative ++ path ∨
        route.queryOf args ≠ [] ∧
          url = route.front hint relative ++ path ++ '?' :: route.queryOf args) ∧
      (route.front hint relative = "./" ∨
        route.front hint relative = route.schemeFor (.ofText hint) ++ "://".toList ++
          route.hostFor (.ofText hint) ++ ['/']) ∧
      Contained (emitted (route.hasValue current args) route.template.segments) path ∧
      ∀ c, Slug.allowed c = false → path.count c ≤
        (emitted (route.hasValue current args) route.template.segments).count c := by
  have contained := built.contained current args
  have front : route.front hint relative = "./" ∨ _ := ite_eq_or_eq _ _ _
  refine ⟨_, ?_, front, contained, fun c reserved => contained.count reserved⟩
  rw [url_of_makeFrom made, withQuery]
  by_cases none : route.queryOf args = []
  · exact Or.inl ⟨none, by simp [none]⟩
  · exact Or.inr ⟨none, by simp [none]⟩

def hostile : Text := "../a//b?c=d#e%f:80"

def hostileArgs : Arguments := (Arguments.empty.insert "title" hostile).insert "next" "/?"

theorem ofText_hostile : Slug.ofText hostile = "..-a-b-c-d-e-f-80" := by
  have ascii : ∀ c ∈ hostile, c.toNat < 0x80 := by
    have each : hostile.all (·.toNat.blt 0x80) = true := by decide
    exact fun c member => Nat.blt_eq.mp (List.all_eq_true.mp each c member)
  have spelled : hostile.flatMap Slug.spelled = hostile.map Unicode.foldAscii := by
    rw [List.map_eq_flatMap]
    refine List.flatMap_congr fun c member => ?_
    rw [Slug.spelled_of_ascii (ascii c member), Unicode.foldCase_of_ascii (ascii c member)]
  rw [Slug.ofText, Slug.lowercase_transliterate, spelled]
  decide

theorem contained_of_makeFrom_titled :
    Router.titled.makeFrom .empty [] hostileArgs true =
      .ok "./..-a-b-c-d-e-f-80?next=%2F%3F".toList ∧
      Contained "/" "..-a-b-c-d-e-f-80" := by
  have accepted : Router.titleHole.validator.isMatch hostile = true := by
    have line : hostile.all (Unicode.CharSet.compl (.single '\n')).contains = true := by decide
    exact isMatch_whole.mpr ⟨List.cons_ne_nil _ _, List.all_eq_true.mp line⟩
  have taken : Router.titled.refuser? .empty hostileArgs = none := by
    refine refuser?_eq_none.mpr fun hole listed => ?_
    rw [List.mem_singleton.mp listed, takes]
    change (Router.titleHole.validator.isMatch hostile && !(Slug.ofText hostile).isEmpty) = true
    rw [accepted, ofText_hostile]
    rfl
  have path : Router.titled.pathOf .empty hostileArgs = "..-a-b-c-d-e-f-80" := by
    change Path.generated (fill Router.titled.template.segments [some (Slug.ofText hostile)]) = _
    rw [ofText_hostile]
    rfl
  have made : Router.titled.makeFrom .empty [] hostileArgs true =
      .ok "./..-a-b-c-d-e-f-80?next=%2F%3F".toList := by
    refine makeFrom_eq_ok.mpr ⟨taken, _, rfl, ?_⟩
    rw [path]
    decide
  have query : Router.titled.queryOf hostileArgs = "next=%2F%3F" := by decide
  refine ⟨made, ?_⟩
  obtain ⟨path, located, _, contained, _⟩ :=
    contained_of_makeFrom (.ofTemplate Router.ofTemplate_titled) made
  rw [query] at located
  rcases located with ⟨none, _⟩ | ⟨_, same⟩
  · cases none
  · change "./".toList ++ "..-a-b-c-d-e-f-80".toList ++ "?next=%2F%3F".toList =
      "./".toList ++ path ++ "?next=%2F%3F".toList at same
    obtain rfl := List.append_cancel_left (List.append_cancel_right same)
    exact contained

end Route

end RouteTable
