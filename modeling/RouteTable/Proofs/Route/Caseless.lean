import RouteTable.Proofs.Regex.Lowering
import RouteTable.Proofs.Regex.Spelling
import RouteTable.Proofs.Route.Consistent

namespace RouteTable.Route

open Regex

variable {requirementOf : Placeholder → Text} {segments : List Segment} {route : Route} {rest : Text}

theorem guarded_name {name : Text} (valid : Reader.IsGroupName name) : Guarded name := by
  refine guarded_of_not_mem fun member => ?_
  have hyphen : isNameChar '-' = false := by decide +kernel
  rw [List.all_eq_true.mp valid.2.1 '-' member] at hyphen
  cases hyphen

theorem silent_segment (isLast : Bool) {segment : Segment}
    (valid : ∀ name ∈ holeNames [segment], Reader.IsGroupName name)
    (plain : ∀ placeholder ∈ [segment].filterMap Segment.placeholder?,
      ¬SpellsCaseOff (requirementOf placeholder)) (silent : Silent rest) :
    Silent (segmentPattern requirementOf isLast segment ++ rest) := by
  cases segment with
  | literal text => exact silent.behind (guarded_escape _)
  | hole placeholder =>
    have named := guarded_name (valid placeholder.name List.mem_cons_self)
    have unit := plain placeholder List.mem_cons_self
    have around {lead tail : Text} (first : Guarded lead) (later : Guarded tail) :
        Silent (lead ++ (':' :: requirementOf placeholder ++ ')' :: (tail ++ rest))) :=
      ((silent.behind later).requirement unit).behind first
    have opening (group : String) (bare : '-' ∉ group.toList) :
        Guarded (group.toList ++ placeholder.name ++ ">(?".toList) :=
      ((guarded_of_not_mem bare).append named).append (guarded_of_not_mem (by decide))
    cases optional : placeholder.optional with
    | true =>
      have whole (trailing : Text) := around (opening "(?:(?P<" (by decide))
        (((guarded_of_not_mem (s := "*)".toList) (by decide)).append (guarded_escape trailing)).append
          (guarded_of_not_mem (s := ")?".toList) (by decide)))
      simpa [segmentPattern, optional] using whole _
    | false =>
      have whole := around (opening "(?P<" (by decide))
        (guarded_of_not_mem (s := "+)".toList) (by decide))
      simpa [segmentPattern, optional] using whole

theorem silent_segments (valid : ∀ name ∈ holeNames segments, Reader.IsGroupName name)
    (plain : ∀ placeholder ∈ segments.filterMap Segment.placeholder?,
      ¬SpellsCaseOff (requirementOf placeholder)) (silent : Silent rest) :
    Silent (segmentsPattern requirementOf segments ++ rest) := by
  induction segments using bare.induct with
  | case1 => exact silent
  | case2 last => exact silent_segment true valid plain silent
  | case3 segment later several ih =>
    have holes : (segment :: later).filterMap Segment.placeholder? =
        [segment].filterMap Segment.placeholder? ++ later.filterMap Segment.placeholder? := by
      cases segment <;> rfl
    rw [holeNames_cons] at valid
    rw [holes] at plain
    rw [segmentsPattern, List.append_assoc]
    · exact silent_segment false (fun name member => valid name (List.mem_append_left _ member))
        (fun placeholder member => plain placeholder (List.mem_append_left _ member))
        (ih (fun name member => valid name (List.mem_append_right _ member))
          fun placeholder member => plain placeholder (List.mem_append_right _ member))
    · exact several

-- Only a requirement can spell out that case counts again.
theorem plain_matcherPattern (valid : ∀ name ∈ holeNames segments, Reader.IsGroupName name)
    (plain : ∀ placeholder ∈ segments.filterMap Segment.placeholder?,
      ¬SpellsCaseOff (requirementOf placeholder)) :
    ¬SpellsCaseOff (matcherPattern requirementOf segments) := by
  have ending : Silent "/?$".toList := (guarded_of_not_mem (by decide)).silent
  have whole := silent_segments valid plain ending "^".toList (guarded_of_not_mem (by decide))
  rwa [← List.append_assoc] at whole

-- No inline flag goes back to case: the requirements spell none, or the pattern that they are put
-- into is read without one.
def KeepsCase (route : Route) : Prop :=
  (∀ hole ∈ route.holes, ¬SpellsCaseOff hole.requirement) ∨
    ∃ ast, Ast.ofText? route.pattern = some ast ∧ ast.KeepsCase

theorem Built.caseless (built : Built route) (keeps : route.KeepsCase) : route.matcher.Caseless := by
  obtain ⟨text, consistent⟩ := built.consistent
  have compiled : Regex.ofText? true route.pattern = some route.matcher :=
    (compile_ok consistent.compiled).1
  rcases keeps with plain | ⟨ast, read, keeps⟩
  · have scanned := Template.scanned_of_scan (Template.scan_of_read consistent.read).2
    have unspelled : ¬SpellsCaseOff route.pattern := by
      refine plain_matcherPattern scanned.valid fun placeholder member => ?_
      rw [← Template.placeholders_eq] at member
      obtain ⟨hole, listed, rfl, same⟩ := consistent.hole_of_placeholder member
      have inForce : ¬SpellsCaseOff (route.requirementOf hole.placeholder) := same ▸ plain hole listed
      exact inForce
    obtain ⟨ast, read, _⟩ := Option.bind_eq_some_iff.mp compiled
    exact caseless_of_ofText read (keepsCase_of_ofText unspelled read) compiled
  · exact caseless_of_ofText read keeps compiled

-- Every placeholder is unset in both or has values in both, which differ in case only.
def SameUpToCase (route : Route) (matched matched' : Arguments) : Prop :=
  ∀ placeholder ∈ route.template.placeholders, ∃ value value',
    matched.lookup placeholder.name = some value ∧
      matched'.lookup placeholder.name = some value' ∧
        value.map Text.asciiLower = value'.map Text.asciiLower

theorem filter_lower (value : Option Text) : (value.filter (!·.isEmpty)).map Text.asciiLower =
    (value.map Text.asciiLower).filter (!·.isEmpty) := by
  match value with
  | none | some [] | some (_ :: _) => rfl

-- Paths that differ in the case of letters of ASCII only.
theorem matchPath_caseless (built : Built route) (keeps : route.KeepsCase) (path path' : Text)
    (alike : Text.asciiLower path = Text.asciiLower path') :
    (route.matchPath? path).isSome = (route.matchPath? path').isSome ∧
      ∀ matched matched', route.matchPath? path = some matched →
        route.matchPath? path' = some matched' → route.SameUpToCase matched matched' := by
  have caseless := built.caseless keeps
  have same : route.matcher.search path = route.matcher.search path' := by
    rw [← search_lower caseless path, alike, search_lower caseless path']
  refine ⟨?_, fun matched matched' taken taken' placeholder member => ?_⟩
  · rw [matchPath?, matchPath?, Option.isSome_map, Option.isSome_map, same]
  · obtain ⟨marks, found, lookups⟩ := lookup_of_match taken
    obtain ⟨marks', found', lookups'⟩ := lookup_of_match taken'
    obtain rfl : marks = marks' := by
      rw [same] at found
      exact Option.some.inj (found.symm.trans found')
    obtain ⟨text, consistent⟩ := built.consistent
    obtain ⟨hole, listed, rfl, _⟩ := consistent.hole_of_placeholder member
    have known : hole.placeholder.name ∈ route.holes.map (·.placeholder.name) :=
      List.mem_map_of_mem listed
    refine ⟨_, _, (lookups _).trans (if_pos known), (lookups' _).trans (if_pos known), ?_⟩
    rw [filter_lower, filter_lower, ← captured_lower, ← captured_lower, alike]

theorem matchPath_caseless_docs : ∃ matched matched',
    (standardRoute "page" docs).matchPath? "/DOCS.v1/Intro/2/" = some matched ∧
      (standardRoute "page" docs).matchPath? "/docs.V1/inTRO/2/" = some matched' ∧
        (standardRoute "page" docs).SameUpToCase matched matched' := by
  have keeps : (standardRoute "page" docs).KeepsCase := by
    refine Or.inl fun hole listed => ?_
    rw [hasDefaultRequirements_standardRoute "page" docs hole listed]
    exact plain_of_not_mem (by decide)
  obtain ⟨accepts, alike⟩ := matchPath_caseless (built_docs "page") keeps
    "/DOCS.v1/Intro/2/" "/docs.V1/inTRO/2/" (by decide)
  obtain ⟨matched, taken⟩ := Option.isSome_iff_exists.mp docs_accepts
  obtain ⟨matched', taken'⟩ := Option.isSome_iff_exists.mp (accepts.symm.trans docs_accepts)
  exact ⟨matched, matched', taken, taken', alike matched matched' taken taken'⟩

end RouteTable.Route
