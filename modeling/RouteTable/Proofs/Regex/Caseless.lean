import RouteTable.Proofs.Caseless
import RouteTable.Proofs.Regex.Uses

namespace RouteTable.Regex

open Unicode (Alphabet CharSet)

namespace ClassAst

variable {flags : Flags} {set : CharSet}

-- Ranges go upwards.
def Ordered : ClassAst → Prop
  | range lo hi => lo.char ≤ hi.char
  | bracketed _ body => body.Ordered
  | union a b | operation _ a b => a.Ordered ∧ b.Ordered
  | empty | literal _ | ascii _ _ | word _ _ | property _ _ => True

def Complete (ast : ClassAst) : Prop :=
  ast.Ordered ∧ ((∃ negated body, ast = bracketed negated body) ∨
    (∃ kind negated, ast = word kind negated) ∨ ∃ query negated, ast = property query negated)

theorem sound_asciiClass (name : Text) : (asciiClass name).sound = true := by
  have either {p : Prop} [Decidable p] {a b : CharSet} (first : a.sound = true)
      (other : b.sound = true) : (if p then a else b).sound = true := by
    split
    · exact first
    · exact other
  simp only [asciiClass]
  repeat refine either (by decide) ?_
  rfl

theorem caseless_wordClass (unicode : Bool) (kind : WordClass) :
    (wordClass unicode kind).Caseless := by
  cases unicode <;> cases kind <;> exact .of_hasBothCases (by decide +kernel) (by decide +kernel)

theorem sound_fold (sound : set.sound = true) : (fold flags set).sound = true := by
  unfold fold
  split
  · exact (CharSet.Caseless.close flags.alphabet sound).sound
  · exact sound

theorem caseless_fold (insensitive : flags.caseInsensitive = true) (sound : set.sound = true) :
    (fold flags set).Caseless := by
  rw [fold, if_pos insensitive]
  exact .close flags.alphabet sound

theorem negate_cases {negated : Bool} {result : CharSet}
    (found : negate? flags negated set = some result) : result = set ∨ result = set.negate := by
  unfold negate? at found
  split at found
  · exact Or.inl (Option.some.inj found).symm
  · split at found
    · exact Or.inr (Option.some.inj found).symm
    · cases found

theorem sound_negate (sound : set.sound = true) : set.negate.sound = true := by
  unfold CharSet.negate
  simp only
  split
  · exact Bool.and_eq_true_iff.mpr ⟨sound, by decide⟩
  · exact sound

theorem sound_negated {negated : Bool} {result : CharSet} (sound : set.sound = true)
    (found : negate? flags negated set = some result) : result.sound = true := by
  rcases negate_cases found with rfl | rfl
  · exact sound
  · exact sound_negate sound

theorem caseless_negated {negated : Bool} {result : CharSet} (caseless : set.Caseless)
    (found : negate? flags negated set = some result) : result.Caseless := by
  rcases negate_cases found with rfl | rfl
  · exact caseless
  · exact caseless.negate

theorem sound_join {a b : CharSet} (left : a.sound = true) (right : b.sound = true) :
    (a.join b).sound = true := by
  fun_cases CharSet.join a b with
  | case1 => exact right
  | case2 spans more =>
    rw [CharSet.sound, List.all_append]
    exact Bool.and_eq_true_iff.mpr ⟨left, right⟩
  | case3 => exact Bool.and_eq_true_iff.mpr ⟨left, right⟩

theorem set_of_property {query : PropertyQuery} {negated : Bool}
    (found : (property query negated).set? flags = some set) :
    ∃ inner, inner.sound = true ∧ negate? flags negated (fold flags inner) = some set := by
  obtain ⟨_, _, rest⟩ := Option.bind_eq_some_iff.mp found
  cases query with
  | name name =>
    obtain ⟨inner, asked, negation⟩ := Option.bind_eq_some_iff.mp
      (show (Unicode.property? name).bind _ = some set from rest)
    exact ⟨inner, Unicode.sound_of_property asked, negation⟩
  | value name value =>
    obtain ⟨inner, asked, negation⟩ := Option.bind_eq_some_iff.mp
      (show (Unicode.propertyValue? name value).bind _ = some set from rest)
    exact ⟨inner, Unicode.sound_of_propertyValue asked, negation⟩

theorem sound_of_set {ast : ClassAst} (ordered : ast.Ordered)
    (found : ast.set? flags = some set) : set.sound = true := by
  induction ast generalizing set with
  | empty =>
    cases found
    rfl
  | literal l =>
    replace found : (if inDomain flags l then some (.single l.char) else none) = some set := found
    split at found
    · cases found
      exact CharSet.sound_single l.char
    · cases found
  | range lo hi =>
    replace found : (if inDomain flags lo && inDomain flags hi then
      some (.range lo.char hi.char) else none) = some set := found
    split at found
    · cases found
      exact CharSet.sound_range ordered
    · cases found
  | ascii name negated => exact sound_negated (sound_fold (sound_asciiClass name)) found
  | word kind negated => exact sound_negated (caseless_wordClass _ kind).sound found
  | property query negated =>
    obtain ⟨inner, sound, negation⟩ := set_of_property found
    exact sound_negated (sound_fold sound) negation
  | bracketed negated body ih =>
    obtain ⟨inner, items, negation⟩ := Option.bind_eq_some_iff.mp found
    exact sound_negated (sound_fold (ih ordered items)) negation
  | union a b ihA ihB =>
    obtain ⟨left, first, rest⟩ := Option.bind_eq_some_iff.mp found
    obtain ⟨right, second, same⟩ := Option.bind_eq_some_iff.mp rest
    cases same
    exact sound_join (ihA ordered.1 first) (ihB ordered.2 second)
  | operation operator a b ihA ihB =>
    obtain ⟨left, first, rest⟩ := Option.bind_eq_some_iff.mp found
    obtain ⟨right, second, same⟩ := Option.bind_eq_some_iff.mp rest
    have soundA : (fold flags left).sound = true := sound_fold (ihA ordered.1 first)
    have soundB : (fold flags right).sound = true := sound_fold (ihB ordered.2 second)
    cases operator <;> (cases same; exact Bool.and_eq_true_iff.mpr ⟨soundA, soundB⟩)

theorem Complete.caseless {ast : ClassAst} (complete : ast.Complete)
    (insensitive : flags.caseInsensitive = true) (found : ast.set? flags = some set) :
    set.Caseless := by
  obtain ⟨ordered, ⟨negated, body, rfl⟩ | ⟨kind, negated, rfl⟩ | ⟨query, negated, rfl⟩⟩ := complete
  · obtain ⟨inner, items, negation⟩ := Option.bind_eq_some_iff.mp found
    have upward : body.Ordered := ordered
    exact caseless_negated (caseless_fold insensitive (sound_of_set upward items)) negation
  · exact caseless_negated (caseless_wordClass _ kind) found
  · obtain ⟨inner, sound, negation⟩ := set_of_property found
    exact caseless_negated (caseless_fold insensitive sound) negation

end ClassAst

-- Literals are no letters, and sets do not tell the cases apart.
def Caseless : Regex → Prop
  | empty | look _ => True
  | literal first rest => ∀ c ∈ first :: rest, c.isAlpha = false
  | char _ set => set.Caseless
  | seq a b | alt a b => a.Caseless ∧ b.Caseless
  | repeated _ _ _ a | group _ a => a.Caseless

namespace Caseless

variable {a b : Regex} {set : CharSet} {regexes : List Regex}

theorem cons (first : a.Caseless) (later : b.Caseless) : (a.cons b).Caseless := by
  fun_cases Regex.cons a b with
  | case1 => exact later
  | case2 => exact first
  | case3 c cs d ds =>
    rw [Caseless, ← List.cons_append]
    exact List.forall_mem_append.mpr ⟨first, later⟩
  | case4 c cs d ds b =>
    refine ⟨?_, later.2⟩
    rw [Caseless, ← List.cons_append]
    exact List.forall_mem_append.mpr ⟨first, later.1⟩
  | case5 => exact ⟨first, later⟩

theorem append (first : a.Caseless) (later : b.Caseless) : (a.append b).Caseless := by
  fun_induction Regex.append a b with
  | case1 b a rest ih => exact first.1.cons (ih first.2 later)
  | case2 a b => exact first.cons later

theorem factors (caseless : a.Caseless) : ∀ b ∈ a.factors, b.Caseless := by
  fun_induction Regex.factors a with
  | case1 => exact fun b member => absurd member List.not_mem_nil
  | case2 a rest ih => exact List.forall_mem_cons.mpr ⟨caseless.1, ih caseless.2⟩
  | case3 => exact List.forall_mem_singleton.mpr caseless

theorem branches (caseless : a.Caseless) : ∀ b ∈ a.branches, b.Caseless := by
  fun_induction Regex.branches a with
  | case1 a rest ih => exact List.forall_mem_cons.mpr ⟨caseless.1, ih caseless.2⟩
  | case2 => exact List.forall_mem_singleton.mpr caseless

theorem ofSet (alphabet : Alphabet) (caseless : set.Caseless) :
    (Regex.ofSet alphabet set).Caseless := by
  unfold Regex.ofSet
  split
  · next only => exact List.forall_mem_singleton.mpr (caseless.not_isAlpha_of_only only)
  · split
    · exact CharSet.Caseless.empty
    · exact caseless

theorem ofVariants (alphabet : Alphabet) (c : Char) : (Regex.ofVariants alphabet c).Caseless := by
  unfold Regex.ofVariants
  split
  · next alone =>
    refine List.forall_mem_singleton.mpr (Bool.eq_false_iff.mpr fun letter => ?_)
    obtain ⟨d, other, same⟩ := CharSet.exists_otherCase letter
    have variant := CharSet.mem_variants_of_toLower alphabet same
    exact other (of_decide_eq_true (List.all_eq_true.mp alone d variant))
  · exact .caseClosure alphabet (CharSet.sound_single c)

theorem mem_of_mapM {α β : Type} {f : α → Option β} {xs : List α} {ys : List β}
    (found : xs.mapM f = some ys) : ∀ y ∈ ys, ∃ x ∈ xs, f x = some y := by
  induction xs generalizing ys with
  | nil =>
    cases found
    nofun
  | cons x xs ih =>
    rw [List.mapM_cons] at found
    obtain ⟨first, here, rest⟩ := Option.bind_eq_some_iff.mp found
    obtain ⟨others, later, same⟩ := Option.bind_eq_some_iff.mp rest
    cases same
    refine List.forall_mem_cons.mpr ⟨⟨x, List.mem_cons_self, here⟩, fun y member => ?_⟩
    obtain ⟨origin, listed, image⟩ := ih later y member
    exact ⟨origin, List.mem_cons_of_mem x listed, image⟩

theorem not_isAlpha_of_letter {c : Char} (caseless : a.Caseless) (letter : a.letter? = some c) :
    c.isAlpha = false := by
  unfold Regex.letter? at letter
  split at letter
  · cases letter
    exact caseless c List.mem_cons_self
  · cases letter

theorem caseless_of_set (caseless : a.Caseless) (found : a.set? = some set) : set.Caseless := by
  unfold Regex.set? at found
  split at found
  · cases found
    exact caseless
  · cases found

theorem joined (each : ∀ a ∈ regexes, a.Caseless) (found : joinedSet? regexes = some set) :
    set.Caseless := by
  rcases Option.or_eq_some_iff.mp found with letters | ⟨_, sets⟩
  · obtain ⟨cs, known, rfl⟩ := Option.map_eq_some_iff.mp letters
    refine .ofList fun c member => ?_
    obtain ⟨a, listed, letter⟩ := mem_of_mapM known c member
    exact not_isAlpha_of_letter (each a listed) letter
  · obtain ⟨sets, known, rfl⟩ := Option.map_eq_some_iff.mp sets
    refine .unions fun set member => ?_
    obtain ⟨a, listed, here⟩ := mem_of_mapM known set member
    exact caseless_of_set (each a listed) here

theorem joins : Joins Regex.Caseless where
  empty := trivial
  never := CharSet.Caseless.empty
  alt first other := ⟨first, other⟩
  repeated _ _ _ caseless := caseless
  append := append
  factors := factors
  branches := branches
  joined each found := ofSet .unicode (joined each found)

end Caseless

namespace Ast

variable {flags flags' : Flags} {set : CharSet}

-- All changes of flags in a pattern and all its classes are as stated.
def Spells (change : FlagChange → Prop) (set : ClassAst → Prop) : Ast → Prop
  | empty | literal _ | dot | assertion _ => True
  | .flags found => change found
  | .class found => set found
  | repetition a _ _ _ | capture _ a => a.Spells change set
  | group found a => change found ∧ a.Spells change set
  | concat a b | alternation a b => a.Spells change set ∧ b.Spells change set

-- No inline flag of the pattern goes back to case.
def KeepsCase (ast : Ast) : Prop := ast.Spells (Flag.caseInsensitive ∉ ·.off) fun _ => True

theorem apply_insensitive {change : FlagChange} (insensitive : flags.caseInsensitive = true)
    (keeps : Flag.caseInsensitive ∉ change.off) : (flags.apply change).caseInsensitive = true := by
  have on : (change.off.contains Flag.caseInsensitive) = false := by simpa using keeps
  simp only [Flags.apply, FlagChange.state?, on, insensitive]
  split <;> rfl

theorem caseless_dotSet (found : dotSet? flags = some set) : set.Caseless := by
  have letterless (text : String) (plain : text.toList.all (!·.isAlpha) = true) :
      (CharSet.ofString text).Caseless :=
    .ofList fun c member => by simpa using List.all_eq_true.mp plain c member
  unfold dotSet? at found
  split at found
  · cases found
  · split at found
    · cases found
      exact CharSet.Caseless.empty.compl
    · split at found
      · cases found
        exact (letterless "\r\n" (by decide)).compl
      · cases found
        exact (letterless "\n" (by decide)).compl

theorem Spells.caseless {ast : Ast}
    (spells : ast.Spells (Flag.caseInsensitive ∉ ·.off) ClassAst.Complete)
    (insensitive : flags.caseInsensitive = true) {offered : List Regex}
    (found : ast.branches? flags = some (offered, flags')) :
    flags'.caseInsensitive = true ∧ ∀ b ∈ offered, b.Caseless := by
  have joins := Regex.Caseless.joins
  induction ast generalizing flags flags' offered with
  | empty =>
    cases found
    exact ⟨insensitive, List.forall_mem_singleton.mpr trivial⟩
  | flags change =>
    cases found
    exact ⟨apply_insensitive insensitive spells, List.forall_mem_singleton.mpr trivial⟩
  | literal l =>
    obtain ⟨r, letter, same⟩ := Option.bind_eq_some_iff.mp found
    cases same
    refine ⟨insensitive, List.forall_mem_singleton.mpr ?_⟩
    unfold letter? at letter
    split at letter
    · cases letter
    · cases letter
      exact .ofVariants _ _
  | dot =>
    obtain ⟨set, some_, same⟩ := Option.bind_eq_some_iff.mp found
    cases same
    exact ⟨insensitive, List.forall_mem_singleton.mpr (caseless_dotSet some_)⟩
  | assertion kind =>
    cases found
    exact ⟨insensitive, List.forall_mem_singleton.mpr trivial⟩
  | «class» set =>
    obtain ⟨set, some_, same⟩ := Option.bind_eq_some_iff.mp found
    cases same
    exact ⟨insensitive,
      List.forall_mem_singleton.mpr (.ofSet _ (ClassAst.Complete.caseless spells insensitive some_))⟩
  | repetition a low high greedy ih =>
    obtain ⟨⟨body, after⟩, inside, same⟩ := Option.bind_eq_some_iff.mp found
    cases same
    obtain ⟨still, each⟩ := ih spells insensitive inside
    exact ⟨still, List.forall_mem_singleton.mpr (joins.between _ _ _ (joins.alternation each))⟩
  | capture key a ih =>
    obtain ⟨⟨body, after⟩, inside, same⟩ := Option.bind_eq_some_iff.mp found
    cases same
    obtain ⟨_, each⟩ := ih spells insensitive inside
    exact ⟨insensitive, List.forall_mem_singleton.mpr (joins.alternation each)⟩
  | group change a ih =>
    obtain ⟨⟨body, after⟩, inside, same⟩ := Option.bind_eq_some_iff.mp found
    cases same
    obtain ⟨_, each⟩ := ih spells.2 (apply_insensitive insensitive spells.1) inside
    exact ⟨insensitive, List.forall_mem_singleton.mpr (joins.alternation each)⟩
  | concat a b ihA ihB =>
    obtain ⟨⟨first, middle⟩, here, rest⟩ := Option.bind_eq_some_iff.mp found
    obtain ⟨⟨second, after⟩, there, same⟩ := Option.bind_eq_some_iff.mp rest
    cases same
    -- The flags after the first part are those of the second.
    obtain ⟨between, left⟩ := ihA spells.1 insensitive here
    obtain ⟨still, right⟩ := ihB spells.2 between there
    exact ⟨still, List.forall_mem_singleton.mpr
      (joins.append (joins.alternation left) (joins.alternation right))⟩
  | alternation a b ihA ihB =>
    obtain ⟨⟨first, middle⟩, here, rest⟩ := Option.bind_eq_some_iff.mp found
    obtain ⟨⟨second, after⟩, there, same⟩ := Option.bind_eq_some_iff.mp rest
    cases same
    obtain ⟨between, left⟩ := ihA spells.1 insensitive here
    obtain ⟨still, right⟩ := ihB spells.2 between there
    exact ⟨still, List.forall_mem_append.mpr ⟨left, right⟩⟩

end Ast

end RouteTable.Regex
