import RouteTable.Proofs.Regex.Growth
import RouteTable.Proofs.Regex.Meaning
import RouteTable.Proofs.Regex.Nesting

namespace RouteTable.Regex

-- A property of expressions that survives taking them apart and joining them to new ones.
structure Joins (good : Regex → Prop) : Prop where
  empty : good empty
  never : good never
  alt : ∀ {a b}, good a → good b → good (alt a b)
  repeated : ∀ {a} low high greedy, good a → good (repeated low high greedy a)
  append : ∀ {a b}, good a → good b → good (a.append b)
  factors : ∀ {a}, good a → ∀ b ∈ a.factors, good b
  branches : ∀ {a}, good a → ∀ b ∈ a.branches, good b
  joined : ∀ {regexes set}, (∀ a ∈ regexes, good a) → joinedSet? regexes = some set →
    good (ofSet .unicode set)

structure Kept (good : Regex → Prop) : Prop extends Joins good where
  literal : ∀ c rest, good (literal c rest)
  char : ∀ alphabet set, good (char alphabet set)

theorem ofSet_induction {good : Regex → Prop} (literal : ∀ c, good (literal c []))
    (char : ∀ alphabet set, good (char alphabet set)) (alphabet : Unicode.Alphabet)
    (set : Unicode.CharSet) : good (ofSet alphabet set) := by
  unfold Regex.ofSet
  split
  · exact literal _
  · split <;> exact char _ _

namespace Joins

variable {good : Regex → Prop} {a : Regex} {regexes : List Regex}

theorem sequence (joins : Joins good) (each : ∀ a ∈ regexes, good a) : good (sequence regexes) := by
  induction regexes with
  | nil => exact joins.empty
  | cons a regexes ih =>
    obtain ⟨first, rest⟩ := List.forall_mem_cons.mp each
    exact joins.append first (ih rest)

-- What is shared stays a beginning of the first alternative.
theorem subset_commonPrefix (rest : List Regex) (shared : List Regex) :
    rest.foldl (fun shared a => commonPrefix shared a.factors) shared ⊆ shared := by
  induction rest generalizing shared with
  | nil => exact List.Subset.refl _
  | cons a rest ih =>
    exact List.Subset.trans (ih _) (commonPrefix_prefix_left shared a.factors).subset

theorem factor_of_shared {b : Regex} (shared : b ∈ sharedFactors regexes) :
    ∃ a ∈ regexes, b ∈ a.factors := by
  unfold Regex.sharedFactors at shared
  split at shared
  · cases regexes with
    | nil => cases shared
    | cons first rest => exact ⟨first, List.mem_cons_self, subset_commonPrefix rest _ shared⟩
  · cases shared

theorem anyOf (joins : Joins good) (each : ∀ a ∈ regexes, good a) : good (anyOf regexes) := by
  fun_induction Regex.anyOf regexes with
  | case1 => exact joins.never
  | case2 a => exact each a List.mem_cons_self
  | case3 a rest _ ih =>
    obtain ⟨first, others⟩ := List.forall_mem_cons.mp each
    exact joins.alt first (ih others)

theorem oneOf (joins : Joins good) (each : ∀ a ∈ regexes, good a) : good (oneOf regexes) := by
  unfold Regex.oneOf
  split
  · next found => exact joins.joined each found
  · exact joins.anyOf each

theorem alternation (joins : Joins good) (each : ∀ a ∈ regexes, good a) :
    good (alternation regexes) := by
  have all : ∀ b ∈ regexes.flatMap Regex.branches, good b := by
    intro b member
    obtain ⟨a, listed, offered⟩ := List.mem_flatMap.mp member
    exact joins.branches (each a listed) b offered
  unfold Regex.alternation
  split
  · next only => exact all _ (only ▸ List.mem_cons_self)
  · simp only
    split
    · exact joins.oneOf all
    · refine joins.append (joins.sequence ?_) (joins.oneOf ?_)
      · intro b shared
        obtain ⟨a, given, part⟩ := factor_of_shared shared
        exact joins.factors (all a given) b part
      · intro b member
        obtain ⟨rest, listed, offered⟩ := List.mem_flatMap.mp member
        obtain ⟨a, given, rfl⟩ := List.mem_map.mp listed
        refine joins.branches (joins.sequence ?_) b offered
        intro part left
        exact joins.factors (all a given) part (List.mem_of_mem_drop left)

theorem between (joins : Joins good) (low : Nat) (high : Option Nat) (greedy : Bool)
    (fine : good a) : good (a.between low high greedy) := by
  have bounded (low : Nat) (high : Option Nat) :
      good (if high = some 0 then .empty
        else if low = 1 && high = some 1 then a else .repeated low high greedy a) := by
    split
    · exact joins.empty
    · split
      · exact fine
      · exact joins.repeated low high greedy fine
  exact bounded _ _

end Joins

namespace Kept

variable {good : Regex → Prop}

theorem ofSet (kept : Kept good) (alphabet : Unicode.Alphabet) (set : Unicode.CharSet) :
    good (ofSet alphabet set) :=
  ofSet_induction (fun c => kept.literal c []) kept.char alphabet set

theorem ofVariants (kept : Kept good) (alphabet : Unicode.Alphabet) (c : Char) :
    good (ofVariants alphabet c) := by
  unfold Regex.ofVariants
  split
  · exact kept.literal _ _
  · exact kept.char _ _

end Kept

def Uses (look : Look → Prop) (group : Text → Regex → Prop) : Regex → Prop
  | empty | literal _ _ | char _ _ => True
  | .look assertion => look assertion
  | seq a b | alt a b => a.Uses look group ∧ b.Uses look group
  | repeated _ _ _ a => a.Uses look group
  | .group none a => a.Uses look group
  | .group (some name) a => group name a ∧ a.Uses look group

namespace Uses

variable {look : Look → Prop} {group : Text → Regex → Prop} {a b : Regex}

theorem cons (first : a.Uses look group) (later : b.Uses look group) :
    (a.cons b).Uses look group := by
  fun_cases Regex.cons a b with
  | case1 => exact later
  | case2 => exact first
  | case3 => trivial
  | case4 => exact ⟨trivial, later.2⟩
  | case5 => exact ⟨first, later⟩

theorem append (first : a.Uses look group) (later : b.Uses look group) :
    (a.append b).Uses look group := by
  fun_induction Regex.append a b with
  | case1 b a rest ih => exact first.1.cons (ih first.2 later)
  | case2 a b => exact first.cons later

theorem factors (uses : a.Uses look group) : ∀ b ∈ a.factors, b.Uses look group := by
  fun_induction Regex.factors a with
  | case1 => nofun
  | case2 a rest ih => exact List.forall_mem_cons.mpr ⟨uses.1, ih uses.2⟩
  | case3 => exact List.forall_mem_singleton.mpr uses

theorem branches (uses : a.Uses look group) : ∀ b ∈ a.branches, b.Uses look group := by
  fun_induction Regex.branches a with
  | case1 a rest ih => exact List.forall_mem_cons.mpr ⟨uses.1, ih uses.2⟩
  | case2 => exact List.forall_mem_singleton.mpr uses

theorem mono {look' : Look → Prop} {group' : Text → Regex → Prop}
    (looks : ∀ assertion, look assertion → look' assertion)
    (groups : ∀ key body, group key body → group' key body) (uses : a.Uses look group) :
    a.Uses look' group' := by
  induction a with
  | empty | literal | char => trivial
  | look assertion => exact looks assertion uses
  | seq a b ihA ihB | alt a b ihA ihB => exact ⟨ihA uses.1, ihB uses.2⟩
  | repeated _ _ _ a ih => exact ih uses
  | group key a ih =>
    cases key with
    | none => exact ih uses
    | some key => exact ⟨groups key a uses.1, ih uses.2⟩

theorem kept (look : Look → Prop) (group : Text → Regex → Prop) :
    Kept (Regex.Uses look group) where
  empty := trivial
  never := trivial
  joined _ _ := ofSet_induction (fun _ => trivial) (fun _ _ => trivial) _ _
  literal _ _ := trivial
  char _ _ := trivial
  alt first other := ⟨first, other⟩
  repeated _ _ _ uses := uses
  append := append
  factors := factors
  branches := branches

end Uses

namespace Ast

-- The same of a pattern, as far as names go.
def Uses (assertion : AssertionAst → Prop) (name : Text → Prop) : Ast → Prop
  | empty | flags _ | literal _ | dot | «class» _ => True
  | .assertion kind => assertion kind
  | repetition a _ _ _ | group _ a => a.Uses assertion name
  | capture none a => a.Uses assertion name
  | capture (some key) a => name key ∧ a.Uses assertion name
  | concat a b | alternation a b => a.Uses assertion name ∧ b.Uses assertion name

variable {assertion : AssertionAst → Prop} {name : Text → Prop}

-- Openings with these names only.
def Names (name : Text → Prop) (opening : Opening) : Prop :=
  ∀ key, opening = .capture (some key) → name key

theorem Uses.grows : Grows (Names name) (Uses assertion name) where
  empty := trivial
  flags _ := trivial
  repetition _ _ _ uses := uses
  capture {key _} known uses := by
    cases key with
    | none => exact uses
    | some key => exact ⟨known key rfl, uses⟩
  group _ uses := uses
  concat first later := ⟨first, later⟩
  alternation first other := ⟨first, other⟩

-- What a pattern uses decides about all that it offers, under the flags that hold there.
theorem Uses.offered {good : Regex → Prop} {ast : Ast} (kept : Kept good)
    (uses : ast.Uses assertion name)
    (looks : ∀ kind flags, assertion kind → good (.look (AssertionAst.look flags kind)))
    (plain : ∀ body, good body → good (.group none body))
    (groups : ∀ key body, name key → good body → good (.group (some key) body))
    {flags flags' : Flags} {offered : List Regex}
    (found : ast.branches? flags = some (offered, flags')) : ∀ b ∈ offered, good b := by
  induction ast generalizing flags flags' offered with
  | empty | flags =>
    cases found
    exact List.forall_mem_singleton.mpr kept.empty
  | literal l =>
    obtain ⟨r, letter, same⟩ := Option.bind_eq_some_iff.mp found
    cases same
    refine List.forall_mem_singleton.mpr ?_
    unfold letter? at letter
    split at letter
    · cases letter
    · split at letter
      · cases letter
        exact kept.ofVariants _ _
      · cases letter
        exact kept.literal _ _
  | dot =>
    obtain ⟨set, _, same⟩ := Option.bind_eq_some_iff.mp found
    cases same
    exact List.forall_mem_singleton.mpr (kept.char _ _)
  | assertion kind =>
    cases found
    exact List.forall_mem_singleton.mpr (looks kind flags uses)
  | «class» set =>
    obtain ⟨set, _, same⟩ := Option.bind_eq_some_iff.mp found
    cases same
    exact List.forall_mem_singleton.mpr (kept.ofSet _ _)
  | repetition a low high greedy ih =>
    obtain ⟨⟨body, after⟩, inside, same⟩ := Option.bind_eq_some_iff.mp found
    cases same
    exact List.forall_mem_singleton.mpr (kept.between _ _ _ (kept.alternation (ih uses inside)))
  | capture key a ih =>
    obtain ⟨⟨body, after⟩, inside, same⟩ := Option.bind_eq_some_iff.mp found
    cases same
    refine List.forall_mem_singleton.mpr ?_
    cases key with
    | none => exact plain _ (kept.alternation (ih uses inside))
    | some key => exact groups key _ uses.1 (kept.alternation (ih uses.2 inside))
  | group change a ih =>
    obtain ⟨⟨body, after⟩, inside, same⟩ := Option.bind_eq_some_iff.mp found
    cases same
    exact List.forall_mem_singleton.mpr (kept.alternation (ih uses inside))
  | concat a b ihA ihB =>
    obtain ⟨⟨first, middle⟩, here, rest⟩ := Option.bind_eq_some_iff.mp found
    obtain ⟨⟨second, after⟩, there, same⟩ := Option.bind_eq_some_iff.mp rest
    cases same
    exact List.forall_mem_singleton.mpr (kept.append (kept.alternation (ihA uses.1 here))
      (kept.alternation (ihB uses.2 there)))
  | alternation a b ihA ihB =>
    obtain ⟨⟨first, middle⟩, here, rest⟩ := Option.bind_eq_some_iff.mp found
    obtain ⟨⟨second, after⟩, there, same⟩ := Option.bind_eq_some_iff.mp rest
    cases same
    intro b member
    exact (List.mem_append.mp member).elim (ihA uses.1 here b) (ihB uses.2 there b)

theorem Uses.branches? {look : Look → Prop} {group : Text → Regex → Prop} {ast : Ast}
    (uses : ast.Uses assertion name)
    (looks : ∀ kind flags, assertion kind → look (AssertionAst.look flags kind))
    (groups : ∀ key body, name key → group key body) {flags flags' : Flags}
    {offered : List Regex} (found : ast.branches? flags = some (offered, flags')) :
    ∀ b ∈ offered, b.Uses look group :=
  uses.offered (Regex.Uses.kept look group) looks (fun _ => id)
    (fun key body known inside => ⟨groups key body known, inside⟩) found

theorem uses_all (ast : Ast) : ast.Uses (fun _ => True) fun _ => True := by
  induction ast with
  | empty | flags | literal | dot | assertion | «class» => trivial
  | repetition _ _ _ _ ih | group _ _ ih => exact ih
  | capture key _ ih =>
    cases key with
    | none => exact ih
    | some key => exact ⟨trivial, ih⟩
  | concat _ _ ihA ihB | alternation _ _ ihA ihB => exact ⟨ihA, ihB⟩

end Ast

namespace Reader

variable {inner next final : Reader} {s left later : Text} {token : Token} {name : Text → Prop}

theorem mem_names_of_open {key : Text} (opened : inner.open? (.capture (some key)) = some next) :
    key ∈ next.names := by
  simp only [Reader.open?] at opened
  split at opened
  · cases opened
  · cases opened
    exact List.mem_cons_self

theorem uses_of_token {free : Bool} {c : Char} (read : tokenFrom? free c s = some (token, later))
    (applied : inner.advance? token = some next) (known : ∀ key ∈ next.names, name key) :
    token.Fits (Ast.Names name) (Ast.Uses (fun _ => True) name) := by
  cases token with
  | opening found =>
    rintro key rfl
    exact known key (mem_names_of_open applied)
  | part ast =>
    cases made_of_token read with
    | @escape atom => cases atom <;> trivial
    | set | dot | assertion | literal => trivial
  | closing | bar | quantifier => trivial

theorem Reads.named (reads : Reads inner s final left) (known : ∀ key ∈ final.names, name key)
    (inside : inner.Fits (Ast.Names name) (Ast.Uses (fun _ => True) name)) :
    final.Fits (Ast.Names name) (Ast.Uses (fun _ => True) name) := by
  induction reads with
  | ended => exact inside
  | token _ read applied onward ih =>
    have fresh := fun key member => known key (onward.names_subset member)
    exact ih known (inside.advance Ast.Uses.grows (uses_of_token read applied fresh) applied)

end Reader

theorem Stands.uses {piece : Text} {names : List Text} {ast : Ast}
    (stands : Stands piece names ast) : ast.Uses (fun _ => True) (· ∈ names) := by
  obtain ⟨final, left, reads, _, rfl, rfl, _⟩ := stands
  exact (reads.named (fun key member => List.mem_reverse.mpr member)
    Reader.fits_start).body Ast.Uses.grows

end RouteTable.Regex
