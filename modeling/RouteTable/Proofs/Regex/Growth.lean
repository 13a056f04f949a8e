import RouteTable.Proofs.Regex.Token

namespace RouteTable.Regex

-- A property of patterns that the reader keeps, given what its openings are.
structure Grows (opens : Opening → Prop) (good : Ast → Prop) : Prop where
  empty : good .empty
  flags : ∀ {change}, opens (.flags change) → good (.flags change)
  repetition : ∀ {a} low high greedy, good a → good (.repetition a low high greedy)
  capture : ∀ {name a}, opens (.capture name) → good a → good (.capture name a)
  group : ∀ {change a}, opens (.group change) → good a → good (.group change a)
  concat : ∀ {a b}, good a → good b → good (.concat a b)
  alternation : ∀ {a b}, good a → good b → good (.alternation a b)

variable {opens : Opening → Prop} {good : Ast → Prop}

namespace Grows

variable {parts : List Ast}

theorem joined {join : Ast → Ast → Ast} (joins : ∀ {a b}, good a → good b → good (join a b))
    {last : Ast} (final : good last) (each : ∀ part ∈ parts, good part) :
    good (parts.foldl (fun tail part => join part tail) last) := by
  induction parts generalizing last with
  | nil => exact final
  | cons part earlier ih =>
    obtain ⟨here, rest⟩ := List.forall_mem_cons.mp each
    exact ih (joins here final) rest

theorem ofParts (grows : Grows opens good) (each : ∀ part ∈ parts, good part) :
    good (Ast.ofParts parts) := by
  cases parts with
  | nil => exact grows.empty
  | cons last earlier =>
    obtain ⟨final, others⟩ := List.forall_mem_cons.mp each
    exact joined grows.concat final others

theorem ofBranches (grows : Grows opens good) (each : ∀ branch ∈ parts, good branch) :
    good (Ast.ofBranches parts) := by
  cases parts with
  | nil => exact grows.empty
  | cons last earlier =>
    obtain ⟨final, others⟩ := List.forall_mem_cons.mp each
    exact joined grows.alternation final others

end Grows

def Token.Fits (opens : Opening → Prop) (good : Ast → Prop) : Token → Prop
  | .opening found => opens found
  | .part found => good found
  | .closing | .bar | .quantifier _ _ _ => True

namespace Reader

variable {inner next final : Reader} {s left : Text} {token : Token}

-- All that has been read so far is good, in the groups that are open as well.
structure Fits (opens : Opening → Prop) (good : Ast → Prop) (reader : Reader) : Prop where
  parts : ∀ part ∈ reader.parts, good part
  branches : ∀ branch ∈ reader.branches, good branch
  groups : ∀ outer ∈ reader.groups, opens outer.opening ∧ (∀ part ∈ outer.parts, good part) ∧
    ∀ branch ∈ outer.branches, good branch

theorem fits_start : Fits opens good {} := ⟨nofun, nofun, nofun⟩

theorem Fits.body (inside : Fits opens good inner) (grows : Grows opens good) : good inner.body :=
  grows.ofBranches (List.forall_mem_cons.mpr ⟨grows.ofParts inside.parts, inside.branches⟩)

theorem Fits.push {part : Ast} (inside : Fits opens good inner) (here : good part) :
    Fits opens good (inner.push part) :=
  { inside with parts := List.forall_mem_cons.mpr ⟨here, inside.parts⟩ }

theorem Fits.open {opening : Opening} (inside : Fits opens good inner) (grows : Grows opens good)
    (here : opens opening) (opened : inner.open? opening = some next) : Fits opens good next := by
  have entered : ∀ outer ∈ ⟨opening, inner.parts, inner.branches, inner.free⟩ :: inner.groups,
      opens outer.opening ∧ (∀ part ∈ outer.parts, good part) ∧
        ∀ branch ∈ outer.branches, good branch :=
    List.forall_mem_cons.mpr ⟨⟨here, inside.parts, inside.branches⟩, inside.groups⟩
  unfold Reader.open? at opened
  split at opened
  · cases opened
    exact { inside with parts := List.forall_mem_cons.mpr ⟨grows.flags here, inside.parts⟩ }
  · cases opened
    exact ⟨nofun, nofun, entered⟩
  · cases opened
    exact ⟨nofun, nofun, entered⟩
  · split at opened
    · cases opened
    · cases opened
      exact ⟨nofun, nofun, entered⟩

theorem Fits.close (inside : Fits opens good inner) (grows : Grows opens good)
    (closed : inner.close? = some next) : Fits opens good next := by
  unfold Reader.close? at closed
  split at closed
  · cases closed
  · next innermost groups open_ =>
    obtain ⟨⟨here, parts, branches⟩, others⟩ := List.forall_mem_cons.mp (open_ ▸ inside.groups)
    have body := inside.body grows
    cases closed
    refine ⟨List.forall_mem_cons.mpr ⟨?_, parts⟩, branches, others⟩
    split
    · next opening => exact grows.capture (opening ▸ here) body
    · next opening => exact grows.group (opening ▸ here) body
    · next opening => exact grows.flags (opening ▸ here)

theorem Fits.repeat {low : Nat} {high : Option Nat} {greedy : Bool} (inside : Fits opens good inner)
    (grows : Grows opens good) (repeated : inner.repeat? low high greedy = some next) :
    Fits opens good next := by
  unfold Reader.repeat? at repeated
  split at repeated
  · cases repeated
  · next part parts some_ =>
    obtain ⟨here, others⟩ := List.forall_mem_cons.mp (some_ ▸ inside.parts)
    split at repeated
    · cases repeated
      exact { inside with
        parts := List.forall_mem_cons.mpr ⟨grows.repetition low high greedy here, others⟩ }
    · cases repeated

theorem Fits.advance (inside : Fits opens good inner) (grows : Grows opens good)
    (here : token.Fits opens good) (applied : inner.advance? token = some next) :
    Fits opens good next := by
  cases token with
  | opening => exact inside.open grows here applied
  | closing => exact inside.close grows applied
  | quantifier => exact inside.repeat grows applied
  | bar =>
    cases applied
    exact ⟨nofun, List.forall_mem_cons.mpr ⟨grows.ofParts inside.parts, inside.branches⟩,
      inside.groups⟩
  | part =>
    cases applied
    exact inside.push here

-- What every token says, where the text is as stated, is true of all that is read of the text.
theorem Reads.fits (clear : Text → Prop) (grows : Grows opens good)
    (each : ∀ {free s c rest token later}, clear s → skip free s = c :: rest →
      tokenFrom? free c rest = some (token, later) → token.Fits opens good ∧ clear later)
    (reads : Reads inner s final left) (start : clear s) (inside : Fits opens good inner) :
    Fits opens good final := by
  induction reads with
  | ended => exact inside
  | token found read applied _ ih =>
    obtain ⟨here, onward⟩ := each start found read
    exact ih onward (inside.advance grows here applied)

end Reader

theorem good_of_ofText (clear : Text → Prop) {pattern : Text} {ast : Ast}
    (grows : Grows opens good)
    (each : ∀ {free s c rest token later}, clear s → skip free s = c :: rest →
      tokenFrom? free c rest = some (token, later) → token.Fits opens good ∧ clear later)
    (start : clear pattern) (read : Ast.ofText? pattern = some ast) : good ast := by
  obtain ⟨final, left, reads, _, rfl⟩ := Reader.reads_of_read read
  exact (reads.fits clear grows each start Reader.fits_start).body grows

end RouteTable.Regex
