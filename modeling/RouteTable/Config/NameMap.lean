import RouteTable.Text.Basic

namespace RouteTable

-- Names rise from entry to entry, so each stands once.
def NamesRise (entries : List (Text × Text)) : Prop :=
  entries.Pairwise fun one later => one.1 < later.1

structure NameMap where
  entries : List (Text × Text) := []
  rising : NamesRise entries := by exact List.Pairwise.nil

namespace NameMap

def empty : NameMap := {}

def insertEntry (name value : Text) : List (Text × Text) → List (Text × Text)
  | [] => [(name, value)]
  | (key, old) :: rest =>
    if name = key then (name, value) :: rest
    else if name < key then (name, value) :: (key, old) :: rest
    else (key, old) :: insertEntry name value rest

theorem mem_insertEntry {name value : Text} {entries : List (Text × Text)} {entry : Text × Text}
    (present : entry ∈ insertEntry name value entries) :
    entry = (name, value) ∨ entry ∈ entries := by
  induction entries with
  | nil => simpa [insertEntry] using present
  | cons first rest ih =>
    obtain ⟨key, old⟩ := first
    simp only [insertEntry] at present
    split at present
    · rcases List.mem_cons.mp present with here | later
      · exact .inl here
      · exact .inr (List.mem_cons_of_mem _ later)
    · split at present
      · exact List.mem_cons.mp present
      · rcases List.mem_cons.mp present with here | later
        · exact .inr (here ▸ List.mem_cons_self)
        · exact (ih later).imp id (List.mem_cons_of_mem _)

theorem rising_insertEntry {name value : Text} {entries : List (Text × Text)}
    (rising : NamesRise entries) : NamesRise (insertEntry name value entries) := by
  induction entries with
  | nil => simp [insertEntry, NamesRise]
  | cons first rest ih =>
    obtain ⟨key, old⟩ := first
    obtain ⟨above, risingRest⟩ := List.pairwise_cons.mp rising
    simp only [insertEntry]
    split
    · next same => exact List.pairwise_cons.mpr ⟨by simpa [same] using above, risingRest⟩
    · next different =>
      split
      · next before =>
        refine List.pairwise_cons.mpr ⟨?_, rising⟩
        intro later present
        rcases List.mem_cons.mp present with here | further
        · exact here ▸ before
        · exact List.lt_trans before (above later further)
      · next notBefore =>
        refine List.pairwise_cons.mpr ⟨?_, ih risingRest⟩
        intro later present
        rcases mem_insertEntry present with here | further
        · subst here
          exact Classical.byContradiction fun notAfter =>
            different (List.le_antisymm (List.not_lt.mp notAfter) (List.not_lt.mp notBefore))
        · exact above later further

def insert (texts : NameMap) (name value : Text) : NameMap :=
  ⟨insertEntry name value texts.entries, rising_insertEntry texts.rising⟩

def ofList (pairs : List (Text × Text)) : NameMap :=
  pairs.foldl (fun texts (name, value) => texts.insert name value) empty

end NameMap

end RouteTable
