import RouteTable.Arguments

namespace RouteTable

theorem nodup_addNew {names : List Text} {name : Text} (distinct : names.Nodup) :
    (if name ∈ names then names else names ++ [name]).Nodup := by
  split
  · exact distinct
  · next fresh =>
    refine List.nodup_append.mpr ⟨distinct, by simp, ?_⟩
    intro known listed new isNew same
    obtain rfl := List.mem_singleton.mp isNew
    exact fresh (same ▸ listed)

theorem eraseDups_concat (names : List Text) (name : Text) :
    (names ++ [name]).eraseDups =
      if name ∈ names then names.eraseDups else names.eraseDups ++ [name] := by
  rw [List.eraseDups_append]
  split
  · next known => simp [List.removeAll, known]
  · next new =>
    have unlisted : [name].removeAll names = [name] := by simp [List.removeAll, new]
    rw [unlisted]
    rfl

theorem lookup_of_not_mem {β : Type} {entries : List (Text × β)} {name : Text}
    (absent : name ∉ entries.map (·.1)) : entries.lookup name = none := by
  rw [List.lookup_eq_none_iff]
  intro entry listed
  rw [bne_iff_ne]
  rintro rfl
  exact absent (List.mem_map_of_mem listed)

theorem lookup_iff_mem {β : Type} {entries : List (Text × β)} {name : Text}
    (distinct : (entries.map (·.1)).Nodup) {value : β} :
    entries.lookup name = some value ↔ (name, value) ∈ entries := by
  induction entries with
  | nil => simp
  | cons first rest ih =>
    obtain ⟨key, other⟩ := first
    obtain ⟨absent, distinctRest⟩ := List.nodup_cons.mp distinct
    by_cases here : name = key
    · subst here
      have unlisted : (name, value) ∉ rest := by
        intro member
        exact absent (List.mem_map.mpr ⟨_, member, rfl⟩)
      simp [unlisted, eq_comm]
    · rw [List.lookup_cons, beq_false_of_ne here]
      simp [here, ih distinctRest]

namespace Arguments

variable {args : Arguments} {name other : Text} {value : Option Text}

theorem lookup_setEntry (name other : Text) (value : Option Text)
    (entries : List (Text × Option Text)) :
    (setEntry name value entries).lookup other =
      if other = name then some value else entries.lookup other := by
  induction entries with
  | nil =>
    simp only [setEntry, List.lookup_cons, List.lookup_nil]
    split <;> simp_all
  | cons entry rest ih =>
    obtain ⟨key, old⟩ := entry
    unfold setEntry
    split
    · next same =>
      subst same
      simp only [List.lookup_cons]
      split <;> simp_all
    · next different =>
      simp only [List.lookup_cons, ih]
      split
      · next found =>
        rw [beq_iff_eq] at found
        rw [found, if_neg different]
      · rfl

theorem lookup_set (args : Arguments) (name other : Text) (value : Option Text) :
    (args.set name value).lookup other = if other = name then some value else args.lookup other :=
  lookup_setEntry name other value args.entries

theorem lookup_foldl_set (names : List Text) (value : Text → Option Text) (args : Arguments)
    (other : Text) :
    (names.foldl (fun args name => args.set name (value name)) args).lookup other =
      if other ∈ names then some (value other) else args.lookup other := by
  induction names generalizing args with
  | nil => simp
  | cons name names ih =>
    rw [List.foldl_cons, ih, lookup_set]
    by_cases later : other ∈ names
    · simp [later]
    · by_cases here : other = name
      · simp [here]
      · simp [later, here]

theorem names_setEntry (name : Text) (value : Option Text) (entries : List (Text × Option Text)) :
    (setEntry name value entries).map (·.1) =
      if name ∈ entries.map (·.1) then entries.map (·.1) else entries.map (·.1) ++ [name] := by
  induction entries with
  | nil => rfl
  | cons entry rest ih =>
    obtain ⟨key, old⟩ := entry
    by_cases here : key = name
    · subst here
      simp [setEntry]
    · have elsewhere : name ≠ key := fun same => here same.symm
      simp only [setEntry, if_neg here, List.map_cons, ih, List.mem_cons, elsewhere, false_or]
      split <;> rfl

theorem names_set (args : Arguments) (name : Text) (value : Option Text) :
    (args.set name value).names =
      if name ∈ args.names then args.names else args.names ++ [name] :=
  names_setEntry name value args.entries

theorem nodup_set (distinct : args.names.Nodup) : (args.set name value).names.Nodup := by
  rw [names_set]
  exact nodup_addNew distinct

theorem isSome_lookup (args : Arguments) (name : Text) :
    (args.lookup name).isSome = true ↔ name ∈ args.names := by
  rw [lookup, List.lookup_isSome_iff, names, List.mem_map]
  refine exists_congr fun entry => and_congr_right fun _ => ?_
  rw [beq_iff_eq]
  exact eq_comm

theorem names_erase (args : Arguments) (name : Text) :
    (args.erase name).names = args.names.erase name := by
  rw [List.erase_eq_eraseP', names, names, List.eraseP_map]
  rfl

theorem lookup_erase (distinct : args.names.Nodup) (name other : Text) :
    (args.erase name).lookup other = if other = name then none else args.lookup other := by
  obtain ⟨entries⟩ := args
  unfold erase lookup
  simp only
  induction entries with
  | nil => simp
  | cons entry rest ih =>
    obtain ⟨key, old⟩ := entry
    obtain ⟨absent, distinctRest⟩ := List.nodup_cons.mp distinct
    by_cases here : key = name
    · subst here
      have gone : ((key, old) :: rest).eraseP (·.1 == key) = rest :=
        List.eraseP_cons_of_pos (beq_self_eq_true key)
      rw [gone]
      by_cases same : other = key
      · subst same
        rw [if_pos rfl]
        exact lookup_of_not_mem absent
      · rw [if_neg same, List.lookup_cons, beq_false_of_ne same]
    · rw [List.eraseP_cons_of_neg (by simpa using here), List.lookup_cons, List.lookup_cons,
        ih distinctRest]
      by_cases same : other = key
      · subst same
        simp only [beq_self_eq_true, if_neg here]
      · rw [beq_false_of_ne same]

theorem lookup_of_mem (distinct : args.names.Nodup) {entry : Text × Option Text}
    (listed : entry ∈ args.entries) : args.lookup entry.1 = some entry.2 :=
  (lookup_iff_mem distinct).mpr listed

theorem eq_of_lookup {top : Arguments} (distinct : args.names.Nodup) (distinct' : top.names.Nodup)
    (names : args.names = top.names) (lookups : ∀ name, args.lookup name = top.lookup name) :
    args = top := by
  have spelled {map : Arguments} (distinct : map.names.Nodup) :
      map.entries = map.names.map fun name => (name, (map.lookup name).join) := by
    rw [Arguments.names, List.map_map]
    refine ((List.map_congr_left fun entry listed => ?_).trans (List.map_id _)).symm
    rw [Function.comp_apply, lookup_of_mem distinct listed]
    rfl
  have same : args.entries = top.entries := by
    rw [spelled distinct, spelled distinct', names]
    exact List.map_congr_left fun name _ => by rw [lookups]
  exact congrArg Arguments.mk same

end Arguments

end RouteTable
