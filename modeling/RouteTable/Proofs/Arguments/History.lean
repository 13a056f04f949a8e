import Mathlib.Data.List.Induction
import RouteTable.Proofs.Arguments

namespace RouteTable.Arguments

-- A map that is laid over another one came about by operations of its own.
inductive Operation where
  | insert (name value : Text)
  | unset (name : Text)
  | set (name : Text) (value : Option Text)
  | erase (name : Text)
  | overlay (operations : List Operation)
  | collect (pairs : List (Text × Text))

mutual

def Operation.apply : Operation → Arguments → Arguments
  | .insert name value, args => args.insert name value
  | .unset name, args => args.unset name
  | .set name value, args => args.set name value
  | .erase name, args => args.erase name
  | .overlay operations, args => args.overlay (applyAll operations empty)
  | .collect pairs, _ => ofList pairs

def applyAll : List Operation → Arguments → Arguments
  | [], args => args
  | operation :: later, args => applyAll later (operation.apply args)

end

def made (operations : List Operation) : Arguments := applyAll operations empty

inductive Event where
  | wrote (name : Text) (value : Option Text)
  | removed (name : Text)
deriving DecidableEq, Repr

def Event.name : Event → Text
  | .wrote name _ | .removed name => name

-- What an event leaves of its name.
def Event.left : Event → Option (Option Text)
  | .wrote _ value => some value
  | .removed _ => none

def writes (entries : List (Text × Option Text)) : List Event :=
  entries.map fun (name, value) => .wrote name value

-- The log goes on with every operation. A map that is collected is a new one.
def Operation.record (log : List Event) : Operation → List Event
  | .insert name value => log ++ [.wrote name (some value)]
  | .unset name => log ++ [.wrote name none]
  | .set name value => log ++ [.wrote name value]
  | .erase name => log ++ [.removed name]
  | .overlay operations => log ++ writes (made operations).entries
  | .collect pairs => writes (pairs.map fun (name, value) => (name, some value))

def logOf (operations : List Operation) : List Event := operations.foldl Operation.record []

-- The last event of a name decides.
def latest (log : List Event) (name : Text) : Option (Option Text) :=
  (log.reverse.find? (·.name == name)).bind Event.left

-- The names of the writes that no removal follows, from the first write to the last.
def standing : List Event → List Text
  | [] => []
  | .wrote name _ :: later =>
    if .removed name ∈ later then standing later else name :: standing later
  | .removed _ :: later => standing later

-- A map as its log has it: names in the order of their first write since they were last removed.
structure Records (log : List Event) (args : Arguments) : Prop where
  distinct : args.names.Nodup
  order : args.names = (standing log).eraseDups
  lookups : ∀ name, args.lookup name = latest log name
  listed : ∀ entry ∈ args.entries, args.lookup entry.1 = some entry.2

section

variable {names others : List Text} {name : Text}

theorem nodup_eraseDups (names : List Text) : names.eraseDups.Nodup := by
  induction names using List.reverseRecOn with
  | nil => exact List.nodup_nil
  | append_singleton names name ih =>
    have kept : (if name ∈ names.eraseDups then names.eraseDups
        else names.eraseDups ++ [name]).Nodup := nodup_addNew ih
    rw [eraseDups_concat]
    simpa only [List.mem_eraseDups] using kept

theorem eraseDups_of_nodup (distinct : names.Nodup) : names.eraseDups = names := by
  induction names using List.reverseRecOn with
  | nil => rfl
  | append_singleton names name ih =>
    obtain ⟨earlier, _, apart⟩ := List.nodup_append.mp distinct
    have fresh : name ∉ names := fun known => apart name known name List.mem_cons_self rfl
    rw [eraseDups_concat, if_neg fresh, ih earlier]

theorem eraseDups_filter (keep : Text → Bool) (names : List Text) :
    (names.filter keep).eraseDups = names.eraseDups.filter keep := by
  induction names using List.reverseRecOn with
  | nil => rfl
  | append_singleton names name ih =>
    cases kept : keep name with
    | false =>
      have gone : [name].filter keep = [] := List.filter_cons_of_neg (by simp [kept])
      rw [List.filter_append, gone, List.append_nil, eraseDups_concat]
      split <;> simp [ih, kept]
    | true =>
      have stays : [name].filter keep = [name] := List.filter_cons_of_pos kept
      rw [List.filter_append, stays, eraseDups_concat, eraseDups_concat]
      simp only [List.mem_filter, kept, and_true]
      split <;> simp [ih, kept]

theorem eraseDups_append_known (known : ∀ name ∈ others, name ∈ names) :
    (names ++ others).eraseDups = names.eraseDups := by
  have nothing : others.removeAll names = [] :=
    List.filter_eq_nil_iff.mpr fun name member => by simpa using known name member
  rw [List.eraseDups_append, nothing]
  exact List.append_nil _

theorem eraseDups_eraseDups_append (names others : List Text) :
    (names.eraseDups ++ others).eraseDups = (names ++ others).eraseDups := by
  have same : others.removeAll names.eraseDups = others.removeAll names := by
    refine List.filter_congr fun name _ => ?_
    rw [List.elem_eq_mem, List.elem_eq_mem, decide_eq_decide.mpr List.mem_eraseDups]
  rw [List.eraseDups_append, List.eraseDups_append, same,
    eraseDups_of_nodup (nodup_eraseDups names)]

theorem eraseDups_append_eraseDups (names others : List Text) :
    (names ++ others.eraseDups).eraseDups = (names ++ others).eraseDups := by
  have same : others.eraseDups.removeAll names = (others.removeAll names).eraseDups :=
    (eraseDups_filter _ others).symm
  rw [List.eraseDups_append, List.eraseDups_append, same,
    eraseDups_of_nodup (nodup_eraseDups _)]

end

variable {log : List Event} {args top : Arguments}

theorem latest_concat (log : List Event) (event : Event) (name : Text) :
    latest (log ++ [event]) name = if name = event.name then event.left else latest log name := by
  unfold latest
  rw [List.reverse_append, List.reverse_singleton, List.singleton_append, List.find?_cons]
  by_cases here : name = event.name
  · subst here
    simp
  · rw [beq_false_of_ne (Ne.symm here), if_neg here]

theorem standing_wrote (log : List Event) (name : Text) (value : Option Text) :
    standing (log ++ [.wrote name value]) = standing log ++ [name] := by
  induction log with
  | nil => simp [standing]
  | cons event later ih =>
    cases event with
    | wrote key _ =>
      simp only [List.cons_append, standing, ih]
      split <;> split <;> simp_all
    | removed => exact ih

theorem standing_removed (log : List Event) (name : Text) :
    standing (log ++ [.removed name]) = (standing log).filter (· != name) := by
  induction log with
  | nil => rfl
  | cons event later ih =>
    cases event with
    | wrote key _ =>
      simp only [List.cons_append, standing, ih, List.mem_append, List.mem_singleton,
        Event.removed.injEq]
      by_cases gone : .removed key ∈ later
      · rw [if_pos gone, if_pos (.inl gone)]
      · by_cases here : key = name
        · rw [if_pos (.inr here), if_neg gone, List.filter_cons_of_neg (by simpa using here)]
        · rw [if_neg (not_or.mpr ⟨gone, here⟩), if_neg gone,
            List.filter_cons_of_pos (by simpa using here)]
    | removed => exact ih

theorem records_empty : Records [] empty := ⟨List.nodup_nil, rfl, fun _ => rfl, nofun⟩

theorem Records.wrote (records : Records log args) (name : Text) (value : Option Text) :
    Records (log ++ [.wrote name value]) (args.set name value) := by
  have distinct : (args.set name value).names.Nodup := nodup_set records.distinct
  refine ⟨distinct, ?_, ?_, fun entry listed => lookup_of_mem distinct listed⟩
  · rw [names_set, standing_wrote, eraseDups_concat, records.order]
    simp only [List.mem_eraseDups]
  · intro other
    rw [lookup_set, latest_concat, records.lookups]
    rfl

theorem Records.removed (records : Records log args) (name : Text) :
    Records (log ++ [.removed name]) (args.erase name) := by
  have order : (args.erase name).names = (standing (log ++ [.removed name])).eraseDups := by
    rw [names_erase, records.distinct.erase_eq_filter, records.order, standing_removed,
      eraseDups_filter]
  have distinct : (args.erase name).names.Nodup := order ▸ nodup_eraseDups _
  refine ⟨distinct, order, ?_, fun entry listed => lookup_of_mem distinct listed⟩
  intro other
  rw [lookup_erase records.distinct, latest_concat, records.lookups]
  rfl

theorem Records.writes (records : Records log args) (entries : List (Text × Option Text)) :
    Records (log ++ writes entries)
      (entries.foldl (fun args (name, value) => args.set name value) args) := by
  induction entries generalizing log args with
  | nil =>
    rw [Arguments.writes, List.map_nil, List.append_nil]
    exact records
  | cons entry later ih =>
    obtain ⟨name, value⟩ := entry
    have onward := ih (records.wrote name value)
    rw [List.append_assoc] at onward
    exact onward

theorem Records.apply (records : Records log args) (operation : Operation) :
    Records (operation.record log) (operation.apply args) := by
  cases operation with
  | insert name value => exact records.wrote name (some value)
  | unset name => exact records.wrote name none
  | set name value => exact records.wrote name value
  | erase name => exact records.removed name
  | overlay operations => exact records.writes (made operations).entries
  | collect pairs =>
    have collected := records_empty.writes (pairs.map fun (name, value) => (name, some value))
    rw [List.foldl_map] at collected
    exact collected

theorem Records.applyAll (records : Records log args) (operations : List Operation) :
    Records (operations.foldl Operation.record log) (applyAll operations args) := by
  induction operations generalizing log args with
  | nil => exact records
  | cons operation later ih => exact ih (records.apply operation)

theorem records_made (operations : List Operation) : Records (logOf operations) (made operations) :=
  records_empty.applyAll operations

theorem names_overlay (distinct : args.names.Nodup) (top : Arguments) :
    (args.overlay top).names = (args.names ++ top.names).eraseDups := by
  have folded : ∀ (entries : List (Text × Option Text)) (args : Arguments), args.names.Nodup →
      (entries.foldl (fun args (name, value) => args.set name value) args).names =
        (args.names ++ entries.map (·.1)).eraseDups := by
    intro entries
    induction entries with
    | nil =>
      intro args distinct
      rw [List.map_nil, List.append_nil, eraseDups_of_nodup distinct]
      rfl
    | cons entry later ih =>
      intro args distinct
      obtain ⟨name, value⟩ := entry
      have added : (args.set name value).names = (args.names ++ [name]).eraseDups := by
        rw [names_set, eraseDups_concat, eraseDups_of_nodup distinct]
      rw [List.foldl_cons, ih _ (nodup_set distinct), added, eraseDups_eraseDups_append,
        List.append_assoc]
      rfl
  exact folded top.entries args distinct

theorem names_overlay_of_nodup (distinct : args.names.Nodup) (distinct' : top.names.Nodup) :
    (args.overlay top).names = args.names ++ top.names.filter (· ∉ args.names) := by
  have fresh : top.names.removeAll args.names = top.names.filter (· ∉ args.names) :=
    List.filter_congr fun name _ => by simp
  rw [names_overlay distinct, List.eraseDups_append, fresh, eraseDups_of_nodup distinct,
    eraseDups_of_nodup (distinct'.filter _)]

theorem nodup_overlay (distinct : args.names.Nodup) (top : Arguments) :
    (args.overlay top).names.Nodup := by
  rw [names_overlay distinct]
  exact nodup_eraseDups _

theorem lookup_overlay (args : Arguments) (distinct : top.names.Nodup) (name : Text) :
    (args.overlay top).lookup name = (top.lookup name).or (args.lookup name) := by
  obtain ⟨entries⟩ := top
  unfold overlay
  simp only
  induction entries generalizing args with
  | nil => rfl
  | cons entry later ih =>
    obtain ⟨key, value⟩ := entry
    obtain ⟨absent, distinctLater⟩ := List.nodup_cons.mp distinct
    rw [List.foldl_cons, ih _ distinctLater, lookup_set]
    simp only [lookup, List.lookup_cons]
    by_cases here : name = key
    · subst here
      simp [lookup_of_not_mem absent]
    · simp [here, beq_false_of_ne here]

structure Overlays (bottom middle top : Arguments) : Prop where
  assoc : (bottom.overlay middle).overlay top = bottom.overlay (middle.overlay top)
  idempotent : bottom.overlay bottom = bottom
  underEmpty : bottom.overlay empty = bottom
  overEmpty : empty.overlay bottom = bottom
  lookup : ∀ name, (bottom.overlay middle).lookup name =
    (middle.lookup name).or (bottom.lookup name)

theorem overlay_assoc {bottom middle : Arguments} (distinct : bottom.names.Nodup)
    (distinct' : middle.names.Nodup) (top : Arguments) (distinctTop : top.names.Nodup) :
    (bottom.overlay middle).overlay top = bottom.overlay (middle.overlay top) := by
  have lower := nodup_overlay distinct middle
  have upper := nodup_overlay distinct' top
  refine eq_of_lookup (nodup_overlay lower top) (nodup_overlay distinct _) ?_ ?_
  · rw [names_overlay lower, names_overlay distinct, names_overlay distinct, names_overlay distinct',
      eraseDups_eraseDups_append, eraseDups_append_eraseDups, List.append_assoc]
  · intro name
    rw [lookup_overlay _ distinctTop, lookup_overlay _ distinct', lookup_overlay _ upper,
      lookup_overlay _ distinctTop, Option.or_assoc]

theorem overlay_self (distinct : args.names.Nodup) : args.overlay args = args := by
  refine eq_of_lookup (nodup_overlay distinct args) distinct ?_ ?_
  · rw [names_overlay distinct, eraseDups_append_known fun _ => id, eraseDups_of_nodup distinct]
  · intro name
    rw [lookup_overlay _ distinct, Option.or_self]

theorem empty_overlay (distinct : args.names.Nodup) : empty.overlay args = args := by
  have none_ : empty.names.Nodup := List.nodup_nil
  refine eq_of_lookup (nodup_overlay none_ args) distinct ?_ ?_
  · rw [names_overlay none_]
    exact eraseDups_of_nodup distinct
  · intro name
    rw [lookup_overlay _ distinct]
    exact Option.or_none

-- Whatever operations made them, maps are what their logs say, and can be laid over one another.
theorem records_and_overlays :
    (∀ operations, Records (logOf operations) (made operations)) ∧
      ∀ bottom middle top, Overlays (made bottom) (made middle) (made top) := by
  refine ⟨records_made, fun bottom middle top => ?_⟩
  have distinct (operations : List Operation) : (made operations).names.Nodup :=
    (records_made operations).distinct
  exact ⟨overlay_assoc (distinct bottom) (distinct middle) _ (distinct top),
    overlay_self (distinct bottom), rfl, empty_overlay (distinct bottom),
    lookup_overlay _ (distinct middle)⟩

end RouteTable.Arguments
