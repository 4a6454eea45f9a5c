import NicKeeper.Dict

/-!
# Dictionaries within one another

A device has what a spec asks for when the desired entries are among its own. `d ⊆ e` says so, and
`d.missing? e` is the first name that `d` has and `e` has not, which is what errors speak of.
Writing the entries of `d` that `e` lacks puts `d` within `e` (`subset_insertAll`).
-/

namespace NicKeeper.Dict

universe u

variable {α : Type u}

/-- Every entry of the one is an entry of the other. -/
instance : HasSubset (Dict α) :=
  ⟨fun d e => ∀ name value, d.get? name = some value → e.get? name = some value⟩

theorem subset_trans {d e f : Dict α} (h : d ⊆ e) (h' : e ⊆ f) : d ⊆ f :=
  fun name value mem => h' name value (h name value mem)

theorem subset_iff {d e : Dict α} :
    d ⊆ e ↔ ∀ entry ∈ d.entries, e.get? entry.1 = some entry.2 :=
  ⟨fun h entry mem => h entry.1 entry.2 (mem_entries_iff.1 mem),
    fun h name value mem => h (name, value) (mem_entries_iff.2 mem)⟩

theorem contains_of_get? {d : Dict α} {name : String} {value : α} (h : d.get? name = some value) :
    d.contains name = true :=
  contains_eq_true_iff.2 ⟨value, h⟩

theorem mem_names_iff_contains {d : Dict α} {name : String} :
    name ∈ d.names ↔ d.contains name = true := by
  rw [mem_names_iff, contains_eq_true_iff]

theorem contains_insert (d : Dict α) (name other : String) (value : α) :
    (d.insert name value).contains other = (decide (name = other) || d.contains other) := by
  rw [contains, get?_insert]
  split
  · next eq => simp [eq]
  · next ne => simp [ne, contains]

theorem insert_get?_self {d : Dict α} {name : String} {value : α} (h : d.get? name = some value) :
    d.insert name value = d := by
  apply ext_get?
  intro other
  rw [get?_insert]
  split
  · next eq => rw [← eq, h]
  · rfl

theorem insert_insert (d : Dict α) (name : String) (value value' : α) :
    (d.insert name value).insert name value' = d.insert name value' := by
  apply ext_get?
  intro other
  rw [get?_insert, get?_insert, get?_insert]
  split
  · rfl
  · rfl

/-! ## The first name that is missing -/

/-- The first name of `d` that is not one of `e`. -/
def missing? (d e : Dict α) : Option String := d.names.find? fun name => !e.contains name

theorem missing?_eq_none_iff {d e : Dict α} :
    d.missing? e = none ↔ ∀ name, d.contains name = true → e.contains name = true := by
  rw [missing?, List.find?_eq_none]
  constructor
  · intro h name mem
    simpa using h name (mem_names_iff_contains.2 mem)
  · intro h name mem
    simpa using h name (mem_names_iff_contains.1 mem)

/-- The least name of `d` that `e` lacks. -/
structure LeastMissing (d e : Dict α) (name : String) : Prop where
  own : d.contains name = true
  lacking : e.contains name = false
  least : ∀ other, d.contains other = true → e.contains other = false → ¬ other < name

theorem leastMissing_of_missing? {d e : Dict α} {name : String} (h : d.missing? e = some name) :
    d.LeastMissing e name := by
  obtain ⟨lacking, before, after, same, others⟩ := List.find?_eq_some_iff_append.1 h
  have ascending : d.names.Pairwise (· < ·) := List.pairwise_map.2 d.ascending
  have own : name ∈ d.names := List.mem_of_find?_eq_some h
  rw [same, List.pairwise_append, List.pairwise_cons] at ascending
  refine ⟨mem_names_iff_contains.1 own, by simpa using lacking, fun other mem gone lt => ?_⟩
  rw [← mem_names_iff_contains, same, List.mem_append, List.mem_cons] at mem
  rcases mem with earlier | rfl | later
  · have there := others other earlier
    rw [gone] at there
    cases there
  · exact String.lt_irrefl _ lt
  · exact String.lt_asymm lt (ascending.2.1.1 other later)

theorem exists_missing? {d e : Dict α} {name : String} (own : d.contains name = true)
    (lacking : e.contains name = false) : ∃ least, d.missing? e = some least := by
  cases found : d.missing? e with
  | some least => exact ⟨least, rfl⟩
  | none => cases lacking.symm.trans (missing?_eq_none_iff.1 found name own)

/-- What `d` has is not all in `e` if an entry is missing there or is another. -/
theorem not_subset_iff {d e : Dict α} :
    ¬ d ⊆ e ↔ ∃ name value, d.get? name = some value ∧ e.get? name ≠ some value := by
  constructor
  · intro h
    refine Classical.byContradiction fun none => h fun name value own => ?_
    exact Classical.byContradiction fun other => none ⟨name, value, own, other⟩
  · rintro ⟨name, value, own, other⟩ sub
    exact other (sub name value own)

/-! ## Writing entries one after the other -/

theorem insertAll_cons (d : Dict α) (entry : String × α) (entries : List (String × α)) :
    d.insertAll (entry :: entries) = (d.insert entry.1 entry.2).insertAll entries := rfl

/-- The last one of the entries with a name stays. -/
theorem get?_insertAll (d : Dict α) (entries : List (String × α)) (name : String) :
    (d.insertAll entries).get? name =
      ((entries.reverse.find? (·.1 == name)).map Prod.snd).or (d.get? name) := by
  induction entries generalizing d with
  | nil => rfl
  | cons entry rest ih =>
      rw [insertAll_cons, ih, get?_insert, List.reverse_cons, List.find?_append]
      cases rest.reverse.find? (·.1 == name) with
      | some later => rfl
      | none =>
          by_cases own : entry.1 = name
          · simp [own]
          · simp [own]

theorem findRev?_append_cons {before after : List (String × α)} {name : String} {value : α}
    (last : ∀ later ∈ after, later.1 ≠ name) :
    (before ++ (name, value) :: after).reverse.find? (·.1 == name) = some (name, value) := by
  have none : after.reverse.find? (·.1 == name) = none :=
    List.find?_eq_none.2 fun later mem => by simpa using last later (List.mem_reverse.1 mem)
  rw [List.reverse_append, List.reverse_cons, List.append_assoc, List.find?_append, none]
  simp

/-- Where no name comes twice, the last entry with a name is the only one. -/
theorem findRev?_eq_some_iff {entries : List (String × α)} (distinct : (entries.map Prod.fst).Nodup)
    {name : String} {value : α} :
    (entries.reverse.find? (·.1 == name)).map Prod.snd = some value ↔ (name, value) ∈ entries := by
  constructor
  · intro h
    obtain ⟨entry, found, rfl⟩ := Option.map_eq_some_iff.1 h
    have own : entry.1 = name := by simpa using List.find?_some found
    exact own ▸ List.mem_reverse.1 (List.mem_of_find?_eq_some found)
  · intro mem
    obtain ⟨before, after, rfl⟩ := List.append_of_mem mem
    have last : ∀ later ∈ after, later.1 ≠ name := by
      intro later mem same
      rw [List.map_append, List.map_cons, List.nodup_append, List.nodup_cons] at distinct
      exact distinct.2.1.1 (List.mem_map.2 ⟨later, mem, same⟩)
    rw [findRev?_append_cons last]
    rfl

/-- What is written last goes first. -/
theorem get?_ofList_append (first last : List (String × α)) (name : String) :
    (ofList (first ++ last)).get? name =
      ((last.reverse.find? (·.1 == name)).map Prod.snd).or
        ((first.reverse.find? (·.1 == name)).map Prod.snd) := by
  rw [ofList, get?_insertAll, List.reverse_append, List.find?_append, get?_empty, Option.or_none]
  cases last.reverse.find? (·.1 == name) with
  | none => rfl
  | some entry => rfl

theorem contains_ofList_iff {entries : List (String × α)} {name : String} :
    (ofList entries).contains name = true ↔ ∃ value, (name, value) ∈ entries := by
  rw [contains, ofList, get?_insertAll, get?_empty, Option.or_none, Option.isSome_map,
    List.find?_isSome]
  constructor
  · rintro ⟨⟨own, value⟩, mem, same⟩
    obtain rfl : own = name := by simpa using same
    exact ⟨value, List.mem_reverse.1 mem⟩
  · rintro ⟨value, mem⟩
    exact ⟨(name, value), List.mem_reverse.2 mem, beq_self_eq_true _⟩

theorem get?_insertAll_of_notMem {entries : List (String × α)} (d : Dict α) {name : String}
    (h : ∀ entry ∈ entries, entry.1 ≠ name) : (d.insertAll entries).get? name = d.get? name := by
  have none : entries.reverse.find? (·.1 == name) = none :=
    List.find?_eq_none.2 fun entry mem => by simpa using h entry (List.mem_reverse.1 mem)
  rw [get?_insertAll, none]
  rfl

theorem get?_insertAll_of_mem {entries : List (String × α)} (d : Dict α)
    (ascending : entries.Pairwise fun a b => a.1 < b.1) {entry : String × α}
    (mem : entry ∈ entries) : (d.insertAll entries).get? entry.1 = some entry.2 := by
  induction entries generalizing d with
  | nil => cases mem
  | cons first rest ih =>
      rw [List.pairwise_cons] at ascending
      rw [insertAll_cons]
      rcases List.mem_cons.1 mem with rfl | mem
      · have later : ∀ other ∈ rest, other.1 ≠ entry.1 := fun other mem eq =>
          String.lt_irrefl _ (eq ▸ ascending.1 other mem)
        rw [get?_insertAll_of_notMem _ later, get?_insert_self]
      · exact ih _ ascending.2 mem

/-- Names that occur several times do no harm if they come with one value. -/
theorem get?_insertAll_of_same {entries : List (String × α)} (d : Dict α) {value : α}
    (same : ∀ entry ∈ entries, entry.2 = value) {name : String}
    (mem : name ∈ entries.map Prod.fst) : (d.insertAll entries).get? name = some value := by
  obtain ⟨entry, own, rfl⟩ := List.mem_map.1 mem
  cases found : entries.reverse.find? (·.1 == entry.1) with
  | none =>
      have differs := List.find?_eq_none.1 found entry (List.mem_reverse.2 own)
      exact absurd (beq_self_eq_true _) differs
  | some last =>
      rw [get?_insertAll, found, ← same last (List.mem_reverse.1 (List.mem_of_find?_eq_some found))]
      rfl

/-- Writing what is not there yet brings all of `d` about. -/
theorem subset_insertAll {d e : Dict α} {needed : String × α → Bool}
    (spared : ∀ entry ∈ d.entries, needed entry = false → e.get? entry.1 = some entry.2) :
    d ⊆ e.insertAll (d.entries.filter needed) := by
  have ascending := d.ascending.filter needed
  refine subset_iff.2 fun entry mem => ?_
  cases hn : needed entry with
  | true => exact get?_insertAll_of_mem e ascending (List.mem_filter.2 ⟨mem, hn⟩)
  | false =>
      have untouched : ∀ other ∈ d.entries.filter needed, other.1 ≠ entry.1 := by
        intro other written eq
        obtain ⟨mem', needed'⟩ := List.mem_filter.1 written
        have value := mem_entries_iff.1 mem'
        rw [eq, mem_entries_iff.1 mem, Option.some.injEq] at value
        rw [Prod.ext eq value.symm, hn] at needed'
        cases needed'
      rw [get?_insertAll_of_notMem e untouched, spared entry mem hn]

/-- Writing what is not there yet brings all of `d` about and leaves the rest of `e` alone. -/
theorem get?_insertAll_filter {d e : Dict α} {needed : String × α → Bool}
    (spared : ∀ entry ∈ d.entries, needed entry = false → e.get? entry.1 = some entry.2)
    (name : String) :
    (e.insertAll (d.entries.filter needed)).get? name = (d.get? name).or (e.get? name) := by
  cases found : d.get? name with
  | some value => exact subset_insertAll spared name value found
  | none =>
      refine get?_insertAll_of_notMem e fun entry mem eq => ?_
      have own := mem_entries_iff.1 (List.mem_filter.1 mem).1
      rw [eq, found] at own
      cases own

theorem contains_insertAll {d : Dict α} {name : String} (entries : List (String × α))
    (h : d.contains name = true) : (d.insertAll entries).contains name = true := by
  induction entries generalizing d with
  | nil => exact h
  | cons entry rest ih =>
      refine ih ?_
      rw [contains_insert, h, Bool.or_true]

end NicKeeper.Dict
