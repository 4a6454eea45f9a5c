/-!
# Dictionaries in key order

A dictionary holds its entries in strictly ascending order of their names, so there is one
dictionary for each finite map: two that agree on every look-up are equal (`Dict.ext_get?`).
The order is that of code points, which is also the byte order of the names' UTF-8 forms.
-/

namespace NicKeeper

universe u v

/-- A finite map from names to `α`. -/
structure Dict (α : Type u) where
  entries : List (String × α)
  ascending : entries.Pairwise fun a b => a.1 < b.1

namespace Dict

variable {α : Type u} {β : Type v}

instance [DecidableEq α] : DecidableEq (Dict α) := fun a b =>
  if h : a.entries = b.entries then
    .isTrue (by cases a; cases b; cases h; rfl)
  else .isFalse fun eq => h (congrArg entries eq)

def empty : Dict α := ⟨[], .nil⟩

instance : EmptyCollection (Dict α) := ⟨empty⟩
instance : Inhabited (Dict α) := ⟨empty⟩

def find (name : String) : List (String × α) → Option α
  | [] => none
  | entry :: rest => if entry.1 = name then some entry.2 else find name rest

def get? (d : Dict α) (name : String) : Option α := find name d.entries

def contains (d : Dict α) (name : String) : Bool := (d.get? name).isSome

def insertEntry (name : String) (value : α) : List (String × α) → List (String × α)
  | [] => [(name, value)]
  | entry :: rest =>
    if name < entry.1 then (name, value) :: entry :: rest
    else if name = entry.1 then (name, value) :: rest
    else entry :: insertEntry name value rest

theorem fst_of_mem_insertEntry {name : String} {value : α} {entries : List (String × α)}
    {entry : String × α} (h : entry ∈ insertEntry name value entries) :
    entry.1 = name ∨ entry ∈ entries := by
  induction entries with
  | nil => simp_all [insertEntry]
  | cons first rest ih =>
    grind [insertEntry]

theorem lt_of_not_lt_of_ne {a b : String} (not_lt : ¬ a < b) (ne : a ≠ b) : b < a := by
  rcases String.le_total a b with le | le
  · exact absurd (String.le_antisymm le (String.not_lt.1 not_lt)) ne
  · exact String.not_le.1 fun ge => ne (String.le_antisymm ge le)

theorem pairwise_insertEntry (name : String) (value : α) {entries : List (String × α)}
    (h : entries.Pairwise fun a b => a.1 < b.1) :
    (insertEntry name value entries).Pairwise fun a b => a.1 < b.1 := by
  induction entries with
  | nil => simp [insertEntry]
  | cons first rest ih =>
    rw [List.pairwise_cons] at h
    rw [insertEntry]
    split
    · next lt =>
      refine List.pairwise_cons.2 ⟨fun entry mem => ?_, List.pairwise_cons.2 h⟩
      rcases List.mem_cons.1 mem with rfl | mem
      · exact lt
      · exact String.lt_trans lt (h.1 entry mem)
    · next not_lt =>
      split
      · next eq => exact List.pairwise_cons.2 ⟨fun entry mem => eq ▸ h.1 entry mem, h.2⟩
      · next ne =>
        refine List.pairwise_cons.2 ⟨fun entry mem => ?_, ih h.2⟩
        rcases fst_of_mem_insertEntry mem with eq | mem
        · exact eq ▸ lt_of_not_lt_of_ne not_lt ne
        · exact h.1 entry mem

/-- Maps a name to a value, in place of what it was mapped to before. -/
def insert (d : Dict α) (name : String) (value : α) : Dict α :=
  ⟨insertEntry name value d.entries, pairwise_insertEntry name value d.ascending⟩

def filter (keep : String → α → Bool) (d : Dict α) : Dict α :=
  ⟨d.entries.filter fun entry => keep entry.1 entry.2, d.ascending.filter _⟩

def erase (d : Dict α) (name : String) : Dict α :=
  d.filter fun other _ => other ≠ name

def map (f : α → β) (d : Dict α) : Dict β :=
  ⟨d.entries.map fun entry => (entry.1, f entry.2), d.ascending.map _ fun _ _ lt => lt⟩

/-- The names, in ascending order. -/
def names (d : Dict α) : List String := d.entries.map Prod.fst

/-- The values, in ascending order of their names. -/
def values (d : Dict α) : List α := d.entries.map Prod.snd

/-- Enters the pairs one after the other, so that the last one of a name stays. -/
def insertAll (d : Dict α) (entries : List (String × α)) : Dict α :=
  entries.foldl (fun d entry => d.insert entry.1 entry.2) d

def ofList (entries : List (String × α)) : Dict α := empty.insertAll entries

@[simp] theorem get?_empty (name : String) : (empty : Dict α).get? name = none := rfl

theorem find_insertEntry (name other : String) (value : α) (entries : List (String × α)) :
    find other (insertEntry name value entries) =
      if name = other then some value else find other entries := by
  induction entries with
  | nil => simp [insertEntry, find]
  | cons first rest ih => grind [insertEntry, find]

theorem get?_insert (d : Dict α) (name other : String) (value : α) :
    (d.insert name value).get? other = if name = other then some value else d.get? other :=
  find_insertEntry name other value d.entries

@[simp] theorem get?_insert_self (d : Dict α) (name : String) (value : α) :
    (d.insert name value).get? name = some value := by
  simp [get?_insert]

theorem mem_of_find {name : String} {value : α} {entries : List (String × α)}
    (h : find name entries = some value) : (name, value) ∈ entries := by
  induction entries with
  | nil => simp [find] at h
  | cons first rest ih => grind [find]

theorem find_of_mem {name : String} {value : α} {entries : List (String × α)}
    (ascending : entries.Pairwise fun a b => a.1 < b.1) (h : (name, value) ∈ entries) :
    find name entries = some value := by
  induction entries with
  | nil => simp at h
  | cons first rest ih =>
    rw [List.pairwise_cons] at ascending
    rw [find]
    rcases List.mem_cons.1 h with rfl | mem
    · simp
    · have lt := ascending.1 _ mem
      split
      · next eq => exact absurd (eq ▸ lt) (String.lt_irrefl _)
      · exact ih ascending.2 mem

theorem mem_entries_iff {d : Dict α} {name : String} {value : α} :
    (name, value) ∈ d.entries ↔ d.get? name = some value :=
  ⟨find_of_mem d.ascending, mem_of_find⟩

theorem contains_eq_true_iff {d : Dict α} {name : String} :
    d.contains name = true ↔ ∃ value, d.get? name = some value :=
  Option.isSome_iff_exists

theorem mem_names_iff {d : Dict α} {name : String} :
    name ∈ d.names ↔ ∃ value, d.get? name = some value := by
  simp [names, mem_entries_iff]

theorem nodup_names (d : Dict α) : d.names.Nodup := by
  refine List.pairwise_map.2 (d.ascending.imp fun lt same => ?_)
  exact String.lt_irrefl _ (same ▸ lt)

theorem get?_filter (keep : String → α → Bool) (d : Dict α) (name : String) :
    (d.filter keep).get? name = (d.get? name).filter (keep name) := by
  apply Option.ext
  intro value
  rw [← mem_entries_iff, Option.filter_eq_some_iff, ← mem_entries_iff]
  simp [filter, List.mem_filter]

theorem get?_erase (d : Dict α) (name other : String) :
    (d.erase name).get? other = if name = other then none else d.get? other := by
  rw [erase, get?_filter]
  by_cases h : other = name
  · subst h; cases d.get? other <;> simp [Option.filter]
  · cases d.get? other <;> simp [Option.filter, h, Ne.symm h]

theorem entries_eq_of_mem_iff {a b : List (String × α)}
    (ha : a.Pairwise fun x y => x.1 < y.1) (hb : b.Pairwise fun x y => x.1 < y.1)
    (h : ∀ entry, entry ∈ a ↔ entry ∈ b) : a = b := by
  induction a generalizing b with
  | nil =>
    cases b with
    | nil => rfl
    | cons first rest => exact absurd ((h first).2 List.mem_cons_self) List.not_mem_nil
  | cons x xs ih =>
    cases b with
    | nil => exact absurd ((h x).1 List.mem_cons_self) List.not_mem_nil
    | cons y ys =>
      rw [List.pairwise_cons] at ha hb
      have eq : x = y := by
        rcases List.mem_cons.1 ((h x).1 List.mem_cons_self) with eq | memx
        · exact eq
        · rcases List.mem_cons.1 ((h y).2 List.mem_cons_self) with eq | memy
          · exact eq.symm
          · exact absurd (hb.1 x memx) (String.lt_asymm (ha.1 y memy))
      subst eq
      congr 1
      refine ih ha.2 hb.2 fun entry => ⟨fun mem => ?_, fun mem => ?_⟩
      · rcases List.mem_cons.1 ((h entry).1 (List.mem_cons_of_mem _ mem)) with eq | mem'
        · exact absurd (eq ▸ ha.1 entry mem) (String.lt_irrefl _)
        · exact mem'
      · rcases List.mem_cons.1 ((h entry).2 (List.mem_cons_of_mem _ mem)) with eq | mem'
        · exact absurd (eq ▸ hb.1 entry mem) (String.lt_irrefl _)
        · exact mem'

/-- A dictionary is the map it stands for. -/
theorem ext_get? {a b : Dict α} (h : ∀ name, a.get? name = b.get? name) : a = b := by
  obtain ⟨as, ha⟩ := a
  obtain ⟨bs, hb⟩ := b
  have eq : as = bs := entries_eq_of_mem_iff ha hb fun entry => by
    have same : find entry.1 as = find entry.1 bs := h entry.1
    constructor
    · intro mem
      exact mem_of_find (same ▸ find_of_mem ha mem)
    · intro mem
      exact mem_of_find (same.symm ▸ find_of_mem hb mem)
  subst eq
  rfl

end Dict

end NicKeeper
