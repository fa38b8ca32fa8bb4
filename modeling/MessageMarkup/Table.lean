/-!
# Tables

A table gives values to names. It remembers the order in which names were first put in.

## Main definitions

- `Table` — entries with pairwise different names
- `Table.get?`, `Table.put` — look up, and set, the value of a name
- `Table.override` — the entries of one table over those of another
- `Table.filterMap` — every value replaced or dropped

## Main statements

- `Table.get?_put`, `Table.get?_override`, `Table.get?_filterMap` — what each operation does to
  lookups
-/

namespace MessageMarkup

/-- The value of a name in a list of entries. -/
def Table.find? {α : Type} (name : String) : List (String × α) → Option α
  | [] => none
  | e :: es => if e.1 = name then some e.2 else Table.find? name es

/-- A list of entries with the value of a name set, in its old place if it had one. -/
def Table.set {α : Type} (name : String) (value : α) : List (String × α) → List (String × α)
  | [] => [(name, value)]
  | e :: es => if e.1 = name then (name, value) :: es else e :: Table.set name value es

theorem Table.mem_keys_set {α : Type} {name key : String} {value : α}
    {entries : List (String × α)} :
    key ∈ (Table.set name value entries).map Prod.fst ↔
      key = name ∨ key ∈ entries.map Prod.fst := by
  induction entries with
  | nil => simp [Table.set]
  | cons e es ih =>
    by_cases h : e.1 = name
    · simp [Table.set, h]
    · simp only [Table.set, h, if_false, List.map_cons, List.mem_cons, ih]
      grind

/-- Setting a value gives no name a second entry. -/
theorem Table.nodup_set {α : Type} {name : String} {value : α} {entries : List (String × α)}
    (h : (entries.map Prod.fst).Nodup) : ((Table.set name value entries).map Prod.fst).Nodup := by
  induction entries with
  | nil => simp [Table.set]
  | cons e es ih =>
    rw [List.map_cons, List.nodup_cons] at h
    by_cases he : e.1 = name
    · rw [Table.set, if_pos he, List.map_cons, List.nodup_cons]
      exact ⟨he ▸ h.1, h.2⟩
    · rw [Table.set, if_neg he, List.map_cons, List.nodup_cons, Table.mem_keys_set]
      exact ⟨fun hmem => hmem.elim he h.1, ih h.2⟩

/-- Values by name, in the order in which the names were first put in. -/
structure Table (α : Type) where
  entries : List (String × α)
  nodup_names : (entries.map Prod.fst).Nodup

namespace Table

variable {α β : Type}

def empty : Table α :=
  ⟨[], List.nodup_nil⟩

def get? (t : Table α) (name : String) : Option α :=
  find? name t.entries

/-- The table with the value of a name set, in its old place if it had one. -/
def put (t : Table α) (name : String) (value : α) : Table α :=
  ⟨set name value t.entries, nodup_set t.nodup_names⟩

/-- The table with several values set, one after the other. -/
def putAll (t : Table α) (entries : List (String × α)) : Table α :=
  entries.foldl (fun t e => t.put e.1 e.2) t

/-- The table of several entries; of two with one name the later gives the value. -/
def ofList (entries : List (String × α)) : Table α :=
  empty.putAll entries

/-- The entries of one table, and those of another for the names that the first has not. -/
def override (base upper : Table α) : Table α :=
  base.putAll upper.entries

theorem names_filterMap_sublist (f : α → Option β) (entries : List (String × α)) :
    ((entries.filterMap fun e => (f e.2).map (Prod.mk e.1)).map Prod.fst).Sublist
      (entries.map Prod.fst) := by
  induction entries with
  | nil => simp
  | cons e es ih =>
    cases h : f e.2 with
    | none => simpa [h] using ih.cons e.1
    | some b => simpa [h] using ih.cons_cons e.1

/-- The table with every value replaced, or dropped together with its name. -/
def filterMap (f : α → Option β) (t : Table α) : Table β :=
  ⟨t.entries.filterMap fun e => (f e.2).map (Prod.mk e.1),
    (names_filterMap_sublist f t.entries).nodup t.nodup_names⟩

@[simp]
theorem get?_empty (name : String) : (empty : Table α).get? name = none := rfl

theorem find?_set {name key : String} {value : α} {entries : List (String × α)} :
    find? key (set name value entries) = if key = name then some value else find? key entries := by
  induction entries with
  | nil => grind [set, find?]
  | cons e es ih => grind [set, find?]

/-- A value that is set is found under its name, and no other lookup changes. -/
theorem get?_put (t : Table α) (name key : String) (value : α) :
    (t.put name value).get? key = if key = name then some value else t.get? key :=
  find?_set

theorem find?_eq_none_of_notMem {key : String} {entries : List (String × α)}
    (h : key ∉ entries.map Prod.fst) : find? key entries = none := by
  induction entries with
  | nil => rfl
  | cons e es ih => grind [find?]

theorem get?_putAll {t : Table α} {entries : List (String × α)} {key : String}
    (h : (entries.map Prod.fst).Nodup) :
    (t.putAll entries).get? key = (find? key entries).or (t.get? key) := by
  induction entries generalizing t with
  | nil => rfl
  | cons e es ih =>
    rw [List.map_cons, List.nodup_cons] at h
    rw [show t.putAll (e :: es) = (t.put e.1 e.2).putAll es from rfl, ih h.2, get?_put, find?]
    by_cases hk : e.1 = key
    · rw [find?_eq_none_of_notMem (hk ▸ h.1)]
      simp [hk]
    · simp [hk, Ne.symm hk]

/-- A lookup in overridden entries asks those on top first. -/
theorem get?_override (base upper : Table α) (key : String) :
    (base.override upper).get? key = (upper.get? key).or (base.get? key) :=
  get?_putAll upper.nodup_names

theorem find?_filterMap {f : α → Option β} {key : String} {entries : List (String × α)}
    (h : (entries.map Prod.fst).Nodup) :
    find? key (entries.filterMap fun e => (f e.2).map (Prod.mk e.1))
      = (find? key entries).bind f := by
  induction entries with
  | nil => rfl
  | cons e es ih =>
    rw [List.map_cons, List.nodup_cons] at h
    by_cases hk : e.1 = key
    · cases hf : f e.2 with
      | none => simp [find?, hk, hf, ih h.2, find?_eq_none_of_notMem (hk ▸ h.1)]
      | some b => simp [find?, hk, hf]
    · cases hf : f e.2 <;> simp [find?, hk, hf, ih h.2]

theorem get?_filterMap (f : α → Option β) (t : Table α) (key : String) :
    (t.filterMap f).get? key = (t.get? key).bind f :=
  find?_filterMap t.nodup_names

end Table

end MessageMarkup
