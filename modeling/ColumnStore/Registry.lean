/-!
# Registries

A finite map from names to entries, kept as a list in strictly ascending order of the names.
Names compare by code point. As each name stands once and the order is fixed, two registries with
the same entries are equal.
-/

namespace ColumnStore

structure Registry (α : Type) where
  entries : List (String × α)
  ascending : entries.Pairwise (·.1 < ·.1)
  deriving DecidableEq

namespace Registry

variable {α : Type}

def empty : Registry α := ⟨[], .nil⟩

def names (r : Registry α) : List String := r.entries.map (·.1)

def find? (r : Registry α) (name : String) : Option α := r.entries.lookup name

def contains (r : Registry α) (name : String) : Bool := (r.find? name).isSome

/-- Puts an entry in its place, in the stead of one of the same name. -/
def insertEntry (name : String) (a : α) : List (String × α) → List (String × α)
  | [] => [(name, a)]
  | entry :: rest =>
    if name < entry.1 then (name, a) :: entry :: rest
    else if entry.1 < name then entry :: insertEntry name a rest
    else (name, a) :: rest

theorem mem_insertEntry {name : String} {a : α} {entry : String × α} {entries : List (String × α)}
    (h : entry ∈ insertEntry name a entries) : entry = (name, a) ∨ entry ∈ entries := by
  induction entries with
  | nil => simpa [insertEntry] using h
  | cons first rest ih =>
    rw [insertEntry] at h
    split at h
    · simpa using h
    · split at h
      · rcases List.mem_cons.mp h with here | later
        · simp [here]
        · rcases ih later with new | old
          · exact .inl new
          · simp [old]
      · rcases List.mem_cons.mp h with here | later
        · exact .inl here
        · simp [later]

theorem ascending_insertEntry {name : String} {a : α} {entries : List (String × α)}
    (h : entries.Pairwise (·.1 < ·.1)) : (insertEntry name a entries).Pairwise (·.1 < ·.1) := by
  induction entries with
  | nil => simp [insertEntry]
  | cons first rest ih =>
    obtain ⟨above, tail⟩ := List.pairwise_cons.mp h
    rw [insertEntry]
    split
    · next below =>
      refine List.pairwise_cons.mpr ⟨fun entry member => ?_, h⟩
      rcases List.mem_cons.mp member with rfl | later
      · exact below
      · exact String.lt_trans below (above entry later)
    · split
      · next beyond =>
        refine List.pairwise_cons.mpr ⟨fun entry member => ?_, ih tail⟩
        rcases mem_insertEntry member with rfl | old
        · exact beyond
        · exact above entry old
      · next notBelow notBeyond =>
        have same : name = first.1 :=
          String.le_antisymm (String.not_lt.mp notBeyond) (String.not_lt.mp notBelow)
        exact List.pairwise_cons.mpr ⟨fun entry member => same ▸ above entry member, tail⟩

def insert (r : Registry α) (name : String) (a : α) : Registry α :=
  ⟨insertEntry name a r.entries, ascending_insertEntry r.ascending⟩

def erase (r : Registry α) (name : String) : Registry α :=
  ⟨r.entries.filter (·.1 != name), r.ascending.filter _⟩

theorem lookup_cons_eq (name other : String) (a : α) (rest : List (String × α)) :
    ((name, a) :: rest).lookup other = if other = name then some a else rest.lookup other := by
  rw [List.lookup_cons]
  by_cases same : other = name
  · simp [same]
  · simp [same, beq_eq_false_iff_ne.mpr same]

theorem lookup_insertEntry (name other : String) (a : α) (entries : List (String × α)) :
    (insertEntry name a entries).lookup other =
      if other = name then some a else entries.lookup other := by
  induction entries with
  | nil => simp [insertEntry, lookup_cons_eq]
  | cons entry rest ih =>
    obtain ⟨key, stored⟩ := entry
    rw [insertEntry]
    split
    · rw [lookup_cons_eq]
    · split
      · next beyond =>
        have apart : key ≠ name := fun same => String.lt_irrefl name (same ▸ beyond)
        by_cases here : other = key <;> simp [lookup_cons_eq, here, apart, ih]
      · next notBelow notBeyond =>
        obtain rfl : name = key :=
          String.le_antisymm (String.not_lt.mp notBeyond) (String.not_lt.mp notBelow)
        by_cases same : other = name <;> simp [lookup_cons_eq, same]

theorem find?_insert (r : Registry α) (name other : String) (a : α) :
    (r.insert name a).find? other = if other = name then some a else r.find? other :=
  lookup_insertEntry name other a r.entries

theorem contains_insert (r : Registry α) (name : String) (a : α) {other : String}
    (h : r.contains other = true) : (r.insert name a).contains other = true := by
  rw [contains, find?_insert]
  by_cases same : other = name
  · simp [same]
  · rw [if_neg same]
    exact h

theorem mem_of_find? {r : Registry α} {name : String} {a : α} (h : r.find? name = some a) :
    (name, a) ∈ r.entries := by
  obtain ⟨before, later, split, _⟩ := List.lookup_eq_some_iff.mp h
  rw [split]
  simp

theorem insertEntry_of_mem {name : String} {a : α} {entries : List (String × α)}
    (ascending : entries.Pairwise (·.1 < ·.1)) (h : (name, a) ∈ entries) :
    insertEntry name a entries = entries := by
  induction entries with
  | nil => cases h
  | cons first rest ih =>
    obtain ⟨above, tail⟩ := List.pairwise_cons.mp ascending
    rw [insertEntry]
    rcases List.mem_cons.mp h with rfl | later
    · rw [if_neg (String.lt_irrefl _), if_neg (String.lt_irrefl _)]
    · have beyond : first.1 < name := above _ later
      rw [if_neg (String.not_lt.mpr (Std.le_of_lt beyond)), if_pos beyond, ih tail later]

theorem find?_of_mem {r : Registry α} {entry : String × α} (h : entry ∈ r.entries) :
    r.find? entry.1 = some entry.2 := by
  have put := lookup_insertEntry entry.1 entry.1 entry.2 r.entries
  rwa [insertEntry_of_mem r.ascending h, if_pos rfl] at put

/-- To put an entry where it stands already changes nothing. -/
theorem insert_of_find? {r : Registry α} {name : String} {a : α} (h : r.find? name = some a) :
    r.insert name a = r := by
  have same := insertEntry_of_mem r.ascending (mem_of_find? h)
  cases r
  simpa [insert] using same

theorem lookup_filter (name other : String) (entries : List (String × α)) :
    (entries.filter (·.1 != name)).lookup other =
      if other = name then none else entries.lookup other := by
  induction entries with
  | nil => simp
  | cons entry rest ih =>
    obtain ⟨key, stored⟩ := entry
    by_cases dropped : key = name
    · rw [List.filter_cons_of_neg (by simp [dropped]), ih, lookup_cons_eq, dropped]
      by_cases same : other = name <;> simp [same]
    · rw [List.filter_cons_of_pos (by simp [dropped]), lookup_cons_eq, lookup_cons_eq, ih]
      by_cases here : other = key <;> simp [here, dropped]

theorem find?_erase (r : Registry α) (name other : String) :
    (r.erase name).find? other = if other = name then none else r.find? other :=
  lookup_filter name other r.entries

end Registry

end ColumnStore
