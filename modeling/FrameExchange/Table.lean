/-!
# Tables

Finite maps as lists of pairs, in the order in which their keys came.

- `Table.get?`, `Table.insert`, `Table.erase` — look up, set and remove one key.
- `get?_insert`, `get?_erase`, `get?_adjust` — what a change to one key does to every key.
- `mem_entries` — what is found is an entry.
-/

namespace FrameExchange

/-- A finite map from `κ` to `α`. Of two entries with one key the first counts. -/
structure Table (κ α : Type) where
  entries : List (κ × α)
  deriving Repr

namespace Table

variable {κ α : Type} [DecidableEq κ]

/-- No entries. -/
def empty : Table κ α := ⟨[]⟩

instance : EmptyCollection (Table κ α) := ⟨empty⟩

instance : Inhabited (Table κ α) := ⟨empty⟩

/-- The value in the first entry of the list with this key. -/
def find? (k : κ) : List (κ × α) → Option α
  | [] => none
  | (key, value) :: rest => if key = k then some value else find? k rest

/-- The list with the value of `k` replaced, or with a new entry at its end. -/
def put (k : κ) (v : α) : List (κ × α) → List (κ × α)
  | [] => [(k, v)]
  | (key, value) :: rest => if key = k then (k, v) :: rest else (key, value) :: put k v rest

/-- The value of a key. -/
def get? (t : Table κ α) (k : κ) : Option α := find? k t.entries

/-- The table with `v` as the value of `k`. -/
def insert (t : Table κ α) (k : κ) (v : α) : Table κ α := ⟨put k v t.entries⟩

/-- The table without `k`. -/
def erase (t : Table κ α) (k : κ) : Table κ α := ⟨t.entries.filter fun entry => entry.1 ≠ k⟩

/-- The table with the value of `k`, if it has one, replaced by its image under `f`. -/
def adjust (t : Table κ α) (k : κ) (f : α → α) : Table κ α :=
  match t.get? k with
  | some v => t.insert k (f v)
  | none => t

theorem find?_put (k j : κ) (v : α) (l : List (κ × α)) :
    find? j (put k v l) = if k = j then some v else find? j l := by
  induction l with
  | nil => simp [put, find?]
  | cons entry rest ih => grind [put, find?]

theorem find?_filter_ne (k j : κ) (l : List (κ × α)) :
    find? j (l.filter fun entry => entry.1 ≠ k) = if k = j then none else find? j l := by
  induction l with
  | nil => simp [find?]
  | cons entry rest ih => grind [find?]

/-- Setting one key leaves the others. -/
theorem get?_insert (t : Table κ α) (k j : κ) (v : α) :
    (t.insert k v).get? j = if k = j then some v else t.get? j :=
  find?_put k j v t.entries

/-- Removing one key leaves the others. -/
theorem get?_erase (t : Table κ α) (k j : κ) :
    (t.erase k).get? j = if k = j then none else t.get? j :=
  find?_filter_ne k j t.entries

/-- Adjusting one key leaves the others. -/
theorem get?_adjust (t : Table κ α) (k j : κ) (f : α → α) :
    (t.adjust k f).get? j = if k = j then (t.get? k).map f else t.get? j := by
  cases h : t.get? k with
  | none =>
    rw [adjust, h]
    by_cases hkey : k = j
    · subst hkey
      rw [if_pos rfl, h, Option.map_none]
    · rw [if_neg hkey]
  | some v => rw [adjust, h, get?_insert, Option.map_some]

/-- Whatever is found under a key is an entry. -/
theorem mem_entries {t : Table κ α} {k : κ} {v : α} (h : t.get? k = some v) :
    (k, v) ∈ t.entries := by
  obtain ⟨entries⟩ := t
  replace h : find? k entries = some v := h
  induction entries with
  | nil => cases h
  | cons entry rest ih =>
    rw [find?] at h
    split at h
    · next heq =>
      cases h
      subst heq
      exact List.mem_cons_self
    · exact List.mem_cons_of_mem _ (ih h)

@[simp] theorem get?_empty (k : κ) : (empty : Table κ α).get? k = none := rfl

end Table

end FrameExchange
