/-!
# Finite tables

`Table κ α` is a finite map from keys to values. Its entries stand in the order in which they were
last put in, and no key stands twice. What the operations do is said through `get?`:
`get?_insert`, `get?_erase`.
-/

namespace ChatSockets

/-- A finite map, as the list of its entries. -/
structure Table (κ α : Type) where
  entries : List (κ × α)
  nodup : (entries.map Prod.fst).Nodup

namespace Table

variable {κ α β : Type}

/-- The table without entries. -/
def empty : Table κ α := ⟨[], List.nodup_nil⟩

instance : EmptyCollection (Table κ α) := ⟨empty⟩

instance : Inhabited (Table κ α) := ⟨empty⟩

/-- The number of entries. -/
def size (t : Table κ α) : Nat := t.entries.length

/-- The keys, in the order of the entries. -/
def keys (t : Table κ α) : List κ := t.entries.map Prod.fst

/-- The values, in the order of the entries. -/
def values (t : Table κ α) : List α := t.entries.map Prod.snd

/-- Every value put through `f`. -/
def map (f : α → β) (t : Table κ α) : Table κ β where
  entries := t.entries.map fun e => (e.1, f e.2)
  nodup := by simpa [Function.comp_def] using t.nodup

variable [DecidableEq κ]

/-- The value at a key. -/
def get? (t : Table κ α) (k : κ) : Option α :=
  (t.entries.find? fun e => e.1 = k).map Prod.snd

/-- Whether a key has a value. -/
def contains (t : Table κ α) (k : κ) : Bool := (t.get? k).isSome

/-- The table without an entry for `k`. -/
def erase (t : Table κ α) (k : κ) : Table κ α where
  entries := t.entries.filter fun e => e.1 ≠ k
  nodup := (List.filter_sublist.map Prod.fst).nodup t.nodup

/-- The table with `v` at `k`, in place of what stood there; the entry becomes the last. -/
def insert (t : Table κ α) (k : κ) (v : α) : Table κ α where
  entries := (t.erase k).entries ++ [(k, v)]
  nodup := by
    rw [List.map_append, List.nodup_append]
    refine ⟨(t.erase k).nodup, by simp, ?_⟩
    intro a ha b hb
    simp only [erase, List.mem_map, List.mem_filter] at ha
    obtain ⟨e, ⟨-, he⟩, rfl⟩ := ha
    simp only [List.map_cons, List.map_nil, List.mem_singleton] at hb
    simpa [hb] using he

/-- The table with the value at `k`, if there is one, put through `f`. -/
def modify (t : Table κ α) (k : κ) (f : α → α) : Table κ α where
  entries := t.entries.map fun e => if e.1 = k then (e.1, f e.2) else e
  nodup := by
    have h : (t.entries.map fun e => if e.1 = k then (e.1, f e.2) else e).map Prod.fst =
        t.entries.map Prod.fst := by
      rw [List.map_map]
      refine List.map_congr_left fun e _ => ?_
      simp only [Function.comp_apply]
      split <;> rfl
    rw [h]
    exact t.nodup

/-- The table of a list of pairs, in which a later pair wins over an earlier one. -/
def ofList (pairs : List (κ × α)) : Table κ α :=
  pairs.foldl (fun t p => t.insert p.1 p.2) empty

@[simp] theorem get?_empty (k : κ) : (empty : Table κ α).get? k = none := rfl

theorem get?_erase (t : Table κ α) (k j : κ) :
    (t.erase k).get? j = if j = k then none else t.get? j := by
  simp only [get?, erase]
  induction t.entries with
  | nil => simp
  | cons e es ih =>
    by_cases hk : e.1 = k
    · rw [List.filter_cons_of_neg (by simpa using hk), ih]
      by_cases hj : j = k
      · simp [hj]
      · have : ¬ e.1 = j := fun h => hj (h.symm.trans hk)
        simp [hj, this]
    · rw [List.filter_cons_of_pos (by simpa using hk)]
      by_cases hj : e.1 = j
      · have : ¬ j = k := fun h => hk (hj.trans h)
        simp [hj, this]
      · rw [List.find?_cons_of_neg (by simpa using hj), List.find?_cons_of_neg (by simpa using hj),
          ih]

theorem get?_insert (t : Table κ α) (k j : κ) (v : α) :
    (t.insert k v).get? j = if j = k then some v else t.get? j := by
  have h : (t.insert k v).get? j = ((t.erase k).get? j).or (if k = j then some v else none) := by
    simp only [get?, insert, List.find?_append]
    cases List.find? (fun e => decide (e.1 = j)) (t.erase k).entries with
    | some e => simp
    | none => by_cases hj : k = j <;> simp [hj]
  rw [h, get?_erase]
  by_cases hj : j = k
  · simp [hj]
  · have : ¬ k = j := fun e => hj e.symm
    simp [hj, this]

@[simp] theorem get?_insert_self (t : Table κ α) (k : κ) (v : α) :
    (t.insert k v).get? k = some v := by simp [get?_insert]

@[simp] theorem get?_erase_self (t : Table κ α) (k : κ) : (t.erase k).get? k = none := by
  simp [get?_erase]

end Table

end ChatSockets
