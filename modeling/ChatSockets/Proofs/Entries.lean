import ChatSockets.Table
import Mathlib.Data.List.Induction
import Mathlib.Data.List.Nodup

/-!
# Entries of lists and tables

What stands at a place of a list after one place was changed or one entry was added behind the
others; the first entry of a list that has something in view of those before it (`clear_or_first`);
and what the entries of a table have to do with what it maps, for those who walk through the entries
or look whether there are any.
-/

namespace ChatSockets

/-- No entry of a list hits, where it depends on those before it whether one does. -/
def Clear {α : Type} (hits : List α → α → Prop) (l : List α) : Prop :=
  ∀ before x after, l = before ++ x :: after → ¬hits before x

section

variable {α : Type} {hits : List α → α → Prop} {l l' : List α} {x : α}

theorem clear_nil (hits : List α → α → Prop) : Clear hits [] := by
  intro before x after h
  simp at h

theorem Clear.of_append (h : Clear hits (l ++ l')) : Clear hits l := fun before x after heq =>
  h before x (after ++ l') (by rw [heq, List.append_assoc, List.cons_append])

theorem clear_snoc_iff : Clear hits (l ++ [x]) ↔ Clear hits l ∧ ¬hits l x := by
  refine ⟨fun h => ⟨h.of_append, h l x [] rfl⟩, ?_⟩
  rintro ⟨hl, hx⟩ before y after heq
  rcases List.eq_nil_or_concat after with rfl | ⟨after, last, rfl⟩
  · obtain ⟨rfl, hlast⟩ := List.append_inj' heq rfl
    obtain rfl := (List.cons.inj hlast).1
    exact hx
  · rw [List.concat_eq_append, ← List.cons_append, ← List.append_assoc] at heq
    exact hl before y after (List.append_inj' heq rfl).1

theorem clear_cons_iff : Clear hits (x :: l) ↔
    ¬hits [] x ∧ Clear (fun before => hits (x :: before)) l := by
  refine ⟨fun h => ⟨h [] x l rfl, fun before y after heq => ?_⟩, ?_⟩
  · exact h (x :: before) y after (by rw [heq, List.cons_append])
  · rintro ⟨hx, hl⟩ before y after heq
    cases before with
    | nil =>
      obtain ⟨rfl, -⟩ := List.cons.inj heq
      exact hx
    | cons z before =>
      obtain ⟨rfl, hrest⟩ := List.cons.inj heq
      exact hl before y after hrest

/-- **Either no entry hits, or there is a first one that does.** -/
theorem clear_or_first (hits : List α → α → Prop) (l : List α) : Clear hits l ∨
    ∃ before x after, l = before ++ x :: after ∧ Clear hits before ∧ hits before x := by
  induction l using List.reverseRecOn with
  | nil => exact .inl (clear_nil hits)
  | append_singleton l y ih =>
    rcases ih with hclear | ⟨before, x, after, rfl, hfirst⟩
    · by_cases hy : hits l y
      · exact .inr ⟨l, y, [], rfl, hclear, hy⟩
      · exact .inl (clear_snoc_iff.2 ⟨hclear, hy⟩)
    · refine .inr ⟨before, x, after ++ [y], ?_, hfirst⟩
      rw [List.append_assoc, List.cons_append]

end

theorem getElem?_set_cases {α : Type} {l : List α} {i j : Nat} {a b : α}
    (h : (l.set i a)[j]? = some b) : j = i ∧ b = a ∨ j ≠ i ∧ l[j]? = some b := by
  rw [List.getElem?_set] at h
  by_cases hij : i = j
  · rw [if_pos hij] at h
    split at h
    · exact .inl ⟨hij.symm, (Option.some.inj h).symm⟩
    · cases h
  · rw [if_neg hij] at h
    exact .inr ⟨fun h => hij h.symm, h⟩

theorem getElem?_set_of_some {α : Type} {l : List α} {i : Nat} {a b : α} (h : l[i]? = some b) :
    (l.set i a)[i]? = some a := by
  rw [List.getElem?_set, if_pos rfl, if_pos (List.getElem?_eq_some_iff.1 h).1]

theorem getElem?_append_cases {α : Type} {l : List α} {a b : α} {j : Nat}
    (h : (l ++ [a])[j]? = some b) : j = l.length ∧ b = a ∨ l[j]? = some b := by
  by_cases hj : j < l.length
  · rw [List.getElem?_append_left hj] at h
    exact .inr h
  · have hle : l.length ≤ j := Nat.not_lt.1 hj
    rw [List.getElem?_append_right hle] at h
    rcases Nat.eq_or_lt_of_le hle with heq | hlt
    · rw [← heq, Nat.sub_self] at h
      exact .inl ⟨heq.symm, (Option.some.inj h).symm⟩
    · have hpos : ¬ j - l.length = 0 := by omega
      obtain ⟨i, hi⟩ : ∃ i, j - l.length = i + 1 := ⟨j - l.length - 1, by omega⟩
      rw [hi] at h
      cases h

namespace Table

variable {κ α : Type} [DecidableEq κ]

theorem get?_eq_some_iff (t : Table κ α) (k : κ) (v : α) :
    t.get? k = some v ↔ (k, v) ∈ t.entries := by
  constructor
  · intro h
    obtain ⟨e, he, rfl⟩ := Option.map_eq_some_iff.1 h
    have hk : e.1 = k := by simpa using List.find?_some he
    rw [← hk]
    exact List.mem_of_find?_eq_some he
  · intro h
    unfold get?
    cases hfind : t.entries.find? fun e => e.1 = k with
    | none => exact absurd (by simp) (List.find?_eq_none.1 hfind _ h)
    | some e =>
      have hk : e.1 = k := by simpa using List.find?_some hfind
      have he : e = (k, v) :=
        List.inj_on_of_nodup_map t.nodup (List.mem_of_find?_eq_some hfind) h hk
      rw [he]
      rfl

theorem get?_eq_none_iff (t : Table κ α) (k : κ) :
    t.get? k = none ↔ ∀ e ∈ t.entries, e.1 ≠ k := by
  simp [get?, List.find?_eq_none]

/-- Nothing is lost where nothing stands. -/
theorem erase_of_get?_eq_none {t : Table κ α} {k : κ} (h : t.get? k = none) : t.erase k = t := by
  have hentries : (t.erase k).entries = t.entries := by
    refine List.filter_eq_self.2 fun e he => ?_
    simpa using (t.get?_eq_none_iff k).1 h e he
  cases t
  simpa [erase] using hentries

theorem entries_erase_insert (t : Table κ α) (k : κ) (v : α) :
    ((t.insert k v).erase k).entries = (t.erase k).entries := by
  show List.filter _ ((t.erase k).entries ++ [(k, v)]) = _
  rw [List.filter_append, List.filter_cons_of_neg (by simp), List.filter_nil, List.append_nil]
  exact congrArg entries (erase_of_get?_eq_none (t.get?_erase_self k))

theorem mem_keys_iff (t : Table κ α) (k : κ) : k ∈ t.keys ↔ ∃ v, t.get? k = some v := by
  simp only [keys, List.mem_map, get?_eq_some_iff, Prod.exists, exists_and_right, exists_eq_right]

theorem mem_values_iff (t : Table κ α) (v : α) : v ∈ t.values ↔ ∃ k, t.get? k = some v := by
  simp only [values, List.mem_map, get?_eq_some_iff, Prod.exists, exists_eq_right]

/-- One value put in under many keys. -/
theorem get?_foldl_insert (ks : List κ) (v : α) (t : Table κ α) (k : κ) :
    (ks.foldl (fun t k => t.insert k v) t).get? k = if k ∈ ks then some v else t.get? k := by
  induction ks generalizing t with
  | nil => simp
  | cons k' ks ih =>
    rw [List.foldl_cons, ih, get?_insert]
    by_cases hmem : k ∈ ks
    · simp [hmem]
    · by_cases heq : k = k'
      · simp [heq]
      · simp [hmem, heq]

end Table

end ChatSockets
