import ChatSockets.Proofs.Entries
import ChatSockets.Script.Pending
import Mathlib.Data.Set.Card

/-!
# What becomes of a receiver

An act of a desk tells something to whoever waits under the ids that it hits (`Act.tells?`), and to
nobody else. What an act does to an id and to a receiver is said in two equations (`get?_act`,
`toldTo_act`). By induction over the acts, a receiver is told what the first act after its
registration tells that hits its id, and nothing else (`first_hit_decides`).
-/

namespace ChatSockets.Script.Desk

/-- What a receiver was told. -/
def toldTo (d : Desk) (n : Nat) : List Receipt :=
  (d.told.filter (·.1 = n)).map Prod.snd

/-- What an act tells whoever waits under an id, if it hits the id. -/
def Act.tells? (id : UInt64) : Act → Option Receipt
  | .register id' | .remove id' => if id' = id then some .dropped else none
  | .complete r =>
    if r.id = id then
      some (.outcome (if 200 ≤ r.status ∧ r.status < 300
        then .ok ⟨r.status, r.message, r.headers, r.body⟩
        else .error (.serviceResponse r.status r.message r.body)))
    else none
  | .failAll e => some (.outcome (.error e))
  | .draw | .giveUp _ => none

/-- The id that an act is about. -/
def Act.id? : Act → Option UInt64
  | .register id | .remove id => some id
  | .complete r => some r.id
  | .draw | .giveUp _ | .failAll _ => none

/-- The id under which an act registers a receiver. -/
def Act.registers? : Act → Option UInt64
  | .register id => some id
  | .draw | .giveUp _ | .complete _ | .remove _ | .failAll _ => none

/-- Whether an act drops a receiver. -/
def Act.givesUp (n : Nat) : Act → Bool
  | .giveUp m => m = n
  | .draw | .register _ | .complete _ | .remove _ | .failAll _ => false

/-- What a receiver is told in the acts after its registration: what the first of them tells that
hits its id, unless the receiver is dropped before. -/
def fate (id : UInt64) (n : Nat) : List Act → Option Receipt
  | [] => none
  | a :: later => if a.givesUp n then none else (a.tells? id).or (fate id n later)

/-- After some acts somebody waits under an id: one was registered under it, and no act hit it
since. -/
def Waits (as : List Act) (id : UInt64) : Prop :=
  ∃ before later, as = before ++ .register id :: later ∧ ∀ a ∈ later, a.tells? id = none

/-- Those who wait were registered under the id that they wait under, and none but those who were
registered was told anything or dropped. -/
structure Sound (d : Desk) : Prop where
  owned : ∀ id n, d.pending.receivers.get? id = some n → d.ids[n]? = some id
  told : ∀ x ∈ d.told, x.1 < d.ids.length
  dropped : ∀ n ∈ d.dropped, n < d.ids.length

variable {d : Desk} {id : UInt64} {n : Nat}

theorem acts_append (d : Desk) (as as' : List Act) : d.acts (as ++ as') = (d.acts as).acts as' :=
  List.foldl_append

theorem acts_snoc (d : Desk) (as : List Act) (a : Act) :
    d.acts (as ++ [a]) = ((d.acts as).act a).2 :=
  d.acts_append as [a]

/-! ## One act -/

theorem toldTo_tell (d : Desk) {receivers : List Nat} (hnodup : receivers.Nodup)
    (receipt : Receipt) (n : Nat) : (d.tell receivers receipt).toldTo n =
      d.toldTo n ++ if n ∈ receivers ∧ n ∉ d.dropped then [receipt] else [] := by
  have hmine : ((receivers.filter (· ∉ d.dropped)).map (·, receipt)).filter (·.1 = n) =
      ((receivers.filter (· ∉ d.dropped)).filter (· = n)).map (·, receipt) := by
    rw [List.filter_map]
    rfl
  simp only [toldTo, tell, List.filter_append, List.map_append, hmine]
  congr 1
  have hnodup' := hnodup.filter (· ∉ d.dropped)
  by_cases hmem : n ∈ receivers ∧ n ∉ d.dropped
  · have hone : (receivers.filter (· ∉ d.dropped)).filter (· = n) = [n] := by
      rw [List.filter_eq, hnodup'.count, if_pos (by simpa using hmem)]
      rfl
    rw [hone, if_pos hmem]
    rfl
  · have hnone : (receivers.filter (· ∉ d.dropped)).filter (· = n) = [] := by
      rw [List.filter_eq, hnodup'.count, if_neg (by simpa using hmem)]
      rfl
    rw [hnone, if_neg hmem]
    rfl

/-- A completion, split by whether somebody waits for the response. -/
theorem act_complete (d : Desk) (r : Wire.Response) :
    d.act (.complete r) = match d.pending.receivers.get? r.id with
      | none => (.yes false, { d with pending := (d.pending.complete r).2 })
      | some n => (.yes true, { d with pending := (d.pending.complete r).2 }.tell [n]
          (.outcome (Outcome.ofWire r))) := by
  cases hget : d.pending.receivers.get? r.id <;> simp [act, Pending.complete, hget]

/-- **Who waits under an id** after an act: whoever is registered under it now, and otherwise nobody
if the act hits the id. -/
theorem get?_act (d : Desk) (a : Act) (id : UInt64) :
    (d.act a).2.pending.receivers.get? id =
      if a.registers? = some id then some d.ids.length
      else if (a.tells? id).isSome then none else d.pending.receivers.get? id := by
  cases a with
  | draw => rfl
  | giveUp m =>
    simp only [act]
    split <;> rfl
  | failAll e => rfl
  | register id' =>
    refine (Table.get?_insert ..).trans ?_
    by_cases hid : id = id'
    · simp [Act.registers?, hid]
    · simp [Act.registers?, Act.tells?, hid, Ne.symm hid]
  | remove id' =>
    refine (Table.get?_erase ..).trans ?_
    by_cases hid : id = id'
    · simp [Act.registers?, Act.tells?, hid]
    · simp [Act.registers?, Act.tells?, hid, Ne.symm hid]
  | complete r =>
    have hafter : (d.act (.complete r)).2.pending = (d.pending.complete r).2 := by
      rw [act_complete]
      split <;> rfl
    rw [hafter]
    refine (Table.get?_erase ..).trans ?_
    by_cases hid : id = r.id
    · simp [Act.registers?, Act.tells?, hid]
    · simp [Act.registers?, Act.tells?, hid, Ne.symm hid]

theorem ids_act (d : Desk) (a : Act) : (d.act a).2.ids = d.ids ++ a.registers?.toList := by
  cases a with
  | complete r =>
    rw [act_complete]
    split <;> simp [Act.registers?, tell]
  | giveUp m =>
    simp only [act]
    split <;> simp [Act.registers?]
  | _ => simp [act, Act.registers?, tell]

theorem dropped_act (d : Desk) (a : Act) (n : Nat) :
    n ∈ (d.act a).2.dropped ↔ n ∈ d.dropped ∨ n < d.ids.length ∧ a.givesUp n := by
  cases a with
  | complete r =>
    rw [act_complete]
    split <;> simp [Act.givesUp, tell]
  | giveUp m =>
    simp only [act]
    split <;> rename_i hlt
    · simp only [List.mem_cons, Act.givesUp, decide_eq_true_eq]
      constructor
      · rintro (rfl | hn)
        · exact .inr ⟨hlt, rfl⟩
        · exact .inl hn
      · rintro (hn | ⟨-, rfl⟩)
        · exact .inr hn
        · exact .inl rfl
    · simp only [Act.givesUp, decide_eq_true_eq]
      constructor
      · exact .inl
      · rintro (hn | ⟨hlt', rfl⟩)
        · exact hn
        · exact absurd hlt' hlt
  | _ => simp [act, Act.givesUp, tell]

/-- Those who are told something in an act wait before it. -/
theorem told_act (d : Desk) (a : Act) {x : Nat × Receipt} (hx : x ∈ (d.act a).2.told) :
    x ∈ d.told ∨ ∃ id, d.pending.receivers.get? id = some x.1 := by
  -- whatever is told to receivers that wait
  have htell : ∀ (d' : Desk) (receivers : List Nat) (receipt : Receipt), d'.told = d.told →
      (∀ n ∈ receivers, ∃ id, d.pending.receivers.get? id = some n) →
      x ∈ (d'.tell receivers receipt).told →
      x ∈ d.told ∨ ∃ id, d.pending.receivers.get? id = some x.1 := by
    intro d' receivers receipt htold hwait hmem
    rw [tell, htold] at hmem
    rcases List.mem_append.1 hmem with hmem | hmem
    · exact .inl hmem
    · obtain ⟨n, hn, rfl⟩ := List.mem_map.1 hmem
      exact .inr (hwait n (List.mem_of_mem_filter hn))
  cases a with
  | draw => exact .inl hx
  | giveUp m =>
    simp only [act] at hx
    split at hx <;> exact .inl hx
  | register id | remove id =>
    exact htell _ _ _ rfl (fun n hn => ⟨id, Option.mem_toList.1 hn⟩) hx
  | failAll e =>
    exact htell _ _ _ rfl (fun n hn => (Table.mem_values_iff ..).1 hn) hx
  | complete r =>
    rw [act_complete] at hx
    split at hx
    · exact .inl hx
    · rename_i n hget
      exact htell _ _ _ rfl (fun m hm => ⟨r.id, by rw [List.mem_singleton.1 hm, hget]⟩) hx

namespace Sound

theorem empty : Sound {} where
  owned _ _ h := nomatch h
  told _ h := nomatch h
  dropped _ h := nomatch h

/-- Nobody waits under two ids. -/
theorem unique (hd : d.Sound) {id' : UInt64} (h : d.pending.receivers.get? id = some n)
    (h' : d.pending.receivers.get? id' = some n) : id = id' :=
  Option.some.inj ((hd.owned _ _ h).symm.trans (hd.owned _ _ h'))

/-- No receiver stands twice in the table. -/
theorem nodup_values (hd : d.Sound) : d.pending.receivers.values.Nodup := by
  refine List.Nodup.map_on ?_ (List.Nodup.of_map _ d.pending.receivers.nodup)
  rintro ⟨id, n⟩ he ⟨id', n'⟩ he' rfl
  have hid : id = id' :=
    hd.unique ((Table.get?_eq_some_iff ..).2 he) ((Table.get?_eq_some_iff ..).2 he')
  rw [hid]

theorem act (hd : d.Sound) (a : Act) : (d.act a).2.Sound where
  owned id n h := by
    rw [get?_act] at h
    rw [ids_act]
    split at h
    · rename_i hregisters
      obtain rfl := Option.some.inj h
      simp [hregisters]
    · split at h
      · cases h
      · have howned := hd.owned id n h
        rw [List.getElem?_append_left (List.getElem?_eq_some_iff.1 howned).1, howned]
  told x hx := by
    rw [ids_act, List.length_append]
    rcases told_act d a hx with hx | ⟨id, hget⟩
    · exact Nat.lt_add_right _ (hd.told x hx)
    · exact Nat.lt_add_right _ (List.getElem?_eq_some_iff.1 (hd.owned id x.1 hget)).1
  dropped n hn := by
    rw [ids_act, List.length_append]
    rcases (dropped_act d a n).1 hn with hn | ⟨hlt, -⟩
    · exact Nat.lt_add_right _ (hd.dropped n hn)
    · exact Nat.lt_add_right _ hlt

theorem acts (hd : d.Sound) (as : List Act) : (d.acts as).Sound := by
  induction as generalizing d with
  | nil => exact hd
  | cons a as ih => exact ih (hd.act a)

end Sound

/-- **What a receiver is told** in an act: what the act tells whoever waits under the receiver's id,
if it is the receiver that waits and it was not dropped. -/
theorem toldTo_act (hd : d.Sound) (hn : d.ids[n]? = some id) (a : Act) :
    (d.act a).2.toldTo n = d.toldTo n ++
      if d.pending.receivers.get? id = some n ∧ n ∉ d.dropped then (a.tells? id).toList
      else [] := by
  -- whoever stands under an id in the table is the receiver only under its own
  have hmine : ∀ id', d.pending.receivers.get? id' = some n → id' = id := fun id' h =>
    Option.some.inj ((hd.owned id' n h).symm.trans hn)
  have hone : ∀ id', (d.pending.receivers.get? id').toList.Nodup := fun id' => by
    cases d.pending.receivers.get? id' <;> simp
  cases a with
  | draw => simp [Desk.act, Act.tells?, toldTo]
  | giveUp m =>
    have hsame : (d.act (.giveUp m)).2.toldTo n = d.toldTo n := by
      simp only [Desk.act]
      split <;> rfl
    simp [hsame, Act.tells?]
  | failAll e =>
    refine (toldTo_tell _ hd.nodup_values _ n).trans ?_
    have hvalues : n ∈ d.pending.receivers.values ↔ d.pending.receivers.get? id = some n := by
      rw [Table.mem_values_iff]
      refine ⟨?_, fun h => ⟨id, h⟩⟩
      rintro ⟨id', h⟩
      exact hmine id' h ▸ h
    simp only [hvalues]
    rfl
  | register id' | remove id' =>
    refine (toldTo_tell _ (hone id') _ n).trans ?_
    by_cases hid : id' = id
    · simp [hid, Act.tells?, toldTo]
    · have hnot : ¬ d.pending.receivers.get? id' = some n := fun h => hid (hmine id' h)
      simp [hid, hnot, Act.tells?, toldTo]
  | complete r =>
    have htells : (Act.complete r).tells? id =
        if r.id = id then some (.outcome (Outcome.ofWire r)) else none := by
      simp only [Act.tells?, Outcome.ofWire, Wire.Response.isSuccess, Response.ofWire,
        decide_eq_true_eq]
    rw [act_complete, htells]
    split <;> rename_i hget
    · by_cases hid : r.id = id
      · rw [hid] at hget
        simp [hget, toldTo]
      · simp [hid, toldTo]
    · rename_i m
      refine (toldTo_tell _ (List.nodup_singleton m) _ n).trans ?_
      by_cases hid : r.id = id
      · rw [hid] at hget
        simp [hid, hget, toldTo, eq_comm]
      · have hnot : n ≠ m := fun h => hid (hmine _ (h ▸ hget))
        simp [hid, hnot, toldTo]

/-! ## From its registration on -/

theorem tells?_of_registers? {a : Act} (h : a.registers? = some id) :
    a.tells? id = some .dropped := by
  cases a with
  | register id' =>
    obtain rfl := Option.some.inj h
    exact if_pos rfl
  | _ => cases h

theorem givesUp_of_tells? {a : Act} (h : (a.tells? id).isSome) (n : Nat) : a.givesUp n = false := by
  cases a with
  | giveUp m => cases h
  | _ => rfl

/-- A receiver that does not wait does not come to wait again. -/
theorem get?_act_ne (hlt : n < d.ids.length) (hnot : d.pending.receivers.get? id ≠ some n)
    (a : Act) : (d.act a).2.pending.receivers.get? id ≠ some n := by
  rw [get?_act]
  split
  · exact fun h => Nat.ne_of_gt hlt (Option.some.inj h)
  · split
    · exact (Option.some_ne_none n).symm
    · exact hnot

theorem lt_length_act (hlt : n < d.ids.length) (a : Act) : n < (d.act a).2.ids.length := by
  rw [ids_act, List.length_append]
  exact Nat.lt_add_right _ hlt

theorem get?_acts_ne (hlt : n < d.ids.length) (hnot : d.pending.receivers.get? id ≠ some n)
    (later : List Act) : (d.acts later).pending.receivers.get? id ≠ some n := by
  induction later generalizing d with
  | nil => exact hnot
  | cons a later ih => exact ih (lt_length_act hlt a) (get?_act_ne hlt hnot a)

/-- A receiver that does not wait, or that was dropped, is told nothing more. -/
theorem toldTo_acts_of_not (hd : d.Sound) (hn : d.ids[n]? = some id)
    (hnot : d.pending.receivers.get? id ≠ some n ∨ n ∈ d.dropped) (later : List Act) :
    (d.acts later).toldTo n = d.toldTo n := by
  induction later generalizing d with
  | nil => rfl
  | cons a later ih =>
    have hlt := (List.getElem?_eq_some_iff.1 hn).1
    have hn' : (d.act a).2.ids[n]? = some id := by
      rw [ids_act, List.getElem?_append_left hlt, hn]
    have hnow : (d.act a).2.toldTo n = d.toldTo n := by
      rw [toldTo_act hd hn, if_neg fun h => hnot.elim (· h.1) h.2, List.append_nil]
    refine (ih (hd.act a) hn' ?_).trans hnow
    exact hnot.imp (get?_act_ne hlt · a) fun h => (dropped_act ..).2 (.inl h)

/-- **A receiver that waits** is told what its fate is, and waits for as long as nothing hits its
id. -/
theorem acts_of_waits (hd : d.Sound) (hget : d.pending.receivers.get? id = some n)
    (later : List Act) :
    (n ∉ d.dropped → (d.acts later).toldTo n = d.toldTo n ++ (fate id n later).toList) ∧
      ((d.acts later).pending.receivers.get? id = some n ↔ ∀ a ∈ later, a.tells? id = none) := by
  have hn := hd.owned id n hget
  have hlt := (List.getElem?_eq_some_iff.1 hn).1
  induction later generalizing d with
  | nil => exact ⟨fun _ => (List.append_nil _).symm, by simp [acts, hget]⟩
  | cons a later ih =>
    have hd' := hd.act a
    have hnow : n ∉ d.dropped →
        (d.act a).2.toldTo n = d.toldTo n ++ (a.tells? id).toList := fun hdropped => by
      rw [toldTo_act hd hn, if_pos ⟨hget, hdropped⟩]
    have hn' : (d.act a).2.ids[n]? = some id := by
      rw [ids_act, List.getElem?_append_left hlt, hn]
    cases htells : a.tells? id with
    | some receipt =>
      -- the receiver is told, and neither it nor its id has to do with the other any more
      have hgone : (d.act a).2.pending.receivers.get? id ≠ some n := by
        rw [get?_act, htells]
        split
        · exact fun h => Nat.ne_of_gt hlt (Option.some.inj h)
        · exact (Option.some_ne_none n).symm
      have hkept := givesUp_of_tells? (by rw [htells]; rfl) n (a := a)
      refine ⟨fun hdropped => ?_, ?_⟩
      · refine (toldTo_acts_of_not hd' hn' (.inl hgone) later).trans ?_
        rw [hnow hdropped, htells, fate, hkept, htells]
        rfl
      · refine ⟨fun h => absurd h (get?_acts_ne (lt_length_act hlt a) hgone later), fun h => ?_⟩
        rw [h a List.mem_cons_self] at htells
        cases htells
    | none =>
      have hget' : (d.act a).2.pending.receivers.get? id = some n := by
        rw [get?_act, htells, if_neg, if_neg, hget]
        · exact Bool.false_ne_true
        · intro h
          rw [tells?_of_registers? h] at htells
          cases htells
      obtain ⟨htold, hwaits⟩ := ih hd' hget' hn' (lt_length_act hlt a)
      refine ⟨fun hdropped => ?_, ?_⟩
      · rw [htells, Option.toList_none, List.append_nil] at hnow
        by_cases hgivesUp : a.givesUp n
        · have hdropped' : n ∈ (d.act a).2.dropped :=
            (dropped_act ..).2 (.inr ⟨hlt, hgivesUp⟩)
          refine (toldTo_acts_of_not hd' hn' (.inr hdropped') later).trans ?_
          rw [hnow hdropped, fate, if_pos hgivesUp, Option.toList_none, List.append_nil]
        · have hdropped' : n ∉ (d.act a).2.dropped := fun h =>
            ((dropped_act ..).1 h).elim hdropped fun h => hgivesUp h.2
          refine (htold hdropped').trans ?_
          rw [hnow hdropped, fate, if_neg hgivesUp, htells, Option.none_or]
      · exact hwaits.trans ⟨fun h => List.forall_mem_cons.2 ⟨htells, h⟩,
          fun h => (List.forall_mem_cons.1 h).2⟩

/-- A receiver from its registration on. -/
theorem acts_register (hd : d.Sound) (id : UInt64) (later : List Act) :
    let n := d.ids.length
    (d.acts (.register id :: later)).toldTo n = (fate id n later).toList ∧
      ((d.acts (.register id :: later)).pending.receivers.get? id = some n ↔
        ∀ a ∈ later, a.tells? id = none) := by
  intro n
  have hget : (d.act (.register id)).2.pending.receivers.get? id = some n :=
    (get?_act ..).trans (if_pos rfl)
  have hdropped : n ∉ (d.act (.register id)).2.dropped := by
    rw [dropped_act]
    rintro (h | ⟨hlt, -⟩)
    · exact Nat.lt_irrefl n (hd.dropped n h)
    · exact Nat.lt_irrefl n hlt
  have huntold : (d.act (.register id)).2.toldTo n = [] := by
    refine List.map_eq_nil_iff.2 (List.filter_eq_nil_iff.2 fun x hx => ?_)
    have hlt : x.1 < n := by
      rcases told_act d _ hx with hx | ⟨id', hx⟩
      · exact hd.told x hx
      · exact (List.getElem?_eq_some_iff.1 (hd.owned id' x.1 hx)).1
    simpa using Nat.ne_of_lt hlt
  obtain ⟨htold, hwaits⟩ := acts_of_waits (hd.act (.register id)) hget later
  refine ⟨(htold hdropped).trans ?_, hwaits⟩
  rw [huntold, List.nil_append]

/-! ## Who waits -/

theorem waits_snoc (as : List Act) (a : Act) (id : UInt64) :
    Waits (as ++ [a]) id ↔ a.registers? = some id ∨ a.tells? id = none ∧ Waits as id := by
  constructor
  · rintro ⟨before, later, hsplit, hlater⟩
    rcases List.eq_nil_or_concat later with rfl | ⟨later, a', rfl⟩
    · obtain ⟨-, ha⟩ := List.append_inj' hsplit rfl
      obtain rfl := (List.cons.inj ha).1
      exact .inl rfl
    · rw [List.concat_eq_append] at hsplit hlater
      rw [← List.cons_append, ← List.append_assoc] at hsplit
      obtain ⟨rfl, ha⟩ := List.append_inj' hsplit rfl
      obtain rfl := (List.cons.inj ha).1
      exact .inr ⟨hlater a (by simp),
        before, later, rfl, fun b hb => hlater b (List.mem_append_left _ hb)⟩
  · rintro (hregisters | ⟨htells, before, later, rfl, hlater⟩)
    · cases a with
      | register id' =>
        obtain rfl := Option.some.inj hregisters
        exact ⟨as, [], rfl, nofun⟩
      | _ => cases hregisters
    · refine ⟨before, later ++ [a], by simp, fun b hb => ?_⟩
      rcases List.mem_append.1 hb with hb | hb
      · exact hlater b hb
      · rw [List.mem_singleton.1 hb, htells]

/-- The table has the ids under which somebody waits, and no others. -/
theorem isSome_get?_acts (as : List Act) (id : UInt64) :
    ((({} : Desk).acts as).pending.receivers.get? id).isSome ↔ Waits as id := by
  induction as using List.reverseRecOn with
  | nil =>
    refine ⟨nofun, ?_⟩
    rintro ⟨before, later, hsplit, -⟩
    cases before <;> cases hsplit
  | append_singleton as a ih =>
    rw [acts_snoc, get?_act, waits_snoc, ← ih]
    by_cases hregisters : a.registers? = some id
    · simp [hregisters]
    · cases htells : a.tells? id <;> simp [hregisters]

theorem size_acts (as : List Act) :
    (({} : Desk).acts as).pending.size = {id | Waits as id}.ncard := by
  let t := (({} : Desk).acts as).pending.receivers
  have hset : {id | Waits as id} = (t.keys.toFinset : Set UInt64) := by
    ext id
    rw [Set.mem_ofPred_eq, ← isSome_get?_acts, Option.isSome_iff_exists, ← Table.mem_keys_iff,
      Finset.mem_coe, List.mem_toFinset]
  calc t.size = t.keys.length := (List.length_map _).symm
    _ = t.keys.toFinset.card := (List.toFinset_card_of_nodup t.nodup).symm
    _ = {id | Waits as id}.ncard := by rw [hset, Set.ncard_coe_finset]

/-! ## One id and the others -/

/-- What is done with one id hits no other. -/
theorem tells?_of_id?_ne {a : Act} {id' : UInt64} (ha : a.id? = some id') (hne : id' ≠ id) :
    a.tells? id = none := by
  cases a with
  | register id'' | remove id'' | complete r =>
    obtain rfl := Option.some.inj ha
    exact if_neg hne
  | _ => cases ha

theorem givesUp_of_id? {a : Act} (ha : a.id?.isSome) (n : Nat) : a.givesUp n = false := by
  cases a with
  | giveUp m => cases ha
  | _ => rfl

/-- An act that neither hits the id nor drops the receiver changes nothing for it. -/
theorem fate_insert {a : Act} (htells : a.tells? id = none) (hkept : a.givesUp n = false)
    (later rest : List Act) : fate id n (later ++ a :: rest) = fate id n (later ++ rest) := by
  induction later with
  | nil => simp [fate, htells, hkept]
  | cons b later ih => simp only [List.cons_append, fate, ih]

/-! ## The law -/

/-- **The first act that hits its id decides what a receiver is told.** For all acts before and
after its registration, a receiver is told its fate and nothing else, it is in the table for as long
as nothing hit its id, and what is done with another id in between changes neither. After all acts
`complete` and `remove` answer whether somebody waits under the id, `failAll` answers how many
entries there are, that is, under how many ids somebody waits, and none but registered receivers
were told anything. -/
theorem first_hit_decides :
    (∀ (before later : List Act) (id : UInt64),
      let n := (({} : Desk).acts before).ids.length
      let after := fun later => ({} : Desk).acts (before ++ .register id :: later)
      (after later).toldTo n = (fate id n later).toList ∧
      ((after later).pending.receivers.get? id = some n ↔ ∀ a ∈ later, a.tells? id = none) ∧
      ∀ (a : Act) (id' : UInt64) (rest : List Act), a.id? = some id' → id' ≠ id →
        (after (later ++ a :: rest)).toldTo n = (after (later ++ rest)).toldTo n ∧
        ((after (later ++ a :: rest)).pending.receivers.get? id = some n ↔
          (after (later ++ rest)).pending.receivers.get? id = some n)) ∧
    ∀ as : List Act,
      let d := ({} : Desk).acts as
      (∀ r, ∃ answer, (d.act (.complete r)).1 = .yes answer ∧ (answer ↔ Waits as r.id)) ∧
      (∀ id, ∃ answer, (d.act (.remove id)).1 = .yes answer ∧ (answer ↔ Waits as id)) ∧
      (∀ e, (d.act (.failAll e)).1 = .number d.pending.size) ∧
      d.pending.size = {id | Waits as id}.ncard ∧
      ∀ x ∈ d.told, x.1 < d.ids.length := by
  constructor
  · intro before later id n after
    have hafter : ∀ later, (after later).toldTo n = (fate id n later).toList ∧
        ((after later).pending.receivers.get? id = some n ↔ ∀ a ∈ later, a.tells? id = none) := by
      intro later
      show (Desk.acts {} (before ++ _)).toldTo n = _ ∧ _
      simp only [after, acts_append]
      exact acts_register (Sound.empty.acts before) id later
    refine ⟨(hafter later).1, (hafter later).2, fun a id' rest ha hne => ?_⟩
    have htells := tells?_of_id?_ne ha hne
    have hkept := givesUp_of_id? (by rw [ha]; rfl) n (a := a)
    constructor
    · rw [(hafter _).1, (hafter _).1, fate_insert htells hkept]
    · rw [(hafter _).2, (hafter _).2]
      simp only [List.forall_mem_append, List.forall_mem_cons, htells, true_and]
  · intro as d
    have hcomplete : ∀ r, (d.act (.complete r)).1 =
        .yes (d.pending.receivers.get? r.id).isSome := by
      intro r
      rw [act_complete]
      split <;> rename_i hget <;> rw [hget] <;> rfl
    exact ⟨fun r => ⟨_, hcomplete r, isSome_get?_acts as r.id⟩,
      fun id => ⟨_, rfl, isSome_get?_acts as id⟩,
      fun e => congrArg PendingReply.number (List.length_map _),
      size_acts as, (Sound.empty.acts as).told⟩

/-- Nobody is registered under the id of the first receiver again, but another id is registered,
completed and removed while it waits. The first receiver is told that its request failed with status
404, and the second response under its id finds nobody. -/
theorem first_hit_decides_among_others :
    let lost : Act := .complete { id := 7, status := 404, message := "Not Found" }
    ((Act.remove 8).id? = some 8 ∧ (8 : UInt64) ≠ 7) ∧
      (({} : Desk).acts ([.draw] ++ .register 7 ::
        ([.register 8] ++ .remove 8 :: [lost, lost]))).toldTo 0 =
        [.outcome (.error (.serviceResponse 404 "Not Found" .empty))] := by
  intro lost
  let others : List Act := [.register 8]
  obtain ⟨-, -, hothers⟩ := first_hit_decides.1 [.draw] others 7
  obtain ⟨htold, -⟩ := first_hit_decides.1 [.draw] (others ++ [lost, lost]) 7
  have hfate : fate 7 0 (others ++ [lost, lost]) =
      some (.outcome (.error (.serviceResponse 404 "Not Found" .empty))) := rfl
  have hsame := (hothers (.remove 8) 8 [lost, lost] rfl (by decide)).1
  refine ⟨⟨rfl, by decide⟩, hsame.trans (htold.trans ?_)⟩
  exact congrArg Option.toList hfate

end ChatSockets.Script.Desk
