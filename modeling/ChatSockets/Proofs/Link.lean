import ChatSockets.Link

/-!
# What reading and writing do to a pipe

A pipe loses no byte and keeps their order: what is written stands behind what it holds
(`write?_eq_some`), and what is read is the front of it (`read_eq_bytes`). A writer is left with
bytes only once the pipe is full, and a full pipe takes nothing (`write?_of_full`).
-/

namespace ChatSockets.Pipe

/-- At least all bytes of a byte string are the whole of it. -/
theorem extract_of_size_le {b : ByteArray} {n : Nat} (h : b.size ≤ n) : b.extract 0 n = b := by
  apply ByteArray.ext
  rw [ByteArray.data_extract]
  exact Array.extract_eq_self_of_le h

/-- Any bytes are their first ones and those behind them. -/
theorem extract_append_extract (b : ByteArray) (n : Nat) :
    b.extract 0 n ++ b.extract n b.size = b := by
  ext1
  simp

/-- The first of the bytes that are written to a pipe stand behind what it holds, and the others
come back. -/
theorem write?_puts {p p' : Pipe} {b rest : ByteArray} (h : p.write? b = some (rest, p')) :
    ∃ put, put ++ rest = b ∧ p'.held = p.held ++ put := by
  unfold write? at h
  split at h
  · cases h
  · cases h
    exact ⟨_, extract_append_extract b _, rfl⟩

/-- What is written to a pipe stands behind what it holds, and the rest comes back. -/
theorem write?_eq_some {p p' : Pipe} {b rest : ByteArray} (h : p.write? b = some (rest, p')) :
    p.closed = false ∧ p'.closed = false ∧ p'.held ++ rest = p.held ++ b := by
  obtain ⟨put, hput, hheld⟩ := write?_puts h
  have hrest : p'.held ++ rest = p.held ++ b := by rw [hheld, ByteArray.append_assoc, hput]
  unfold write? at h
  split at h
  · cases h
  · next hopen =>
    cases h
    have hopen : p.closed = false := by simpa using hopen
    exact ⟨hopen, hopen, hrest⟩

/-- A pipe is what it holds and whether it is closed. -/
theorem eq_of_held {p p' : Pipe} (hheld : p.held = p'.held) (hclosed : p.closed = p'.closed) :
    p = p' := by
  cases p
  cases p'
  cases hheld
  cases hclosed
  rfl

/-- An open pipe can be written to. -/
theorem exists_write? {p : Pipe} (hopen : p.closed = false) (b : ByteArray) :
    ∃ rest p', p.write? b = some (rest, p') := by
  unfold write?
  rw [if_neg (by simp [hopen])]
  exact ⟨_, _, rfl⟩

/-- Bytes come back from a write exactly if there was no room for them, and then the pipe is full.
-/
theorem size_write? {p p' : Pipe} {b rest : ByteArray} (hp : p.held.size ≤ capacity)
    (h : p.write? b = some (rest, p')) :
    p'.held.size = min capacity (p.held.size + b.size) ∧
      rest.size = p.held.size + b.size - capacity := by
  unfold write? at h
  split at h
  · cases h
  · cases h
    dsimp only
    rw [ByteArray.size_append, ByteArray.size_extract, ByteArray.size_extract]
    omega

/-- A pipe is never filled beyond its capacity. -/
theorem room_write? {p p' : Pipe} {b rest : ByteArray} (hp : p.held.size ≤ capacity)
    (h : p.write? b = some (rest, p')) : p'.held.size ≤ capacity := by
  have := (size_write? hp h).1
  omega

/-- A full pipe takes nothing. -/
theorem write?_of_full {p : Pipe} (hopen : p.closed = false) (hfull : capacity ≤ p.held.size)
    (b : ByteArray) : p.write? b = some (b, p) := by
  have hroom : capacity - p.held.size = 0 := by omega
  unfold write?
  rw [if_neg (by simp [hopen]), hroom]
  have hall : b.extract 0 b.size = b := ByteArray.extract_zero_size
  have hnone : b.extract 0 0 = .empty := ByteArray.extract_same
  dsimp only
  rw [hall, hnone, ByteArray.append_empty]

/-- What fits into an open pipe is all written. -/
theorem write?_of_fits {p : Pipe} {b : ByteArray} (hopen : p.closed = false)
    (hfits : p.held.size + b.size ≤ capacity) :
    p.write? b = some (.empty, { p with held := p.held ++ b }) := by
  have hrest : b.extract (capacity - p.held.size) b.size = .empty :=
    ByteArray.extract_eq_empty_iff.2 (by omega)
  have hall : b.extract 0 (capacity - p.held.size) = b := extract_of_size_le (by omega)
  unfold write?
  rw [if_neg (by simp [hopen])]
  dsimp only
  rw [hrest, hall]

/-- What an open pipe holds is all read, if it is not more than that at a time. -/
theorem read_of_le {p : Pipe} {n : Nat} (hsome : p.held.size ≠ 0) (hle : p.held.size ≤ n) :
    p.read n = (.bytes p.held, { p with held := .empty }) := by
  have hempty : ¬ p.held.isEmpty = true := by simpa [ByteArray.isEmpty] using hsome
  have hall : p.held.extract 0 n = p.held := extract_of_size_le hle
  have hrest : p.held.extract n p.held.size = .empty :=
    ByteArray.extract_eq_empty_iff.2 (by omega)
  unfold read
  rw [if_neg hempty, hall, hrest]

/-- What is read from a pipe is the front of what it holds. -/
theorem read_eq_bytes {p p' : Pipe} {n : Nat} {b : ByteArray} (h : p.read n = (.bytes b, p')) :
    p.held = b ++ p'.held ∧ p'.closed = p.closed := by
  unfold read at h
  split at h
  · split at h <;> cases h
  · cases h
    refine ⟨?_, rfl⟩
    ext1
    simp

/-- A reader that may take some bytes takes at least one, if it takes any. -/
theorem size_of_read {p p' : Pipe} {n : Nat} {b : ByteArray} (hn : 0 < n)
    (h : p.read n = (.bytes b, p')) : 0 < b.size := by
  unfold read at h
  split at h
  · split at h <;> cases h
  · next hsome =>
    cases h
    have hsize : p.held.size ≠ 0 := by simpa [ByteArray.isEmpty] using hsome
    rw [ByteArray.size_extract]
    omega

/-- A reader finds nothing exactly as long as there is nothing to find. -/
theorem read_eq_nothing {p p' : Pipe} {n : Nat} (h : p.read n = (.nothing, p')) :
    p.readable = false ∧ p' = p := by
  unfold read at h
  split at h
  · next hempty =>
    split at h
    · cases h
    · next hopen =>
      cases h
      have hsize : p.held.size = 0 := by simpa [ByteArray.isEmpty] using hempty
      exact ⟨by simp [readable, hsize, hopen], rfl⟩
  · cases h

/-- A reader finds the end of a closed pipe once everything is read. -/
theorem read_eq_ended {p p' : Pipe} {n : Nat} (h : p.read n = (.ended, p')) :
    p.held.size = 0 ∧ p.closed = true ∧ p' = p := by
  unfold read at h
  split at h
  · next hempty =>
    split at h
    · next hclosed =>
      cases h
      exact ⟨by simpa [ByteArray.isEmpty] using hempty, hclosed, rfl⟩
    · cases h
  · cases h

end ChatSockets.Pipe
