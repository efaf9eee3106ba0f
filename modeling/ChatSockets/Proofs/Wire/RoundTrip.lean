import ChatSockets.Wire.Frame

/-!
# A message reads back

`Writes field b m m'` says that the bytes `b` are a row of whole fields, and that a reader with the
field reader `field` gets from the message `m` to `m'` by reading them, whatever follows. It holds
of each kind of field that is written, and goes through rows of fields (`Writes.append`) and
messages that lie in others (`nested_of_writes`). The main statement is `Message.decode_encode`.

A length is written as a number below 2^64, so the statements ask that what is written is shorter
than that.
-/

namespace ChatSockets.Wire

/-- The bytes of a byte string. -/
def bytesOf (b : ByteArray) : List UInt8 := b.data.toList

@[simp] theorem bytesOf_empty : bytesOf .empty = [] := rfl

@[simp] theorem bytesOf_append (a b : ByteArray) : bytesOf (a ++ b) = bytesOf a ++ bytesOf b := by
  simp [bytesOf]

@[simp] theorem bytesOf_toByteArray (l : List UInt8) : bytesOf l.toByteArray = l := by
  simp [bytesOf]

@[simp] theorem length_bytesOf (b : ByteArray) : (bytesOf b).length = b.size := rfl

@[simp] theorem toByteArray_bytesOf (b : ByteArray) : (bytesOf b).toByteArray = b := by
  ext1
  simp [bytesOf]

/-! ## Payloads -/

/-- A text reads back from its bytes. -/
theorem fromUTF8?_toUTF8 (s : String) : String.fromUTF8? s.toUTF8 = some s := by
  have hvalid : s.toUTF8.IsValidUTF8 := s.isValidUTF8
  rw [String.fromUTF8?, dif_pos hvalid]
  rfl

/-- The key of a field reads back, for a number that a key can hold. -/
theorem readKey_writeKey {field : Nat} (layout : WireType) (hpos : field ≠ 0)
    (hlt : field < 536870912) (rest : List UInt8) :
    readKey (.ofList (bytesOf (writeKey field layout) ++ rest)) =
      .ok (⟨field, layout⟩, .ofList rest) := by
  have hcode : layout.code < 8 := by cases layout <;> decide
  have hread := Varint.read_write (8 * field + layout.code) rest
    (by simp only [UInt64.size]; omega)
  have hkey : ¬ 8 * field + layout.code ≥ UInt32.size := by simp only [UInt32.size]; omega
  have hmod : (8 * field + layout.code) % 8 = layout.code := by omega
  have hdiv : (8 * field + layout.code) / 8 = field := by omega
  rw [writeKey, bytesOf_toByteArray, readKey, hread]
  simp only [bind, Except.bind, hkey, if_false, hmod, WireType.ofCode?_code, hdiv, hpos]
  rfl

/-- A number of bytes and the bytes read back. -/
theorem readChunk_write (b : ByteArray) (h : b.size < UInt64.size) (rest : List UInt8) :
    readChunk (.ofList (Varint.write b.size ++ (bytesOf b ++ rest))) =
      .ok (bytesOf b, .ofList rest) := by
  rw [readChunk, Varint.read_write _ _ h]
  simp only [bind, Except.bind]
  rw [← length_bytesOf b, Input.take?_ofList_append]
  rfl

theorem readBytes_write (b : ByteArray) (h : b.size < UInt64.size) (rest : List UInt8) :
    readBytes .lengthDelimited (.ofList (Varint.write b.size ++ (bytesOf b ++ rest))) =
      .ok (b, .ofList rest) := by
  rw [readBytes, readChunk_write b h]
  simp only [expect, if_true, bind, Except.bind, toByteArray_bytesOf]
  rfl

theorem readText_write (s : String) (h : s.toUTF8.size < UInt64.size) (rest : List UInt8) :
    readText .lengthDelimited (.ofList (Varint.write s.toUTF8.size ++ (bytesOf s.toUTF8 ++ rest))) =
      .ok (s, .ofList rest) := by
  rw [readText, readBytes_write _ h]
  simp only [bind, Except.bind, fromUTF8?_toUTF8]
  rfl

theorem readNumber_write (n : Nat) (h : n < UInt64.size) (rest : List UInt8) :
    readNumber .varint (.ofList (Varint.write n ++ rest)) = .ok (n, .ofList rest) := by
  rw [readNumber, Varint.read_write n rest h]
  rfl

theorem bare_ok {α : Type} (x : α) : bare (.ok x) = .ok x := rfl

theorem inField_ok {α : Type} (message field : String) (x : α) :
    inField message field (.ok x) = .ok x := rfl

/-! ## Rows of fields -/

/-- The bytes `b` are a row of whole fields that take a reader from `m` to `m'`. They take no more
rounds than they have bytes. -/
def Writes {μ : Type} (field : FieldReader μ) (b : ByteArray) (m m' : μ) : Prop :=
  ∃ k ≤ b.size, ∀ stop rounds rest, stop ≤ rest.length →
    readFields field stop (k + rounds) m (.ofList (bytesOf b ++ rest)) =
      readFields field stop rounds m' (.ofList rest)

namespace Writes

variable {μ : Type} {field : FieldReader μ} {a b : ByteArray} {m m' m'' : μ}

/-- No field changes nothing. -/
theorem empty (field : FieldReader μ) (m : μ) : Writes field .empty m m :=
  ⟨0, Nat.le_refl _, fun stop rounds rest _ => by simp⟩

/-- One row after the other. -/
theorem append (ha : Writes field a m m') (hb : Writes field b m' m'') :
    Writes field (a ++ b) m m'' := by
  obtain ⟨j, hj, ha⟩ := ha
  obtain ⟨k, hk, hb⟩ := hb
  refine ⟨j + k, by rw [ByteArray.size_append]; omega, fun stop rounds rest hstop => ?_⟩
  rw [bytesOf_append, List.append_assoc, Nat.add_assoc, ha _ _ _ (by simp; omega), hb _ _ _ hstop]

/-- One field: its key, and a payload that the field reader takes from `m` to `m'`. -/
theorem single {number : Nat} {layout : WireType} (hpos : number ≠ 0) (hlt : number < 536870912)
    (payload : ByteArray)
    (h : ∀ rest, field ⟨number, layout⟩ m (.ofList (bytesOf payload ++ rest)) =
      .ok (m', .ofList rest)) :
    Writes field (writeKey number layout ++ payload) m m' := by
  have hkey : 0 < (writeKey number layout).size := by
    rw [writeKey, List.size_toByteArray, Varint.write, Varint.groups]
    split <;> simp
  refine ⟨1, by rw [ByteArray.size_append]; omega, fun stop rounds rest hstop => ?_⟩
  have hleft : ¬ (Input.ofList (bytesOf (writeKey number layout ++ payload) ++ rest)).left ≤
      stop := by
    rw [Input.left_ofList, List.length_append, length_bytesOf, ByteArray.size_append]
    omega
  rw [Nat.add_comm 1, readFields, if_neg hleft, bytesOf_append, List.append_assoc,
    readKey_writeKey layout hpos hlt]
  simp only [bare_ok, bind, Except.bind, h]

/-- A field that holds a number. -/
theorem number {n k : Nat} (hpos : n ≠ 0) (hlt : n < 536870912) (hk : k < UInt64.size)
    (h : ∀ i j, readNumber .varint i = .ok (k, j) → field ⟨n, .varint⟩ m i = .ok (m', j)) :
    Writes field (numberField n k) m m' := by
  refine single hpos hlt _ fun rest => h _ _ ?_
  rw [bytesOf_toByteArray]
  exact readNumber_write k hk rest

/-- A field whose payload comes behind its length. -/
theorem delimited {n : Nat} (c : ByteArray) (hpos : n ≠ 0) (hlt : n < 536870912)
    (h : ∀ rest, field ⟨n, .lengthDelimited⟩ m
      (.ofList (Varint.write c.size ++ (bytesOf c ++ rest))) = .ok (m', .ofList rest)) :
    Writes field (bytesField n c) m m' := by
  rw [bytesField, ByteArray.append_assoc]
  refine single hpos hlt _ fun rest => ?_
  rw [bytesOf_append, bytesOf_toByteArray, List.append_assoc]
  exact h rest

/-- A field that holds bytes. -/
theorem bytes {n : Nat} {c : ByteArray} (hpos : n ≠ 0) (hlt : n < 536870912)
    (hc : c.size < UInt64.size)
    (h : ∀ i j, readBytes .lengthDelimited i = .ok (c, j) →
      field ⟨n, .lengthDelimited⟩ m i = .ok (m', j)) :
    Writes field (bytesField n c) m m' :=
  delimited c hpos hlt fun rest => h _ _ (readBytes_write c hc rest)

/-- A field that holds a text. -/
theorem text {n : Nat} {s : String} (hpos : n ≠ 0) (hlt : n < 536870912)
    (hs : s.toUTF8.size < UInt64.size)
    (h : ∀ i j, readText .lengthDelimited i = .ok (s, j) →
      field ⟨n, .lengthDelimited⟩ m i = .ok (m', j)) :
    Writes field (textField n s) m m' :=
  delimited s.toUTF8 hpos hlt fun rest => h _ _ (readText_write s hs rest)

/-- A number that is left out if it is 0. -/
theorem numberUnlessZero {n k : Nat} (h0 : k = 0 → m' = m)
    (h : k ≠ 0 → Writes field (numberField n k) m m') :
    Writes field (numberUnlessZero n k) m m' := by
  by_cases hk : k = 0
  · rw [Wire.numberUnlessZero, if_pos hk, h0 hk]
    exact empty field m
  · rw [Wire.numberUnlessZero, if_neg hk]
    exact h hk

/-- A byte string that is left out if it is empty. -/
theorem bytesUnlessEmpty {n : Nat} {c : ByteArray} (h0 : c = .empty → m' = m)
    (h : Writes field (bytesField n c) m m') : Writes field (bytesUnlessEmpty n c) m m' := by
  rw [Wire.bytesUnlessEmpty]
  split
  · next hempty =>
    have hc : c = .empty :=
      ByteArray.size_eq_zero_iff.1 (by simpa [ByteArray.isEmpty] using hempty)
    rw [h0 hc]
    exact empty field m
  · exact h

/-- A text that is left out if it is empty. -/
theorem textUnlessEmpty {n : Nat} {s : String} (h0 : s = "" → m' = m)
    (h : Writes field (textField n s) m m') : Writes field (textUnlessEmpty n s) m m' := by
  refine bytesUnlessEmpty (fun hs => h0 ?_) h
  have hread := fromUTF8?_toUTF8 s
  rw [hs, ← String.toByteArray_empty, ← String.toUTF8_eq_toByteArray, fromUTF8?_toUTF8 ""] at hread
  exact (Option.some.inj hread).symm

/-- A field that may be absent. -/
theorem optionField {α : Type} {write : α → ByteArray} {o : Option α} (h0 : o = none → m' = m)
    (h : ∀ x, o = some x → Writes field (write x) m m') :
    Writes field (optionField write o) m m' := by
  cases o with
  | none => rw [h0 rfl]; exact empty field m
  | some x => exact h x rfl

end Writes

/-- A text field of a list in front of the others. -/
theorem textFields_cons (n : Nat) (s : String) (l : List String) :
    textFields n (s :: l) = textField n s ++ textFields n l := by
  have hfold : ∀ (l : List String) (b : ByteArray),
      l.foldl (fun b s => b ++ textField n s) b = b ++ textFields n l := by
    intro l
    induction l with
    | nil => simp [textFields]
    | cons s l ih =>
      intro b
      rw [textFields, List.foldl_cons, List.foldl_cons, ih, ih (_ ++ _), ByteArray.empty_append,
        ByteArray.append_assoc]
  rw [textFields, List.foldl_cons, hfold, ByteArray.empty_append]

/-- A message that lies in another reads back from its bytes. -/
theorem nested_of_writes {μ : Type} {field : FieldReader μ} {b : ByteArray} {m m' : μ}
    (h : Writes field b m m') {budget : Nat} (hbudget : budget ≠ 0) (hb : b.size < UInt64.size)
    (rest : List UInt8) :
    nested field budget .lengthDelimited m
      (.ofList (Varint.write b.size ++ (bytesOf b ++ rest))) = .ok (m', .ofList rest) := by
  obtain ⟨k, hk, hread⟩ := h
  have hleft : (Input.ofList (bytesOf b ++ rest)).left = b.size + rest.length := by simp
  obtain ⟨rounds, hrounds⟩ : ∃ rounds, b.size + rest.length = k + rounds :=
    ⟨b.size + rest.length - k, by omega⟩
  have hfits : ¬ b.size > b.size + rest.length := by omega
  have hstop : b.size + rest.length - b.size = rest.length := by omega
  have hdone : ∀ rounds, readFields field rest.length rounds m' (.ofList rest) =
      .ok (m', .ofList rest) := by
    intro rounds
    cases rounds with
    | zero => rfl
    | succ rounds => rw [readFields, if_pos (by simp)]
  rw [nested, Varint.read_write _ _ hb]
  simp only [bare_ok, expect, if_true, bind, Except.bind, hbudget, if_false, hleft, hfits, hstop]
  rw [hrounds, hread _ _ _ (Nat.le_refl _), hdone]
  simp only [Input.left_ofList, ne_eq, not_true_eq_false, if_false]
  rfl

/-! ## Sizes of what is written -/

theorem size_le_bytesField (n : Nat) (b : ByteArray) : b.size ≤ (bytesField n b).size := by
  rw [bytesField, ByteArray.size_append]
  omega

theorem size_le_bytesUnlessEmpty (n : Nat) (b : ByteArray) :
    b.size ≤ (bytesUnlessEmpty n b).size := by
  rw [bytesUnlessEmpty]
  split
  · next h => simpa [ByteArray.isEmpty] using h
  · exact size_le_bytesField n b

/-- A text is no longer than its field. -/
theorem size_le_textUnlessEmpty (n : Nat) (s : String) :
    s.toUTF8.size ≤ (textUnlessEmpty n s).size :=
  size_le_bytesUnlessEmpty n _

/-! ## Messages -/

/-- A list of texts reads back, behind the texts that were there. -/
theorem writes_textFields {μ : Type} (field : FieldReader μ) {n : Nat} (hpos : n ≠ 0)
    (hlt : n < 536870912) (add : μ → List String → μ) (hnil : ∀ m, add m [] = m)
    (hcons : ∀ m s l, add (add m [s]) l = add m (s :: l))
    (h : ∀ m s i j, readText .lengthDelimited i = .ok (s, j) →
      field ⟨n, .lengthDelimited⟩ m i = .ok (add m [s], j))
    (l : List String) (m : μ) (hl : (textFields n l).size < UInt64.size) :
    Writes field (textFields n l) m (add m l) := by
  induction l generalizing m with
  | nil => rw [hnil]; exact .empty field m
  | cons s l ih =>
    rw [textFields_cons, ByteArray.size_append] at hl
    rw [textFields_cons, ← hcons]
    have hs : s.toUTF8.size ≤ (textField n s).size := size_le_bytesField n _
    exact .append (.text hpos hlt (by omega) (h m s)) (ih _ (by omega))

/-- A request is a row of fields that give it. -/
theorem Request.writes_encode (budget : Nat) (r : Request) (h : r.encode.size < UInt64.size) :
    Writes (Request.readField budget) r.encode {} r := by
  have hverb := size_le_textUnlessEmpty 1 r.verb
  have hpath := size_le_textUnlessEmpty 2 r.path
  have hbody := size_le_bytesUnlessEmpty 3 r.body
  simp only [Request.encode, ByteArray.size_append] at h
  have w1 : Writes (Request.readField budget) (textUnlessEmpty 1 r.verb) {} { verb := r.verb } :=
    .textUnlessEmpty (fun h0 => by rw [h0]) <| .text (by decide) (by decide) (by omega)
      fun i j hi => by simp only [Request.readField, inField_ok, hi]; rfl
  have w2 : Writes (Request.readField budget) (textUnlessEmpty 2 r.path) { verb := r.verb }
      { verb := r.verb, path := r.path } :=
    .textUnlessEmpty (fun h0 => by rw [h0]) <| .text (by decide) (by decide) (by omega)
      fun i j hi => by simp only [Request.readField, inField_ok, hi]; rfl
  have w3 : Writes (Request.readField budget) (bytesUnlessEmpty 3 r.body)
      { verb := r.verb, path := r.path } { verb := r.verb, path := r.path, body := r.body } :=
    .bytesUnlessEmpty (fun h0 => by rw [h0]) <| .bytes (by decide) (by decide) (by omega)
      fun i j hi => by simp only [Request.readField, inField_ok, hi]; rfl
  have w4 : Writes (Request.readField budget) (numberUnlessZero 4 r.id.toNat)
      { verb := r.verb, path := r.path, body := r.body }
      { verb := r.verb, path := r.path, body := r.body, id := r.id } :=
    .numberUnlessZero (fun h0 => by rw [show r.id = 0 from UInt64.toNat_inj.1 h0]) fun _ =>
      .number (by decide) (by decide) r.id.toNat_lt
        fun i j hi => by
          simp only [Request.readField, inField_ok, hi, bind, Except.bind,
            UInt64.ofNat_toNat]
          rfl
  have w5 := writes_textFields (Request.readField budget) (n := 5) (by decide)
    (by decide) (fun m l => { m with headers := m.headers ++ l })
    (fun m => by rw [List.append_nil]) (fun m s l => by simp)
    (fun m s i j hi => by simp only [Request.readField, inField_ok, hi]; rfl) r.headers
    { verb := r.verb, path := r.path, body := r.body, id := r.id } (by omega)
  exact (((w1.append w2).append w3).append w4).append w5

/-- A response is a row of fields that give it. -/
theorem Response.writes_encode (budget : Nat) (r : Response) (h : r.encode.size < UInt64.size) :
    Writes (Response.readField budget) r.encode {} r := by
  have hmessage := size_le_textUnlessEmpty 3 r.message
  have hbody := size_le_bytesUnlessEmpty 4 r.body
  have hstatus : r.status.toNat < UInt64.size :=
    Nat.lt_trans r.status.toNat_lt (by decide)
  simp only [Response.encode, ByteArray.size_append] at h
  have w1 : Writes (Response.readField budget) (numberUnlessZero 1 r.id.toNat) {}
      { id := r.id } :=
    .numberUnlessZero (fun h0 => by rw [show r.id = 0 from UInt64.toNat_inj.1 h0]) fun _ =>
      .number (by decide) (by decide) r.id.toNat_lt
        fun i j hi => by
          simp only [Response.readField, inField_ok, hi, bind, Except.bind,
            UInt64.ofNat_toNat]
          rfl
  have w2 : Writes (Response.readField budget) (numberUnlessZero 2 r.status.toNat)
      { id := r.id } { id := r.id, status := r.status } :=
    .numberUnlessZero (fun h0 => by rw [show r.status = 0 from UInt32.toNat_inj.1 h0]) fun _ =>
      .number (by decide) (by decide) hstatus
        fun i j hi => by
          simp only [Response.readField, inField_ok, hi, bind, Except.bind,
            UInt32.ofNat_toNat]
          rfl
  have w3 : Writes (Response.readField budget) (textUnlessEmpty 3 r.message)
      { id := r.id, status := r.status }
      { id := r.id, status := r.status, message := r.message } :=
    .textUnlessEmpty (fun h0 => by rw [h0]) <| .text (by decide) (by decide) (by omega)
      fun i j hi => by simp only [Response.readField, inField_ok, hi]; rfl
  have w4 : Writes (Response.readField budget) (bytesUnlessEmpty 4 r.body)
      { id := r.id, status := r.status, message := r.message }
      { id := r.id, status := r.status, message := r.message, body := r.body } :=
    .bytesUnlessEmpty (fun h0 => by rw [h0]) <| .bytes (by decide) (by decide) (by omega)
      fun i j hi => by simp only [Response.readField, inField_ok, hi]; rfl
  have w5 := writes_textFields (Response.readField budget) (n := 5) (by decide)
    (by decide) (fun m l => { m with headers := m.headers ++ l })
    (fun m => by rw [List.append_nil]) (fun m s l => by simp)
    (fun m s i j hi => by simp only [Response.readField, inField_ok, hi]; rfl) r.headers
    { id := r.id, status := r.status, message := r.message, body := r.body } (by omega)
  exact (((w1.append w2).append w3).append w4).append w5

/-- A handshake is a row of fields that give it; a login or a password that is there is written even
if it is empty. -/
theorem Handshake.writes_encode (budget : Nat) (h : Handshake)
    (hsize : h.encode.size < UInt64.size) :
    Writes (Handshake.readField budget) h.encode {} h := by
  have hpath := size_le_textUnlessEmpty 1 h.path
  have hagent := size_le_textUnlessEmpty 4 h.userAgent
  simp only [Handshake.encode, ByteArray.size_append] at hsize
  have hoption : ∀ (n : Nat) (o : Option String) (s : String), o = some s →
      s.toUTF8.size ≤ (optionField (textField n) o).size := by
    rintro n _ s rfl
    exact size_le_bytesField n _
  have w1 : Writes (Handshake.readField budget) (textUnlessEmpty 1 h.path) {}
      { path := h.path } :=
    .textUnlessEmpty (fun h0 => by rw [h0]) <| .text (by decide) (by decide) (by omega)
      fun i j hi => by simp only [Handshake.readField, inField_ok, hi]; rfl
  have w2 : Writes (Handshake.readField budget) (optionField (textField 2) h.login)
      { path := h.path } { path := h.path, login := h.login } :=
    .optionField (fun h0 => by rw [h0]) fun s hs => by
      have := hoption 2 h.login s hs
      rw [hs]
      exact .text (by decide) (by decide) (by omega)
        fun i j hi => by simp only [Handshake.readField, inField_ok, hi]; rfl
  have w3 : Writes (Handshake.readField budget) (optionField (textField 3) h.password)
      { path := h.path, login := h.login }
      { path := h.path, login := h.login, password := h.password } :=
    .optionField (fun h0 => by rw [h0]) fun s hs => by
      have := hoption 3 h.password s hs
      rw [hs]
      exact .text (by decide) (by decide) (by omega)
        fun i j hi => by simp only [Handshake.readField, inField_ok, hi]; rfl
  have w4 : Writes (Handshake.readField budget) (textUnlessEmpty 4 h.userAgent)
      { path := h.path, login := h.login, password := h.password } h :=
    .textUnlessEmpty (fun h0 => by rw [← h0]) <| .text (by decide) (by decide) (by omega)
      fun i j hi => by simp only [Handshake.readField, inField_ok, hi]; rfl
  exact ((w1.append w2).append w3).append w4

/-- A kind reads back from its 64-bit two's complement. -/
theorem ofNat_toUInt64_toInt64 (k : Int32) : Int32.ofNat k.toInt64.toUInt64.toNat = k := by
  have hbits : k.toInt64.toUInt64.toNat = (k.toBitVec.signExtend 64).toNat := rfl
  apply Int32.toBitVec_inj.1
  calc (Int32.ofNat k.toInt64.toUInt64.toNat).toBitVec
      = (k.toBitVec.signExtend 64).setWidth 32 := by
        rw [hbits, ← BitVec.ofNat_toNat]
        rfl
    _ = k.toBitVec := by
        ext i hi
        simp only [BitVec.getElem_setWidth, BitVec.getLsbD_signExtend]
        rw [BitVec.getLsbD_eq_getElem hi]
        simp only [hi, ↓reduceIte, Bool.and_eq_right_iff_imp, decide_eq_true_eq]
        omega

/-- A message is a row of fields that give it. -/
theorem Message.writes_encode (m : Message) (budget : Nat) (hbudget : budget ≠ 0)
    (h : m.encode.size < UInt64.size) : Writes (Message.readField budget) m.encode {} m := by
  simp only [Message.encode, ByteArray.size_append] at h
  have hoption : ∀ {α : Type} (n : Nat) (write : α → ByteArray) (o : Option α) (x : α),
      o = some x → (write x).size ≤ (optionField (fun x => bytesField n (write x)) o).size := by
    rintro α n write _ x rfl
    exact size_le_bytesField n _
  have w1 : Writes (Message.readField budget) (numberUnlessZero 1 m.kind.toInt64.toUInt64.toNat)
      {} { kind := m.kind } :=
    .numberUnlessZero
      (fun h0 => by rw [← ofNat_toUInt64_toInt64 m.kind, h0]; rfl) fun _ =>
      .number (by decide) (by decide) (UInt64.toNat_lt _)
        fun i j hi => by
          simp only [Message.readField, inField_ok, hi, bind, Except.bind,
            ofNat_toUInt64_toInt64]
          rfl
  have w2 : Writes (Message.readField budget)
      (optionField (fun r => bytesField 2 (Request.encode r)) m.request)
      { kind := m.kind } { kind := m.kind, request := m.request } :=
    .optionField (fun h0 => by rw [h0]) fun r hr => by
      have hsize := hoption 2 Request.encode m.request r hr
      have hr' := Request.writes_encode (budget - 1) r (by omega)
      rw [hr]
      refine .delimited _ (by decide) (by decide) fun rest => ?_
      simp only [Message.readField, under, Option.getD_none,
        nested_of_writes hr' hbudget (by omega) rest]
      rfl
  have w3 : Writes (Message.readField budget)
      (optionField (fun r => bytesField 3 (Response.encode r)) m.response)
      { kind := m.kind, request := m.request }
      { kind := m.kind, request := m.request, response := m.response } :=
    .optionField (fun h0 => by rw [h0]) fun r hr => by
      have hsize := hoption 3 Response.encode m.response r hr
      have hr' := Response.writes_encode (budget - 1) r (by omega)
      rw [hr]
      refine .delimited _ (by decide) (by decide) fun rest => ?_
      simp only [Message.readField, under, Option.getD_none,
        nested_of_writes hr' hbudget (by omega) rest]
      rfl
  have w4 : Writes (Message.readField budget)
      (optionField (fun h => bytesField 4 (Handshake.encode h)) m.handshake)
      { kind := m.kind, request := m.request, response := m.response } m :=
    .optionField (fun h0 => by rw [← h0]) fun r hr => by
      have hsize := hoption 4 Handshake.encode m.handshake r hr
      have hr' := Handshake.writes_encode (budget - 1) r (by omega)
      have hm : m = ⟨m.kind, m.request, m.response, some r⟩ := by rw [← hr]
      rw [hm]
      refine .delimited _ (by decide) (by decide) fun rest => ?_
      simp only [Message.readField, under, Option.getD_none,
        nested_of_writes hr' hbudget (by omega) rest]
      rfl
  exact ((w1.append w2).append w3).append w4

/-- **A message reads back from its bytes.** -/
theorem Message.decode_encode (m : Message) (h : m.encode.size < UInt64.size) :
    Message.decode m.encode = .ok m := by
  obtain ⟨k, hk, hread⟩ := m.writes_encode maxDepth (by decide) h
  obtain ⟨rounds, hrounds⟩ : ∃ rounds, m.encode.size = k + rounds :=
    ⟨m.encode.size - k, by omega⟩
  have hall := hread 0 rounds [] (Nat.zero_le _)
  have hdone : readFields (Message.readField maxDepth) 0 rounds m (.ofList []) =
      .ok (m, .ofList []) := by
    cases rounds <;> rfl
  have hinput : Input.ofBytes m.encode = .ofList (bytesOf m.encode ++ []) :=
    Input.eq_of_bytes (by rw [List.append_nil]; rfl)
  rw [decode, hinput, hrounds, hall, hdone]
  rfl

end ChatSockets.Wire
