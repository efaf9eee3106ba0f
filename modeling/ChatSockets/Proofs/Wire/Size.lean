import ChatSockets.Wire.Frame

/-!
# The lengths of encodings

The length of what is written, computed from the lengths of the parts alone: `Varint.length` for a
number, `Request.length`, `Response.length`, `Handshake.length` for the payloads and
`Message.length` for a body (`Message.size_encode`). A message has a frame exactly if its length is
within the limit (`Frame.encode_eq`).
-/

namespace ChatSockets.Wire

/-! ## Numbers -/

namespace Varint

/-- The number of bytes that a number is written in. -/
def length (n : Nat) : Nat := (write n).length

/-- The number of groups grows with the number. -/
theorem length_groups_mono (k : Nat) {m n : Nat} (h : m ≤ n) :
    (groups k m).length ≤ (groups k n).length := by
  induction k generalizing m n with
  | zero => exact Nat.le_refl _
  | succ k ih =>
    rw [groups, groups]
    by_cases hm : m < 128
    · rw [if_pos hm]
      split <;> simp
    · rw [if_neg hm, if_neg (by omega)]
      exact Nat.succ_le_succ (ih (Nat.div_le_div_right h))

/-- A number has at most ten bytes. -/
theorem length_le (n : Nat) : length n ≤ 10 := by
  have h : ∀ k n, (groups k n).length ≤ k + 1 := by
    intro k
    induction k with
    | zero => exact fun n => Nat.le_refl 1
    | succ k ih =>
      intro n
      rw [groups]
      split
      · simp
      · exact Nat.succ_le_succ (ih _)
  exact h 9 n

/-- A larger number has no fewer bytes. -/
theorem length_mono {m n : Nat} (h : m ≤ n) : length m ≤ length n := length_groups_mono 9 h

/-- A number below 128 has one byte. -/
theorem length_of_lt {n : Nat} (h : n < 128) : length n = 1 := by
  rw [length, write, groups, if_pos h]
  rfl

end Varint

/-! ## Fields -/

/-- The length of a field that holds a number. -/
def numberLength (n : Nat) : Nat := if n = 0 then 0 else 1 + Varint.length n

/-- The length of a field that holds so many bytes and is always written. -/
def fieldLength (n : Nat) : Nat := 1 + Varint.length n + n

/-- The length of a field that holds so many bytes and is left out without any. -/
def bytesLength (n : Nat) : Nat := if n = 0 then 0 else fieldLength n

/-- The length of a row of fields, one per text. -/
def textsLength : List String → Nat
  | [] => 0
  | s :: l => fieldLength s.toUTF8.size + textsLength l

theorem numberLength_le (n : Nat) : numberLength n ≤ 11 := by
  have hgroups := Varint.length_le n
  unfold numberLength
  split <;> omega

theorem fieldLength_le (n : Nat) : fieldLength n ≤ n + 11 := by
  have hgroups := Varint.length_le n
  unfold fieldLength
  omega

theorem bytesLength_le (n : Nat) : bytesLength n ≤ n + 11 := by
  have hfield := fieldLength_le n
  unfold bytesLength
  split <;> omega

/-- A key with a number up to 15 is one byte. -/
theorem size_writeKey (field : Nat) (h : field ≤ 15) (layout : WireType) :
    (writeKey field layout).size = 1 := by
  have hcode : layout.code ≤ 7 := by cases layout <;> decide
  rw [writeKey, List.size_toByteArray]
  exact Varint.length_of_lt (by omega)

@[simp] theorem size_numberUnlessZero (field : Nat) (h : field ≤ 15) (n : Nat) :
    (numberUnlessZero field n).size = numberLength n := by
  rw [numberUnlessZero, numberLength]
  split
  · rfl
  · rw [numberField, ByteArray.size_append, size_writeKey field h, List.size_toByteArray]
    rfl

theorem size_bytesField (field : Nat) (h : field ≤ 15) (b : ByteArray) :
    (bytesField field b).size = fieldLength b.size := by
  rw [bytesField, ByteArray.size_append, ByteArray.size_append, size_writeKey field h,
    List.size_toByteArray]
  rfl

@[simp] theorem size_bytesUnlessEmpty (field : Nat) (h : field ≤ 15) (b : ByteArray) :
    (bytesUnlessEmpty field b).size = bytesLength b.size := by
  rw [bytesUnlessEmpty, bytesLength, ByteArray.isEmpty]
  by_cases hb : b.size = 0
  · rw [if_pos (by simpa using hb), if_pos hb]
    rfl
  · rw [if_neg (by simpa using hb), if_neg hb]
    exact size_bytesField field h b

@[simp] theorem size_textUnlessEmpty (field : Nat) (h : field ≤ 15) (s : String) :
    (textUnlessEmpty field s).size = bytesLength s.toUTF8.size := size_bytesUnlessEmpty field h _

@[simp] theorem size_textFields (field : Nat) (h : field ≤ 15) (l : List String) :
    (textFields field l).size = textsLength l := by
  have hfold : ∀ (l : List String) (b : ByteArray),
      (l.foldl (fun b s => b ++ textField field s) b).size = b.size + textsLength l := by
    intro l
    induction l with
    | nil => exact fun b => rfl
    | cons s l ih =>
      intro b
      rw [List.foldl_cons, ih, ByteArray.size_append, textField, size_bytesField field h,
        textsLength, Nat.add_assoc]
  rw [textFields, hfold]
  exact Nat.zero_add _

/-- The length of a field that may be absent, if its payload has a length. -/
def optionLength (length : α → Nat) (o : Option α) : Nat :=
  match o with
  | none => 0
  | some a => fieldLength (length a)

theorem size_optionField (field : Nat) (h : field ≤ 15) {write : α → ByteArray}
    {length : α → Nat} (hsize : ∀ a, (write a).size = length a) (o : Option α) :
    (optionField (fun a => bytesField field (write a)) o).size = optionLength length o := by
  cases o with
  | none => rfl
  | some a =>
    rw [optionField, optionLength, size_bytesField field h, hsize]

/-! ## Messages -/

/-- The length of the bytes of a request. -/
def Request.length (r : Request) : Nat :=
  bytesLength r.verb.toUTF8.size + bytesLength r.path.toUTF8.size + bytesLength r.body.size +
    numberLength r.id.toNat + textsLength r.headers

/-- The length of the bytes of a response. -/
def Response.length (r : Response) : Nat :=
  numberLength r.id.toNat + numberLength r.status.toNat + bytesLength r.message.toUTF8.size +
    bytesLength r.body.size + textsLength r.headers

/-- The length of the bytes of a handshake. -/
def Handshake.length (h : Handshake) : Nat :=
  bytesLength h.path.toUTF8.size + optionLength (fun s => s.toUTF8.size) h.login +
    optionLength (fun s => s.toUTF8.size) h.password + bytesLength h.userAgent.toUTF8.size

/-- The length of the bytes of a message. -/
def Message.length (m : Message) : Nat :=
  numberLength m.kind.toInt64.toUInt64.toNat + optionLength Request.length m.request +
    optionLength Response.length m.response + optionLength Handshake.length m.handshake

theorem Request.size_encode (r : Request) : r.encode.size = r.length := by
  simp [Request.encode, Request.length]

theorem Response.size_encode (r : Response) : r.encode.size = r.length := by
  simp [Response.encode, Response.length]

theorem Handshake.size_encode (h : Handshake) : h.encode.size = h.length := by
  have hlogin : (optionField (textField 2) h.login).size =
      optionLength (fun s => s.toUTF8.size) h.login :=
    size_optionField 2 (by decide) (fun _ => rfl) h.login
  have hpassword : (optionField (textField 3) h.password).size =
      optionLength (fun s => s.toUTF8.size) h.password :=
    size_optionField 3 (by decide) (fun _ => rfl) h.password
  simp [Handshake.encode, Handshake.length, hlogin, hpassword]

/-- **The length of a body is computed from the lengths of its parts.** -/
theorem Message.size_encode (m : Message) : m.encode.size = m.length := by
  simp [Message.encode, Message.length, size_optionField 2 (by decide) Request.size_encode,
    size_optionField 3 (by decide) Response.size_encode,
    size_optionField 4 (by decide) Handshake.size_encode]

/-- The body of a request is two bytes for its kind and a field. -/
theorem Message.length_ofRequest (r : Request) :
    (Message.ofRequest r).length = 2 + fieldLength r.length := rfl

/-- A request without a body is little longer than its verb and its path. -/
theorem Message.length_plainRequest_le (id : UInt64) (verb path : String) :
    (Message.ofRequest (.plain id verb path)).length ≤
      verb.toUTF8.size + path.toUTF8.size + 46 := by
  have hfield := fieldLength_le (Request.plain id verb path).length
  have hverb := bytesLength_le verb.toUTF8.size
  have hpath := bytesLength_le path.toUTF8.size
  have hid := numberLength_le id.toNat
  have hlength : (Request.plain id verb path).length =
      bytesLength verb.toUTF8.size + bytesLength path.toUTF8.size + 0 + numberLength id.toNat + 0 :=
    rfl
  rw [Message.length_ofRequest]
  omega

/-- A response without a body is little longer than its message. -/
theorem Message.length_plainResponse_le (id : UInt64) (status : UInt32) (message : String) :
    (Message.ofResponse (.plain id status message)).length ≤ message.toUTF8.size + 46 := by
  have hfield := fieldLength_le (Response.plain id status message).length
  have hid := numberLength_le id.toNat
  have hstatus := numberLength_le status.toNat
  have hmessage := bytesLength_le message.toUTF8.size
  have hlength : (Response.plain id status message).length =
      numberLength id.toNat + numberLength status.toNat + bytesLength message.toUTF8.size + 0 + 0 :=
    rfl
  have hbody : (Message.ofResponse (.plain id status message)).length =
      2 + fieldLength (Response.plain id status message).length := rfl
  omega

/-! ## Frames -/

/-- A message has a frame exactly if its length is within the limit; otherwise the error names its
length. -/
theorem Frame.encode_eq (m : Message) :
    encode m = if m.length ≤ maxLength then .ok (ofBody m.encode)
      else .error (.tooLarge m.length maxLength) := by
  simp only [encode, Message.size_encode]
  by_cases h : m.length ≤ maxLength
  · rw [if_neg (by omega), if_pos h]
  · rw [if_pos (by omega), if_neg h]

/-- A message within the limit has a frame. -/
theorem Frame.encode_of_le {m : Message} (h : m.length ≤ maxLength) :
    encode m = .ok (ofBody m.encode) := by
  rw [encode_eq, if_pos h]

/-- The frame of a message is four bytes and its body. -/
theorem Frame.size_ofBody_encode (m : Message) : (ofBody m.encode).size = 4 + m.length := by
  rw [ofBody, ByteArray.size_append, Message.size_encode]
  rfl

/-- A message above the limit has none. -/
theorem Frame.encode_of_lt {m : Message} (h : maxLength < m.length) :
    encode m = .error (.tooLarge m.length maxLength) := by
  rw [encode_eq, if_neg (by omega)]

end ChatSockets.Wire
