import ChatSockets.Proofs.Text
import ChatSockets.Proofs.Wire.Stream
import ChatSockets.Request
import Mathlib.Data.List.Forall2

/-!
# Looking up a header

A line is a header with a name if it has a colon and the name stands before the first one, but for
blanks around it and for the case of letters (`Header.Gives`). What is looked up under a name is the
value of the first such line (`find?_eq_some_iff`, `find?_eq_none_iff`). A line that was made of a
proper name (`IsName`) and a value is a header with this name and the trimmed value, and with no
other name (`value?_line`). So what is looked up in a request is what the first step with the name
gave it (`find?_lines`), and it is the same at the other end of the wire
(`first_with_name_found`).
-/

namespace ChatSockets

namespace Header

/-! ## Names -/

/-- Two characters are the same letter: they are equal, or one is a capital of the alphabet and the
other is its small letter. -/
def SameLetter (c d : Char) : Prop :=
  c = d ∨ c.isUpper = true ∧ d.toNat = c.toNat + 32 ∨ d.isUpper = true ∧ c.toNat = d.toNat + 32

/-- Two names are the same, letter by letter. -/
def SameName (a b : List Char) : Prop := List.Forall₂ SameLetter a b

theorem isUpper_iff {c : Char} : c.isUpper = true ↔ 65 ≤ c.toNat ∧ c.toNat ≤ 90 :=
  decide_eq_true_iff.trans (and_congr UInt32.le_iff_toNat_le UInt32.le_iff_toNat_le)

theorem toNat_toLower (c : Char) :
    c.toLower.toNat = if c.isUpper = true then c.toNat + 32 else c.toNat := by
  have hupper : c.isUpper = true ↔ c.val ≥ 'A'.val ∧ c.val ≤ 'Z'.val := decide_eq_true_iff
  unfold Char.toLower
  split
  · next h =>
    have hle : c.toNat ≤ 90 := UInt32.le_iff_toNat_le.1 h.2
    rw [if_pos (hupper.2 h)]
    exact (UInt32.toNat_add c.val 32).trans
      (Nat.mod_eq_of_lt (Nat.lt_of_le_of_lt (Nat.add_le_add_right hle 32) (by decide)))
  · next h => rw [if_neg fun hc => h (hupper.1 hc)]

theorem toLower_eq_toLower_iff {c d : Char} : c.toLower = d.toLower ↔ SameLetter c d := by
  unfold SameLetter
  rw [← Char.toNat_inj, ← Char.toNat_inj, toNat_toLower, toNat_toLower]
  simp only [isUpper_iff]
  split <;> split <;> omega

theorem sameName_iff {a b : List Char} : sameName a b = true ↔ SameName a b := by
  have hletter : (fun c d : Char => c.toLower = d.toLower) = SameLetter := by
    funext c d
    exact propext toLower_eq_toLower_iff
  rw [SameName, ← hletter, sameName, decide_eq_true_iff, ← List.forall₂_eq_eq_eq,
    List.forall₂_map_left_iff, List.forall₂_map_right_iff]

instance (a b : List Char) : Decidable (SameName a b) := decidable_of_iff _ sameName_iff

theorem sameName_self (name : List Char) : sameName name name = true := decide_eq_true rfl

/-! ## Lines -/

/-- A line is a header with a name and a value: the name is what stands before the first colon
without the blanks around it, but for the case of letters, and the value is what stands behind this
colon without the blanks around it. -/
def Gives (line name value : String) : Prop :=
  ∃ key rest, line.toList = key ++ ':' :: rest ∧ ':' ∉ key ∧
    SameName (Text.trim key) name.toList ∧ value.toList = Text.trim rest

theorem gives_iff {line name value : String} : Gives line name value ↔
    ∃ key rest, Text.cut? ':' line.toList = some (key, rest) ∧
      SameName (Text.trim key) name.toList ∧ value.toList = Text.trim rest := by
  simp only [Gives, Text.cut?_eq_some_iff, and_assoc]

theorem value?_eq_some_iff {line name : String} {v : List Char} :
    value? name.toList line.toList = some v ↔ Gives line name (.ofList v) := by
  rw [gives_iff, String.toList_ofList, value?]
  cases Text.cut? ':' line.toList with
  | none => simp
  | some cut =>
    obtain ⟨key, rest⟩ := cut
    dsimp only
    split
    · next hname => simp [sameName_iff.1 hname, eq_comm]
    · next hname =>
      rw [sameName_iff] at hname
      simp [hname]

theorem value?_eq_none_iff {line name : String} :
    value? name.toList line.toList = none ↔ ∀ value, ¬ Gives line name value := by
  constructor
  · intro hnone value hgives
    rw [← String.ofList_toList (s := value), ← value?_eq_some_iff, hnone] at hgives
    cases hgives
  · intro hno
    cases hvalue : value? name.toList line.toList with
    | none => rfl
    | some v => exact absurd (value?_eq_some_iff.1 hvalue) (hno _)

/-- **What is looked up** under a name is the value of the first line that is a header with it. -/
theorem find?_eq_some_iff {lines : List String} {name value : String} :
    find? lines name = some value ↔ ∃ before line after, lines = before ++ line :: after ∧
      Gives line name value ∧ ∀ l ∈ before, ∀ v, ¬ Gives l name v := by
  simp only [find?, Option.map_eq_some_iff, List.findSome?_eq_some_iff, value?_eq_some_iff,
    value?_eq_none_iff]
  constructor
  · rintro ⟨v, ⟨before, line, after, hlines, hgives, hbefore⟩, rfl⟩
    exact ⟨before, line, after, hlines, hgives, hbefore⟩
  · rintro ⟨before, line, after, hlines, hgives, hbefore⟩
    refine ⟨value.toList, ⟨before, line, after, hlines, ?_, hbefore⟩, String.ofList_toList⟩
    rwa [String.ofList_toList]

theorem find?_eq_none_iff {lines : List String} {name : String} :
    find? lines name = none ↔ ∀ l ∈ lines, ∀ v, ¬ Gives l name v := by
  simp only [find?, Option.map_eq_none_iff, List.findSome?_eq_none_iff, value?_eq_none_iff]

/-! ## Lines that were made -/

/-- **The header of a line** is what the line was made of. -/
theorem value?_line {key : String} (hkey : ':' ∉ key.toList) (value : String) (name : List Char) :
    value? name (line key value).toList =
      if sameName (Text.trim key.toList) name then some (Text.trim value.toList) else none := by
  have hline : (line key value).toList = key.toList ++ ':' :: value.toList := by
    simp [line, String.toList_append]
  have hcut : Text.cut? ':' (line key value).toList = some (key.toList, value.toList) :=
    Text.cut?_eq_some_iff.2 ⟨hline, hkey⟩
  rw [value?, hcut]

/-- A name that a header can be made with: there is no colon in it, and no blank around it. -/
structure IsName (name : String) : Prop where
  colon : ':' ∉ name.toList
  unpadded : Text.Unpadded name.toList

/-- A name without colons that trimming leaves as it is. -/
theorem isName_iff {name : String} :
    IsName name ↔ ':' ∉ name.toList ∧ Text.trim name.toList = name.toList :=
  ⟨fun h => ⟨h.colon, Text.trim_of_unpadded h.unpadded⟩,
    fun h => ⟨h.1, (Text.trim_eq_iff.1 h.2).1⟩⟩

instance (name : String) : Decidable (IsName name) := decidable_of_iff _ isName_iff.symm

/-- **What is looked up among lines that were made** is what the first of them with the name was
made of. -/
theorem find?_lines {headers : List (String × String)} (h : ∀ x ∈ headers, IsName x.1)
    (name : String) : find? (headers.map fun x => line x.1 x.2) name =
      (headers.find? fun x => SameName x.1.toList name.toList).map
        fun x => .ofList (Text.trim x.2.toList) := by
  unfold find?
  induction headers with
  | nil => rfl
  | cons x headers ih =>
    obtain ⟨hx, hrest⟩ := List.forall_mem_cons.1 h
    rw [List.map_cons, List.findSome?_cons, value?_line hx.colon,
      Text.trim_of_unpadded hx.unpadded]
    by_cases hname : SameName x.1.toList name.toList
    · rw [if_pos (sameName_iff.2 hname), List.find?_cons_of_pos (by simpa using hname)]
      rfl
    · rw [if_neg (fun hsame => hname (sameName_iff.1 hsame)),
        List.find?_cons_of_neg (by simpa using hname)]
      exact ih hrest

end Header

namespace Request

/-- A request that was built step by step, with the headers that it was given, in their order. Its
fields other than the headers may be set at any time. -/
inductive Built : Request → List (String × String) → Prop
  | new (verb path : String) : Built { verb, path } []
  | anonymous {r : Request} {headers : List (String × String)} (h : Built r headers) :
      Built r.anonymous headers
  | withoutAuthorization {r : Request} {headers : List (String × String)} (h : Built r headers) :
      Built r.withoutAuthorization headers
  | withBody {r : Request} {headers : List (String × String)} (h : Built r headers)
      (body : ByteArray) : Built (r.withBody body) headers
  | withTimeout {r : Request} {headers : List (String × String)} (h : Built r headers) (ms : Nat) :
      Built (r.withTimeout ms) headers
  | withFields {r : Request} {headers : List (String × String)} (h : Built r headers)
      (verb path : String) (body : ByteArray) (isAnonymous requiresAuthorization : Bool)
      (timeout : Option Nat) :
      Built { r with verb, path, body, isAnonymous, requiresAuthorization, timeout } headers
  | withHeader {r : Request} {headers : List (String × String)} (h : Built r headers)
      (name value : String) : Built (r.withHeader name value) (headers ++ [(name, value)])

/-- The lines of a request are made of the headers that it was given. -/
theorem Built.headers_eq {r : Request} {headers : List (String × String)} (h : Built r headers) :
    r.headers = headers.map fun x => Header.line x.1 x.2 := by
  induction h with
  | new => rfl
  | withHeader _ name value ih =>
    rw [Request.withHeader, ih, List.map_append]
    rfl
  | anonymous _ ih | withoutAuthorization _ ih | withBody _ _ ih | withTimeout _ _ ih
  | withFields _ _ _ _ _ _ _ ih => exact ih

end Request

open Wire

/-- **The first header with a name is found.**

* In any lines, what is looked up under a name is the value of the first line that is a header with
  the name, and nothing exactly if no line is one.
* A request that was built step by step, with headers of proper names and of any values, has a frame
  under any id if it is within the limit. Whoever reads this frame, in whatever pieces, reads one
  request and nothing else. What is looked up there under a name is the trimmed value of the first
  step that gave the request a header with this name, and nothing if there was no such step. -/
theorem Header.first_with_name_found :
    (∀ (lines : List String) (name : String),
      (∀ value, find? lines name = some value ↔
        ∃ before line after, lines = before ++ line :: after ∧ Gives line name value ∧
          ∀ l ∈ before, ∀ v, ¬ Gives l name v) ∧
      (find? lines name = none ↔ ∀ l ∈ lines, ∀ v, ¬ Gives l name v)) ∧
    ∀ (r : Request) (headers : List (String × String)) (id : UInt64), r.Built headers →
      (∀ x ∈ headers, IsName x.1) → (Message.ofRequest (r.toWire id)).length ≤ Frame.maxLength →
      ∃ frame, Frame.encode (.ofRequest (r.toWire id)) = .ok frame ∧
        ∀ pieces, Decoder.join pieces = frame → ∃ q : Wire.Request,
          Decoder.itemsOf (Script.feedPieces .new #[] 0 pieces).1 = [.ok (.ofRequest q)] ∧
          ∀ name, find? q.headers name =
            (headers.find? fun x => SameName x.1.toList name.toList).map
              fun x => .ofList (Text.trim x.2.toList) := by
  refine ⟨fun _ _ => ⟨fun _ => find?_eq_some_iff, find?_eq_none_iff⟩, ?_⟩
  intro r headers id hbuilt hnames hfit
  have hcarries := Frame.carries_of_le hfit
  refine ⟨_, hcarries.encoded, fun pieces hjoin => ⟨_, (hcarries.decoded pieces hjoin).1, ?_⟩⟩
  intro name
  rw [Request.toWire, hbuilt.headers_eq]
  exact find?_lines hnames name

/-- A request with two headers of the same name, of which the first has a colon and blanks in its
value. Its frame comes in two pieces. -/
theorem Header.found_in_two_pieces :
    let r := ((Request.put "/v1/echo" ⟨#[104, 105]⟩).withHeader "X-Trace" "\t a:b\u2003").anonymous
      |>.withHeader "x-trace" "c"
    let push := Frame.ofBody (Message.ofRequest (r.toWire 7)).encode
    ∃ q : Wire.Request,
      Decoder.itemsOf (Script.feedPieces .new #[] 0
        [push.extract 0 20, push.extract 20 push.size]).1 = [.ok (.ofRequest q)] ∧
      find? q.headers "X-TRACE" = some "a:b" ∧ find? q.headers "Trace" = none := by
  intro r push
  have hbuilt : r.Built [("X-Trace", "\t a:b\u2003"), ("x-trace", "c")] :=
    ((((Request.Built.new "PUT" "/v1/echo").withBody ⟨#[104, 105]⟩).withHeader "X-Trace"
      "\t a:b\u2003").anonymous).withHeader "x-trace" "c"
  have hnames : ∀ x ∈ [("X-Trace", "\t a:b\u2003"), ("x-trace", "c")], IsName x.1 := by
    decide +kernel
  have hfit : (Message.ofRequest (r.toWire 7)).length ≤ Frame.maxLength := by decide +kernel
  have hcut : Decoder.join [push.extract 0 20, push.extract 20 push.size] = push := by
    decide +kernel
  obtain ⟨frame, hencoded, hread⟩ := first_with_name_found.2 r _ 7 hbuilt hnames hfit
  have hpush : push = frame := by
    rw [Frame.encode_of_le hfit] at hencoded
    exact Except.ok.inj hencoded
  obtain ⟨q, hitems, hfind⟩ := hread _ (hcut.trans hpush)
  refine ⟨q, hitems, (hfind _).trans ?_, (hfind _).trans ?_⟩
  · decide +kernel
  · decide +kernel

end ChatSockets
