/-!
# Blank characters, trimming and cutting

A character is blank when it has the Unicode property White_Space. `trim` takes the blanks off both
ends of a text, `cut?` divides a text at the first place where a character stands
(`cut?_eq_some_iff`), `pieces` divides it at every such place, and `after?` takes a given text off
its front (`after?_eq_some_iff`).
-/

namespace ChatSockets.Text

/-- The code points of the Unicode property White_Space. -/
def blanks : List Nat :=
  [0x9, 0xA, 0xB, 0xC, 0xD, 0x20, 0x85, 0xA0, 0x1680,
   0x2000, 0x2001, 0x2002, 0x2003, 0x2004, 0x2005, 0x2006, 0x2007, 0x2008, 0x2009, 0x200A,
   0x2028, 0x2029, 0x202F, 0x205F, 0x3000]

/-- Whether a character is white space. -/
def isBlank (c : Char) : Bool := blanks.contains c.toNat

/-- The text without the blanks it ends with. -/
def trimRight (s : List Char) : List Char := (s.reverse.dropWhile isBlank).reverse

/-- The text without the blanks at either end. -/
def trim (s : List Char) : List Char := trimRight (s.dropWhile isBlank)

/-- What stands before the first `c` and what stands after it, or `none` where there is no `c`. -/
def cut? (c : Char) (s : List Char) : Option (List Char × List Char) :=
  match s.dropWhile (· ≠ c) with
  | [] => none
  | _ :: after => some (s.takeWhile (· ≠ c), after)

/-- A text without `c` cannot be cut. -/
theorem cut?_eq_none_iff {c : Char} {s : List Char} : cut? c s = none ↔ c ∉ s := by
  induction s with
  | nil => simp [cut?]
  | cons d s ih =>
    by_cases hd : d = c
    · simp [cut?, hd]
    · have hc : ¬ c = d := fun e => hd e.symm
      simp only [cut?, ne_eq, hd, not_false_eq_true, decide_true, List.dropWhile_cons_of_pos,
        List.mem_cons, hc, false_or] at ih ⊢
      rw [← ih]
      split <;> simp

/-- The cut is at the first place: the part before it is free of the character. -/
theorem cut?_eq_some_iff {c : Char} {s a b : List Char} :
    cut? c s = some (a, b) ↔ s = a ++ c :: b ∧ c ∉ a := by
  induction s generalizing a with
  | nil => simp [cut?]
  | cons d s ih =>
    by_cases hd : d = c
    · subst hd
      cases a with
      | nil => simp [cut?]
      | cons e a => simp +contextual [cut?, eq_comm]
    · have hc : ¬ c = d := fun e => hd e.symm
      cases a with
      | nil =>
        simp only [cut?, ne_eq, hd, not_false_eq_true, decide_true, List.dropWhile_cons_of_pos,
          List.takeWhile_cons_of_pos, List.nil_append, List.cons.injEq, false_and, iff_false]
        split <;> simp
      | cons e a =>
        have h := @ih a
        simp only [cut?, ne_eq, hd, not_false_eq_true, decide_true, List.dropWhile_cons_of_pos,
          List.takeWhile_cons_of_pos, List.cons_append, List.cons.injEq, List.mem_cons, not_or]
          at h ⊢
        revert h
        split
        · intro h
          simp only [reduceCtorEq, false_iff, not_and] at h ⊢
          exact fun hs _ => h hs.2
        · intro h
          simp only [Option.some.injEq, Prod.mk.injEq, List.cons.injEq] at h ⊢
          constructor
          · rintro ⟨⟨rfl, h1⟩, h2⟩
            have := h.1 ⟨h1, h2⟩
            exact ⟨⟨rfl, this.1⟩, hc, this.2⟩
          · rintro ⟨⟨rfl, h1⟩, -, h2⟩
            have := h.2 ⟨h1, h2⟩
            exact ⟨⟨rfl, this.1⟩, this.2⟩

/-- The pieces of a text between the places where `c` stands; there is always at least one. -/
def pieces (c : Char) (s : List Char) : List (List Char) :=
  s.foldr (fun d ps => if d = c then [] :: ps else
    match ps with
    | [] => [[d]]
    | p :: ps => (d :: p) :: ps) [[]]

/-- What follows a text that stands in front, if it does. -/
def after? : List Char → List Char → Option (List Char)
  | [], s => some s
  | _ :: _, [] => none
  | c :: lead, d :: s => if c = d then after? lead s else none

/-- `after?` takes off exactly what stands in front. -/
theorem after?_eq_some_iff {lead s rest : List Char} :
    after? lead s = some rest ↔ s = lead ++ rest := by
  induction lead generalizing s with
  | nil => simp [after?]
  | cons c lead ih =>
    cases s with
    | nil => simp [after?]
    | cons d s =>
      by_cases h : c = d
      · simp [after?, h, ih]
      · have : ¬ d = c := fun e => h e.symm
        simp [after?, h, this]

end ChatSockets.Text
