import ChatSockets.Text.Blank
import ChatSockets.Text.Decimal
import Mathlib.Data.List.TakeWhile

/-!
# Trimming, dividing and numbers

What is left of a trimmed text neither begins nor ends with a blank, and nothing but blanks was
taken off (`trim_eq_iff`). The pieces of a text are those into which it splits at a character
(`pieces_eq_splitOn`), and the cut at its first place is told by what stands before it and behind it
(`cut?_of_mem`). The decimal digits of a number are read back as the number (`unsigned?_repr`).
-/

namespace ChatSockets.Text

/-- A text that neither begins nor ends with a blank. -/
structure Unpadded (s : List Char) : Prop where
  head : ∀ c ∈ s.head?, isBlank c = false
  last : ∀ c ∈ s.getLast?, isBlank c = false

theorem trimRight_append {t b : List Char} (hlast : ∀ c ∈ t.getLast?, isBlank c = false)
    (hb : ∀ c ∈ b, isBlank c = true) : trimRight (t ++ b) = t := by
  have hself : t.reverse.dropWhile isBlank = t.reverse := by
    cases hrev : t.reverse with
    | nil => rfl
    | cons c rest =>
      have hc : isBlank c = false := hlast c (by rw [← List.head?_reverse, hrev]; rfl)
      rw [List.dropWhile_cons_of_neg (by simp [hc])]
  rw [trimRight, List.reverse_append,
    List.dropWhile_append_of_pos (fun c hc => hb c (List.mem_reverse.1 hc)), hself,
    List.reverse_reverse]

/-- The blanks around a text are taken off, and no others. -/
theorem trim_padded {a t b : List Char} (ha : ∀ c ∈ a, isBlank c = true) (ht : Unpadded t)
    (hb : ∀ c ∈ b, isBlank c = true) : trim (a ++ t ++ b) = t := by
  have hfront : (a ++ t ++ b).dropWhile isBlank = if t = [] then [] else t ++ b := by
    rw [List.append_assoc, List.dropWhile_append_of_pos ha]
    cases t with
    | nil => exact List.dropWhile_eq_nil_iff.2 hb
    | cons c t =>
      have hc : isBlank c = false := ht.head c rfl
      rw [List.cons_append, List.dropWhile_cons_of_neg (by simp [hc])]
      rfl
  rw [trim, hfront]
  split
  · next hnil => rw [hnil]; rfl
  · exact trimRight_append ht.last hb

/-- **What trimming leaves** of a text: all but the blanks at its ends. -/
theorem trim_eq_iff {s t : List Char} : trim s = t ↔ Unpadded t ∧ ∃ a b,
    (∀ c ∈ a, isBlank c = true) ∧ (∀ c ∈ b, isBlank c = true) ∧ s = a ++ t ++ b := by
  constructor
  · rintro rfl
    let front := s.dropWhile isBlank
    have hdropped : ∀ l : List Char, ∀ c ∈ (l.dropWhile isBlank).head?, isBlank c = false := by
      intro l c hc
      have hnot := List.head?_dropWhile_not isBlank l
      rw [Option.mem_def.1 hc] at hnot
      exact hnot
    have hfront : s = s.takeWhile isBlank ++ front := List.takeWhile_append_dropWhile.symm
    have hback : front = trim s ++ (front.reverse.takeWhile isBlank).reverse := by
      rw [trim, trimRight, ← List.reverse_append, List.takeWhile_append_dropWhile,
        List.reverse_reverse]
    refine ⟨⟨fun c hc => ?_, fun c hc => ?_⟩, s.takeWhile isBlank,
      (front.reverse.takeWhile isBlank).reverse, fun c hc => List.mem_takeWhile_imp hc,
      fun c hc => List.mem_takeWhile_imp (List.mem_reverse.1 hc), ?_⟩
    · -- the first character of what is left was the first one after the blanks
      refine hdropped s c ?_
      rw [show s.dropWhile isBlank = _ from hback, List.head?_append, Option.mem_def.1 hc]
      rfl
    · rw [trim, trimRight, List.getLast?_reverse] at hc
      exact hdropped _ c hc
    · rw [List.append_assoc, ← hback]
      exact hfront
  · rintro ⟨ht, a, b, ha, hb, rfl⟩
    exact trim_padded ha ht hb

/-- A text without blanks at its ends is left as it is. -/
theorem trim_of_unpadded {t : List Char} (ht : Unpadded t) : trim t = t :=
  trim_eq_iff.2 ⟨ht, [], [], nofun, nofun, by simp⟩

theorem pieces_eq_splitOn (c : Char) (s : List Char) : pieces c s = s.splitOn c := by
  have hsome : ∀ s, pieces c s ≠ [] := by
    intro s
    cases s with
    | nil => exact List.cons_ne_nil _ _
    | cons d s =>
      unfold pieces
      rw [List.foldr_cons]
      split
      · exact List.cons_ne_nil _ _
      · split <;> exact List.cons_ne_nil _ _
  induction s with
  | nil => rfl
  | cons d s ih =>
    have hcons : pieces c (d :: s) = if d = c then [] :: pieces c s else
        (pieces c s).modifyHead (List.cons d) := by
      rw [pieces, List.foldr_cons, ← pieces]
      cases hpieces : pieces c s with
      | nil => exact absurd hpieces (hsome s)
      | cons p ps => rfl
    rw [hcons, ih, List.splitOn, List.splitOn, List.splitOnP_cons_eq_if_modifyHead]
    simp only [beq_iff_eq]

/-- A text is cut at the first place of a character that occurs in it. -/
theorem cut?_of_mem {c : Char} {s : List Char} (h : c ∈ s) :
    cut? c s = some (s.takeWhile (· ≠ c), (s.dropWhile (· ≠ c)).tail) := by
  unfold cut?
  cases hdrop : s.dropWhile (· ≠ c) with
  | nil =>
    have hno := List.dropWhile_eq_nil_iff.1 hdrop c h
    simp at hno
  | cons d after => rfl

/-! ## Numbers -/

/-- A digit stands in its place among the characters. -/
theorem le_of_isDigit {c : Char} (h : c.isDigit = true) : '0' ≤ c ∧ c ≤ '9' := by
  simp only [Char.isDigit, Bool.and_eq_true, decide_eq_true_eq] at h
  exact h

/-- Digits are read as the number that they write, as long as it is below the bound. -/
theorem digitsFrom?_eq {bound n : Nat} {s : List Char} (hs : ∀ c ∈ s, c.isDigit = true)
    (h : Nat.ofDigitChars 10 s n < bound) :
    digitsFrom? bound n s = some (Nat.ofDigitChars 10 s n) := by
  induction s generalizing n with
  | nil => rfl
  | cons c s ih =>
    obtain ⟨hc, hs⟩ := List.forall_mem_cons.1 hs
    have hdigit : digit? c = some (c.toNat - '0'.toNat) := if_pos (le_of_isDigit hc)
    rw [Nat.ofDigitChars_cons] at h ⊢
    -- the digits that follow only make the number larger
    have hle : 10 * n + (c.toNat - '0'.toNat) ≤
        Nat.ofDigitChars 10 s (10 * n + (c.toNat - '0'.toNat)) := by
      rw [Nat.ofDigitChars_eq_ofDigitChars_zero]
      exact Nat.le_add_right_of_le (Nat.le_mul_of_pos_left _ (Nat.pow_pos (by decide)))
    rw [digitsFrom?, hdigit]
    dsimp only
    rw [if_pos (Nat.lt_of_le_of_lt hle h)]
    exact ih hs h

theorem isDigit_of_mem_repr {n : Nat} {c : Char} (hc : c ∈ (Nat.repr n).toList) :
    c.isDigit = true := by
  rw [Nat.toList_repr] at hc
  exact Nat.isDigit_of_mem_toDigits (by decide) (by decide) hc

/-- **A number is read back from its digits**, if it is below the bound. -/
theorem unsigned?_repr {bound n : Nat} (h : n < bound) :
    unsigned? bound (Nat.repr n).toList = some n := by
  have hdigits := @isDigit_of_mem_repr n
  have hvalue : Nat.ofDigitChars 10 (Nat.repr n).toList 0 = n := by
    rw [Nat.toList_repr]
    exact Nat.ofDigitChars_ten_toDigits
  cases hlist : (Nat.repr n).toList with
  | nil =>
    rw [Nat.toList_repr] at hlist
    exact absurd hlist Nat.toDigits_ne_nil
  | cons c s =>
    rw [hlist] at hdigits hvalue
    -- the first digit is no sign
    have hsign : c ≠ '+' := by
      rintro rfl
      cases hdigits List.mem_cons_self
    have hread : digitsFrom? bound 0 (c :: s) = some n := by
      rw [digitsFrom?_eq (fun _ => hdigits) (by rw [hvalue]; exact h), hvalue]
    unfold unsigned?
    split
    · next hnil => split at hnil <;> simp_all
    · split <;> simp_all

/-- The digits of a number have no blanks around them. -/
theorem unpadded_repr (n : Nat) : Unpadded (Nat.repr n).toList := by
  have hblank : ∀ c ∈ (Nat.repr n).toList, isBlank c = false := by
    intro c hc
    obtain ⟨hzero, hnine⟩ := le_of_isDigit (isDigit_of_mem_repr hc)
    have hlow : 48 ≤ c.toNat := UInt32.le_iff_toNat_le.1 hzero
    have hhigh : c.toNat ≤ 57 := UInt32.le_iff_toNat_le.1 hnine
    simp only [isBlank, blanks, List.contains_eq_mem, List.mem_cons, List.not_mem_nil, or_false,
      decide_eq_false_iff_not]
    omega
  exact ⟨fun c hc => hblank c (List.mem_of_head? hc),
    fun c hc => hblank c (List.mem_of_getLast? hc)⟩

end ChatSockets.Text
