import ChatSockets.Account
import ChatSockets.Proofs.Text
import Mathlib.Data.List.Induction
import Mathlib.Data.String.Basic

/-!
# Reading a table of accounts

An entry is `Proper` when it has a colon and does not begin with one; it then writes the password
behind its first colon for the login before it. A text is a table of accounts exactly when all its
entries are proper, the first that is not decides the error, and the last entry of a login decides
its password (`parse_spec`). So every list of printable accounts is read back from the text that
writes them.
-/

namespace ChatSockets

/-- What a table of pairs holds at a key is the value of the last pair with that key. -/
theorem Table.get?_ofList {κ α : Type} [DecidableEq κ] (pairs : List (κ × α)) (k : κ) :
    (Table.ofList pairs).get? k = (pairs.reverse.find? fun p => p.1 = k).map Prod.snd := by
  induction pairs using List.reverseRecOn with
  | nil => rfl
  | append_singleton pairs p ih =>
    have hinsert : Table.ofList (pairs ++ [p]) = (Table.ofList pairs).insert p.1 p.2 := by
      rw [Table.ofList, List.foldl_append]
      rfl
    rw [hinsert, Table.get?_insert, List.reverse_append, List.reverse_singleton,
      List.singleton_append]
    split
    · next hk => rw [List.find?_cons_of_pos (by simp [hk])]; rfl
    · next hk => rw [List.find?_cons_of_neg (by simp [Ne.symm hk]), ih]

namespace Accounts

/-! ## One entry -/

/-- An entry has a colon and does not begin with one. -/
def Proper (e : List Char) : Prop := ':' ∈ e ∧ e.head? ≠ some ':'

instance : DecidablePred Proper := fun e =>
  inferInstanceAs (Decidable (':' ∈ e ∧ e.head? ≠ some ':'))

/-- What stands before the first colon. -/
def loginOf (e : List Char) : List Char := e.takeWhile (· ≠ ':')

/-- What stands behind the first colon. -/
def passwordOf (e : List Char) : List Char := (e.dropWhile (· ≠ ':')).tail

/-- What is wrong with an entry that is not proper. -/
def faultOf (e : List Char) : AccountsError :=
  if ':' ∈ e then .emptyLogin (.ofList e) else .noPassword (.ofList e)

/-- An entry cannot be cut, or is cut where its login is empty, or is proper. -/
theorem entry_eq (e : List Char) : entry e =
    if Proper e then .ok (.ofList (loginOf e), .ofList (passwordOf e)) else .error (faultOf e) := by
  by_cases hcolon : ':' ∈ e
  · obtain ⟨c, rest, rfl⟩ := List.exists_cons_of_ne_nil (List.ne_nil_of_mem hcolon)
    rw [entry, Text.cut?_of_mem hcolon]
    by_cases hc : c = ':'
    · subst hc
      rw [if_neg (fun h => h.2 rfl), faultOf, if_pos hcolon]
      rfl
    · have hlogin : (c :: rest).takeWhile (· ≠ ':') = c :: rest.takeWhile (· ≠ ':') :=
        List.takeWhile_cons_of_pos (by simpa using hc)
      rw [if_pos ⟨hcolon, by simpa using hc⟩, loginOf, passwordOf, hlogin]
  · rw [entry, Text.cut?_eq_none_iff.2 hcolon, if_neg (fun h => hcolon h.1), faultOf,
      if_neg hcolon]

theorem loginOf_append {login password : List Char} (h : ':' ∉ login) :
    loginOf (login ++ ':' :: password) = login := by
  rw [loginOf, List.takeWhile_append_of_pos (fun c hc => by
    simpa using fun e : c = ':' => h (e ▸ hc)), List.takeWhile_cons_of_neg (by simp),
    List.append_nil]

theorem passwordOf_append {login password : List Char} (h : ':' ∉ login) :
    passwordOf (login ++ ':' :: password) = password := by
  rw [passwordOf, List.dropWhile_append_of_pos (fun c hc => by
    simpa using fun e : c = ':' => h (e ▸ hc)), List.dropWhile_cons_of_neg (by simp)]
  rfl

/-! ## All entries -/

/-- The entries are read in order up to the first that is not proper. -/
theorem mapM_entry (es : List (List Char)) : es.mapM entry =
    match es.find? (fun e => ¬Proper e) with
    | none => .ok (es.map fun e => (.ofList (loginOf e), .ofList (passwordOf e)))
    | some e => .error (faultOf e) := by
  induction es with
  | nil => rfl
  | cons e es ih =>
    rw [List.mapM_cons, ih, entry_eq]
    by_cases he : Proper e
    · rw [if_pos he, List.find?_cons_of_neg (by simpa using he)]
      cases es.find? (fun e => ¬Proper e) <;> rfl
    · rw [if_neg he, List.find?_cons_of_pos (by simpa using he)]
      rfl

theorem parse_eq (s : String) : parse s =
    match (entries s.toList).find? (fun e => ¬Proper e) with
    | none => .ok (Table.ofList ((entries s.toList).map fun e =>
        (.ofList (loginOf e), .ofList (passwordOf e))))
    | some e => .error (faultOf e) := by
  rw [parse, mapM_entry]
  cases (entries s.toList).find? (fun e => ¬Proper e) <;> rfl

theorem parse_ok_iff {s : String} {t : Accounts} : parse s = .ok t ↔
    (∀ e ∈ entries s.toList, Proper e) ∧ t = Table.ofList ((entries s.toList).map fun e =>
      (.ofList (loginOf e), .ofList (passwordOf e))) := by
  have hnone : (∀ e ∈ entries s.toList, Proper e) ↔
      (entries s.toList).find? (fun e => ¬Proper e) = none := by
    simp [List.find?_eq_none]
  rw [hnone, parse_eq]
  cases (entries s.toList).find? (fun e => ¬Proper e) with
  | none => simp [eq_comm]
  | some e => simp

theorem parse_error_iff {s : String} {err : AccountsError} : parse s = .error err ↔
    ∃ before e after, entries s.toList = before ++ e :: after ∧ (∀ x ∈ before, Proper x) ∧
      ¬Proper e ∧ err = faultOf e := by
  have hfind : ∀ e, (entries s.toList).find? (fun e => ¬Proper e) = some e ↔ ¬Proper e ∧
      ∃ before after, entries s.toList = before ++ e :: after ∧ ∀ x ∈ before, Proper x := by
    intro e
    rw [List.find?_eq_some_iff_append]
    simp
  constructor
  · intro h
    rw [parse_eq] at h
    cases hbad : (entries s.toList).find? (fun e => ¬Proper e) with
    | none => rw [hbad] at h; exact nomatch h
    | some e =>
      obtain ⟨he, before, after, heq, hbefore⟩ := (hfind e).1 hbad
      rw [hbad] at h
      exact ⟨before, e, after, heq, hbefore, he, (Except.error.inj h).symm⟩
  · rintro ⟨before, e, after, heq, hbefore, he, rfl⟩
    rw [parse_eq, (hfind e).2 ⟨he, before, after, heq, hbefore⟩]

/-- The table read holds at a login the password of its last entry. -/
theorem get?_of_parse {s : String} {t : Accounts} (h : parse s = .ok t) (login : String) :
    t.get? login = ((entries s.toList).reverse.find? fun e => loginOf e = login.toList).map
      fun e => .ofList (passwordOf e) := by
  have hkey : ∀ e, (String.ofList (loginOf e) = login) ↔ loginOf e = login.toList := fun e =>
    ⟨fun h => by rw [← h, String.toList_ofList], fun h => by rw [h, String.ofList_toList]⟩
  rw [(parse_ok_iff.1 h).2, Table.get?_ofList, ← List.map_reverse, List.find?_map, Option.map_map]
  simp only [Function.comp_def, hkey]

/-! ## Accounts that can be written -/

/-- A login and a password that can stand in an entry. -/
@[mk_iff]
structure Printable (account : String × String) : Prop where
  login : account.1 ≠ ""
  login_free : ∀ c ∈ account.1.toList, c ≠ ',' ∧ c ≠ ':'
  login_head : ∀ c ∈ account.1.toList.head?, Text.isBlank c = false
  password_free : ',' ∉ account.2.toList
  password_last : ∀ c ∈ account.2.toList.getLast?, Text.isBlank c = false

instance (account : String × String) : Decidable (Printable account) :=
  decidable_of_iff (account.1 ≠ "" ∧ (account.1.toList.all fun c => c ≠ ',' ∧ c ≠ ':') ∧
      (account.1.toList.head?.all fun c => !Text.isBlank c) ∧ ',' ∉ account.2.toList ∧
      account.2.toList.getLast?.all fun c => !Text.isBlank c)
    (by simp [printable_iff, Option.all_eq_true])

/-- The entry that writes an account. -/
def line (account : String × String) : String := account.1 ++ ":" ++ account.2

/-- The text that writes a list of accounts. -/
def print (accounts : List (String × String)) : String :=
  String.intercalate "," (accounts.map line)

section
variable {account : String × String}

theorem toList_line : (line account).toList = account.1.toList ++ ':' :: account.2.toList := by
  simp [line]

theorem Printable.comma (h : Printable account) : ',' ∉ (line account).toList := by
  rw [toList_line]
  intro hmem
  rcases List.mem_append.1 hmem with hlogin | hrest
  · exact (h.login_free _ hlogin).1 rfl
  · rcases List.mem_cons.1 hrest with hcolon | hpassword
    · exact absurd hcolon (by decide)
    · exact h.password_free hpassword

theorem Printable.colon (h : Printable account) : ':' ∉ account.1.toList :=
  fun hmem => (h.login_free _ hmem).2 rfl

theorem Printable.toList_ne_nil (h : Printable account) : account.1.toList ≠ [] :=
  fun hnil => h.login (by rw [← String.ofList_toList (s := account.1), hnil])

theorem Printable.unpadded (h : Printable account) : Text.Unpadded (line account).toList := by
  rw [toList_line]
  refine ⟨fun c hc => h.login_head c ?_, fun c hc => ?_⟩
  · rwa [List.head?_append_of_ne_nil _ h.toList_ne_nil] at hc
  · rw [List.getLast?_append_of_ne_nil _ (List.cons_ne_nil _ _), List.getLast?_cons,
      Option.mem_some] at hc
    cases hlast : account.2.toList.getLast? with
    | none => rw [hlast] at hc; subst hc; decide
    | some d => rw [hlast] at hc; exact h.password_last c (by rw [hlast, ← hc]; rfl)

theorem Printable.proper (h : Printable account) : Proper (line account).toList := by
  rw [toList_line]
  refine ⟨by simp, fun hhead => h.colon ?_⟩
  rw [List.head?_append_of_ne_nil _ h.toList_ne_nil] at hhead
  exact List.mem_of_mem_head? hhead

end

/-- The entries of a printed list are the lines of its accounts. -/
theorem entries_print {accounts : List (String × String)} (h : ∀ a ∈ accounts, Printable a) :
    entries (print accounts).toList = accounts.map fun a => (line a).toList := by
  by_cases hnil : accounts = []
  · subst hnil; rfl
  let lines := accounts.map fun a => (line a).toList
  have htext : (print accounts).toList = [','].intercalate lines := by
    rw [print, String.toList_intercalate, List.map_map]; rfl
  have hpieces : Text.pieces ',' (print accounts).toList = lines := by
    rw [Text.pieces_eq_splitOn, htext, List.splitOn_intercalate]
    · simp only [lines, List.mem_map, forall_exists_index, and_imp, forall_apply_eq_imp_iff₂]
      exact fun a ha => (h a ha).comma
    · simpa [lines] using hnil
  have htrim : lines.map Text.trim = lines := by
    rw [List.map_map]
    exact List.map_congr_left fun a ha => Text.trim_of_unpadded (h a ha).unpadded
  rw [entries, hpieces, htrim, List.filter_eq_self]
  simp only [lines, List.mem_map, forall_exists_index, and_imp, forall_apply_eq_imp_iff₂]
  exact fun a ha => by simp [toList_line]

/-- Printable accounts are read back as the table of the list. -/
theorem parse_print {accounts : List (String × String)} (h : ∀ a ∈ accounts, Printable a) :
    parse (print accounts) = .ok (Table.ofList accounts) := by
  rw [parse_ok_iff, entries_print h]
  refine ⟨?_, congrArg _ ?_⟩
  · simp only [List.mem_map, forall_exists_index, and_imp, forall_apply_eq_imp_iff₂]
    exact fun a ha => (h a ha).proper
  · rw [List.map_map]
    refine (List.map_id _).symm.trans (List.map_congr_left fun a ha => ?_)
    rw [Function.comp_apply, toList_line, loginOf_append (h a ha).colon,
      passwordOf_append (h a ha).colon, String.ofList_toList, String.ofList_toList]
    rfl

/-- **Reading a table of accounts.** The entries of a text are its pieces between commas, trimmed,
of which something is left. The text is a table exactly when each of them has a colon and does not
begin with one; else the error is about the first that is at fault. A table holds at a login the
password of the last entry with that login, and nothing else. What is printed is read back, the
later of two accounts with one login counting. -/
theorem parse_spec :
    (∀ s : String,
      let es := ((s.toList.splitOn ',').map Text.trim).filter (· ≠ [])
      ((∃ t, parse s = .ok t) ↔ ∀ e ∈ es, ':' ∈ e ∧ e.head? ≠ some ':') ∧
      (∀ err, parse s = .error err ↔ ∃ before e after, es = before ++ e :: after ∧
        (∀ x ∈ before, ':' ∈ x ∧ x.head? ≠ some ':') ∧ ¬(':' ∈ e ∧ e.head? ≠ some ':') ∧
        err = if ':' ∈ e then .emptyLogin (.ofList e) else .noPassword (.ofList e)) ∧
      ∀ t, parse s = .ok t → ∀ login : String, t.get? login =
        (es.reverse.find? fun e => e.takeWhile (· ≠ ':') = login.toList).map
          fun e => .ofList (e.dropWhile (· ≠ ':')).tail) ∧
    ∀ accounts : List (String × String), (∀ a ∈ accounts, Printable a) →
      ∃ t, parse (print accounts) = .ok t ∧
        ∀ login, t.get? login = (accounts.reverse.find? fun a => a.1 = login).map Prod.snd := by
  refine ⟨fun s => ?_, fun accounts h => ⟨_, parse_print h, Table.get?_ofList accounts⟩⟩
  have hes : ((s.toList.splitOn ',').map Text.trim).filter (· ≠ []) = entries s.toList := by
    rw [entries, Text.pieces_eq_splitOn]
  simp only [hes]
  refine ⟨⟨?_, fun h => ⟨_, parse_ok_iff.2 ⟨h, rfl⟩⟩⟩, fun err => parse_error_iff,
    fun t ht => get?_of_parse ht⟩
  rintro ⟨t, ht⟩
  exact (parse_ok_iff.1 ht).1

/-- Three accounts of two logins, the last with a password that begins with a blank. -/
theorem read_printed : (∀ a ∈ [("alice", "a:b"), ("bob", ""), ("alice", " x")], Printable a) ∧
    (∃ t, parse "alice:a:b,bob:,alice: x" = .ok t ∧ t.get? "alice" = some " x" ∧
      t.get? "bob" = some "" ∧ t.get? "carol" = none) ∧
    parse "alice:a, bob ,:x" = .error (.noPassword "bob") := by
  have hprintable : ∀ a ∈ [("alice", "a:b"), ("bob", ""), ("alice", " x")], Printable a := by
    decide
  obtain ⟨t, hparse, hget⟩ := parse_spec.2 _ hprintable
  have hprint : print [("alice", "a:b"), ("bob", ""), ("alice", " x")] =
      "alice:a:b,bob:,alice: x" := by decide
  rw [hprint] at hparse
  refine ⟨hprintable, ⟨t, hparse, ?_, ?_, ?_⟩, ((parse_spec.1 _).2.1 _).2 ?_⟩
  · rw [hget]; decide
  · rw [hget]; decide
  · rw [hget]; decide
  · exact ⟨["alice:a".toList], "bob".toList, [":x".toList], by decide, by decide, by decide,
      by decide⟩

/-- A second colon does not make up for a first one at the front of an entry. -/
theorem later_colon_is_no_login : (∀ e ∈ entries ":a:b".toList, ':' ∈ e.tail) ∧
    parse ":a:b" = .error (.emptyLogin ":a:b") :=
  ⟨by decide, rfl⟩

end Accounts

end ChatSockets
