import ChatSockets.Table
import ChatSockets.Text.Blank
import ChatSockets.Text.Quoted

/-!
# Accounts and credentials

A server knows its accounts as a table from logins to passwords, written as `login:password` entries
between commas (`Accounts.parse`). A client presents the `Credentials` of one account.
-/

namespace ChatSockets

/-- The accounts of a server: the password of each login. -/
abbrev Accounts := Table String String

/-- Why a text is no table of accounts; the entry is named without the blanks around it. -/
inductive AccountsError
  /-- an entry without a colon -/
  | noPassword (entry : String)
  /-- an entry that begins with a colon -/
  | emptyLogin (entry : String)
  deriving DecidableEq, Repr

/-- The words for an error. -/
def AccountsError.message : AccountsError → String
  | noPassword entry => s!"account entry '{entry}' is missing a password"
  | emptyLogin entry => s!"account entry '{entry}' has an empty login"

namespace Accounts

/-- The entries of a text: its pieces between commas without the blanks around them, if anything is
left. -/
def entries (s : List Char) : List (List Char) :=
  ((Text.pieces ',' s).map Text.trim).filter (· ≠ [])

/-- The login and the password of an entry: what stands before its first colon, and the rest. -/
def entry (e : List Char) : Except AccountsError (String × String) :=
  match Text.cut? ':' e with
  | none => .error (.noPassword (.ofList e))
  | some ([], _) => .error (.emptyLogin (.ofList e))
  | some (login, password) => .ok (.ofList login, .ofList password)

/-- The table a text writes. The first entry at fault decides the error; of two entries with one
login the later one counts. -/
def parse (s : String) : Except AccountsError Accounts :=
  ((entries s.toList).mapM entry).map Table.ofList

end Accounts

/-- What a client signs in with. -/
structure Credentials where
  login : String
  password : String
  deriving DecidableEq, Repr

/-- Credentials for a log: the password is not shown. -/
def Credentials.shown (c : Credentials) : String :=
  "Credentials \x7b login: " ++ Text.quote c.login ++ ", password: " ++
    Text.quote "<redacted>" ++ " \x7d"

end ChatSockets
