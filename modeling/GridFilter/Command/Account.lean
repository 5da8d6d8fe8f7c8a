import GridFilter.Text.Blank

/-!
# Accounts

The machine lists its accounts one to a line, in seven fields between colons: the third is the
user's number and the sixth the home directory.  The status of a process names the number of its
user after the word `Uid:`.
-/

namespace GridFilter.Command

/-- The home directory of an account's line, when the account is that of the user. -/
def accountHomeOf? (user line : String) : Option String :=
  match line.splitOn ":" with
  | [_, _, number, _, _, home, _] => if number == user then some home else none
  | _ => none

/-- The home directory of a user in a list of accounts. -/
def accountHome? (accounts user : String) : Option String :=
  (accounts.splitOn "\n").findSome? (accountHomeOf? user)

/-- The number of the user that a line of a status names. -/
def userOfLine? (line : String) : Option String :=
  match Text.words line with
  | mark :: number :: _ => if mark == "Uid:" then some number else none
  | _ => none

/-- The number of the user that a status names. -/
def statusUser? (status : String) : Option String :=
  (status.splitOn "\n").findSome? userOfLine?

end GridFilter.Command
