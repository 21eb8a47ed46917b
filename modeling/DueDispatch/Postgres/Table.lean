/-!
# DueDispatch — table names

The name of the accounts table is written into SQL as it is. So only a plain
identifier is accepted: an ASCII letter or an underscore, then any number of
ASCII letters, digits and underscores. A `Table` is a name that was checked.
-/

namespace DueDispatch.Postgres

/-- A character that an identifier may start with. -/
def isIdentStart (c : Char) : Bool := c.isAlpha || c == '_'

/-- A character that an identifier may go on with. -/
def isIdentRest (c : Char) : Bool := c.isAlphanum || c == '_'

/-- Whether characters form a plain identifier. -/
def isIdent : List Char → Bool
  | [] => false
  | c :: rest => isIdentStart c && rest.all isIdentRest

/-- A table name that may stand in SQL. -/
structure Table where
  name : String
  isIdent_name : isIdent name.toList = true

/-- The table of this name, if it may stand in SQL. -/
def Table.of? (name : String) : Option Table :=
  if h : isIdent name.toList = true then some ⟨name, h⟩ else none

end DueDispatch.Postgres
