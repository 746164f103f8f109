import Seedbed.Text.Split

/-!
# Statements of a relational store

Names go into the text of a statement as quoted identifiers only: each dot-separated part of a name
stands between double quotes, and a double quote inside it is written twice. Values are bound as
parameters and never become text.
-/

namespace Seedbed.Statement

/-- The inside of a quoted identifier: double quotes are written twice. -/
def doubleQuotes (cs : List Char) : List Char :=
  cs.flatMap fun c => if c = '"' then ['"', '"'] else [c]

/-- One part of a name between double quotes. -/
def quotePart (cs : List Char) : List Char :=
  '"' :: (doubleQuotes cs ++ ['"'])

/-- A name as quoted identifiers; a dot separates the qualification from the name. -/
def quoteName (name : String) : String :=
  String.ofList (Text.joinWith ['.'] ((Text.splitOn '.' name.toList).map quotePart))

/-- Quoted names separated by commas. -/
def nameList (names : List String) : String :=
  String.intercalate ", " (names.map quoteName)

/-- Inserts a JSON array of rows and returns the stored rows. Columns that are not listed keep the
defaults of the table. -/
def insertReturning (table : String) (columns : List String) : String :=
  "insert into " ++ quoteName table ++ " as inserted (" ++ nameList columns ++ ") select " ++
    nameList columns ++ " from jsonb_populate_recordset(null::" ++ quoteName table ++
    ", $1) returning to_jsonb(inserted.*)"

/-- Deletes the rows of a tenant. -/
def deleteWhereTenant (table : String) : String :=
  "delete from " ++ quoteName table ++ " where tenant_id = $1"

/-- The tenants of a table, sorted. -/
def distinctTenants (table : String) : String :=
  "select distinct tenant_id::text from " ++ quoteName table ++
    " where tenant_id is not null order by 1"

end Seedbed.Statement
