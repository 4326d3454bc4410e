import EvmIndexer.Schema.Table

/-!
# Writing into a table

A row is written with all columns of its table, and not at all if its key is
there already. Each value is named after its column and, unless it is a number
of any size, cast to the type that its column is sent as. The names of two
columns are words of the language of the database and stand in quotes.
-/

namespace EvmIndexer.Schema

/-- The type that values of a column type are cast to when they are sent. -/
def ColumnType.cast? : ColumnType → Option String
  | .text => some "VARCHAR"
  | .bigint => some "BIGINT"
  | .integer => some "INTEGER"
  | .smallint => some "SMALLINT"
  | .numeric => none
  | .texts => some "TEXT[]"
  | .instant => some "TIMESTAMP WITH TIME ZONE"

/-- The names of columns that are words of the language of the database. -/
def reserved : List String := ["from", "to"]

def identifier (name : String) : String :=
  if reserved.contains name then "\"" ++ name ++ "\"" else name

def Column.placeholder (column : Column) : String :=
  let place := "%(" ++ column.name ++ ")s"
  match column.type.cast? with
  | some type => place ++ "::" ++ type
  | none => place

def parenthesized (parts : List String) : String :=
  "(" ++ String.intercalate ", " parts ++ ")"

/-- The statement that writes a row into a table unless its key is there. -/
def Table.insertion (table : Table) : String :=
  let names := parenthesized (table.columns.map fun c => identifier c.name)
  let places := parenthesized (table.columns.map Column.placeholder)
  let key := parenthesized (table.key.map identifier)
  "INSERT INTO " ++ qualified table.name ++ " " ++ names ++ " VALUES " ++ places
    ++ " ON CONFLICT " ++ key ++ " DO NOTHING"

end EvmIndexer.Schema
