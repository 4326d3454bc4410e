import EvmIndexer.Schema.Table

/-!
# Making and dropping the tables

The tables are made one after the other, each followed by its indexes. Going
back takes the same steps in the opposite order, each undone; only the schema
stays, because others may use it.
-/

namespace EvmIndexer.Schema

inductive Step where
  | createSchema
  | createTable (table : Table)
  | createIndex (table : Table) (index : Index)
  | dropIndex (table : Table) (index : Index)
  | dropTable (table : Table)
deriving DecidableEq, Repr

/-- The name of the state of the database in which the tables are there. -/
def revision : String := "2026_02_03_101500"

/-- The state of the database before it; there is none. -/
def previousRevision : Option String := none

def creation : String := "CREATE SCHEMA IF NOT EXISTS " ++ name

def Table.creation (table : Table) : List Step :=
  .createTable table :: table.indexes.map (.createIndex table)

def upgrade : List Step := .createSchema :: tables.flatMap Table.creation

/-- The step that undoes a step, if it is undone. -/
def Step.undo? : Step → Option Step
  | .createTable table => some (.dropTable table)
  | .createIndex table index => some (.dropIndex table index)
  | .createSchema | .dropIndex .. | .dropTable _ => none

def downgrade : List Step := (upgrade.filterMap Step.undo?).reverse

end EvmIndexer.Schema
