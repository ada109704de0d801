/-! # The table of definitions

The statements that make a database ready to hold definitions. Each can be run again.
-/

namespace QueryRewriting.Schema

/-- One row per definition: its id, its document, and when it was last written. -/
def createTable : String :=
  "CREATE TABLE IF NOT EXISTS rewriter_definitions (\n" ++
  "\trewriter_id text PRIMARY KEY,\n" ++
  "\tdocument jsonb NOT NULL,\n" ++
  "\tupdated_at timestamptz NOT NULL DEFAULT now()\n" ++
  ")"

/-- The statement that indexes the table by the time of the last write. -/
def createIndex : String :=
  "CREATE INDEX IF NOT EXISTS idx_rewriter_definitions_updated_at\n" ++
  "\tON rewriter_definitions (updated_at DESC)"

/-- All statements, in the order in which they are run. -/
def statements : List String := [createTable, createIndex]

end QueryRewriting.Schema
