import QueryRewriting.Store
import QueryRewriting.Store.Schema

/-! # The store in a database

A database that keeps definitions in a table is made ready once, in a transaction that excludes
every other node doing the same. After that each operation of the store is one statement. -/

namespace QueryRewriting

/-! ## Statements -/

/-- A value that a statement is given; `now` is the time at which it is sent. -/
inductive SqlValue where
  | text (value : String)
  | whole (value : Int)
  | json (value : Json)
  | now
  deriving Repr

/-- A value in JSON form, where it is `time` now. -/
def SqlValue.toJson (time : String) : SqlValue → Json
  | .text value => .text value
  | .whole value => Json.whole value
  | .json value => value
  | .now => .text time

/-- What a database is asked to do. -/
inductive Statement where
  | beginTransaction
  | lockSchema
  | create (definition : String)
  | commitTransaction
  | select (id : String)
  | upsert (id : String) (document : Json)
  | delete (id : String)
  deriving Repr

namespace Statement

/-- The number of the lock under which the schema is set up. -/
def schemaLock : Int := 7120231

/-- The text of a statement. -/
def sql : Statement → String
  | beginTransaction => "BEGIN"
  | lockSchema => "SELECT pg_advisory_xact_lock($1)"
  | create definition => definition
  | commitTransaction => "COMMIT"
  | select _ => "SELECT document FROM rewriter_definitions WHERE rewriter_id = $1"
  | upsert _ _ =>
    "INSERT INTO rewriter_definitions (rewriter_id, document, updated_at)\n" ++
    "VALUES ($1, $2, $3)\n" ++
    "ON CONFLICT (rewriter_id) DO UPDATE\n" ++
    "SET document = EXCLUDED.document,\n" ++
    "\tupdated_at = EXCLUDED.updated_at"
  | delete _ => "DELETE FROM rewriter_definitions WHERE rewriter_id = $1"

/-- The values that are bound to a statement. -/
def values : Statement → List SqlValue
  | lockSchema => [.whole schemaLock]
  | select id => [.text id]
  | upsert id document => [.text id, .json document, .now]
  | delete id => [.text id]
  | _ => []

/-- The JSON form of a statement, sent at a time. -/
def toJson (time : String) (statement : Statement) : Json :=
  .object [("params", .list (statement.values.map (SqlValue.toJson time))),
    ("sql", .text statement.sql)]

/-- The statements that set up the schema, in one transaction and under its lock. -/
def setUp : List Statement :=
  [beginTransaction, lockSchema] ++ Schema.statements.map create ++ [commitTransaction]

end Statement

/-! ## Servers -/

/-- Why a database gives no answer. -/
inductive DatabaseError where
  | refused (message : String)
  | unreachable (message : String)
  | timedOut
  deriving DecidableEq, Repr

/-- What is said of a database that failed. -/
def DatabaseError.message : DatabaseError → String
  | .refused message => s!"error returned from database: {message}"
  | .unreachable message => s!"error communicating with database: {message}"
  | .timedOut => "Timed out waiting for the definition store."

/-- What a database answers to a statement: the documents it selected, or how many rows changed. -/
structure Rows where
  documents : List Json
  changed : Nat
  deriving Repr

/-- A trouble that a database has with the statements that begin with a text. Without a message it
does not answer at all. -/
structure Trouble where
  opening : String
  message? : Option String
  deriving DecidableEq, Repr

/-- A database with the table of definitions, whether it can be reached, its trouble, and the
statements sent to it, the last one first. -/
structure Database where
  documents : Json.Fields
  reachable : Bool
  trouble? : Option Trouble
  sent : List Statement

namespace Database

/-- What a database in trouble answers. -/
def troubleError (trouble : Trouble) : DatabaseError :=
  match trouble.message? with
  | some message => .refused message
  | none => .timedOut

/-- What stands for the opening of a connection where the first words of a statement stand. -/
def startup : String := "STARTUP"

/-- The error of a database that is not there. -/
def missing : DatabaseError := .unreachable "No such file or directory (os error 2)"

/-- Opens a connection. -/
def connect (database : Database) : Except DatabaseError Unit :=
  if !database.reachable then .error missing
  else
    match database.trouble? with
    | some trouble => if trouble.opening = startup then .error (troubleError trouble) else .ok ()
    | none => .ok ()

/-- What a statement makes of the documents, and the rows that it answers with. -/
def perform (documents : Json.Fields) : Statement → Rows × Json.Fields
  | .select id => ({ documents := (documents.get? id).toList, changed := 0 }, documents)
  | .upsert id document => ({ documents := [], changed := 1 }, documents.set id document)
  | .delete id =>
    ({ documents := [], changed := (documents.get? id).toList.length }, documents.erase id)
  | _ => ({ documents := [], changed := 0 }, documents)

/-- Whether a statement is one that a trouble is with. -/
def affects (trouble : Trouble) (statement : Statement) : Bool :=
  trouble.opening.toList.isPrefixOf statement.sql.toList

/-- Sends a statement. One that fails has no effect on the table. -/
def execute (database : Database) (statement : Statement) :
    Except DatabaseError Rows × Database :=
  let database := { database with sent := statement :: database.sent }
  match database.trouble?.filter (affects · statement) with
  | some trouble => (.error (troubleError trouble), database)
  | none =>
    let (rows, documents) := perform database.documents statement
    (.ok rows, { database with documents })

/-- Executes statements up to the first that fails. -/
def executeAll (database : Database) : List Statement → Except DatabaseError Unit × Database
  | [] => (.ok (), database)
  | statement :: rest =>
    match database.execute statement with
    | (.ok _, database) => executeAll database rest
    | (.error e, database) => (.error e, database)

/-! ## The operations of the store -/

/-- A database that gives no answer is an unavailable store. -/
def storeError (error : DatabaseError) : StoreError := .unavailable error.message

/-- Connects to a database and sets up its schema. -/
def openStore (database : Database) : Except StoreError Unit × Database :=
  match database.connect with
  | .error e => (.error (storeError e), database)
  | .ok () =>
    let (outcome, database) := database.executeAll Statement.setUp
    (outcome.mapError storeError, database)

/-- The definition that the row of an id holds, if there is a row. -/
def definitionOf (id : String) (rows : Rows) : Except StoreError (Option Definition) :=
  match rows.documents with
  | [] => .ok none
  | document :: _ =>
    match Definition.ofDocument id document with
    | .ok definition => .ok (some definition)
    | .error fault => .error (.invalidDocument id fault)

/-- Reads the definition of an id. -/
def get (database : Database) (id : String) : Except StoreError (Option Definition) × Database :=
  let (outcome, database) := database.execute (.select id)
  ((outcome.mapError storeError).bind (definitionOf id), database)

/-- Writes the document of a definition under its id. -/
def put (database : Database) (definition : Definition) : Except StoreError Unit × Database :=
  let (outcome, database) := database.execute (.upsert definition.id definition.toDocument)
  ((outcome.map fun _ => ()).mapError storeError, database)

/-- Drops the row of an id; answers whether there was one. -/
def delete (database : Database) (id : String) : Except StoreError Bool × Database :=
  let (outcome, database) := database.execute (.delete id)
  ((outcome.map fun rows => decide (0 < rows.changed)).mapError storeError, database)

end Database

end QueryRewriting
