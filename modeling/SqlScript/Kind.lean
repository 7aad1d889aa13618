import SqlScript.Text.Basic

/-!
What a statement was recognised as, and the category that decides where it ends.
-/

namespace SqlScript

/-- How the end of a statement is found. -/
inductive Category where
  /-- Plain SQL: ends at a semicolon, a lone slash or a blank line. -/
  | sql
  /-- A procedural block, in which semicolons and blank lines are content. -/
  | psql
  /-- A client command on one line. -/
  | command
  /-- A comment on one line. -/
  | comment
deriving DecidableEq, Repr

inductive Kind where
  | query
  | dml
  | ddl
  | transaction
  | session
  | block
  | storedProgram
  | callable
  | command
  | comment
  | unknown
deriving DecidableEq, Repr

def Kind.category : Kind → Category
  | .block | .storedProgram => .psql
  | .command => .command
  | .comment => .comment
  | .query | .dml | .ddl | .transaction | .session | .callable | .unknown => .sql

def Kind.label : Kind → Text
  | .query => "query"
  | .dml => "dml"
  | .ddl => "ddl"
  | .transaction => "transaction"
  | .session => "session"
  | .block => "block"
  | .storedProgram => "stored program"
  | .callable => "callable"
  | .command => "command"
  | .comment => "comment"
  | .unknown => "unknown"

def Category.label : Category → Text
  | .sql => "SQL"
  | .psql => "PSQL"
  | .command => "COMMAND"
  | .comment => "COMMENT"

/-- The value of a category in records. -/
def Category.name : Category → Text
  | .sql => "sql"
  | .psql => "psql"
  | .command => "command"
  | .comment => "comment"

end SqlScript
