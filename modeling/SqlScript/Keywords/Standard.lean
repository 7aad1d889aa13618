import SqlScript.Keywords

/-!
The standard keyword table, for the dialects of the common databases and their client tools.
-/

namespace SqlScript.Keywords

def queryPhrases : List String := ["SELECT", "WITH", "VALUES", "SHOW", "EXPLAIN", "TABLE"]

/-- First words of statements that change rows. -/
def dmlPhrases : List String :=
  ["INSERT", "UPDATE", "DELETE", "MERGE", "UPSERT", "REPLACE", "CALL", "COPY", "LOCK", "LOAD"]

/-- First words of statements that change the schema. -/
def ddlPhrases : List String :=
  ["CREATE", "ALTER", "DROP", "TRUNCATE", "RENAME", "COMMENT", "GRANT", "REVOKE", "ANALYZE",
    "AUDIT", "NOAUDIT", "ASSOCIATE", "DISASSOCIATE", "FLASHBACK", "PURGE", "VACUUM", "REINDEX",
    "ATTACH", "DETACH", "PRAGMA"]

def transactionPhrases : List String :=
  ["COMMIT", "ROLLBACK", "SAVEPOINT", "RELEASE", "START TRANSACTION", "BEGIN TRANSACTION",
    "BEGIN WORK", "BEGIN TRAN", "BEGIN DEFERRED", "BEGIN IMMEDIATE", "BEGIN EXCLUSIVE",
    "END TRANSACTION"]

def sessionPhrases : List String := ["SET", "RESET", "ALTER SESSION", "ALTER SYSTEM"]

def blockPhrases : List String := ["DECLARE", "BEGIN", "DO"]

def commandPhrases : List String :=
  ["PROMPT", "SPOOL", "DELIMITER", "WHENEVER", "DEFINE", "UNDEFINE", "VARIABLE", "VAR", "PRINT",
    "EXEC", "CONNECT", "CONN", "DISCONNECT", "EXIT", "QUIT", "DESCRIBE", "DESC", "USE", "SOURCE",
    "REM", "REMARK", "PAUSE", "HOST", "TIMING", "GO", "SET SERVEROUTPUT", "SET ECHO",
    "SET FEEDBACK", "SET HEADING", "SET LINESIZE", "SET PAGESIZE", "SET TERMOUT", "SET VERIFY",
    "SET DEFINE", "SET TIMING"]

/-- How the creation of a stored program begins. -/
def creationPhrases : List String :=
  ["CREATE", "CREATE OR REPLACE", "CREATE EDITIONABLE", "CREATE OR REPLACE EDITIONABLE",
    "CREATE NONEDITIONABLE", "CREATE OR REPLACE NONEDITIONABLE"]

def programPhrases : List String :=
  ["FUNCTION", "PROCEDURE", "TRIGGER", "PACKAGE", "PACKAGE BODY", "TYPE BODY", "LIBRARY"]

def storedProgramPhrases : List String :=
  creationPhrases.flatMap fun creation => programPhrases.map fun program =>
    creation ++ " " ++ program

def standardPhrases : List (String × Kind) :=
  queryPhrases.map (·, .query) ++ dmlPhrases.map (·, .dml) ++ ddlPhrases.map (·, .ddl) ++
    transactionPhrases.map (·, .transaction) ++ sessionPhrases.map (·, .session) ++
    blockPhrases.map (·, .block) ++ commandPhrases.map (·, .command) ++
    storedProgramPhrases.map (·, .storedProgram)

def standard : Keywords :=
  standardPhrases.foldl (fun keywords (phrase, kind) => keywords.register phrase kind) empty

end SqlScript.Keywords
