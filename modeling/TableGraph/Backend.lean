import TableGraph.Failure
import TableGraph.Value.Literal

/-!
# Backends

A backend is the database family a schema is compiled for, with the two
capabilities the generated API depends on: whether a mutation can return the
rows it touched, and whether rows can be paged per parent with a window
function. Each family may also classify some column types of its own.

`Backend.ofName` chooses a backend from a dialect name: case is ignored and
a name that starts with `postgres`, `mysql`, `mariadb` or `sqlite` selects
that family; anything else is refused.
-/

namespace TableGraph

/-- Database families. `custom` is a caller-defined backend with no type
rules of its own. -/
inductive Dialect where
  | sqlite
  | postgres
  | mysql
  | custom
  deriving Repr, BEq, DecidableEq, Inhabited

/-- A backend and its capabilities. -/
structure Backend where
  dialect : Dialect
  name : String
  canReportAffectedRows : Bool := true
  supportsWindowFunctions : Bool := true
  deriving Repr, BEq, Inhabited

namespace Backend

/-- SQLite: returns rows, pages with window functions. -/
def sqlite : Backend := { dialect := .sqlite, name := "sqlite" }

/-- PostgreSQL: returns rows, pages with window functions. -/
def postgres : Backend := { dialect := .postgres, name := "postgres" }

/-- MySQL and MariaDB: mutations report success only. -/
def mysql : Backend := { dialect := .mysql, name := "mysql", canReportAffectedRows := false }

/-- The backend of a dialect name, compared without case. -/
def ofName (raw : String) : Outcome Backend :=
  let dn := Text.lower raw
  if dn.startsWith "postgres" then .ok postgres
  else if dn.startsWith "mysql" || dn.startsWith "mariadb" then .ok mysql
  else if dn.startsWith "sqlite" then .ok sqlite
  else .error (.schemaBuild ("Unsupported dialect: " ++ textLiteral (if dn.isEmpty then raw else dn)))

/-- A value that names no dialect at all. -/
def unnamed (v : Value) : Failure :=
  .schemaBuild ("Unsupported dialect: " ++ v.literal)

/-- Column type classes that PostgreSQL carries as plain text. -/
def postgresTextClasses : List String :=
  ["INET", "CIDR", "MACADDR", "MACADDR8", "TSVECTOR", "TSQUERY", "CITEXT", "MONEY", "INTERVAL"]

/-- The type tag a backend gives a column type class of its own, if any. -/
def classify? (b : Backend) (className : String) : Option String :=
  let up := Text.upper className
  match b.dialect with
  | .postgres => if postgresTextClasses.contains up then some "text" else none
  | .mysql =>
    if up == "YEAR" then some "integer"
    else if up == "SET" then some "text"
    else none
  | _ => none

end Backend

end TableGraph
