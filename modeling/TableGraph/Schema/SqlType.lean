import TableGraph.Backend

/-!
# Column types and their tags

A column's declared type is a class of a type library: a basic class, an
enumeration with its values, an array of an item type, or a decorator that
stores through another type. Every class belongs to at most one *family*
that tags derive from: the first of `enum, boolean, bigint, integer, float,
decimal, timestamp, date, time, uuid, text, binary, json, array` that it is a
kind of (a narrower family comes before a wider one, so a big integer is not
tagged as an integer).

`SqlType.tag` classifies a type: the backend's own rule first, then a
decorator by the type it stores through, then a class whose lower-case name
contains `vector` or `geometry` by that word, then the family, and last the
lower-case class name itself, which only compiles when a custom type is
registered under it.
-/

namespace TableGraph

/-- The standard families of column types. -/
inductive Family where
  | enum | boolean | bigint | integer | float | decimal | timestamp | date | time
  | uuid | text | binary | json | array
  deriving Repr, BEq, DecidableEq, Inhabited

/-- The tag of a family. -/
def Family.tag : Family → String
  | .enum => "enum" | .boolean => "boolean" | .bigint => "bigint" | .integer => "integer"
  | .float => "float" | .decimal => "decimal" | .timestamp => "timestamp" | .date => "date"
  | .time => "time" | .uuid => "uuid" | .text => "text" | .binary => "binary"
  | .json => "json" | .array => "array"

/-- A declared column type. -/
inductive SqlType where
  /-- A class and the family it belongs to, if any. -/
  | basic (className : String) (family : Option Family)
  /-- An enumeration class with its stored values. -/
  | enumeration (className : String) (values : List String)
  /-- An array class over an item type. -/
  | array (className : String) (item : SqlType)
  /-- A decorator class that stores through another type. -/
  | decorated (className : String) (impl : SqlType)
  deriving Repr, BEq, Inhabited

namespace SqlType

/-- The class name of a type. -/
def className : SqlType → String
  | .basic n _ => n
  | .enumeration n _ => n
  | .array n _ => n
  | .decorated n _ => n

/-- The tag a type is classified under on a backend (none for no backend). -/
def tag (b : Option Backend) : SqlType → String
  | t =>
    match b.bind (·.classify? t.className) with
    | some tag => if tag.isEmpty then plain t else tag
    | none => plain t
where
  /-- Classification without the backend's own rule at the top. -/
  plain : SqlType → String
    | .decorated _ impl => tag b impl
    | t =>
      let low := Text.lower t.className
      if (low.splitOn "vector").length > 1 then "vector"
      else if (low.splitOn "geometry").length > 1 then "geometry"
      else match t with
        | .basic _ (some f) => f.tag
        | .enumeration _ _ => "enum"
        | .array _ _ => "array"
        | _ => low

/-- The stored values of an enumeration (none for other types). A decorator
answers for the type it stores through. -/
def enumValues : SqlType → List String
  | .enumeration _ vs => vs
  | .decorated _ impl => impl.enumValues
  | _ => []

/-- The item type of an array, read through decorators as `enumValues` is. -/
def itemType? : SqlType → Option SqlType
  | .array _ item => some item
  | .decorated _ impl => impl.itemType?
  | _ => none

end SqlType

/-- Type classes by name, as a catalog of column types names them: the plain
names of the standard library and names under `postgresql.`, `mysql.` and
`sqlite.`. -/
def namedSqlType? (name : String) : Option SqlType :=
  let b (c : String) (f : Family) : Option SqlType := some (.basic c (some f))
  let other (c : String) : Option SqlType := some (.basic c none)
  match name with
  -- the standard library
  | "String" => b "String" .text | "Text" => b "Text" .text | "Unicode" => b "Unicode" .text
  | "UnicodeText" => b "UnicodeText" .text | "VARCHAR" => b "VARCHAR" .text
  | "NVARCHAR" => b "NVARCHAR" .text | "CHAR" => b "CHAR" .text | "NCHAR" => b "NCHAR" .text
  | "TEXT" => b "TEXT" .text | "CLOB" => b "CLOB" .text
  | "Integer" => b "Integer" .integer | "SmallInteger" => b "SmallInteger" .integer
  | "BigInteger" => b "BigInteger" .bigint | "INTEGER" => b "INTEGER" .integer
  | "INT" => b "INTEGER" .integer | "SMALLINT" => b "SMALLINT" .integer
  | "BIGINT" => b "BIGINT" .bigint
  | "Numeric" => b "Numeric" .decimal | "NUMERIC" => b "NUMERIC" .decimal
  | "DECIMAL" => b "DECIMAL" .decimal
  | "Float" => b "Float" .float | "FLOAT" => b "FLOAT" .float | "REAL" => b "REAL" .float
  | "Double" => b "Double" .float | "DOUBLE" => b "DOUBLE" .float
  | "DOUBLE_PRECISION" => b "DOUBLE_PRECISION" .float
  | "DateTime" => b "DateTime" .timestamp | "DATETIME" => b "DATETIME" .timestamp
  | "TIMESTAMP" => b "TIMESTAMP" .timestamp
  | "Date" => b "Date" .date | "DATE" => b "DATE" .date
  | "Time" => b "Time" .time | "TIME" => b "TIME" .time
  | "Interval" => some (.decorated "Interval" (.basic "DateTime" (some .timestamp)))
  | "Boolean" => b "Boolean" .boolean | "BOOLEAN" => b "BOOLEAN" .boolean
  | "MatchType" => b "MatchType" .boolean
  | "LargeBinary" => b "LargeBinary" .binary | "BLOB" => b "BLOB" .binary
  | "BINARY" => other "BINARY" | "VARBINARY" => other "VARBINARY"
  | "PickleType" => some (.decorated "PickleType" (.basic "LargeBinary" (some .binary)))
  | "JSON" => b "JSON" .json
  | "Uuid" => b "Uuid" .uuid | "UUID" => b "UUID" .uuid
  | "NullType" => other "NullType" | "TupleType" => other "TupleType"
  | "TypeEngine" => other "TypeEngine" | "UserDefinedType" => other "UserDefinedType"
  | "ExternalType" => other "ExternalType" | "Indexable" => other "Indexable"
  | "Concatenable" => other "Concatenable" | "SchemaType" => other "SchemaType"
  | "Emulated" => other "Emulated" | "NativeForEmulated" => other "NativeForEmulated"
  -- PostgreSQL
  | "postgresql.BIT" => other "BIT" | "postgresql.BYTEA" => b "BYTEA" .binary
  | "postgresql.CIDR" => other "CIDR" | "postgresql.CITEXT" => b "CITEXT" .text
  | "postgresql.HSTORE" => other "HSTORE" | "postgresql.INET" => other "INET"
  | "postgresql.INTERVAL" => other "INTERVAL" | "postgresql.JSON" => b "JSON" .json
  | "postgresql.JSONB" => b "JSONB" .json | "postgresql.JSONPATH" => other "JSONPATH"
  | "postgresql.MACADDR" => other "MACADDR" | "postgresql.MACADDR8" => other "MACADDR8"
  | "postgresql.MONEY" => other "MONEY" | "postgresql.OID" => other "OID"
  | "postgresql.REGCLASS" => other "REGCLASS" | "postgresql.REGCONFIG" => other "REGCONFIG"
  | "postgresql.TIME" => b "TIME" .time | "postgresql.TIMESTAMP" => b "TIMESTAMP" .timestamp
  | "postgresql.TSQUERY" => other "TSQUERY" | "postgresql.TSVECTOR" => other "TSVECTOR"
  | "postgresql.UUID" => b "UUID" .uuid | "postgresql.DOUBLE_PRECISION" => b "DOUBLE_PRECISION" .float
  | "postgresql.INTEGER" => b "INTEGER" .integer | "postgresql.BIGINT" => b "BIGINT" .bigint
  | "postgresql.SMALLINT" => b "SMALLINT" .integer | "postgresql.VARCHAR" => b "VARCHAR" .text
  | "postgresql.CHAR" => b "CHAR" .text | "postgresql.TEXT" => b "TEXT" .text
  | "postgresql.BOOLEAN" => b "BOOLEAN" .boolean | "postgresql.FLOAT" => b "FLOAT" .float
  | "postgresql.NUMERIC" => b "NUMERIC" .decimal | "postgresql.REAL" => b "REAL" .float
  | "postgresql.DATE" => b "DATE" .date
  | "postgresql.INT4RANGE" => other "INT4RANGE" | "postgresql.INT8RANGE" => other "INT8RANGE"
  | "postgresql.NUMRANGE" => other "NUMRANGE" | "postgresql.DATERANGE" => other "DATERANGE"
  | "postgresql.TSRANGE" => other "TSRANGE" | "postgresql.TSTZRANGE" => other "TSTZRANGE"
  | "postgresql.INT4MULTIRANGE" => other "INT4MULTIRANGE"
  | "postgresql.INT8MULTIRANGE" => other "INT8MULTIRANGE"
  | "postgresql.NUMMULTIRANGE" => other "NUMMULTIRANGE"
  | "postgresql.DATEMULTIRANGE" => other "DATEMULTIRANGE"
  | "postgresql.TSMULTIRANGE" => other "TSMULTIRANGE"
  | "postgresql.TSTZMULTIRANGE" => other "TSTZMULTIRANGE"
  -- MySQL
  | "mysql.YEAR" => other "YEAR" | "mysql.TINYINT" => b "TINYINT" .integer
  | "mysql.SMALLINT" => b "SMALLINT" .integer | "mysql.MEDIUMINT" => b "MEDIUMINT" .integer
  | "mysql.INTEGER" => b "INTEGER" .integer | "mysql.BIGINT" => b "BIGINT" .bigint
  | "mysql.DOUBLE" => b "DOUBLE" .float | "mysql.FLOAT" => b "FLOAT" .float
  | "mysql.REAL" => b "REAL" .float | "mysql.DECIMAL" => b "DECIMAL" .decimal
  | "mysql.NUMERIC" => b "NUMERIC" .decimal | "mysql.BIT" => other "BIT"
  | "mysql.LONGBLOB" => other "LONGBLOB" | "mysql.MEDIUMBLOB" => other "MEDIUMBLOB"
  | "mysql.TINYBLOB" => other "TINYBLOB" | "mysql.BLOB" => b "BLOB" .binary
  | "mysql.LONGTEXT" => b "LONGTEXT" .text | "mysql.MEDIUMTEXT" => b "MEDIUMTEXT" .text
  | "mysql.TINYTEXT" => b "TINYTEXT" .text | "mysql.TEXT" => b "TEXT" .text
  | "mysql.CHAR" => b "CHAR" .text | "mysql.VARCHAR" => b "VARCHAR" .text
  | "mysql.NCHAR" => b "NCHAR" .text | "mysql.NVARCHAR" => b "NVARCHAR" .text
  | "mysql.DATETIME" => b "DATETIME" .timestamp | "mysql.TIMESTAMP" => b "TIMESTAMP" .timestamp
  | "mysql.TIME" => b "TIME" .time | "mysql.DATE" => b "DATE" .date
  | "mysql.JSON" => b "JSON" .json | "mysql.BOOLEAN" => b "BOOLEAN" .boolean
  | "mysql.BINARY" => other "BINARY" | "mysql.VARBINARY" => other "VARBINARY"
  -- SQLite
  | "sqlite.JSON" => b "JSON" .json | "sqlite.DATETIME" => b "DATETIME" .timestamp
  | "sqlite.DATE" => b "DATE" .date | "sqlite.TIME" => b "TIME" .time
  | "sqlite.BLOB" => b "BLOB" .binary | "sqlite.BOOLEAN" => b "BOOLEAN" .boolean
  | "sqlite.CHAR" => b "CHAR" .text | "sqlite.DECIMAL" => b "DECIMAL" .decimal
  | "sqlite.FLOAT" => b "FLOAT" .float | "sqlite.INTEGER" => b "INTEGER" .integer
  | "sqlite.NUMERIC" => b "NUMERIC" .decimal | "sqlite.REAL" => b "REAL" .float
  | "sqlite.SMALLINT" => b "SMALLINT" .integer | "sqlite.TEXT" => b "TEXT" .text
  | "sqlite.TIMESTAMP" => b "TIMESTAMP" .timestamp | "sqlite.VARCHAR" => b "VARCHAR" .text
  -- the custom types of the fixtures
  | "Geometry" => other "Geometry" | "Vector" => other "Vector"
  | _ => none

/-- A type built from a class name and arguments: an enumeration takes its
values, an array or a decorator takes the name of its inner type, and the
arguments of any other class (lengths, precisions, flags) leave its family
as it is. -/
def buildSqlType? (name : String) (args : List String) : Option SqlType :=
  match name, args with
  | "Enum", vs => some (.enumeration "Enum" vs)
  | "postgresql.ENUM", vs => some (.enumeration "ENUM" vs)
  | "mysql.ENUM", vs => some (.enumeration "ENUM" vs)
  | "mysql.SET", _ => some (.basic "SET" (some .text))
  | "ARRAY", [item] => (namedSqlType? item).map (.array "ARRAY")
  | "postgresql.ARRAY", [item] => (namedSqlType? item).map (.array "ARRAY")
  | "Decorated", [impl] => (namedSqlType? impl).map (.decorated "Decorated")
  | "ARRAY", _ | "postgresql.ARRAY", _ | "Decorated", _ => none
  | n, _ => namedSqlType? n

end TableGraph
