import TableGraph.Samples.Gadgets
import TableGraph.Samples.SchemaOnly
import TableGraph.Registry.Rows

/-!
# Sample rows

The rows a database starts with, table by table, each row naming the
columns it sets by attribute key; columns left out take their defaults.

* `users`: Alice, an administrator, and Bob, whom Alice invited;
* `populated`: the users, three posts (two by Alice) and four comments, three
  of them on the first post;
* `gadgets`: four gadgets covering every column type, with nulls, extreme
  integers and a label past ASCII; five parts on three of the gadgets; and
  five notes, one of them on a part that does not exist.
-/

namespace TableGraph.Samples

/-- A date-time without offset. -/
def at_ (y mo d h mi : Nat) : Value := .datetime ⟨⟨y, mo, d⟩, ⟨h, mi, 0, 0, none⟩⟩

/-- The sample users. -/
def userRows : List Row :=
  [[("id", .int 1), ("name", .str "Alice Johnson"), ("email", .str "alice@example.com"), ("is_admin", .bool true)],
   [("id", .int 2), ("name", .str "Bob Smith"), ("email", .none), ("is_admin", .bool false),
    ("invited_by_id", .int 1)]]

/-- The sample posts. -/
def postRows : List Row :=
  [[("id", .int 1), ("content", .str "A"), ("author_id", .int 1), ("status", .str "PUBLISHED"),
    ("metadata_json", .dict [("tags", .list [.str "intro"]), ("views", .int 10)]),
    ("payload", .bytes [0, 1, 255]), ("views", .int 9007199254740993), ("created_at", at_ 2024 1 1 9 30)],
   [("id", .int 2), ("content", .str "B"), ("author_id", .int 1), ("status", .str "DRAFT"),
    ("created_at", at_ 2024 1 2 9 30)],
   [("id", .int 3), ("content", .str "A"), ("author_id", .int 2), ("status", .none),
    ("created_at", at_ 2024 1 3 9 30)]]

/-- The sample comments. -/
def commentRows : List Row :=
  [[("id", .int 1), ("post_id", .int 1), ("body", .str "first!"), ("rating", .int 5)],
   [("id", .int 2), ("post_id", .int 1), ("body", .str "nice"), ("rating", .int 3)],
   [("id", .int 3), ("post_id", .int 1), ("body", .str "meh"), ("rating", .int 1)],
   [("id", .int 4), ("post_id", .int 3), ("body", .str "ok"), ("rating", .int 4)]]

/-- A decimal from its text. -/
def decimal (s : String) : Value := ((Number.Decimal.ofText? s).map Value.decimal).getD .none

/-- A point given as a pair. -/
def pair (x y : Float) : Value := .tuple [.float x, .float y]

/-- The sample gadgets. -/
def gadgetRows : List Row :=
  [[("id", .int 1), ("label", .str "Alpha"), ("kind", .str "retired"), ("price", decimal "19.99"),
    ("ratio", .float 0.1), ("born", .date ⟨2020, 5, 17⟩), ("alarm", .time ⟨7, 45, 0, 0, none⟩),
    ("seen_at", at_ 2024 6 1 8 0), ("token", .uuid 0x12345678123456781234567812345678),
    ("data", .dict [("a", .list [.int 1, .int 2]), ("b", .none)]), ("blob", .bytes [0, 127, 255]),
    ("big", .int 9223372036854775807), ("active", .bool true), ("location", pair 1 2),
    ("spot", pair 3.5 (-4)), ("embedding", .list [.float 0.5, .float 1, .float (-2)])],
   [("id", .int 2), ("label", .str "Beta"), ("kind", .str "in review"), ("price", decimal "-5.50"),
    ("ratio", .float 0.2), ("born", .date ⟨1999, 12, 31⟩), ("alarm", .time ⟨23, 59, 59, 500000, none⟩),
    ("seen_at", at_ 2000 1 1 0 0), ("token", .uuid 0), ("blob", .bytes []),
    ("big", .int (-9223372036854775808)), ("active", .bool false), ("location", pair 0 0),
    ("embedding", .list [])],
   [("id", .int 3), ("label", .str "Gamma é中"), ("kind", .str "2nd"), ("ratio", .float 0.25),
    ("active", .bool true), ("spot", pair 0.001 1e10)],
   [("id", .int 4), ("label", .str "delta"), ("price", decimal "100"), ("ratio", .float 3),
    ("born", .date ⟨2024, 1, 1⟩), ("alarm", .time ⟨6, 30, 0, 0, none⟩), ("seen_at", at_ 2024 1 1 12 0),
    ("big", .int 0), ("active", .bool true), ("location", pair (-1.25) 2.5), ("spot", pair 0 0),
    ("embedding", .list [.float 1, .float 1, .float 1])]]

/-- The sample parts. -/
def partRows : List Row :=
  [[("id", .int 1), ("gadget_id", .int 1), ("name", .str "bolt"), ("qty", .int 4)],
   [("id", .int 2), ("gadget_id", .int 1), ("name", .str "nut"), ("qty", .int 4)],
   [("id", .int 3), ("gadget_id", .int 1), ("name", .str "gear"), ("qty", .int 1)],
   [("id", .int 4), ("gadget_id", .int 2), ("name", .str "bolt"), ("qty", .int 2)],
   [("id", .int 5), ("gadget_id", .int 4), ("name", .str "spring"), ("qty", .int 10)]]

/-- The sample notes. -/
def noteRows : List Row :=
  [[("id", .int 1), ("gadget_id", .int 1), ("part_name", .str "bolt"), ("text", .str "tighten")],
   [("id", .int 2), ("gadget_id", .int 1), ("part_name", .str "bolt"), ("text", .str "check torque")],
   [("id", .int 3), ("gadget_id", .int 2), ("part_name", .str "bolt"), ("text", .str "rusty")],
   [("id", .int 4), ("gadget_id", .int 1), ("part_name", .str "gear"), ("text", .str "oil")],
   [("id", .int 5), ("gadget_id", .int 3), ("part_name", .str "bolt"), ("text", .str "loose")]]

/-- The rows of a seed, by table name; none for an unknown seed. -/
def seedRows? : String → Option (List (String × List Row))
  | "none" => some []
  | "users" => some [("users", userRows)]
  | "populated" => some [("users", userRows), ("posts", postRows), ("post_comments", commentRows)]
  | "gadgets" => some [("gadgets", gadgetRows), ("gadget_parts", partRows), ("part_notes", noteRows)]
  | _ => none

/-- The seed a model set starts with when none is named. -/
def defaultSeed : String → String
  | "blog" => "populated"
  | "gadgets" => "gadgets"
  | _ => "none"

end TableGraph.Samples
