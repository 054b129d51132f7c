import TableGraph.Schema.Model

/-!
# The blog models

Users write posts and comment on them; a user may have been invited by
another user. Three tables, each mapped by one class:

* `users`: a name, an optional e-mail address, an administrator flag that
  defaults to false, and the user who sent the invitation;
* `posts`: the content, the author, a status stored by member name, a JSON
  document, a binary payload, a view count that may exceed 2^53, and a
  creation time with a default;
* `post_comments`: the post, the body and an optional rating.
-/

namespace TableGraph.Samples

/-- The integer column type. -/
def integer : SqlType := .basic "Integer" (some .integer)

/-- The variable-length text column type. -/
def text : SqlType := .basic "String" (some .text)

/-- The boolean column type. -/
def boolean : SqlType := .basic "Boolean" (some .boolean)

/-- The 64-bit integer column type. -/
def bigInteger : SqlType := .basic "BigInteger" (some .bigint)

/-- The date-and-time column type. -/
def dateTime : SqlType := .basic "DateTime" (some .timestamp)

/-- The JSON document column type. -/
def json : SqlType := .basic "JSON" (some .json)

/-- The binary column type. -/
def binary : SqlType := .basic "LargeBinary" (some .binary)

/-- An integer primary key drawing its values from storage. -/
def idColumn : ColumnDecl := { key := "id", name := "id", type := integer, nullable := false, primaryKey := true }

/-- A column whose stored name is its key. -/
def plain (key : String) (type : SqlType) (nullable : Bool) : ColumnDecl :=
  { key, name := key, type, nullable }

/-- The `users` table. -/
def users : TableDecl :=
  { name := "users"
    columns := [idColumn, plain "name" text false, plain "email" text true,
      { plain "is_admin" boolean false with default := some (.bool false) },
      plain "invited_by_id" integer true] }

/-- The `posts` table. -/
def posts : TableDecl :=
  { name := "posts"
    columns := [idColumn, plain "content" text false, plain "author_id" integer false,
      plain "status" (.enumeration "Enum" ["DRAFT", "PUBLISHED"]) true,
      plain "metadata_json" json true, plain "payload" binary true,
      plain "views" bigInteger true,
      { plain "created_at" dateTime false with
        default := some (.datetime ⟨⟨2024, 1, 1⟩, ⟨12, 0, 0, 0, none⟩⟩) }] }

/-- The `post_comments` table. -/
def postComments : TableDecl :=
  { name := "post_comments"
    columns := [idColumn, plain "post_id" integer false, plain "body" text false,
      plain "rating" integer true] }

/-- The class of users. -/
def userClass : MappedClass :=
  { name := "User", table := users
    relations := [
      { key := "posts", target := "posts", many := true, pairs := [("id", "author_id")] },
      { key := "invited_by", target := "users", many := false, pairs := [("invited_by_id", "id")] },
      { key := "invitees", target := "users", many := true, pairs := [("id", "invited_by_id")] }] }

/-- The class of posts. -/
def postClass : MappedClass :=
  { name := "Post", table := posts
    relations := [
      { key := "author", target := "users", many := false, pairs := [("author_id", "id")] },
      { key := "comments", target := "post_comments", many := true, pairs := [("id", "post_id")] }] }

/-- The class of comments. -/
def postCommentClass : MappedClass :=
  { name := "PostComment", table := postComments
    relations := [{ key := "post", target := "posts", many := false, pairs := [("post_id", "id")] }] }

/-- The blog models. -/
def blog : ModelSet :=
  { tables := [users, posts, postComments], classes := [userClass, postClass, postCommentClass] }

end TableGraph.Samples
