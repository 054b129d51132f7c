import TableGraph.Samples.Blog

/-!
# Models without sample rows

* articles and tags joined by an association table (the many-to-many
  relations are not traversable);
* accounts whose `display` attribute is stored as `display_name` next to a
  column no attribute maps, and pairs with a composite primary key;
* sheets and staff with types only one backend has: arrays, a network
  address and a binary JSON document; staff has a subclass that shares its
  table.
-/

namespace TableGraph.Samples

/-- The `articles` table. -/
def articles : TableDecl :=
  { name := "articles", columns := [idColumn, plain "title" text true] }

/-- The `tags` table. -/
def tags : TableDecl :=
  { name := "tags", columns := [idColumn, { plain "label" text false with serverDefault := some "x" }] }

/-- The association table of articles and tags. -/
def articleTags : TableDecl :=
  { name := "article_tags"
    columns := [{ plain "article_id" integer false with primaryKey := true },
      { plain "tag_id" integer false with primaryKey := true }] }

/-- The class of articles. -/
def articleClass : MappedClass :=
  { name := "Article", table := articles
    relations := [{ key := "tags", target := "tags", many := true, pairs := [], viaAssociation := true }] }

/-- The class of tags. -/
def tagClass : MappedClass :=
  { name := "Tag", table := tags
    relations := [{ key := "articles", target := "articles", many := true, pairs := [], viaAssociation := true }] }

/-- Articles and tags. -/
def manyToMany : ModelSet :=
  { tables := [articles, tags, articleTags], classes := [articleClass, tagClass] }

/-- The `accounts` table. -/
def accounts : TableDecl :=
  { name := "accounts"
    columns := [{ idColumn with type := bigInteger }, { key := "display", name := "display_name", type := text },
      plain "legacy_code" text true] }

/-- The `pairs` table. -/
def pairs : TableDecl :=
  { name := "pairs"
    columns := [{ plain "a" integer false with primaryKey := true },
      { plain "b" integer false with primaryKey := true },
      { plain "note" text true with comment := some "free text" }] }

/-- The class of accounts; it leaves `legacy_code` unmapped. -/
def accountClass : MappedClass := { name := "Account", table := accounts }

/-- The class of pairs. -/
def pairClass : MappedClass := { name := "Pair", table := pairs }

/-- Accounts and pairs. -/
def legacy : ModelSet := { tables := [accounts, pairs], classes := [accountClass, pairClass] }

/-- An array column type over an item type. -/
def arrayOf (item : SqlType) : SqlType := .array "ARRAY" item

/-- The `sheets` table. -/
def sheets : TableDecl :=
  { name := "sheets"
    columns := [idColumn, { plain "scores" (arrayOf integer) false with default := some (.list []) },
      plain "tags" (arrayOf (.enumeration "Enum" ["red", "dark blue"])) true,
      plain "grid" (arrayOf bigInteger) true,
      plain "addr" (.basic "INET" none) true,
      { plain "doc" (.basic "JSONB" (some .json)) true with comment := some "raw document" },
      plain "spot" (.basic "Geometry" none) true] }

/-- The `staff` table. -/
def staff : TableDecl :=
  { name := "staff", comment := some "People on the payroll"
    columns := [{ idColumn with autoincrement := .never }, plain "kind" text false,
      { plain "name" text false with serverDefault := some "unnamed" },
      plain "sheet_id" integer true] }

/-- The relation of a staff member to a sheet. -/
def sheetRelation : RelationDecl :=
  { key := "sheet", target := "sheets", many := false, pairs := [("sheet_id", "id")] }

/-- The class of sheets. -/
def sheetClass : MappedClass := { name := "Sheet", table := sheets }

/-- The class of staff members. -/
def staffClass : MappedClass := { name := "Staff", table := staff, relations := [sheetRelation] }

/-- The class of managers, stored in the staff table. -/
def managerClass : MappedClass := { name := "Manager", table := staff, relations := [sheetRelation] }

/-- Sheets and staff. -/
def payroll : ModelSet :=
  { tables := [sheets, staff], classes := [sheetClass, staffClass, managerClass] }

end TableGraph.Samples
