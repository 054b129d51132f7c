import TableGraph.Samples.Blog

/-!
# The gadget models

Gadgets carry a column of nearly every kind of type; each gadget has parts,
and notes are attached to a part through the composite key of its gadget
and its name:

* `gadgets`: a label, a kind out of four values (two of which are not valid
  API names), a price, a ratio, a date, a time of day, a time stamp, a UUID,
  a JSON document, a binary value, a 64-bit integer, an active flag that
  defaults to true, two points (the second travels as a list) and a vector;
* `gadget_parts`: the gadget, a name and a quantity that defaults to one;
* `part_notes`: the gadget, the part's name and a text.
-/

namespace TableGraph.Samples

/-- The `gadgets` table. -/
def gadgets : TableDecl :=
  { name := "gadgets", comment := some "Things with many column types"
    columns := [idColumn, { plain "label" text false with comment := some "Display label" },
      plain "kind" (.enumeration "Enum" ["draft", "in review", "2nd", "_x"]) true,
      plain "price" (.basic "Numeric" (some .decimal)) true,
      plain "ratio" (.basic "Float" (some .float)) true,
      plain "born" (.basic "Date" (some .date)) true,
      plain "alarm" (.basic "Time" (some .time)) true,
      plain "seen_at" dateTime true,
      plain "token" (.basic "Uuid" (some .uuid)) true,
      plain "data" json true, plain "blob" binary true, plain "big" bigInteger true,
      { plain "active" boolean false with default := some (.bool true) },
      plain "location" (.basic "Geometry" none) true,
      { plain "spot" (.basic "Geometry" none) true with info := [("mode", .str "tuple")] },
      plain "embedding" (.basic "Vector" none) true] }

/-- The `gadget_parts` table. -/
def gadgetParts : TableDecl :=
  { name := "gadget_parts"
    columns := [idColumn, plain "gadget_id" integer false, plain "name" text false,
      { plain "qty" integer false with default := some (.int 1) }] }

/-- The `part_notes` table. -/
def partNotes : TableDecl :=
  { name := "part_notes"
    columns := [idColumn, plain "gadget_id" integer false, plain "part_name" text false,
      plain "text" text false] }

/-- The class of gadgets. -/
def gadgetClass : MappedClass :=
  { name := "Gadget", table := gadgets
    relations := [{ key := "parts", target := "gadget_parts", many := true, pairs := [("id", "gadget_id")] }] }

/-- The class of parts. -/
def partClass : MappedClass :=
  { name := "Part", table := gadgetParts
    relations := [
      { key := "gadget", target := "gadgets", many := false, pairs := [("gadget_id", "id")] },
      { key := "notes", target := "part_notes", many := true
        pairs := [("gadget_id", "gadget_id"), ("name", "part_name")] }] }

/-- The class of part notes. -/
def partNoteClass : MappedClass :=
  { name := "PartNote", table := partNotes
    relations := [{ key := "part", target := "gadget_parts", many := false
                    pairs := [("gadget_id", "gadget_id"), ("part_name", "name")] }] }

/-- The gadget models. -/
def gadgetModels : ModelSet :=
  { tables := [gadgets, gadgetParts, partNotes], classes := [gadgetClass, partClass, partNoteClass] }

end TableGraph.Samples
