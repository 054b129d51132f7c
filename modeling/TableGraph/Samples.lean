import TableGraph.Samples.Blog
import TableGraph.Samples.Gadgets
import TableGraph.Samples.SchemaOnly

/-!
# Sample models by name

The sample model sets under their names, and their mapped classes under the
class names.
-/

namespace TableGraph.Samples

/-- The model set of a name. -/
def modelSet? : String → Option ModelSet
  | "blog" => some blog
  | "gadgets" => some gadgetModels
  | "m2m" => some manyToMany
  | "legacy" => some legacy
  | "pg" => some payroll
  | _ => none

/-- Every mapped class of the samples. -/
def classes : List MappedClass :=
  blog.classes ++ gadgetModels.classes ++ manyToMany.classes ++ legacy.classes ++ payroll.classes

/-- The mapped class of a name. -/
def mappedClass? (name : String) : Option MappedClass :=
  classes.find? (·.name == name)

end TableGraph.Samples
