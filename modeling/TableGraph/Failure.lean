import TableGraph.Number.Decimal

/-!
# Failures

Every operation of the library either answers or fails with a `Failure`: a
kind and a message. The kinds are the causes a caller can tell apart.

* `schemaBuild`: the declared tables cannot be compiled into an API;
* `validation`: request arguments have an invalid shape;
* `remap`: a value cannot be converted between wire and storage form;
* `registryFrozen`: a registry was changed after a compile consumed it;
* `badType`, `badValue`, `missingKey`, `badIndex`, `missingAttribute`,
  `overflow`: a general fault of the value at hand (wrong kind of value,
  value out of its domain, key or attribute absent, number too large);
* `notMapped`: something that is no mapped table was given as one;
* `integrity`: the store refused a row;
* `invalidOperation`: a text that is no decimal number was read as one, or
  decimal arithmetic met a signaling NaN or multiplied infinity by zero;
* `recursion`: a conversion descended into a value without end;
* `badArgument`: a predicate compares a column with a truth value or null
  by an operator other than equality;
* `badRequest`: the request itself names an unknown operation or fixture;
* `query`: a query breaks the rules of the query language or of the types
  of its schema;
* `noOperation`: a document holds no operation of the name asked for (or
  none at all when no name is asked for);
* `lookup`: a stored value is none of its enumeration's values;
* `programming`: a value of a kind storage cannot hold was handed to it;
* `jsonDecode`: a stored JSON document cannot be read;
* `operational`: a statement names a table or column storage does not have;
* `missingQuery`: a request step carries no document;
* `decimalOverflow`: decimal arithmetic left the exponent range;
* `memory`: a value too large to build was asked for;
* `unicodeEncode`: a text holding a lone surrogate was encoded as UTF-8;
* `statement`: a column type could not prepare a parameter of a statement;
  the message names the fault it met;
* `duplicatedTypeName`: two types of a schema under construction share a
  name.

`ErrorKind.name` is the name under which a kind is reported.
-/

namespace TableGraph

/-- The causes of failure. -/
inductive ErrorKind where
  | schemaBuild
  | validation
  | remap
  | registryFrozen
  | badType
  | badValue
  | missingKey
  | badIndex
  | missingAttribute
  | overflow
  | notMapped
  | integrity
  | invalidOperation
  | recursion
  | badArgument
  | badRequest
  | query
  | noOperation
  | lookup
  | programming
  | jsonDecode
  | operational
  | missingQuery
  | decimalOverflow
  | memory
  | system
  | unicodeEncode
  | statement
  | duplicatedTypeName
  deriving Repr, BEq, DecidableEq, Inhabited

namespace ErrorKind

/-- The name under which a kind is reported. -/
def name : ErrorKind → String
  | .schemaBuild => "SchemaBuildError"
  | .validation => "ValidationError"
  | .remap => "RemapError"
  | .registryFrozen => "RegistryFrozenError"
  | .badType => "TypeError"
  | .badValue => "ValueError"
  | .missingKey => "KeyError"
  | .badIndex => "IndexError"
  | .missingAttribute => "AttributeError"
  | .overflow => "OverflowError"
  | .notMapped => "NoInspectionAvailable"
  | .integrity => "IntegrityError"
  | .invalidOperation => "InvalidOperation"
  | .recursion => "RecursionError"
  | .badArgument => "ArgumentError"
  | .badRequest => "BadRequest"
  | .query => "GraphQLError"
  | .noOperation => "CannotGetOperationTypeError"
  | .lookup => "LookupError"
  | .programming => "ProgrammingError"
  | .jsonDecode => "JSONDecodeError"
  | .operational => "OperationalError"
  | .missingQuery => "MissingQueryError"
  | .decimalOverflow => "Overflow"
  | .memory => "MemoryError"
  | .system => "OSError"
  | .unicodeEncode => "UnicodeEncodeError"
  | .statement => "StatementError"
  | .duplicatedTypeName => "DuplicatedTypeName"

end ErrorKind

/-- A failure: its cause and its message. -/
structure Failure where
  kind : ErrorKind
  message : String
  deriving Repr, BEq, Inhabited

/-- The result of an operation that may fail. -/
abbrev Outcome (α : Type) := Except Failure α

namespace Failure

/-- A schema that cannot be compiled. -/
def schemaBuild (message : String) : Failure := ⟨.schemaBuild, message⟩

/-- Request arguments of an invalid shape. -/
def validation (message : String) : Failure := ⟨.validation, message⟩

/-- A value that cannot be converted. -/
def remap (message : String) : Failure := ⟨.remap, message⟩

/-- A text refused as a decimal: the invalid-operation signal, naming the
syntax error when the text is no numeral. -/
def decimalFault : Number.DecimalFault → Failure
  | .malformed => ⟨.invalidOperation, "[<class 'decimal.ConversionSyntax'>]"⟩
  | .range => ⟨.invalidOperation, "[<class 'decimal.InvalidOperation'>]"⟩

/-- A stopped decimal computation, naming the signal that stopped it. -/
def decimalSignal : Number.DecimalSignal → Failure
  | .invalidOperation => ⟨.invalidOperation, "[<class 'decimal.InvalidOperation'>]"⟩
  | .overflow => ⟨.decimalOverflow, "[<class 'decimal.Overflow'>]"⟩

end Failure

end TableGraph
