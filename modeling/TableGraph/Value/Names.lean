import TableGraph.Text.Naming
import TableGraph.Value.Literal
import TableGraph.Failure

/-!
# Name conversions on values

The name conversions of `Text/Naming` are meant for texts, but a caller can
hand them any value. This module says what each conversion does then, step
by step as the conversion itself goes:

* a value that is false (see `Value.truthy`) comes back unchanged from
  `camelToSnake` and `snakeToCamel`, and is no API name;
* a pattern applied to a value that is no text is a type error (its own one
  for bytes);
* `snakeToCamel` first asks whether `_` is in the value: for a list or tuple
  that is an item equal to `"_"`, for an object a key `"_"`, and any other
  value that is no text cannot be asked;
* `capitalize` takes the first item (`v[:1]`) and upper-cases it: bytes
  upper-case their ASCII letters, lists and tuples have no upper case, an
  object cannot be cut, and any other value that is no text has no items;
* `enumMemberName` keeps a value that is an API name and otherwise names the
  member after its position, written as the plain text of the position.

A text holding lone surrogates goes through each conversion by its stand-ins
(see `Text.throughStandIns`): a lone surrogate is uncased and no letter,
digit or underscore, as a private-use character is.
-/

namespace TableGraph

namespace Value

/-- The type error of a text pattern applied to a value that is no text. -/
def patternRefusal (v : Value) : Failure :=
  match v with
  | .bytes _ => ⟨.badType, "cannot use a string pattern on a bytes-like object"⟩
  | _ => ⟨.badType, "expected string or bytes-like object, got '" ++ v.kindName ++ "'"⟩

/-- An ASCII small letter as a byte, upper-cased; any other byte unchanged. -/
def upperByte (b : UInt8) : UInt8 :=
  if 97 ≤ b.toNat && b.toNat ≤ 122 then b - 32 else b

/-- The value with its first item upper-cased. -/
def capitalizeName : Value → Outcome Value
  | .str s => .ok (.str (Text.capitalize s))
  | .strCodes cs => .ok (ofCodes (Text.throughStandIns Text.capitalize cs))
  | .bytes bs => .ok (.bytes ((bs.take 1).map upperByte ++ bs.drop 1))
  | .list _ => .error ⟨.missingAttribute, "'list' object has no attribute 'upper'"⟩
  | .tuple _ => .error ⟨.missingAttribute, "'tuple' object has no attribute 'upper'"⟩
  | .dict _ => .error ⟨.badType, "unhashable type: 'slice'"⟩
  | v => .error ⟨.badType, "'" ++ v.kindName ++ "' object is not subscriptable"⟩

/-- Whether `_` is in the value. -/
def holdsUnderscore : Value → Outcome Bool
  | .str s => .ok (s.toList.contains '_')
  | .strCodes cs => .ok (cs.contains '_'.toNat)
  | .list xs | .tuple xs => .ok (xs.any (· == .str "_"))
  | .dict es => .ok (es.any (·.1 == "_"))
  | .bytes _ => .error ⟨.badType, "a bytes-like object is required, not 'str'"⟩
  | v => .error ⟨.badType, "argument of type '" ++ v.kindName ++ "' is not iterable"⟩

/-- `camelToSnake` on a value. -/
def camelToSnakeName (v : Value) : Outcome Value :=
  if !v.truthy then .ok v
  else match v with
    | .str s => .ok (.str (Text.camelToSnake s))
    | .strCodes cs => .ok (ofCodes (Text.throughStandIns Text.camelToSnake cs))
    | _ => .error (patternRefusal v)

/-- `snakeToCamel` on a value. -/
def snakeToCamelName (v : Value) (upperFirst : Bool) : Outcome Value :=
  if !v.truthy then .ok v
  else do
    if !(← holdsUnderscore v) then
      if upperFirst then capitalizeName v else .ok v
    else match v with
      | .str s => .ok (.str (Text.snakeToCamel s upperFirst))
      | .strCodes cs => .ok (ofCodes (Text.throughStandIns (Text.snakeToCamel · upperFirst) cs))
      | _ => .error ⟨.missingAttribute, "'" ++ v.kindName ++ "' object has no attribute 'split'"⟩

/-- `pascalCase` on a value: `snakeToCamel` without a capital, then
`capitalize`. -/
def pascalCaseName (v : Value) : Outcome Value := do
  capitalizeName (← snakeToCamelName v false)

/-- Whether a value is an API name. -/
def isApiName (v : Value) : Outcome Bool :=
  if !v.truthy then .ok false
  else match v with
    | .str s => .ok (Text.isApiName s)
    | .strCodes cs => .ok (Text.testThroughStandIns Text.isApiName cs)
    | _ => .error (patternRefusal v)

/-- The member name of an enumeration value at a position. -/
def enumMemberName (v index : Value) : Outcome Value := do
  if ← isApiName v then pure v else pure (ofCodes (Text.codesOf "Option" ++ index.textCodes))

end Value

end TableGraph
