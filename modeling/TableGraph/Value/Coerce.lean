import TableGraph.Value.Literal
import TableGraph.Number.Parse
import TableGraph.Failure

/-!
# Coercions of values

The general conversions that converters apply to caller values, with the
failures they raise:

* `Value.items` walks a value: the items of a list or tuple, the characters
  of a text, the bytes of a byte string, the keys of an object.
* `Value.toFloat` makes a double of a truth value, a number, a decimal or
  a numeral in text or in bytes.
* `Value.truncateInt` makes an integer of a truth value, a number or a
  decimal by dropping the fraction, of a numeral in bytes, or of a UUID.
* `Value.byteString` makes bytes of a count (that many zero bytes), of a
  byte string, or of a walkable value whose items are integers in `0..255`;
  a count is refused when it is no size, when it leaves no room for the
  string's header, and (for want of memory) past a million.
* `Value.index` takes one item of a list or tuple, `Value.field` one field
  of a record.
* `Value.size` is the length of a text, container or byte string.
-/

namespace TableGraph

namespace Value

/-- A value of the wrong kind. -/
def typeError (message : String) : Failure := ⟨.badType, message⟩

/-- A value of the right kind outside its domain. -/
def valueError (message : String) : Failure := ⟨.badValue, message⟩

/-- The items a walk over a value visits. -/
def items (v : Value) : Outcome (List Value) :=
  match v with
  | .list xs => .ok xs
  | .tuple xs => .ok xs
  | .str s => .ok (s.toList.map fun c => .str (String.singleton c))
  | .strCodes cs => .ok (cs.map fun n => ofCodes [n])
  | .bytes bs => .ok (bs.map fun b => .int b.toNat)
  | .dict es => .ok (es.map fun (k, _) => .str k)
  | _ => .error (typeError ("'" ++ v.kindName ++ "' object is not iterable"))

/-- The text of a byte string that numbers are read from: its bytes must be
ASCII, and the only blanks it may carry are ASCII ones. -/
def numeralText? (bs : List UInt8) : Option String :=
  if bs.all fun b => b < 0x80 && !(0x1C ≤ b && b ≤ 0x1F) then
    some (String.ofList (bs.map fun b => Char.ofNat b.toNat))
  else Option.none

/-- The double of an integer; one past the range of doubles overflows. -/
def intToFloat (n : Int) : Outcome Float :=
  let x := Number.floatOfInt n
  match Number.Binary64.ofFloat x with
  | .infinite _ => .error ⟨.overflow, "int too large to convert to float"⟩
  | _ => .ok x

/-- A value as a double. -/
def toFloat (v : Value) : Outcome Float :=
  match v with
  | .bool b => .ok (if b then 1.0 else 0.0)
  | .int n => intToFloat n
  | .float x => .ok x
  | .decimal d =>
    if d.isSignaling then .error (valueError "cannot convert signaling NaN to float")
    else .ok d.toFloat
  | .str s =>
    match Number.readFloat? s with
    | some x => .ok x
    | Option.none => .error (valueError ("could not convert string to float: " ++ textLiteral s))
  | .strCodes cs => .error (valueError ("could not convert string to float: " ++ codesLiteral cs))
  | .bytes bs =>
    match (numeralText? bs).bind Number.readFloat? with
    | some x => .ok x
    | Option.none => .error (valueError ("could not convert string to float: " ++ bytesLiteral bs))
  | _ => .error (typeError ("float() argument must be a string or a real number, not '" ++ v.kindName ++ "'"))

/-- A value other than text as an integer: a number or decimal with the
fraction dropped, a byte string read as a base-ten numeral, a UUID as its
128-bit number. -/
def truncateInt (v : Value) : Outcome Int :=
  match v with
  | .bool b => .ok (if b then 1 else 0)
  | .int n => .ok n
  | .uuid n => .ok n
  | .bytes bs =>
    match (numeralText? bs).bind Number.readInt? with
    | some n => .ok n
    | Option.none => .error (valueError ("invalid literal for int() with base 10: " ++ bytesLiteral bs))
  | .float x =>
    match Number.Binary64.ofFloat x with
    | .nan => .error (valueError "cannot convert float NaN to integer")
    | .infinite _ => .error ⟨.overflow, "cannot convert float infinity to integer"⟩
    | .finite .. => .ok ((Number.truncate x).getD 0)
  | .decimal d =>
    match d with
    | .nan .. => .error (valueError "cannot convert NaN to integer")
    | .infinite _ => .error ⟨.overflow, "cannot convert Infinity to integer"⟩
    | .finite .. => .ok (d.truncate?.getD 0)
  | .strCodes cs => .error (valueError ("invalid literal for int() with base 10: " ++ codesLiteral cs))
  | _ => .error (typeError
      ("int() argument must be a string, a bytes-like object or a real number, not '" ++ v.kindName ++ "'"))

/-- One byte of a byte string under construction: an integer in `0..255`. -/
def byteOf (v : Value) : Outcome UInt8 :=
  match v with
  | .bool b => .ok (if b then 1 else 0)
  | .int n =>
    if 0 ≤ n && n < 256 then .ok n.toNat.toUInt8
    else .error (valueError "bytes must be in range(0, 256)")
  | _ => .error (typeError ("'" ++ v.kindName ++ "' object cannot be interpreted as an integer"))

/-- Bytes of a list of values, each an integer in `0..255`. -/
def bytesOfItems (xs : List Value) : Outcome (List UInt8) :=
  xs.mapM byteOf

/-- The most zero bytes a count builds; a larger count that is still a
valid size fails for want of memory. -/
def maxByteCount : Nat := 1000000

/-- The largest index: counts past it are no sizes at all. -/
def indexLimit : Nat := 9223372036854775807

/-- The largest size of a byte string: the largest index less the 33 bytes
of the object that holds the string. -/
def byteStringLimit : Nat := indexLimit - 33

/-- A value other than text as a byte string. -/
def byteString (v : Value) : Outcome (List UInt8) :=
  match v with
  | .bytes bs => .ok bs
  | .bool b => .ok (if b then [0] else [])
  | .int n =>
    if n < 0 then .error (valueError "negative count")
    else if n.toNat > indexLimit then .error ⟨.overflow, "cannot fit 'int' into an index-sized integer"⟩
    else if n.toNat > byteStringLimit then .error ⟨.overflow, "byte string is too large"⟩
    else if n.toNat > maxByteCount then .error ⟨.memory, ""⟩
    else .ok (List.replicate n.toNat 0)
  | .list xs => bytesOfItems xs
  | .tuple xs => bytesOfItems xs
  | .dict es => bytesOfItems (es.map fun (k, _) => .str k)
  | _ => .error (typeError ("cannot convert '" ++ v.kindName ++ "' object to bytes"))

/-- The item at a position of a list or tuple. -/
def index (v : Value) (i : Nat) : Outcome Value :=
  match v with
  | .list xs => match xs[i]? with
    | some x => .ok x
    | Option.none => .error ⟨.badIndex, "list index out of range"⟩
  | .tuple xs => match xs[i]? with
    | some x => .ok x
    | Option.none => .error ⟨.badIndex, "tuple index out of range"⟩
  | _ => .error (typeError ("'" ++ v.kindName ++ "' object is not subscriptable"))

/-- The value under a key of an object. -/
def entry (es : List (String × Value)) (key : String) : Outcome Value :=
  match lookup? es key with
  | some x => .ok x
  | Option.none => .error ⟨.missingKey, textLiteral key⟩

/-- A field of a record: only the points have fields, `x` and `y`. -/
def field (v : Value) (name : String) : Outcome Value :=
  match v, name with
  | .point x _, "x" => .ok x
  | .point _ y, "y" => .ok y
  | _, _ => .error ⟨.missingAttribute, "'" ++ v.kindName ++ "' object has no attribute " ++ textLiteral name⟩

/-- The length of a text (in characters), container or byte string. -/
def size (v : Value) : Outcome Nat :=
  match v with
  | .str s => .ok s.length
  | .strCodes cs => .ok cs.length
  | .bytes bs => .ok bs.length
  | .list xs => .ok xs.length
  | .tuple xs => .ok xs.length
  | .dict es => .ok es.length
  | _ => .error (typeError ("object of type '" ++ v.kindName ++ "' has no len()"))

end Value

end TableGraph
