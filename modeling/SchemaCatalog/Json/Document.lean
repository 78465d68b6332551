import SchemaCatalog.Json.Token

/-!
# Reading a JSON document

The tokens of a document are read by a machine that keeps the arrays and objects it is inside of
on a stack. `Value.read?` reads a whole text; it refuses one in which more than a given number of
non-empty arrays and objects are open at once.
-/

namespace SchemaCatalog.Json

/-- An array or object that is being read; its items and fields so far stand last one first. -/
inductive Frame
  | array (before : List Value)
  /-- The value of the field `name` comes next. -/
  | object (before : Fields) (name : String)

/-- What may come next, inside of the open arrays and objects of the stack. -/
inductive Reader
  /-- A value. -/
  | value (stack : List Frame)
  /-- The first item of an array, or its end. -/
  | firstItem (stack : List Frame)
  /-- The first name of an object, or its end. -/
  | firstName (stack : List Frame)
  /-- Another name of an object. -/
  | nextName (stack : List Frame) (before : Fields)
  /-- The colon after a name. -/
  | colon (stack : List Frame) (before : Fields) (name : String)
  /-- What may follow a complete value. -/
  | complete (stack : List Frame) (v : Value)

namespace Reader

/-- Reads the first token of a value. -/
def valueStart (stack : List Frame) : Token → Option Reader
  | .literal v => some (.complete stack v)
  | .str s => some (.complete stack (.str s))
  | .openArray => some (.firstItem stack)
  | .openObject => some (.firstName stack)
  | _ => none

/-- Opens an array or object, unless that is one too many. -/
def enter (maxDepth : Nat) (stack : List Frame) (frame : Frame) : Option (List Frame) :=
  if stack.length < maxDepth then some (frame :: stack) else none

/-- Reads one token. -/
def step (maxDepth : Nat) (s : Reader) (t : Token) : Option Reader :=
  match s, t with
  | .value stack, t => valueStart stack t
  | .firstItem stack, .closeArray => some (.complete stack (.arr []))
  | .firstItem stack, t => do valueStart (← enter maxDepth stack (.array [])) t
  | .firstName stack, .closeObject => some (.complete stack (.obj []))
  | .firstName stack, .str name => some (.colon stack [] name)
  | .nextName stack before, .str name => some (.colon stack before name)
  | .colon stack before name, .colon =>
    (enter maxDepth stack (.object before name)).map .value
  | .complete (.array before :: stack) v, .comma => some (.value (.array (v :: before) :: stack))
  | .complete (.array before :: stack) v, .closeArray =>
    some (.complete stack (.arr (v :: before).reverse))
  | .complete (.object before name :: stack) v, .comma =>
    some (.nextName stack ((name, v) :: before))
  | .complete (.object before name :: stack) v, .closeObject =>
    some (.complete stack (.obj ((name, v) :: before).reverse))
  | _, _ => none

/-- The value that has been read, when the document may end here. -/
def finish : Reader → Option Value
  | .complete [] v => some v
  | _ => none

end Reader

/-- The value that a sequence of tokens denotes. -/
def ofTokens? (maxDepth : Nat) (ts : List Token) : Option Value :=
  (ts.foldlM (Reader.step maxDepth) (.value [])).bind Reader.finish

/-- Reads a document in which at most `maxDepth` non-empty arrays and objects are nested. -/
def Value.read? (maxDepth : Nat) (text : String) : Option Value :=
  (tokens? text.toList).bind (ofTokens? maxDepth)

/-- Reads a document from its bytes, which must be UTF-8. -/
def Value.readBytes? (maxDepth : Nat) (bytes : ByteArray) : Option Value :=
  (String.fromUTF8? bytes).bind (Value.read? maxDepth)

end SchemaCatalog.Json
