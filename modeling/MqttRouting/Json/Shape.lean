import MqttRouting.Json.Skip

/-!
Data of a required shape. A shape can be read straight from text, which skips what
the shape does not need, or be imposed on data that is there already. Both answer
with the data in the shape's normal form: a record keeps its own fields only, in
their order, and a float stays a float.
-/

namespace MqttRouting.Json

inductive Shape where
  | any
  | int64
  | byte
  | float64
  | flag
  | text
  | list (item : Shape)
  /-- A record with these fields. A list with an item for each of them, in their order,
  is accepted too. -/
  | struct (name : String) (fields : List (String × Shape))

namespace Shape

/-- A record with one field. -/
def record (name field : String) (item : Shape) : Shape := .struct name [(field, item)]

/-- What a mismatch says was expected. -/
def expectation : Shape → String
  | .any => "any value"
  | .int64 => "i64"
  | .byte => "u8"
  | .float64 => "f64"
  | .flag => "a boolean"
  | .text => "a string"
  | .list _ => "a sequence"
  | .struct name _ => "struct " ++ name

/-- What a list in place of a record says was expected when it is too short. -/
def structLength (name : String) (fields : Nat) : String :=
  "struct " ++ name ++ " with " ++ toString fields ++
    if fields = 1 then " element" else " elements"

def foundNumber : Number → Found
  | .whole n => .whole n
  | .float x => .float x

def found : Value → Found
  | .null => .null
  | .bool b => .bool b
  | .number n => foundNumber n
  | .text s => .text s
  | .list _ => .list
  | .object _ => .object

/-- A number imposed on a shape. -/
def castNumber (shape : Shape) (n : Number) : Except Cause Value :=
  match shape, n with
  | .any, n => .ok (.number n)
  | .int64, .whole n =>
    if -0x8000000000000000 ≤ n ∧ n < 0x8000000000000000 then .ok (.number (.whole n))
    else .error (.outOfRange n shape.expectation)
  | .byte, .whole n =>
    if 0 ≤ n ∧ n < 256 then .ok (.number (.whole n)) else .error (.outOfRange n shape.expectation)
  | .float64, .whole n =>
    let magnitude := (Binary64.ofNat n.natAbs).getD Binary64.zero
    .ok (.number (.float { magnitude with negative := decide (n < 0) }))
  | .float64, .float x => .ok (.number (.float x))
  | shape, n => .error (.wrongType (foundNumber n) shape.expectation)

/-! Data that is there already. -/

def castItems (cast : Value → Except Cause Value) : List Value → Except Cause (List Value)
  | [] => .ok []
  | v :: rest => do
    let v ← cast v
    let rest ← castItems cast rest
    .ok (v :: rest)

/-- A list in place of a record: an item for each field, and the items left over. -/
def castTuple (expected : String) :
    (position : Nat) → List (String × (Value → Except Cause Value)) → List Value →
      Except Cause (List (String × Value) × List Value)
  | _, [], items => .ok ([], items)
  | position, _ :: _, [] => .error (.wrongLength position expected)
  | position, (key, cast) :: casts, v :: items => do
    let v ← cast v
    let (entries, items) ← castTuple expected (position + 1) casts items
    .ok ((key, v) :: entries, items)

/-- The entries that belong to a field, in the order in which they stand. -/
def castEntries (casts : List (String × (Value → Except Cause Value))) (done : Dictionary Value) :
    List (String × Value) → Except Cause (Dictionary Value)
  | [] => .ok done
  | (key, v) :: entries =>
    match Dictionary.find? key casts with
    | none => castEntries casts done entries
    | some cast => do
      let v ← cast v
      castEntries casts (done.insert key v) entries

/-- The fields of a record in their order; none may be missing. -/
def gather (done : Dictionary Value) : (fields : List String) → Except Cause (List (String × Value))
  | [] => .ok []
  | field :: fields =>
    match done.find? field with
    | none => .error (.missingField field)
    | some v => (gather done fields).map ((field, v) :: ·)

mutual

def cast : Shape → Value → Except Cause Value
  | .any, v => .ok v
  | .flag, .bool b => .ok (.bool b)
  | .text, .text s => .ok (.text s)
  | .list item, .list items => (castItems item.cast items).map .list
  | .struct name fields, .list items => do
    let (entries, rest) ← castTuple (structLength name fields.length) 0 (casts fields) items
    if rest.isEmpty then .ok (.object entries)
    else .error (.wrongLength items.length "fewer elements in array")
  | .struct _ fields, .object entries => do
    let done ← castEntries (casts fields) [] entries
    (gather done (fields.map Prod.fst)).map .object
  | shape, .number n => castNumber shape n
  | shape, v => .error (.wrongType (found v) shape.expectation)

def casts : List (String × Shape) → List (String × (Value → Except Cause Value))
  | [] => []
  | (key, item) :: fields => (key, item.cast) :: casts fields

end

def ofValue (shape : Shape) (v : Value) : Except Fault Value :=
  (shape.cast v).mapError (⟨·, none⟩)

/-! Text. -/

/-- Attaches the unread bytes to a cause found without them. -/
def settle {α : Type} (outcome : Except Cause α) (unread : List UInt8) : Reading α :=
  match outcome with
  | .ok x => .ok (x, unread)
  | .error cause => stopAt cause unread

/-- What stands ahead is of the wrong kind. Scalars are read before they are refused,
brackets are not. -/
def refuse (expected : String) (b : UInt8) (rest : List UInt8) :
    Except Stop (Value × List UInt8) :=
  match Char.ofNat b.toNat with
  | 'n' => do stopAt (.wrongType .null expected) (← readWord ['u', 'l', 'l'] rest)
  | 't' => do stopAt (.wrongType (.bool true) expected) (← readWord ['r', 'u', 'e'] rest)
  | 'f' => do stopAt (.wrongType (.bool false) expected) (← readWord ['a', 'l', 's', 'e'] rest)
  | '"' => do
    let (s, rest) ← readString rest
    stopAt (.wrongType (.text s) expected) rest
  | '[' => stopAt (.wrongType .list expected) (b :: rest)
  | '{' => stopAt (.wrongType .object expected) (b :: rest)
  | _ =>
    if startsNumber b then do
      let (n, rest) ← readSignedNumber (b :: rest)
      stopAt (.wrongType (foundNumber n) expected) rest
    else stopAt .expectedValue rest

/-- The unread bytes after an attempt to close an object, whether it closes or not. -/
def pastClosingBrace (input : List UInt8) : List UInt8 :=
  match skipBlank input with
  | b :: rest => if b = asciiByte '}' then rest else b :: rest
  | [] => []

/-- The members of a record, behind the opening brace; the closing one stays unread. -/
def readFields (items : List (String × (List UInt8 → Reading Value))) :
    (rounds : Nat) → (first : Bool) → (done : Dictionary Value) → List UInt8 →
      Except Stop (Dictionary Value × List UInt8)
  | 0, _, _, input => stopAt .eofInObject input
  | rounds + 1, first, done, input => do
    let (more, input) ← nextKey first input
    if more then
      let (key, input) ← readString input
      match Dictionary.find? key items with
      | some item =>
        if (done.find? key).isSome then
          stopAt (.duplicateField key) (pastClosingBrace input)
        else
          let input ← readColon input
          let (v, input) ← item input
          readFields items rounds false (done.insert key v) input
      | none =>
        let input ← readColon input
        let input ← skipValue (input.length + 1) [] input
        readFields items rounds false done input
    else .ok (done, input)

/-- A record written as a list, behind the opening bracket or an item. -/
def readTuple (expected : String) :
    (position : Nat) → List (String × (List UInt8 → Reading Value)) → List UInt8 →
      Except Stop (List (String × Value) × List UInt8)
  | _, [], input => (closeList input).map ([], ·)
  | position, (key, item) :: items, input => do
    let (more, input) ← nextItem (position = 0) input
    if more then
      let (v, input) ← item input
      let (entries, input) ← readTuple expected (position + 1) items input
      .ok ((key, v) :: entries, input)
    else stopAt (.wrongLength position expected) input.tail

def readNumberAs (shape : Shape) (b : UInt8) (rest : List UInt8) : Reading Value :=
  if startsNumber b then
    match readSignedNumber (b :: rest) with
    | .ok (n, rest) => settle (shape.castNumber n) rest
    | .error stop => .error stop
  else refuse shape.expectation b rest

def readFlag (b : UInt8) (rest : List UInt8) : Reading Value :=
  match Char.ofNat b.toNat with
  | 't' => (readWord ['r', 'u', 'e'] rest).map fun rest => (.bool true, rest)
  | 'f' => (readWord ['a', 'l', 's', 'e'] rest).map fun rest => (.bool false, rest)
  | _ => refuse (expectation .flag) b rest

def readText (b : UInt8) (rest : List UInt8) : Reading Value :=
  if b = asciiByte '"' then (readString rest).map fun (s, rest) => (.text s, rest)
  else refuse (expectation .text) b rest

/-- Reads data of a shape without brackets, from its first byte on. -/
def readScalar (shape : Shape) (b : UInt8) (rest : List UInt8) : Reading Value :=
  match shape with
  | .flag => readFlag b rest
  | .text => readText b rest
  | shape => readNumberAs shape b rest

mutual

/-- Reads data of a shape. `depth` bounds the open brackets as in `readValue`. -/
def read : Shape → (depth : Nat) → List UInt8 → Reading Value
  | .any, depth, input => readValue depth input
  | .list item, depth, input =>
    match skipBlank input with
    | [] => stopAt .eofInValue []
    | b :: rest =>
      if b = asciiByte '[' then
        if depth ≤ 1 then stopAt .recursionLimit rest
        else
          match readItems (item.read (depth - 1)) (rest.length + 1) true [] rest with
          | .ok (items, rest) => .ok (.list items, rest.tail)
          | .error stop => .error stop
      else refuse (expectation (.list item)) b rest
  | .struct name fields, depth, input =>
    match skipBlank input with
    | [] => stopAt .eofInValue []
    | b :: rest =>
      if b = asciiByte '[' then
        if depth ≤ 1 then stopAt .recursionLimit rest
        else
          (readTuple (structLength name fields.length) 0 (readers fields (depth - 1)) rest).map
            fun (entries, rest) => (.object entries, rest)
      else if b = asciiByte '{' then
        if depth ≤ 1 then stopAt .recursionLimit rest
        else
          match readFields (readers fields (depth - 1)) (rest.length + 1) true [] rest with
          | .ok (done, rest) => settle ((gather done (fields.map Prod.fst)).map .object) rest.tail
          | .error stop => .error stop
      else refuse (expectation (.struct name fields)) b rest
  | shape, _, input =>
    match skipBlank input with
    | [] => stopAt .eofInValue []
    | b :: rest => readScalar shape b rest

def readers : List (String × Shape) → (depth : Nat) → List (String × (List UInt8 → Reading Value))
  | [], _ => []
  | (key, item) :: fields, depth => (key, item.read depth) :: readers fields depth

end

def ofBytes (shape : Shape) (text : List UInt8) : Except Fault Value :=
  readWhole (shape.read maxDepth) text

end Shape
end MqttRouting.Json
