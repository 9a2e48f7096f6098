import MqttRouting.Json.Fault
import MqttRouting.Json.Value
import MqttRouting.Text.Utf8

/-!
JSON text as bytes, read from left to right. A step answers with what it read and
the bytes still unread, or stops; from the unread bytes at that point follows the
position of the fault. Lists and objects nest at most `maxDepth` deep.
-/

namespace MqttRouting.Json

/-- Reading stopped, with these bytes unread. -/
structure Stop where
  cause : Cause
  unread : List UInt8

/-- The outcome of a step. -/
abbrev Reading (α : Type) : Type := Except Stop (α × List UInt8)

def Stop.fault (stop : Stop) (whole : List UInt8) : Fault :=
  ⟨stop.cause, some (Position.after (whole.take (whole.length - stop.unread.length)))⟩

/-- Stops behind the bytes read so far. -/
def stopAt {α : Type} (cause : Cause) (unread : List UInt8) : Except Stop α :=
  .error ⟨cause, unread⟩

/-- Stops behind the byte that is being looked at, if there is one. -/
def stopPast {α : Type} (cause : Cause) (unread : List UInt8) : Except Stop α :=
  .error ⟨cause, unread.tail⟩

def isBlankByte (b : UInt8) : Bool := b == 32 || b == 10 || b == 9 || b == 13

def skipBlank (input : List UInt8) : List UInt8 := input.dropWhile isBlankByte

def asciiByte (c : Char) : UInt8 := UInt8.ofNat c.toNat

def digit? (b : UInt8) : Option Nat :=
  if 48 ≤ b.toNat ∧ b.toNat ≤ 57 then some (b.toNat - 48) else none

def hexDigit? (b : UInt8) : Option Nat :=
  let n := b.toNat
  if 48 ≤ n ∧ n ≤ 57 then some (n - 48)
  else if 65 ≤ n ∧ n ≤ 70 then some (n - 55)
  else if 97 ≤ n ∧ n ≤ 102 then some (n - 87)
  else none

def startsNumber (b : UInt8) : Bool := b == asciiByte '-' || (digit? b).isSome

def startsWithDigit (input : List UInt8) : Bool := (input.head?.bind digit?).isSome

def skipDigits (input : List UInt8) : List UInt8 := input.dropWhile fun b => (digit? b).isSome

/-- The rest of a word whose first letter has been read. -/
def readWord (word : List Char) (input : List UInt8) : Except Stop (List UInt8) :=
  match word, input with
  | [], input => .ok input
  | _ :: _, [] => stopAt .eofInValue []
  | c :: word, b :: rest =>
    if b = asciiByte c then readWord word rest else stopAt .expectedIdent rest

/-! Numbers. -/

/-- Reads digits onto `n` while the result stays below `limit`, and counts them. -/
def readDigits (limit n count : Nat) : List UInt8 → Nat × Nat × List UInt8
  | [] => (n, count, [])
  | b :: rest =>
    match digit? b with
    | some d =>
      if n * 10 + d < limit then readDigits limit (n * 10 + d) (count + 1) rest
      else (n, count, b :: rest)
    | none => (n, count, b :: rest)

/-- A magnitude that is in range, with its sign. -/
def signedFloat (negative : Bool) (magnitude : Option Binary64) (rest : List UInt8) :
    Reading Number :=
  match magnitude with
  | some x => .ok (.float { x with negative := negative }, rest)
  | none => stopAt .numberOutOfRange rest

def floatNumber (negative : Bool) (digits : Nat) (exponent : Int) (rest : List UInt8) :
    Reading Number :=
  signedFloat negative (Binary64.ofDecimal digits exponent) rest

/-- The sign of an exponent, if there is one: whether it is a minus sign. -/
def readExponentSign (input : List UInt8) : Bool × List UInt8 :=
  match input with
  | b :: rest =>
    if b = asciiByte '-' then (true, rest) else if b = asciiByte '+' then (false, rest)
      else (false, input)
  | [] => (false, [])

/-- An exponent past 31 bits makes the number zero or puts it out of range. -/
def readExponent (negative : Bool) (digits : Nat) (start : Int) (input : List UInt8) :
    Reading Number :=
  let (down, input) := readExponentSign input
  match input with
  | [] => stopAt .eofInValue []
  | b :: rest =>
    match digit? b with
    | none => stopAt .invalidNumber rest
    | some d =>
      let (exponent, _, rest) := readDigits 0x80000000 d 0 rest
      if startsWithDigit rest then
        if digits ≠ 0 ∧ ¬ down then stopAt .numberOutOfRange rest.tail
        else .ok (.float { Binary64.zero with negative := negative }, skipDigits rest)
      else floatNumber negative digits (if down then start - exponent else start + exponent) rest

def readExponentOr (negative : Bool) (digits : Nat) (start : Int) (input : List UInt8)
    (otherwise : Reading Number) : Reading Number :=
  match input with
  | b :: rest =>
    if b = asciiByte 'e' ∨ b = asciiByte 'E' then readExponent negative digits start rest
    else otherwise
  | [] => otherwise

/-- The digits after the point. Those that no longer fit in 64 bits are dropped. -/
def readFraction (negative : Bool) (digits : Nat) (start : Int) (input : List UInt8) :
    Reading Number :=
  let (digits, count, rest) := readDigits 0x10000000000000000 digits 0 input
  let start := start - count
  if startsWithDigit rest then
    let rest := skipDigits rest
    readExponentOr negative digits start rest (floatNumber negative digits start rest)
  else if count = 0 then stopPast (if rest.isEmpty then .eofInValue else .invalidNumber) rest
  else readExponentOr negative digits start rest (floatNumber negative digits start rest)

/-- What follows the whole part; `start` counts digits of it that were dropped. -/
def readPoint (negative : Bool) (digits : Nat) (start : Int) (input : List UInt8)
    (otherwise : Reading Number) : Reading Number :=
  match input with
  | b :: rest => if b = asciiByte '.' then readFraction negative digits start rest
      else readExponentOr negative digits start input otherwise
  | [] => otherwise

/-- A whole number; minus zero and what does not fit become floats. -/
def wholeNumber (negative : Bool) (digits : Nat) (rest : List UInt8) : Reading Number :=
  if ¬ negative then .ok (.whole digits, rest)
  else if 1 ≤ digits ∧ digits ≤ 0x8000000000000000 then .ok (.whole (-digits), rest)
  else floatNumber true digits 0 rest

/-- A number whose sign, if any, has been read. -/
def readNumber (negative : Bool) (input : List UInt8) : Reading Number :=
  match input with
  | [] => stopAt .eofInValue []
  | b :: rest =>
    match digit? b with
    | none => stopAt .invalidNumber rest
    | some 0 =>
      if startsWithDigit rest then stopPast .invalidNumber rest
      else readPoint negative 0 0 rest (wholeNumber negative 0 rest)
    | some d =>
      let (digits, _, rest) := readDigits 0x10000000000000000 d 0 rest
      if startsWithDigit rest then
        let after := skipDigits rest
        let dropped : Int := rest.length - after.length
        readPoint negative digits dropped after (floatNumber negative digits dropped after)
      else readPoint negative digits 0 rest (wholeNumber negative digits rest)

/-- A number from its first byte on; the byte is a digit or a minus sign. -/
def readSignedNumber (input : List UInt8) : Reading Number :=
  match input with
  | b :: rest => if b = asciiByte '-' then readNumber true rest else readNumber false input
  | [] => readNumber false []

/-! Strings. -/

def readHex4 : List UInt8 → Reading Nat
  | a :: b :: c :: d :: rest =>
    match hexDigit? a, hexDigit? b, hexDigit? c, hexDigit? d with
    | some a, some b, some c, some d => .ok (((a * 16 + b) * 16 + c) * 16 + d, rest)
    | _, _, _, _ => stopAt .invalidEscape rest
  | _ => stopAt .eofInString []

def expectInString (c : Char) : List UInt8 → Except Stop (List UInt8)
  | [] => stopAt .eofInString []
  | b :: rest => if b = asciiByte c then .ok rest else stopAt .endOfHexEscape rest

def isLeading (n : Nat) : Bool := 0xD800 ≤ n && n ≤ 0xDBFF

def isTrailing (n : Nat) : Bool := 0xDC00 ≤ n && n ≤ 0xDFFF

/-- The code point of an escape after its `u`. One past the basic plane is written as
a pair of surrogates. -/
def readCodePoint (input : List UInt8) : Except Stop (Char × List UInt8) := do
  let (n, rest) ← readHex4 input
  if isTrailing n then stopAt .loneSurrogate rest
  else if isLeading n then
    let rest ← expectInString '\\' rest
    let rest ← expectInString 'u' rest
    let (m, rest) ← readHex4 rest
    if isTrailing m then .ok (Char.ofNat ((n - 0xD800) * 0x400 + (m - 0xDC00) + 0x10000), rest)
    else stopAt .loneSurrogate rest
  else .ok (Char.ofNat n, rest)

/-- An escape after its backslash. -/
def readEscape : List UInt8 → Reading Char
  | [] => stopAt .eofInString []
  | b :: rest =>
    match Char.ofNat b.toNat with
    | '"' => .ok ('"', rest)
    | '\\' => .ok ('\\', rest)
    | '/' => .ok ('/', rest)
    | 'b' => .ok ('\x08', rest)
    | 'f' => .ok ('\x0c', rest)
    | 'n' => .ok ('\n', rest)
    | 'r' => .ok ('\r', rest)
    | 't' => .ok ('\t', rest)
    | 'u' => readCodePoint rest
    | _ => stopAt .invalidEscape rest

/-- The bytes of a string up to its closing quote, escapes replaced. `done` holds them
in reverse. Each round reads a byte, so the length of the input bounds the rounds. -/
def readStringBytes : (rounds : Nat) → (done : List UInt8) → List UInt8 → Reading (List UInt8)
  | 0, _, input => stopAt .eofInString input
  | _ + 1, _, [] => stopAt .eofInString []
  | rounds + 1, done, b :: rest =>
    if b = asciiByte '"' then .ok (done.reverse, rest)
    else if b = asciiByte '\\' then
      match readEscape rest with
      | .ok (c, rest) => readStringBytes rounds ((String.utf8EncodeChar c).reverse ++ done) rest
      | .error stop => .error stop
    else if b.toNat < 0x20 then stopAt .controlCharacter rest
    else readStringBytes rounds (b :: done) rest

/-- A string after its opening quote. Only a complete string is checked for ill-formed
UTF-8. The fault lies as far before the end of the string as the ill-formed byte does
once the escapes are replaced; without escapes behind it, that is the byte itself. -/
def readString (input : List UInt8) : Reading String :=
  match readStringBytes (input.length + 1) [] input with
  | .error stop => .error stop
  | .ok (bytes, rest) =>
    match Text.Utf8.decode bytes with
    | .ok chars => .ok (String.ofList chars, rest)
    | .error fault =>
      let read := input.length - rest.length
      stopAt .invalidCodePoint (input.drop (read - (bytes.length - fault.start)))

/-! Lists and objects. -/

/-- Whether another item follows, looking from behind the bracket or an item. -/
def nextItem (first : Bool) (input : List UInt8) : Reading Bool :=
  match skipBlank input with
  | [] => stopAt .eofInList []
  | b :: rest =>
    if b = asciiByte ']' then .ok (false, b :: rest)
    else if first then .ok (true, b :: rest)
    else if b = asciiByte ',' then
      match skipBlank rest with
      | [] => stopAt .eofInValue []
      | c :: rest => if c = asciiByte ']' then stopAt .trailingComma rest else .ok (true, c :: rest)
    else stopAt .expectedListCommaOrEnd rest

def closeList (input : List UInt8) : Except Stop (List UInt8) :=
  match skipBlank input with
  | [] => stopAt .eofInList []
  | b :: rest =>
    if b = asciiByte ']' then .ok rest
    else if b = asciiByte ',' then
      match skipBlank rest with
      | [] => stopAt .trailingCharacters []
      | c :: rest => stopAt (if c = asciiByte ']' then .trailingComma else .trailingCharacters) rest
    else stopAt .trailingCharacters rest

/-- Whether another member follows; if so, the unread bytes start behind the quote of
its key. -/
def nextKey (first : Bool) (input : List UInt8) : Reading Bool :=
  match skipBlank input with
  | [] => stopAt .eofInObject []
  | b :: rest =>
    if b = asciiByte '}' then .ok (false, b :: rest)
    else if first then
      if b = asciiByte '"' then .ok (true, rest) else stopAt .keyMustBeString rest
    else if b = asciiByte ',' then
      match skipBlank rest with
      | [] => stopAt .eofInValue []
      | c :: rest =>
        if c = asciiByte '"' then .ok (true, rest)
        else stopAt (if c = asciiByte '}' then .trailingComma else .keyMustBeString) rest
    else stopAt .expectedObjectCommaOrEnd rest

def readColon (input : List UInt8) : Except Stop (List UInt8) :=
  match skipBlank input with
  | [] => stopAt .eofInObject []
  | b :: rest => if b = asciiByte ':' then .ok rest else stopAt .expectedColon rest

/-- The items up to the closing bracket, which stays unread. -/
def readItems {α : Type} (item : List UInt8 → Reading α) :
    (rounds : Nat) → (first : Bool) → (done : List α) → List UInt8 →
      Except Stop (List α × List UInt8)
  | 0, _, _, input => stopAt .eofInList input
  | rounds + 1, first, done, input => do
    let (more, input) ← nextItem first input
    if more then
      let (x, input) ← item input
      readItems item rounds false (x :: done) input
    else .ok (done.reverse, input)

/-- The members up to the closing brace, which stays unread; a later member replaces an
earlier one with the same key. -/
def readMembers {α : Type} (item : List UInt8 → Reading α) :
    (rounds : Nat) → (first : Bool) → (done : Dictionary α) → List UInt8 →
      Except Stop (Dictionary α × List UInt8)
  | 0, _, _, input => stopAt .eofInObject input
  | rounds + 1, first, done, input => do
    let (more, input) ← nextKey first input
    if more then
      let (key, input) ← readString input
      let input ← readColon input
      let (x, input) ← item input
      readMembers item rounds false (done.insert key x) input
    else .ok (done, input)

/-! Values. -/

/-- One more than the number of brackets that may be open at a time. -/
def maxDepth : Nat := 128

/-- The items of a list or members of an object, behind the opening bracket `open`. -/
def readNested (opening : UInt8) (item : List UInt8 → Reading Value) (input : List UInt8) :
    Except Stop (Value × List UInt8) :=
  if opening = asciiByte '[' then do
    let (items, input) ← readItems item (input.length + 1) true [] input
    .ok (.list items, input.tail)
  else do
    let (members, input) ← readMembers item (input.length + 1) true [] input
    .ok (.object members, input.tail)

def readValue : (depth : Nat) → List UInt8 → Reading Value
  | 0, input => stopPast .recursionLimit input
  | depth + 1, input =>
    match skipBlank input with
    | [] => stopAt .eofInValue []
    | b :: rest =>
      match Char.ofNat b.toNat with
      | 'n' => (readWord ['u', 'l', 'l'] rest).map fun rest => (.null, rest)
      | 't' => (readWord ['r', 'u', 'e'] rest).map fun rest => (.bool true, rest)
      | 'f' => (readWord ['a', 'l', 's', 'e'] rest).map fun rest => (.bool false, rest)
      | '"' => (readString rest).map fun (s, rest) => (.text s, rest)
      | '[' | '{' =>
        if depth = 0 then stopAt .recursionLimit rest
        else readNested b (readValue depth) rest
      | _ =>
        if startsNumber b then
          (readSignedNumber (b :: rest)).map fun (n, rest) => (.number n, rest)
        else stopAt .expectedValue rest

/-- Reads a whole text with `reading`; only blanks may follow. -/
def readWhole {α : Type} (reading : List UInt8 → Reading α) (text : List UInt8) : Except Fault α :=
  match reading text with
  | .error stop => .error (stop.fault text)
  | .ok (x, rest) =>
    match skipBlank rest with
    | [] => .ok x
    | _ :: rest => .error (Stop.fault ⟨.trailingCharacters, rest⟩ text)

def Value.ofBytes (text : List UInt8) : Except Fault Value :=
  readWhole (readValue maxDepth) text

def Value.ofText (text : String) : Except Fault Value :=
  Value.ofBytes text.toUTF8.toList

end MqttRouting.Json
