import MqttRouting.Json.Reader

/-!
Skipping a value whose content does not matter. Nothing is built and the depth is
not limited: the open brackets are kept in a list, the innermost first. Numbers may
be out of range and strings may hold lone surrogates.
-/

namespace MqttRouting.Json

inductive Bracket where
  | list
  | object
  deriving DecidableEq

def skipExponent (input : List UInt8) : Except Stop (List UInt8) :=
  let input :=
    match input with
    | b :: rest => if b = asciiByte '+' ∨ b = asciiByte '-' then rest else input
    | [] => []
  if startsWithDigit input then .ok (skipDigits input) else stopPast .invalidNumber input

def skipExponentOr (input : List UInt8) : Except Stop (List UInt8) :=
  match input with
  | b :: rest => if b = asciiByte 'e' ∨ b = asciiByte 'E' then skipExponent rest else .ok input
  | [] => .ok []

/-- What follows the whole part of a number. -/
def skipFraction (input : List UInt8) : Except Stop (List UInt8) :=
  match input with
  | b :: rest =>
    if b = asciiByte '.' then
      if startsWithDigit rest then skipExponentOr (skipDigits rest)
      else stopPast .invalidNumber rest
    else skipExponentOr input
  | [] => .ok []

/-- A number whose sign, if any, has been read. -/
def skipInteger (input : List UInt8) : Except Stop (List UInt8) :=
  match input with
  | [] => stopAt .invalidNumber []
  | b :: rest =>
    match digit? b with
    | none => stopAt .invalidNumber rest
    | some 0 => if startsWithDigit rest then stopPast .invalidNumber rest else skipFraction rest
    | some _ => skipFraction (skipDigits rest)

def skipEscape : List UInt8 → Except Stop (List UInt8)
  | [] => stopAt .eofInString []
  | b :: rest =>
    if b = asciiByte 'u' then (readHex4 rest).map Prod.snd
    else if (Char.ofNat b.toNat) ∈ ['"', '\\', '/', 'b', 'f', 'n', 'r', 't'] then .ok rest
    else stopAt .invalidEscape rest

def skipString : (rounds : Nat) → List UInt8 → Except Stop (List UInt8)
  | 0, input => stopAt .eofInString input
  | _ + 1, [] => stopAt .eofInString []
  | rounds + 1, b :: rest =>
    if b = asciiByte '"' then .ok rest
    else if b = asciiByte '\\' then skipEscape rest >>= skipString rounds
    else if b.toNat < 0x20 then stopAt .controlCharacter (b :: rest)
    else skipString rounds rest

/-- The next key of an object, its colon included; the items of a list have none. -/
def skipKey (frame : Bracket) (input : List UInt8) : Except Stop (List UInt8) :=
  match frame with
  | .list => .ok input
  | .object =>
    match skipBlank input with
    | [] => stopAt .eofInObject []
    | b :: rest =>
      if b = asciiByte '"' then skipString (rest.length + 1) rest >>= readColon
      else stopAt .keyMustBeString rest

/-- Closes brackets as long as they close, then reads the comma and, in an object, the
next key. `items` tells whether the innermost bracket holds something already. -/
def skipSeparator : (rounds : Nat) → (items : Bool) → (frames : List Bracket) → List UInt8 →
    Except Stop (List Bracket × List UInt8)
  | 0, _, frames, input => .ok (frames, input)
  | _ + 1, _, [], input => .ok ([], input)
  | rounds + 1, items, frame :: outer, input =>
    match skipBlank input with
    | [] => stopAt (match frame with | .list => .eofInList | .object => .eofInObject) []
    | b :: rest =>
      if b = asciiByte ',' ∧ items then (skipKey frame rest).map (frame :: outer, ·)
      else if (b = asciiByte ']' ∧ frame = .list) ∨ (b = asciiByte '}' ∧ frame = .object) then
        skipSeparator rounds true outer rest
      else if items then
        stopAt (match frame with
          | .list => .expectedListCommaOrEnd
          | .object => .expectedObjectCommaOrEnd) rest
      else (skipKey frame (b :: rest)).map (frame :: outer, ·)

/-- Skips a value without brackets or opens a bracket; tells whether it was the former. -/
def skipStart (frames : List Bracket) (input : List UInt8) :
    Except Stop (Bool × List Bracket × List UInt8) :=
  match skipBlank input with
  | [] => stopAt .eofInValue []
  | b :: rest =>
    match Char.ofNat b.toNat with
    | 'n' => (readWord ['u', 'l', 'l'] rest).map (true, frames, ·)
    | 't' => (readWord ['r', 'u', 'e'] rest).map (true, frames, ·)
    | 'f' => (readWord ['a', 'l', 's', 'e'] rest).map (true, frames, ·)
    | '"' => (skipString (rest.length + 1) rest).map (true, frames, ·)
    | '-' => (skipInteger rest).map (true, frames, ·)
    | '[' => .ok (false, .list :: frames, rest)
    | '{' => .ok (false, .object :: frames, rest)
    | _ =>
      if (digit? b).isSome then (skipInteger (b :: rest)).map (true, frames, ·)
      else stopAt .expectedValue rest

/-- Skips a value. Each round reads a byte at least, so the length of the input bounds
the rounds. -/
def skipValue : (rounds : Nat) → (frames : List Bracket) → List UInt8 → Except Stop (List UInt8)
  | 0, _, input => stopAt .eofInValue input
  | rounds + 1, frames, input => do
    let (items, frames, input) ← skipStart frames input
    let (frames, input) ← skipSeparator (frames.length + 1) items frames input
    if frames.isEmpty then .ok input else skipValue rounds frames input

end MqttRouting.Json
