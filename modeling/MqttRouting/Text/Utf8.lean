/-!
UTF-8 as a partial code on byte lists. `decode` reads a whole list of bytes or
says where the first ill-formed sequence starts and how long its well-formed
beginning is, `decodeLossy` reads past such sequences, and `encode` writes the bytes of
a list of characters.
-/

namespace MqttRouting.Text.Utf8

/-- Where decoding stops: the bytes before `start` are well formed. `length` is
absent when the input ends inside a sequence that could still be completed. -/
structure Fault where
  start : Nat
  length : Option Nat
  deriving DecidableEq, Repr

def Fault.message (fault : Fault) : String :=
  match fault.length with
  | some n =>
    "invalid utf-8 sequence of " ++ toString n ++ " bytes from index " ++ toString fault.start
  | none => "incomplete utf-8 byte sequence from index " ++ toString fault.start

/-- One step of decoding. -/
inductive Step where
  | finished
  | char (c : Char) (width : Nat) (rest : List UInt8)
  | illFormed (length : Option Nat)

/-- The payload of a continuation byte. -/
def continuation? (low high : Nat) (b : UInt8) : Option Nat :=
  if low ≤ b.toNat ∧ b.toNat ≤ high then some (b.toNat % 64) else none

/-- The ranges of the second byte exclude overlong forms, surrogates and code
points past U+10FFFF. -/
def secondRange (lead : Nat) : Nat × Nat :=
  if lead = 0xE0 then (0xA0, 0xBF)
  else if lead = 0xED then (0x80, 0x9F)
  else if lead = 0xF0 then (0x90, 0xBF)
  else if lead = 0xF4 then (0x80, 0x8F)
  else (0x80, 0xBF)

/-- Reads the further bytes of a sequence; `read` counts those accepted so far. -/
def tail (ranges : List (Nat × Nat)) (point read : Nat) (rest : List UInt8) : Step :=
  match ranges, rest with
  | [], rest => .char (Char.ofNat point) read rest
  | _ :: _, [] => .illFormed none
  | (low, high) :: ranges, b :: rest =>
    match continuation? low high b with
    | some bits => tail ranges (point * 64 + bits) (read + 1) rest
    | none => .illFormed (some read)

def step : List UInt8 → Step
  | [] => .finished
  | b :: rest =>
    let lead := b.toNat
    if lead < 0x80 then .char (Char.ofNat lead) 1 rest
    else if 0xC2 ≤ lead ∧ lead ≤ 0xDF then tail [secondRange lead] (lead % 32) 1 rest
    else if 0xE0 ≤ lead ∧ lead ≤ 0xEF then
      tail [secondRange lead, (0x80, 0xBF)] (lead % 16) 1 rest
    else if 0xF0 ≤ lead ∧ lead ≤ 0xF4 then
      tail [secondRange lead, (0x80, 0xBF), (0x80, 0xBF)] (lead % 8) 1 rest
    else .illFormed (some 1)

theorem tail_shorter {ranges point read rest c width rest'}
    (h : tail ranges point read rest = .char c width rest') : rest'.length ≤ rest.length := by
  induction ranges generalizing point read rest with
  | nil => simp only [tail] at h; cases h; exact Nat.le_refl _
  | cons r ranges ih =>
    cases rest with
    | nil => simp [tail] at h
    | cons b rest =>
      simp only [tail] at h
      split at h
      · exact Nat.le_succ_of_le (ih h)
      · cases h

theorem step_shorter {bytes c width rest}
    (h : step bytes = .char c width rest) : rest.length < bytes.length := by
  cases bytes with
  | nil => simp [step] at h
  | cons b bytes =>
    simp only [step] at h
    split at h
    · cases h; simp
    · split at h
      · exact Nat.lt_succ_of_le (tail_shorter h)
      · split at h
        · exact Nat.lt_succ_of_le (tail_shorter h)
        · split at h
          · exact Nat.lt_succ_of_le (tail_shorter h)
          · cases h

def decodeFrom (start : Nat) (done : List Char) (bytes : List UInt8) : Except Fault (List Char) :=
  match _h : step bytes with
  | .finished => .ok done.reverse
  | .char c width rest => decodeFrom (start + width) (c :: done) rest
  | .illFormed length => .error ⟨start, length⟩
termination_by bytes.length
decreasing_by exact step_shorter (by assumption)

def decode (bytes : List UInt8) : Except Fault (List Char) :=
  decodeFrom 0 [] bytes

/-- What stands for an ill-formed sequence. -/
def replacement : Char := '\uFFFD'

def lossyFrom (done : List Char) (bytes : List UInt8) : List Char :=
  match _h : step bytes with
  | .finished => done.reverse
  | .char c _ rest => lossyFrom (c :: done) rest
  | .illFormed none => (replacement :: done).reverse
  | .illFormed (some n) => lossyFrom (replacement :: done) (bytes.drop (n - 1 + 1))
termination_by bytes.length
decreasing_by
  · exact step_shorter (by assumption)
  · cases bytes with
    | nil => simp [step] at _h
    | cons b rest => simp only [List.length_drop, List.length_cons]; omega

/-- Decodes with a replacement for every ill-formed sequence. -/
def decodeLossy (bytes : List UInt8) : List Char := lossyFrom [] bytes

def encode (chars : List Char) : List UInt8 :=
  chars.flatMap String.utf8EncodeChar

end MqttRouting.Text.Utf8
