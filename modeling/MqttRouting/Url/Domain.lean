import MqttRouting.Text.Hidden
import MqttRouting.Text.Utf8
import MqttRouting.Url.Percent
import MqttRouting.Url.Punycode

/-!
Names of domains. Before a name is looked up, its letters get one case, characters that are
other forms of ASCII become ASCII, and what says nothing is left out. Some characters cannot
stand in a name, whether it is written out or as a label of ASCII.
-/

namespace MqttRouting.Url.Domain

/-! Characters. -/

/-- Points of other scripts. -/
def isPoint (c : Char) : Bool := c == '.' || c == '\u3002' || c == '\uFF0E' || c == '\uFF61'

/-- ASCII that stands for something else in a URL. -/
def isReserved (c : Char) : Bool :=
  c.toNat ≤ 0x20 || c.toNat = 0x7F || "%#/:<>?@[\\]^|".toList.contains c

/-- Characters that are left out. -/
def silentRanges : List (Nat × Nat) :=
  [(0xad, 0xad), (0x34f, 0x34f), (0x115f, 0x1160), (0x17b4, 0x17b5), (0x180b, 0x180f),
   (0x200b, 0x200b), (0x2060, 0x2060), (0x2064, 0x2064), (0x3164, 0x3164), (0xfe00, 0xfe0f),
   (0xfeff, 0xfeff), (0xffa0, 0xffa0), (0x1bca0, 0x1bca3), (0xe0100, 0xe01ef)]

def isSilent (c : Char) : Bool := Text.inRanges silentRanges c.toNat

/-- Forms of ASCII characters, in order, with the code of the first in each range. -/
def formRanges : List (Nat × Nat × Nat) :=
  [(0xaa, 0xaa, 97), (0xb2, 0xb3, 50), (0xb9, 0xb9, 49), (0xba, 0xba, 111), (0x17f, 0x17f, 115),
   (0x2b0, 0x2b0, 104), (0x2b2, 0x2b2, 106), (0x2b3, 0x2b3, 114), (0x2b7, 0x2b7, 119),
   (0x2b8, 0x2b8, 121), (0x2e1, 0x2e1, 108), (0x2e2, 0x2e2, 115), (0x2e3, 0x2e3, 120),
   (0x37e, 0x37e, 59), (0x1d2c, 0x1d2c, 97), (0x1d2e, 0x1d2e, 98), (0x1d30, 0x1d31, 100),
   (0x1d33, 0x1d3a, 103), (0x1d3c, 0x1d3c, 111), (0x1d3e, 0x1d3e, 112), (0x1d3f, 0x1d3f, 114),
   (0x1d40, 0x1d41, 116), (0x1d42, 0x1d42, 119), (0x1d43, 0x1d43, 97), (0x1d47, 0x1d47, 98),
   (0x1d48, 0x1d49, 100), (0x1d4d, 0x1d4d, 103), (0x1d4f, 0x1d4f, 107), (0x1d50, 0x1d50, 109),
   (0x1d52, 0x1d52, 111), (0x1d56, 0x1d56, 112), (0x1d57, 0x1d58, 116), (0x1d5b, 0x1d5b, 118),
   (0x1d62, 0x1d62, 105), (0x1d63, 0x1d63, 114), (0x1d64, 0x1d65, 117), (0x1d9c, 0x1d9c, 99),
   (0x1da0, 0x1da0, 102), (0x1dbb, 0x1dbb, 122), (0x1fef, 0x1fef, 96), (0x2070, 0x2070, 48),
   (0x2071, 0x2071, 105), (0x2074, 0x2079, 52), (0x207a, 0x207a, 43), (0x207c, 0x207c, 61),
   (0x207d, 0x207e, 40), (0x207f, 0x207f, 110), (0x2080, 0x2089, 48), (0x208a, 0x208a, 43),
   (0x208c, 0x208c, 61), (0x208d, 0x208e, 40), (0x2090, 0x2090, 97), (0x2091, 0x2091, 101),
   (0x2092, 0x2092, 111), (0x2093, 0x2093, 120), (0x2095, 0x2095, 104), (0x2096, 0x2099, 107),
   (0x209a, 0x209a, 112), (0x209b, 0x209c, 115), (0x2102, 0x2102, 99), (0x210a, 0x210b, 103),
   (0x210c, 0x210c, 104), (0x210d, 0x210d, 104), (0x210e, 0x210e, 104), (0x2110, 0x2110, 105),
   (0x2111, 0x2111, 105), (0x2112, 0x2112, 108), (0x2113, 0x2113, 108), (0x2115, 0x2115, 110),
   (0x2119, 0x211b, 112), (0x211c, 0x211c, 114), (0x211d, 0x211d, 114), (0x2124, 0x2124, 122),
   (0x2128, 0x2128, 122), (0x212a, 0x212a, 107), (0x212c, 0x212d, 98), (0x212f, 0x212f, 101),
   (0x2130, 0x2131, 101), (0x2133, 0x2133, 109), (0x2134, 0x2134, 111), (0x2139, 0x2139, 105),
   (0x2145, 0x2145, 100), (0x2146, 0x2147, 100), (0x2148, 0x2149, 105), (0x2160, 0x2160, 105),
   (0x2164, 0x2164, 118), (0x2169, 0x2169, 120), (0x216c, 0x216c, 108), (0x216d, 0x216e, 99),
   (0x216f, 0x216f, 109), (0x2170, 0x2170, 105), (0x2174, 0x2174, 118), (0x2179, 0x2179, 120),
   (0x217c, 0x217c, 108), (0x217d, 0x217e, 99), (0x217f, 0x217f, 109), (0x2460, 0x2468, 49),
   (0x24b6, 0x24cf, 97), (0x24d0, 0x24e9, 97), (0x24ea, 0x24ea, 48), (0x2c7c, 0x2c7c, 106),
   (0x2c7d, 0x2c7d, 118), (0xa7f1, 0xa7f1, 115), (0xa7f2, 0xa7f2, 99), (0xa7f3, 0xa7f3, 102),
   (0xa7f4, 0xa7f4, 113), (0xfb29, 0xfb29, 43), (0xfe10, 0xfe10, 44), (0xfe14, 0xfe14, 59),
   (0xfe15, 0xfe15, 33), (0xfe33, 0xfe33, 95), (0xfe34, 0xfe34, 95), (0xfe35, 0xfe36, 40),
   (0xfe37, 0xfe37, 123), (0xfe38, 0xfe38, 125), (0xfe4d, 0xfe4d, 95), (0xfe4e, 0xfe4e, 95),
   (0xfe4f, 0xfe4f, 95), (0xfe50, 0xfe50, 44), (0xfe54, 0xfe54, 59), (0xfe57, 0xfe57, 33),
   (0xfe59, 0xfe5a, 40), (0xfe5b, 0xfe5b, 123), (0xfe5c, 0xfe5c, 125), (0xfe60, 0xfe60, 38),
   (0xfe61, 0xfe62, 42), (0xfe63, 0xfe63, 45), (0xfe66, 0xfe66, 61), (0xfe69, 0xfe69, 36),
   (0xff01, 0xff02, 33), (0xff04, 0xff04, 36), (0xff06, 0xff0d, 38), (0xff10, 0xff19, 48),
   (0xff1b, 0xff1b, 59), (0xff1d, 0xff1d, 61), (0xff21, 0xff3a, 97), (0xff3f, 0xff5b, 95),
   (0xff5d, 0xff5e, 125), (0x107a5, 0x107a5, 113), (0x1ccd6, 0x1ccef, 97), (0x1ccf0, 0x1ccf9, 48),
   (0x1d400, 0x1d419, 97), (0x1d41a, 0x1d433, 97), (0x1d434, 0x1d44d, 97), (0x1d44e, 0x1d454, 97),
   (0x1d456, 0x1d467, 105), (0x1d468, 0x1d481, 97), (0x1d482, 0x1d49b, 97), (0x1d49c, 0x1d49c, 97),
   (0x1d49e, 0x1d49f, 99), (0x1d4a2, 0x1d4a2, 103), (0x1d4a5, 0x1d4a6, 106),
   (0x1d4a9, 0x1d4ac, 110), (0x1d4ae, 0x1d4b5, 115), (0x1d4b6, 0x1d4b9, 97),
   (0x1d4bb, 0x1d4bb, 102), (0x1d4bd, 0x1d4c3, 104), (0x1d4c5, 0x1d4cf, 112),
   (0x1d4d0, 0x1d4e9, 97), (0x1d4ea, 0x1d503, 97), (0x1d504, 0x1d505, 97), (0x1d507, 0x1d50a, 100),
   (0x1d50d, 0x1d514, 106), (0x1d516, 0x1d51c, 115), (0x1d51e, 0x1d537, 97),
   (0x1d538, 0x1d539, 97), (0x1d53b, 0x1d53e, 100), (0x1d540, 0x1d544, 105),
   (0x1d546, 0x1d546, 111), (0x1d54a, 0x1d550, 115), (0x1d552, 0x1d56b, 97),
   (0x1d56c, 0x1d585, 97), (0x1d586, 0x1d59f, 97), (0x1d5a0, 0x1d5b9, 97), (0x1d5ba, 0x1d5d3, 97),
   (0x1d5d4, 0x1d5ed, 97), (0x1d5ee, 0x1d607, 97), (0x1d608, 0x1d621, 97), (0x1d622, 0x1d63b, 97),
   (0x1d63c, 0x1d655, 97), (0x1d656, 0x1d66f, 97), (0x1d670, 0x1d689, 97), (0x1d68a, 0x1d6a3, 97),
   (0x1d7ce, 0x1d7d7, 48), (0x1d7d8, 0x1d7e1, 48), (0x1d7e2, 0x1d7eb, 48), (0x1d7ec, 0x1d7f5, 48),
   (0x1d7f6, 0x1d7ff, 48), (0x1f12b, 0x1f12b, 99), (0x1f12c, 0x1f12c, 114), (0x1f130, 0x1f149, 97),
   (0x1fbf0, 0x1fbf9, 48)]

/-- Forms of whole numbers, with the number of the first in each range. -/
def numberRanges : List (Nat × Nat × Nat) :=
  [(0x2469, 0x2473, 10), (0x3251, 0x325f, 21), (0x32b1, 0x32bf, 36)]

/-- What is at the place of a code point in ranges of consecutive values. -/
def valueIn? (ranges : List (Nat × Nat × Nat)) (code : Nat) : Option Nat :=
  (ranges.find? fun range => range.1 ≤ code && code ≤ range.2.1).map
    fun range => range.2.2 + (code - range.1)

/-- Forms of reserved characters, and what only describes or replaces another character. -/
def refusedRanges : List (Nat × Nat) :=
  [(0xa0, 0xa0), (0xa8, 0xa8), (0xaf, 0xaf), (0xb4, 0xb4), (0xb8, 0xb8), (0x2d8, 0x2dd),
   (0x37a, 0x37a), (0x384, 0x385), (0x1fbd, 0x1fbd), (0x1fbf, 0x1fc1), (0x1fcd, 0x1fcf),
   (0x1fdd, 0x1fdf), (0x1fed, 0x1fee), (0x1ffd, 0x1ffe), (0x2000, 0x200a), (0x2017, 0x2017),
   (0x2024, 0x2026), (0x202f, 0x202f), (0x203e, 0x203e), (0x2047, 0x2049), (0x205f, 0x205f),
   (0x2100, 0x2101), (0x2105, 0x2106), (0x2488, 0x249b), (0x2a74, 0x2a74), (0x2ff0, 0x3000),
   (0x309b, 0x309c), (0x33c2, 0x33c2), (0x33c7, 0x33c7), (0x33d8, 0x33d8), (0xfc5e, 0xfc63),
   (0xfdfa, 0xfdfb), (0xfe12, 0xfe13), (0xfe16, 0xfe16), (0xfe19, 0xfe19), (0xfe30, 0xfe30),
   (0xfe47, 0xfe4c), (0xfe52, 0xfe52), (0xfe55, 0xfe56), (0xfe5f, 0xfe5f), (0xfe64, 0xfe65),
   (0xfe68, 0xfe68), (0xfe6a, 0xfe6b), (0xfe70, 0xfe70), (0xfe72, 0xfe72), (0xfe74, 0xfe74),
   (0xfe76, 0xfe76), (0xfe78, 0xfe78), (0xfe7a, 0xfe7a), (0xfe7c, 0xfe7c), (0xfe7e, 0xfe7e),
   (0xff03, 0xff03), (0xff05, 0xff05), (0xff0f, 0xff0f), (0xff1a, 0xff1a), (0xff1c, 0xff1c),
   (0xff1e, 0xff20), (0xff3b, 0xff3e), (0xff5c, 0xff5c), (0xffe3, 0xffe3), (0xfffc, 0xfffd),
   (0x1f100, 0x1f100)]

def isJoiner (c : Char) : Bool := c == '\u200C' || c == '\u200D'

/-- What cannot stand in a name in any form. -/
def isRefused (c : Char) : Bool :=
  isReserved c || Text.inRanges refusedRanges c.toNat || (Text.isUnprintable c && !isJoiner c)

/-- What a character becomes, if it can stand in a name. -/
def mapped? (c : Char) : Option (List Char) :=
  if isPoint c then some ['.']
  else if c.toNat < 0x80 then if isReserved c then none else some [c.toLower]
  else if isSilent c then some []
  else
    match valueIn? formRanges c.toNat, valueIn? numberRanges c.toNat with
    | some code, _ => some [Char.ofNat code]
    | none, some number => some (Nat.toDigits 10 number)
    | none, none => if isRefused c then none else some [c]

/-! Labels. -/

/-- Joiners stand behind marks that let letters be joined. -/
def joinersFit (before : Option Char) : List Char → Bool
  | [] => true
  | c :: rest =>
    (!isJoiner c || (before.map Text.isVirama).getD false) && joinersFit (some c) rest

/-- A label does not begin with a mark. -/
def isLabel (label : List Char) : Bool :=
  !(label.head?.map Text.isMark).getD false && joinersFit none label

/-- A label that is written in ASCII stands for one that could not be. -/
def isEncoded (text : List Char) : Bool :=
  match Punycode.decode? text with
  | some label =>
    label.any (0x80 ≤ ·.toNat) && label.all (fun c => mapped? c = some [c]) && isLabel label
  | none => false

def isValidLabel (label : List Char) : Bool :=
  match label with
  | 'x' :: 'n' :: '-' :: '-' :: text => isEncoded text
  | label => isLabel label

/-! Names. -/

/-- The characters that bytes stand for, after their percent signs have been read. -/
def charactersOf? (text : List Char) : Option (List Char) :=
  match Text.Utf8.decode (percentDecode (Text.Utf8.encode text)) with
  | .ok characters => some characters
  | .error _ => none

/-- The name as it is looked up, with its labels written out. -/
def normalize? (text : List Char) : Option (List Char) := do
  let characters ← charactersOf? text
  let pieces ← characters.mapM mapped?
  let name := pieces.flatten
  if (Ipv6.splitAt '.' name).all isValidLabel then some name else none

end MqttRouting.Url.Domain
