import MqttRouting.Url.Ipv6

/-!
Bytes behind percent signs.
-/

namespace MqttRouting.Url

def upperHex (n : Nat) : List Char := (Nat.toDigits 16 n).map Char.toUpper

def percentEncoded (b : UInt8) : List Char :=
  '%' :: (if b.toNat < 16 then ['0'] else []) ++ upperHex b.toNat

/-- Reads `%` and two hexadecimal digits as a byte; anything else stays. -/
def percentDecode : List UInt8 → List UInt8
  | b :: high :: low :: rest =>
    match decide (b.toNat = 0x25), Ipv6.hexDigit? (Char.ofNat high.toNat),
        Ipv6.hexDigit? (Char.ofNat low.toNat) with
    | true, some high, some low => UInt8.ofNat (high * 16 + low) :: percentDecode rest
    | _, _, _ => b :: percentDecode (high :: low :: rest)
  | rest => rest

end MqttRouting.Url
