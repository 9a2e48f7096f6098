import MqttRouting.Text.Utf8
import Mathlib.Data.List.Forall2

/-!
Decoding UTF-8 loses nothing: what has been decoded without a fault is written back
as the bytes it was read from.
-/

namespace MqttRouting.Text.Utf8

/-- Adds the payload of a continuation byte to a code point. -/
def extendPoint (point : Nat) (b : UInt8) : Nat := point * 64 + b.toNat % 64

theorem tail_char {ranges point read input c width rest}
    (h : tail ranges point read input = .char c width rest) :
    ∃ more, input = more ++ rest ∧ c = Char.ofNat (more.foldl extendPoint point) ∧
      List.Forall₂ (fun range b => range.1 ≤ b.toNat ∧ b.toNat ≤ range.2) ranges more := by
  induction ranges generalizing point read input with
  | nil =>
    simp only [tail, Step.char.injEq] at h
    obtain ⟨rfl, -, rfl⟩ := h
    exact ⟨[], rfl, rfl, .nil⟩
  | cons range ranges ih =>
    cases input with
    | nil => simp [tail] at h
    | cons b input =>
      simp only [tail, continuation?] at h
      split at h
      · next bits found =>
        split at found
        · next within =>
          obtain rfl := Option.some.inj found
          obtain ⟨more, rfl, rfl, ranged⟩ := ih h
          exact ⟨b :: more, rfl, rfl, .cons within ranged⟩
        · cases found
      · cases h

theorem val_ofNat {n : Nat} (valid : n.isValidChar) : (Char.ofNat n).val.toNat = n := by
  rw [Char.ofNat, dif_pos valid]
  rfl

theorem ofNat_eq_byte {n : Nat} {b : UInt8} (h : n = b.toNat) : UInt8.ofNat n = b := by
  rw [h, UInt8.ofNat_toNat]

theorem encodeChar_two {a b : UInt8} (lead : 0xC2 ≤ a.toNat ∧ a.toNat ≤ 0xDF)
    (second : (secondRange a.toNat).1 ≤ b.toNat ∧ b.toNat ≤ (secondRange a.toNat).2) :
    String.utf8EncodeChar (Char.ofNat (extendPoint (a.toNat % 32) b)) = [a, b] := by
  have bounds : 0x80 ≤ b.toNat ∧ b.toNat ≤ 0xBF := by
    simp only [secondRange] at second
    split_ifs at second <;> omega
  generalize point : extendPoint (a.toNat % 32) b = n
  simp only [extendPoint] at point
  rw [String.utf8EncodeChar, val_ofNat (by left; omega), if_neg (by omega), if_pos (by omega),
    ofNat_eq_byte (b := a) (by omega), ofNat_eq_byte (b := b) (by omega)]

theorem encodeChar_three {a b c : UInt8} (lead : 0xE0 ≤ a.toNat ∧ a.toNat ≤ 0xEF)
    (second : (secondRange a.toNat).1 ≤ b.toNat ∧ b.toNat ≤ (secondRange a.toNat).2)
    (third : 0x80 ≤ c.toNat ∧ c.toNat ≤ 0xBF) :
    String.utf8EncodeChar (Char.ofNat (extendPoint (extendPoint (a.toNat % 16) b) c)) =
      [a, b, c] := by
  generalize point : extendPoint (extendPoint (a.toNat % 16) b) c = n
  simp only [extendPoint] at point
  -- the range of the second byte excludes overlong forms and surrogates
  have bounds : 0x80 ≤ b.toNat ∧ b.toNat ≤ 0xBF ∧ 0x800 ≤ n ∧ (n < 0xD800 ∨ 0xDFFF < n) := by
    simp only [secondRange] at second
    split_ifs at second <;> omega
  rw [String.utf8EncodeChar, val_ofNat (by simp only [Nat.isValidChar]; omega), if_neg (by omega),
    if_neg (by omega), if_pos (by omega), ofNat_eq_byte (b := a) (by omega),
    ofNat_eq_byte (b := b) (by omega), ofNat_eq_byte (b := c) (by omega)]

theorem encodeChar_four {a b c d : UInt8} (lead : 0xF0 ≤ a.toNat ∧ a.toNat ≤ 0xF4)
    (second : (secondRange a.toNat).1 ≤ b.toNat ∧ b.toNat ≤ (secondRange a.toNat).2)
    (third : 0x80 ≤ c.toNat ∧ c.toNat ≤ 0xBF) (fourth : 0x80 ≤ d.toNat ∧ d.toNat ≤ 0xBF) :
    String.utf8EncodeChar
      (Char.ofNat (extendPoint (extendPoint (extendPoint (a.toNat % 8) b) c) d)) =
      [a, b, c, d] := by
  generalize point : extendPoint (extendPoint (extendPoint (a.toNat % 8) b) c) d = n
  simp only [extendPoint] at point
  -- here it excludes overlong forms and what lies past the last code point
  have bounds : 0x80 ≤ b.toNat ∧ b.toNat ≤ 0xBF ∧ 0x10000 ≤ n ∧ n < 0x110000 := by
    simp only [secondRange] at second
    split_ifs at second <;> omega
  rw [String.utf8EncodeChar, val_ofNat (by simp only [Nat.isValidChar]; omega), if_neg (by omega),
    if_neg (by omega), if_neg (by omega), ofNat_eq_byte (b := a) (by omega),
    ofNat_eq_byte (b := b) (by omega), ofNat_eq_byte (b := c) (by omega),
    ofNat_eq_byte (b := d) (by omega)]

theorem encodeChar_of_step {bytes c width rest} (h : step bytes = .char c width rest) :
    bytes = String.utf8EncodeChar c ++ rest := by
  cases bytes with
  | nil => cases h
  | cons a bytes =>
    simp only [step] at h
    split at h
    · next ascii =>
      simp only [Step.char.injEq] at h
      obtain ⟨rfl, -, rfl⟩ := h
      rw [String.utf8EncodeChar, val_ofNat (by left; omega), if_pos (by omega), UInt8.ofNat_toNat]
      rfl
    · split at h
      · next lead =>
        obtain ⟨more, rfl, rfl, ranged⟩ := tail_char h
        cases ranged with
        | @cons _ b _ _ second ranged =>
          cases ranged
          exact congrArg (· ++ rest) (encodeChar_two lead second).symm
      · split at h
        · next lead =>
          obtain ⟨more, rfl, rfl, ranged⟩ := tail_char h
          cases ranged with
          | @cons _ b _ _ second ranged =>
            cases ranged with
            | @cons _ c _ _ third ranged =>
              cases ranged
              exact congrArg (· ++ rest) (encodeChar_three lead second third).symm
        · split at h
          · next lead =>
            obtain ⟨more, rfl, rfl, ranged⟩ := tail_char h
            cases ranged with
            | @cons _ b _ _ second ranged =>
              cases ranged with
              | @cons _ c _ _ third ranged =>
                cases ranged with
                | @cons _ d _ _ fourth ranged =>
                  cases ranged
                  exact congrArg (· ++ rest) (encodeChar_four lead second third fourth).symm
          · cases h

theorem tail_ne_finished (ranges : List (Nat × Nat)) (point read : Nat) (input : List UInt8) :
    tail ranges point read input ≠ .finished := by
  induction ranges generalizing point read input with
  | nil => simp [tail]
  | cons range ranges ih =>
    cases input with
    | nil => simp [tail]
    | cons b input =>
      simp only [tail]
      split
      · exact ih _ _ _
      · simp

theorem eq_nil_of_step_finished {bytes} (h : step bytes = .finished) : bytes = [] := by
  cases bytes with
  | nil => rfl
  | cons a bytes =>
    simp only [step] at h
    split_ifs at h
    all_goals exact absurd h (tail_ne_finished _ _ _ _)

theorem decodeFrom_ok {start done bytes chars} (h : decodeFrom start done bytes = .ok chars) :
    ∃ more, chars = done.reverse ++ more ∧ bytes = encode more := by
  induction start, done, bytes using decodeFrom.induct with
  | case1 start done bytes finished =>
    rw [decodeFrom, finished] at h
    obtain rfl := Except.ok.inj h
    exact ⟨[], by simp, eq_nil_of_step_finished finished⟩
  | case2 start done bytes c width rest read ih =>
    rw [decodeFrom, read] at h
    obtain ⟨more, rfl, rfl⟩ := ih h
    exact ⟨c :: more, by simp, by simp [encodeChar_of_step read, encode]⟩
  | case3 start done bytes length illFormed =>
    rw [decodeFrom, illFormed] at h
    cases h

/-- Decoding is exact: only one list of bytes is read as a list of characters. -/
theorem encode_of_decode {bytes : List UInt8} {chars : List Char} (h : decode bytes = .ok chars) :
    encode chars = bytes := by
  obtain ⟨more, rfl, rfl⟩ := decodeFrom_ok h
  rfl

theorem toList_loop (bytes : ByteArray) (i : Nat) (done : List UInt8) :
    ByteArray.toList.loop bytes i done = done.reverse ++ bytes.data.toList.drop i := by
  induction i, done using ByteArray.toList.loop.induct bytes with
  | case1 i done more ih =>
    rw [ByteArray.toList.loop, if_pos more, ih, List.reverse_cons, List.append_assoc,
      List.singleton_append, ByteArray.get!]
    have within : i < bytes.data.toList.length := by simpa using more
    rw [List.drop_eq_getElem_cons within]
    simp [more]
  | case2 i done ended =>
    have within : bytes.data.toList.length ≤ i := by simpa using ended
    rw [ByteArray.toList.loop, if_neg ended, List.drop_eq_nil_of_le within, List.append_nil]

/-- Text that was decoded has the bytes it was decoded from. -/
theorem toUTF8_of_decode {bytes : List UInt8} {chars : List Char} (h : decode bytes = .ok chars) :
    (String.ofList chars).toUTF8.toList = bytes := by
  rw [ByteArray.toList, toList_loop, String.toUTF8, String.toByteArray_ofList, List.utf8Encode,
    List.toList_data_toByteArray]
  exact encode_of_decode h

end MqttRouting.Text.Utf8
