import MqttRouting.Proofs.Json.Shapes

/-!
Texts that hold an object, told by its members in the order in which they stand; the object has
the last member of each key. As reading never gives bytes back and every member takes some, a text
has room for all of its members.
-/

namespace MqttRouting.Json

/-! Reading never gives bytes back. -/

theorem skipBlank_length (input : List UInt8) : (skipBlank input).length ≤ input.length :=
  (List.dropWhile_suffix _).length_le

theorem skipDigits_length (input : List UInt8) : (skipDigits input).length ≤ input.length :=
  (List.dropWhile_suffix _).length_le

theorem readWord_length {word : List Char} {input unread : List UInt8}
    (h : readWord word input = .ok unread) : unread.length ≤ input.length := by
  induction word generalizing input with
  | nil =>
      cases h
      exact Nat.le_refl _
  | cons c word ih =>
      cases input with
      | nil => cases h
      | cons b rest =>
          rw [readWord] at h
          split at h
          · exact Nat.le_succ_of_le (ih h)
          · cases h

theorem skipExponent_length {input unread : List UInt8} (h : skipExponent input = .ok unread) :
    unread.length ≤ input.length := by
  have digits := skipDigits_length
  simp only [skipExponent, stopPast] at h
  grind

theorem skipExponentOr_length {input unread : List UInt8} (h : skipExponentOr input = .ok unread) :
    unread.length ≤ input.length := by
  have := @skipExponent_length
  simp only [skipExponentOr] at h
  grind

theorem skipFraction_length {input unread : List UInt8} (h : skipFraction input = .ok unread) :
    unread.length ≤ input.length := by
  have := @skipExponentOr_length
  have digits := skipDigits_length
  simp only [skipFraction, stopPast] at h
  grind

theorem skipInteger_length {input unread : List UInt8} (h : skipInteger input = .ok unread) :
    unread.length ≤ input.length := by
  have := @skipFraction_length
  have digits := skipDigits_length
  simp only [skipInteger, stopPast, stopAt] at h
  grind

theorem readHex4_length {input unread : List UInt8} {n : Nat}
    (h : readHex4 input = .ok (n, unread)) : unread.length ≤ input.length := by
  unfold readHex4 at h
  split at h
  · split at h
    · cases h
      simp only [List.length_cons]
      omega
    · cases h
  · cases h

theorem readCodePoint_length {input unread : List UInt8} {c : Char}
    (h : readCodePoint input = .ok (c, unread)) : unread.length ≤ input.length := by
  simp only [readCodePoint, bind_ok_iff, Prod.exists] at h
  obtain ⟨n, rest, hex, h⟩ := h
  have behind := readHex4_length hex
  split_ifs at h
  · cases h
  · simp only [bind_ok_iff, Prod.exists] at h
    obtain ⟨_, backslash, _, letter, m, rest, low, h⟩ := h
    obtain rfl := expectInString_ok backslash
    obtain rfl := expectInString_ok letter
    have behind' := readHex4_length low
    simp only [List.length_cons] at behind
    split_ifs at h
    · simp only [Except.ok.injEq, Prod.mk.injEq] at h
      rw [← h.2]
      omega
    · cases h
  · simp only [Except.ok.injEq, Prod.mk.injEq] at h
    exact h.2 ▸ behind

theorem readEscape_length {input unread : List UInt8} {c : Char}
    (h : readEscape input = .ok (c, unread)) : unread.length ≤ input.length := by
  have := @readCodePoint_length
  unfold readEscape at h
  grind [stopAt]

theorem readStringBytes_length {rounds : Nat} {done input unread bytes : List UInt8}
    (h : readStringBytes rounds done input = .ok (bytes, unread)) :
    unread.length ≤ input.length := by
  have := @readEscape_length
  induction rounds generalizing done input with
  | zero => cases h
  | succ rounds ih =>
      unfold readStringBytes at h
      grind [stopAt]

theorem readString_length {input unread : List UInt8} {s : String}
    (h : readString input = .ok (s, unread)) : unread.length ≤ input.length := by
  have := @readStringBytes_length
  simp only [readString, stopAt] at h
  grind

theorem readColon_length {input unread : List UInt8} (h : readColon input = .ok unread) :
    unread.length ≤ input.length := by
  have blank := skipBlank_length input
  simp only [readColon, stopAt] at h
  grind

/-- A reading that gives no bytes back. -/
def Consumes {α : Type} (reading : List UInt8 → Reading α) : Prop :=
  ∀ {input x unread}, reading input = .ok (x, unread) → unread.length ≤ input.length

section
variable {α : Type} {item : List UInt8 → Reading α}

theorem Items.length_le (consumes : Consumes item) {first : Bool} {input unread : List UInt8}
    {xs : List α} (items : Items item first input xs unread) : unread.length ≤ input.length := by
  induction items with
  | @done first input unread next =>
      obtain ⟨rest, ahead, rfl⟩ := nextItem_false next
      exact ahead ▸ skipBlank_length input
  | @more first input here x behind xs unread next read _ ih =>
      have blank := skipBlank_length input
      have step := consumes read
      have next := nextItem_true next
      cases first with
      | true =>
          obtain ⟨b, rest, ahead, _, rfl⟩ := next
          rw [ahead] at blank
          omega
      | false =>
          obtain ⟨rest, ahead, rfl⟩ := next
          have blank' := skipBlank_length rest
          rw [ahead, List.length_cons] at blank
          omega

/-- Every member takes a byte at least. -/
theorem Members.length_le (consumes : Consumes item) {first : Bool} {input unread : List UInt8}
    {entries : List (String × α)} (members : Members item first input entries unread) :
    entries.length + unread.length ≤ input.length := by
  induction members with
  | @done first input unread next =>
      obtain ⟨rest, ahead, rfl⟩ := nextKey_false next
      rw [List.length_nil, Nat.zero_add, ← ahead]
      exact skipBlank_length input
  | @more first input quoted _ colon here x behind entries unread next named separated read _ ih =>
      have blank := skipBlank_length input
      have key := readString_length named
      have colon := readColon_length separated
      have step := consumes read
      have next := nextKey_true next
      rw [List.length_cons]
      cases first with
      | true =>
          have ahead : skipBlank input = asciiByte '"' :: quoted := next
          rw [ahead, List.length_cons] at blank
          omega
      | false =>
          obtain ⟨rest, ahead, quote⟩ := next
          have blank' := skipBlank_length rest
          rw [ahead, List.length_cons] at blank
          rw [quote, List.length_cons] at blank'
          omega

end

theorem readSignedNumber_length {input unread : List UInt8} {n : Number}
    (h : readSignedNumber input = .ok (n, unread)) : unread.length ≤ input.length := by
  cases input with
  | nil => cases h
  | cons b rest =>
      rw [readSignedNumber] at h
      split at h
      · exact Nat.le_succ_of_le (skipInteger_length (skipInteger_of_readNumber h))
      · exact skipInteger_length (skipInteger_of_readNumber h)

theorem readValue_consumes (depth : Nat) : Consumes (readValue depth) := by
  induction depth with
  | zero => intro _ _ _ h; cases h
  | succ depth ih =>
      intro input v unread h
      obtain ⟨b, rest, ahead, begins⟩ := readValue_succ_iff.mp h
      have blank := skipBlank_length input
      rw [ahead, List.length_cons] at blank
      cases begins with
      | null word | true word | false word =>
          have step := readWord_length word
          omega
      | text string =>
          have step := readString_length string
          omega
      | number _ number =>
          have step := readSignedNumber_length number
          rw [List.length_cons] at step
          omega
      | list _ _ items =>
          have step := items.length_le ih
          rw [List.length_tail]
          omega
      | object _ _ members =>
          have step := members.length_le ih
          rw [List.length_tail]
          omega

/-! Objects. -/

/-- A text that holds an object, and its members in the order in which they stand. Their values are
what the reader takes, which bounds how deep they nest. -/
def ObjectText (text : String) (members : List (String × Value)) : Prop :=
  ∃ rest unread, skipBlank text.toUTF8.toList = asciiByte '\x7b' :: rest ∧
    Members (readValue (maxDepth - 1)) true rest members unread ∧ skipBlank unread.tail = []

/-- The object of a text has the last member of each key. -/
theorem ofText_object_iff {text : String} {fields : List (String × Value)} :
    Value.ofText text = .ok (.object fields) ↔
      ∃ members, ObjectText text members ∧ fields = Dictionary.ofList members := by
  rw [Value.ofText, Value.ofBytes, readWhole_ok_iff]
  constructor
  · rintro ⟨rest, read, ended⟩
    obtain ⟨b, behind, ahead, begins⟩ := readValue_succ_iff.mp read
    cases begins with
    | object _ _ members => exact ⟨_, ⟨_, _, ahead, members, ended⟩, rfl⟩
  · rintro ⟨members, ⟨rest, unread, ahead, all, ended⟩, rfl⟩
    have short := all.length_le (readValue_consumes _)
    refine ⟨_, readValue_succ_iff.mpr ⟨_, rest, ahead, .object (by decide) ?_ all⟩, ended⟩
    omega

/-! The members that count. -/

/-- Of several members with one key the last one counts. -/
def lastMember? (key : String) (members : List (String × Value)) : Option Value :=
  Dictionary.find? key members.reverse

theorem lastMember?_append (key : String) (front back : List (String × Value)) :
    lastMember? key (front ++ back) = (lastMember? key back).or (lastMember? key front) := by
  rw [lastMember?, List.reverse_append, Dictionary.find?_append]
  rfl

theorem lastMember?_ordered {fields : Dictionary Value} (ordered : fields.Ordered) (key : String) :
    lastMember? key fields = fields.find? key :=
  ordered.find?_reverse key

theorem lastMember?_ofList (key : String) (members : List (String × Value)) :
    lastMember? key (Dictionary.ofList members) = lastMember? key members := by
  rw [lastMember?_ordered (Dictionary.ordered_ofList members), Dictionary.find?_ofList]
  rfl

/-- For each key that either has, the member of `back` counts, or else that of `front`. -/
def Merges (front back merged : List (String × Value)) : Prop :=
  ∀ key, lastMember? key merged = (lastMember? key back).or (lastMember? key front)

theorem merges_append (front back : List (String × Value)) : Merges front back (front ++ back) :=
  fun key => lastMember?_append key front back

theorem merges_overlay (front back : List (String × Value)) :
    Merges front back (Dictionary.overlay (.ofList front) (.ofList back)) := by
  intro key
  have ordered := Dictionary.ordered_ofList front
  rw [lastMember?_ordered (ordered.overlay _), Dictionary.find?_overlay,
    ← lastMember?_ordered ordered, ← lastMember?, lastMember?_ofList, lastMember?_ofList]

end MqttRouting.Json
