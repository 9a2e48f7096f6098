import Mathlib.Tactic.SplitIfs
import MqttRouting.Json.Reader
import MqttRouting.Proofs.Except
import MqttRouting.Proofs.Text.Utf8

/-!
What the reader of JSON text accepts, as relations without rounds and accumulators: the
items between two brackets, the members between two braces, and a value by its first
byte.
-/

namespace MqttRouting.Json

theorem eq_asciiByte {b : UInt8} {c : Char} (h : Char.ofNat b.toNat = c) : b = asciiByte c := by
  have valid : b.toNat.isValidChar := by
    have := b.toNat_lt
    left; omega
  have same : (Char.ofNat b.toNat).toNat = b.toNat := Text.Utf8.val_ofNat valid
  rw [← h, asciiByte, same, UInt8.ofNat_toNat]

@[simp] theorem skipBlank_skipBlank (input : List UInt8) :
    skipBlank (skipBlank input) = skipBlank input := by
  induction input with
  | nil => rfl
  | cons b rest ih =>
    by_cases blank : isBlankByte b
    · simpa [skipBlank, List.dropWhile_cons, blank] using ih
    · simp [skipBlank, blank]

/-! Lists and objects. -/

section
variable {α : Type} {item : List UInt8 → Reading α}

/-- The items up to the closing bracket, which stays unread. -/
inductive Items (item : List UInt8 → Reading α) :
    (first : Bool) → List UInt8 → List α → (unread : List UInt8) → Prop where
  | done {first input unread} :
    nextItem first input = .ok (false, unread) → Items item first input [] unread
  | more {first input here x behind xs unread} :
    nextItem first input = .ok (true, here) → item here = .ok (x, behind) →
      Items item false behind xs unread → Items item first input (x :: xs) unread

/-- The members up to the closing brace, in the order in which they stand. -/
inductive Members (item : List UInt8 → Reading α) :
    (first : Bool) → List UInt8 → List (String × α) → (unread : List UInt8) → Prop where
  | done {first input unread} :
    nextKey first input = .ok (false, unread) → Members item first input [] unread
  | more {first input quoted key colon here x behind entries unread} :
    nextKey first input = .ok (true, quoted) → readString quoted = .ok (key, colon) →
      readColon colon = .ok here → item here = .ok (x, behind) →
      Members item false behind entries unread →
      Members item first input ((key, x) :: entries) unread

theorem readItems_ok_iff {rounds first done input xs unread} :
    readItems item rounds first done input = .ok (xs, unread) ↔
      ∃ more, more.length < rounds ∧ xs = done.reverse ++ more ∧
        Items item first input more unread := by
  induction rounds generalizing first done input with
  | zero => simp [readItems, stopAt]
  | succ rounds ih =>
    simp only [readItems, bind_ok_iff, Prod.exists]
    constructor
    · rintro ⟨more, here, next, h⟩
      cases more with
      | false =>
        simp only [Bool.false_eq_true, if_false, Except.ok.injEq, Prod.mk.injEq] at h
        obtain ⟨rfl, rfl⟩ := h
        exact ⟨[], by simp, by simp, .done next⟩
      | true =>
        simp only [if_true, bind_ok_iff, Prod.exists, ih] at h
        obtain ⟨x, behind, read, more, short, rfl, items⟩ := h
        exact ⟨x :: more, by simpa using short, by simp, .more next read items⟩
    · rintro ⟨more, short, rfl, items⟩
      cases items with
      | done next => exact ⟨false, unread, next, by simp⟩
      | @more _ _ here x behind xs _ next read items =>
        refine ⟨true, here, next, ?_⟩
        simp only [if_true, bind_ok_iff, Prod.exists, ih]
        exact ⟨x, behind, read, xs, by simpa using short, by simp, items⟩

theorem readMembers_ok_iff {rounds first done input d unread} :
    readMembers item rounds first done input = .ok (d, unread) ↔
      ∃ entries, entries.length < rounds ∧ d = Dictionary.overlay done entries ∧
        Members item first input entries unread := by
  induction rounds generalizing first done input with
  | zero => simp [readMembers, stopAt]
  | succ rounds ih =>
    simp only [readMembers, bind_ok_iff, Prod.exists]
    constructor
    · rintro ⟨more, quoted, next, h⟩
      cases more with
      | false =>
        simp only [Bool.false_eq_true, if_false, Except.ok.injEq, Prod.mk.injEq] at h
        obtain ⟨rfl, rfl⟩ := h
        exact ⟨[], by simp, rfl, .done next⟩
      | true =>
        simp only [if_true, bind_ok_iff, Prod.exists, ih] at h
        obtain ⟨key, colon, named, here, separated, x, behind, read, entries, short, rfl, rest⟩ := h
        exact ⟨(key, x) :: entries, by simpa using short, rfl, .more next named separated read rest⟩
    · rintro ⟨entries, short, rfl, members⟩
      cases members with
      | done next => exact ⟨false, unread, next, by simp [Dictionary.overlay]⟩
      | @more _ _ quoted key colon here x behind entries _ next named separated read rest =>
        refine ⟨true, quoted, next, ?_⟩
        simp only [if_true, bind_ok_iff, Prod.exists, ih]
        exact ⟨key, colon, named, here, separated, x, behind, read, entries, by simpa using short,
          rfl, rest⟩

end

/-! Values. -/

/-- The value that starts with a byte, by that byte and what stands behind it. -/
inductive Begins (depth : Nat) (rest : List UInt8) :
    UInt8 → Value → (unread : List UInt8) → Prop where
  | null {unread} :
    readWord ['u', 'l', 'l'] rest = .ok unread → Begins depth rest (asciiByte 'n') .null unread
  | true {unread} :
    readWord ['r', 'u', 'e'] rest = .ok unread →
      Begins depth rest (asciiByte 't') (.bool true) unread
  | false {unread} :
    readWord ['a', 'l', 's', 'e'] rest = .ok unread →
      Begins depth rest (asciiByte 'f') (.bool false) unread
  | text {s unread} :
    readString rest = .ok (s, unread) → Begins depth rest (asciiByte '"') (.text s) unread
  | number {b n unread} :
    startsNumber b → readSignedNumber (b :: rest) = .ok (n, unread) →
      Begins depth rest b (.number n) unread
  | list {vs unread} :
    depth ≠ 0 → vs.length ≤ rest.length → Items (readValue depth) .true rest vs unread →
      Begins depth rest (asciiByte '[') (.list vs) unread.tail
  | object {entries unread} :
    depth ≠ 0 → entries.length ≤ rest.length → Members (readValue depth) .true rest entries unread →
      Begins depth rest (asciiByte '\x7b') (.object (Dictionary.overlay [] entries)) unread.tail

theorem readNested_list_iff {item : List UInt8 → Reading Value} {rest v unread} :
    readNested (asciiByte '[') item rest = .ok (v, unread) ↔
      ∃ vs here, vs.length ≤ rest.length ∧ Items item true rest vs here ∧
        v = .list vs ∧ unread = here.tail := by
  simp only [readNested, if_true, bind_ok_iff, Prod.exists, readItems_ok_iff, Nat.lt_add_one_iff,
    List.reverse_nil, List.nil_append, Except.ok.injEq, Prod.mk.injEq]
  constructor
  · rintro ⟨_, here, ⟨vs, short, rfl, items⟩, rfl, rfl⟩
    exact ⟨_, here, short, items, rfl, rfl⟩
  · rintro ⟨vs, here, short, items, rfl, rfl⟩
    exact ⟨vs, here, ⟨vs, short, rfl, items⟩, rfl, rfl⟩

theorem readNested_object_iff {item : List UInt8 → Reading Value} {rest v unread} :
    readNested (asciiByte '\x7b') item rest = .ok (v, unread) ↔
      ∃ entries here, entries.length ≤ rest.length ∧ Members item true rest entries here ∧
        v = .object (Dictionary.overlay [] entries) ∧ unread = here.tail := by
  have brace : asciiByte '\x7b' ≠ asciiByte '[' := by decide
  simp only [readNested, if_neg brace, bind_ok_iff, Prod.exists, readMembers_ok_iff,
    Nat.lt_add_one_iff, Except.ok.injEq, Prod.mk.injEq]
  constructor
  · rintro ⟨_, here, ⟨entries, short, rfl, members⟩, rfl, rfl⟩
    exact ⟨entries, here, short, members, rfl, rfl⟩
  · rintro ⟨entries, here, short, members, rfl, rfl⟩
    exact ⟨_, here, ⟨entries, short, rfl, members⟩, rfl, rfl⟩

theorem begins_of_readValue {depth input v unread}
    (h : readValue (depth + 1) input = .ok (v, unread)) :
    ∃ b rest, skipBlank input = b :: rest ∧ Begins depth rest b v unread := by
  simp only [readValue] at h
  split at h
  · cases h
  · next b rest ahead =>
    refine ⟨b, rest, ahead, ?_⟩
    split at h
    · next c =>
      obtain rfl := eq_asciiByte c
      obtain ⟨_, word, same⟩ := map_ok_iff.mp h
      obtain ⟨rfl, rfl⟩ := same
      exact .null word
    · next c =>
      obtain rfl := eq_asciiByte c
      obtain ⟨_, word, same⟩ := map_ok_iff.mp h
      obtain ⟨rfl, rfl⟩ := same
      exact .true word
    · next c =>
      obtain rfl := eq_asciiByte c
      obtain ⟨_, word, same⟩ := map_ok_iff.mp h
      obtain ⟨rfl, rfl⟩ := same
      exact .false word
    · next c =>
      obtain rfl := eq_asciiByte c
      obtain ⟨_, word, same⟩ := map_ok_iff.mp h
      obtain ⟨rfl, rfl⟩ := same
      exact .text word
    · next c =>
      obtain rfl := eq_asciiByte c
      split_ifs at h with flat
      · cases h
      obtain ⟨vs, here, short, items, rfl, rfl⟩ := readNested_list_iff.mp h
      exact .list flat short items
    · next c =>
      obtain rfl := eq_asciiByte c
      split_ifs at h with flat
      · cases h
      obtain ⟨entries, here, short, members, rfl, rfl⟩ := readNested_object_iff.mp h
      exact .object flat short members
    · split_ifs at h with starts
      · obtain ⟨_, read, same⟩ := map_ok_iff.mp h
        obtain ⟨rfl, rfl⟩ := same
        exact .number starts read
      · cases h

theorem readValue_of_begins {depth input b rest v unread} (ahead : skipBlank input = b :: rest)
    (begins : Begins depth rest b v unread) : readValue (depth + 1) input = .ok (v, unread) := by
  simp only [readValue]
  rw [ahead]
  cases begins with
  | null word | true word | false word | text word => exact map_ok_iff.mpr ⟨_, word, rfl⟩
  | list deep short items =>
    exact (if_neg deep).trans (readNested_list_iff.mpr ⟨_, _, short, items, rfl, rfl⟩)
  | object deep short members =>
    exact (if_neg deep).trans (readNested_object_iff.mpr ⟨_, _, short, members, rfl, rfl⟩)
  | number starts read =>
    dsimp only
    split
    case h_7 =>
      rw [if_pos starts, read]
      rfl
    -- no other value starts as a number does
    all_goals
      rename_i c
      obtain rfl := eq_asciiByte c
      exact absurd starts (by decide)

theorem readValue_succ_iff {depth input v unread} :
    readValue (depth + 1) input = .ok (v, unread) ↔
      ∃ b rest, skipBlank input = b :: rest ∧ Begins depth rest b v unread :=
  ⟨begins_of_readValue, fun ⟨_, _, ahead, begins⟩ => readValue_of_begins ahead begins⟩

end MqttRouting.Json
