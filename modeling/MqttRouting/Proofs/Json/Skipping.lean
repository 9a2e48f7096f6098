import MqttRouting.Json.Skip
import MqttRouting.Proofs.Json.Reading

/-!
Skipping a value leaves the same bytes unread as reading it. Where a value is read by a
recursion over the brackets, it is skipped in one loop that keeps the open brackets in a
list; so the two are compared at the end of each value, where the loop has to go on with
the brackets that are still open.
-/

namespace MqttRouting.Json

/-! Numbers. -/

theorem skipDigits_of_not_digit {input : List UInt8} (h : startsWithDigit input = false) :
    skipDigits input = input := by
  cases input with
  | nil => rfl
  | cons b rest =>
    simp only [startsWithDigit, List.head?_cons, Option.bind_some] at h
    simp [skipDigits, h]

theorem skipDigits_of_digit {b : UInt8} {rest : List UInt8} (h : startsWithDigit (b :: rest)) :
    skipDigits (b :: rest) = skipDigits rest := by
  simp only [startsWithDigit, List.head?_cons, Option.bind_some] at h
  simp [skipDigits, h]

/-- Digits that are read are digits that are skipped, whether they fit or not. -/
theorem skipDigits_readDigits (limit n count : Nat) (input : List UInt8) :
    skipDigits (readDigits limit n count input).2.2 = skipDigits input := by
  induction input generalizing n count with
  | nil => rfl
  | cons b rest ih =>
    simp only [readDigits]
    split
    · next d digit =>
      split
      · rw [ih, skipDigits_of_digit (by simp [startsWithDigit, digit])]
      · rfl
    · rfl

theorem startsWithDigit_of_readDigits (limit n count : Nat) (input : List UInt8)
    (h : startsWithDigit (readDigits limit n count input).2.2 ∨
      (readDigits limit n count input).2.1 ≠ count) : startsWithDigit input := by
  cases input with
  | nil => simp [readDigits, startsWithDigit] at h
  | cons b rest =>
    simp only [readDigits] at h
    split at h
    · next d digit => simp [startsWithDigit, digit]
    · simpa using h

theorem signedFloat_ok {negative magnitude rest n unread}
    (h : signedFloat negative magnitude rest = .ok (n, unread)) : unread = rest := by
  cases magnitude with
  | none => cases h
  | some x => exact (congrArg Prod.snd (Except.ok.inj h)).symm

theorem floatNumber_ok {negative digits exponent rest n unread}
    (h : floatNumber negative digits exponent rest = .ok (n, unread)) : unread = rest :=
  signedFloat_ok h

theorem wholeNumber_ok {negative digits rest n unread}
    (h : wholeNumber negative digits rest = .ok (n, unread)) : unread = rest := by
  simp only [wholeNumber] at h
  split_ifs at h
  · simp only [Except.ok.injEq, Prod.mk.injEq] at h
    exact h.2.symm
  · exact floatNumber_ok h
  · simp only [Except.ok.injEq, Prod.mk.injEq] at h
    exact h.2.symm

theorem skipExponent_eq (input : List UInt8) :
    skipExponent input =
      if startsWithDigit (readExponentSign input).2 then
        .ok (skipDigits (readExponentSign input).2)
      else stopPast .invalidNumber (readExponentSign input).2 := by
  cases input with
  | nil => rfl
  | cons b rest =>
    by_cases minus : b = asciiByte '-'
    · simp [skipExponent, readExponentSign, minus]
    · have signs : asciiByte '+' ≠ asciiByte '-' := by decide
      by_cases plus : b = asciiByte '+'
      · simp [skipExponent, readExponentSign, plus, signs]
      · simp [skipExponent, readExponentSign, minus, plus]

theorem skipExponent_of_readExponent {negative digits start input n unread}
    (h : readExponent negative digits start input = .ok (n, unread)) :
    skipExponent input = .ok unread := by
  rw [skipExponent_eq]
  simp only [readExponent] at h
  split at h
  · cases h
  · next b rest behind =>
    split at h
    · cases h
    · next d digit =>
      have starts : startsWithDigit (b :: rest) := by simp [startsWithDigit, digit]
      have all := skipDigits_readDigits 0x80000000 d 0 rest
      rw [behind, if_pos starts, skipDigits_of_digit starts, ← all]
      split at h
      · split at h
        · cases h
        · simp only [Except.ok.injEq, Prod.mk.injEq] at h
          rw [h.2]
      · next ended =>
        rw [skipDigits_of_not_digit (by simpa using ended), floatNumber_ok h]

theorem skipExponentOr_of_readExponentOr {negative digits start input otherwise n unread}
    (h : readExponentOr negative digits start input otherwise = .ok (n, unread))
    (plain : otherwise = .ok (n, unread) → unread = input) :
    skipExponentOr input = .ok unread := by
  cases input with
  | nil => rw [plain h]; rfl
  | cons b rest =>
    simp only [readExponentOr] at h
    simp only [skipExponentOr]
    split at h
    · next exponent => rw [if_pos exponent, skipExponent_of_readExponent h]
    · next none => rw [if_neg none, plain h]

theorem skipExponentOr_of_readFraction {negative digits start input n unread}
    (h : readFraction negative digits start input = .ok (n, unread)) :
    startsWithDigit input ∧ skipExponentOr (skipDigits input) = .ok unread := by
  have all := skipDigits_readDigits 0x10000000000000000 digits 0 input
  have some := startsWithDigit_of_readDigits 0x10000000000000000 digits 0 input
  simp only [readFraction] at h
  split at h
  · next more =>
    exact ⟨some (.inl more), all ▸ skipExponentOr_of_readExponentOr h floatNumber_ok⟩
  · next ended =>
    split at h
    · cases h
    · next read =>
      refine ⟨some (.inr read), ?_⟩
      rw [← all, skipDigits_of_not_digit (by simpa using ended)]
      exact skipExponentOr_of_readExponentOr h floatNumber_ok

theorem skipFraction_of_readPoint {negative digits start input otherwise n unread}
    (h : readPoint negative digits start input otherwise = .ok (n, unread))
    (plain : otherwise = .ok (n, unread) → unread = input) :
    skipFraction input = .ok unread := by
  cases input with
  | nil => rw [plain h]; rfl
  | cons b rest =>
    simp only [readPoint] at h
    simp only [skipFraction]
    split at h
    · next point =>
      obtain ⟨starts, skipped⟩ := skipExponentOr_of_readFraction h
      rw [if_pos point, if_pos starts, skipped]
    · next none => rw [if_neg none, skipExponentOr_of_readExponentOr h plain]

theorem skipInteger_of_readNumber {negative input n unread}
    (h : readNumber negative input = .ok (n, unread)) : skipInteger input = .ok unread := by
  cases input with
  | nil => cases h
  | cons b rest =>
    simp only [readNumber] at h
    split at h
    · cases h
    · next zero =>
      simp only [skipInteger, zero]
      split at h
      · cases h
      · next alone => exact (if_neg alone).trans (skipFraction_of_readPoint h wholeNumber_ok)
    · next d nonzero digit =>
      have all := skipDigits_readDigits 0x10000000000000000 d 0 rest
      have skipped : skipFraction (skipDigits rest) = .ok unread := by
        split at h
        · exact all ▸ skipFraction_of_readPoint h floatNumber_ok
        · next ended =>
          rw [← all, skipDigits_of_not_digit (by simpa using ended)]
          exact skipFraction_of_readPoint h wholeNumber_ok
      cases d with
      | zero => exact absurd rfl nonzero
      | succ d => simpa only [skipInteger, digit] using skipped

/-! Strings. -/

theorem expectInString_ok {c : Char} {input unread : List UInt8}
    (h : expectInString c input = .ok unread) : input = asciiByte c :: unread := by
  cases input with
  | nil => cases h
  | cons b rest =>
    simp only [expectInString] at h
    split at h
    · next same => rw [same, Except.ok.inj h]
    · cases h

/-- A pair of surrogates is one escape to the reader and two to what skips it. -/
theorem skipString_of_readCodePoint {input : List UInt8} {c : Char} {unread : List UInt8}
    {rounds : Nat} {r : List UInt8} (h : readCodePoint input = .ok (c, unread))
    (skip : ((readHex4 input).map Prod.snd >>= skipString rounds) = .ok r) :
    ∃ rounds, skipString rounds unread = .ok r := by
  simp only [readCodePoint, bind_ok_iff, Prod.exists] at h
  obtain ⟨n, rest, hex, h⟩ := h
  rw [hex] at skip
  split at h
  · cases h
  · split at h
    · simp only [bind_ok_iff, Prod.exists] at h
      obtain ⟨_, backslash, _, letter, m, rest, low, h⟩ := h
      split at h
      · simp only [Except.ok.injEq, Prod.mk.injEq] at h
        obtain rfl := expectInString_ok backslash
        obtain rfl := expectInString_ok letter
        obtain ⟨-, rfl⟩ := h
        cases rounds with
        | zero => cases skip
        | succ rounds =>
          have again : ((readHex4 _).map Prod.snd >>= skipString rounds) = .ok r := skip
          rw [low] at again
          exact ⟨rounds, again⟩
      · cases h
    · simp only [Except.ok.injEq, Prod.mk.injEq] at h
      obtain ⟨-, rfl⟩ := h
      exact ⟨rounds, skip⟩

theorem skipString_of_readEscape {input : List UInt8} {c : Char} {unread : List UInt8}
    {rounds : Nat} {r : List UInt8} (h : readEscape input = .ok (c, unread))
    (skip : (skipEscape input >>= skipString rounds) = .ok r) :
    ∃ rounds, skipString rounds unread = .ok r := by
  cases input with
  | nil => cases h
  | cons b rest =>
    simp only [readEscape] at h
    split at h
    case h_9 letter =>
      obtain rfl := eq_asciiByte letter
      exact skipString_of_readCodePoint h skip
    case h_10 => cases h
    all_goals
      next letter =>
        obtain rfl := eq_asciiByte letter
        simp only [Except.ok.injEq, Prod.mk.injEq] at h
        obtain ⟨-, rfl⟩ := h
        exact ⟨rounds, skip⟩

theorem skipString_of_readStringBytes {rounds done input bytes unread others r}
    (h : readStringBytes rounds done input = .ok (bytes, unread))
    (skip : skipString others input = .ok r) : r = unread := by
  induction rounds generalizing done input others with
  | zero => cases h
  | succ rounds ih =>
    cases others with
    | zero => cases skip
    | succ others =>
      cases input with
      | nil => cases h
      | cons b rest =>
        simp only [readStringBytes] at h
        simp only [skipString] at skip
        by_cases quote : b = asciiByte '"'
        · rw [if_pos quote] at h skip
          simp only [Except.ok.injEq, Prod.mk.injEq] at h
          exact (Except.ok.inj skip).symm.trans h.2
        · rw [if_neg quote] at h skip
          by_cases escape : b = asciiByte '\\'
          · rw [if_pos escape] at h skip
            split at h
            · next c rest read =>
              obtain ⟨others, skip⟩ := skipString_of_readEscape read skip
              exact ih h skip
            · cases h
          · rw [if_neg escape] at h skip
            split at h
            · cases h
            · next printable =>
              rw [if_neg printable] at skip
              exact ih h skip

theorem skipString_of_readString {input s unread rounds r}
    (h : readString input = .ok (s, unread)) (skip : skipString rounds input = .ok r) :
    r = unread := by
  simp only [readString] at h
  split at h
  · cases h
  · next bytes rest read =>
    split at h
    · simp only [Except.ok.injEq, Prod.mk.injEq] at h
      exact (skipString_of_readStringBytes read skip).trans h.2
    · cases h

/-! Brackets. -/

/-- What the loop does behind a value or an opening bracket: with no brackets open it is
done, else it goes on with the next value. -/
def resume (rounds : Nat) (items : Bool) (frames : List Bracket) (input : List UInt8) :
    Except Stop (List UInt8) := do
  let (frames, input) ← skipSeparator (frames.length + 1) items frames input
  if frames.isEmpty then .ok input else skipValue rounds frames input

def Bracket.closing : Bracket → UInt8
  | .list => asciiByte ']'
  | .object => asciiByte '\x7d'

theorem Bracket.closing_ne_comma (frame : Bracket) : frame.closing ≠ asciiByte ',' := by
  cases frame <;> decide

theorem closes_iff {b : UInt8} (frame : Bracket) :
    (b = asciiByte ']' ∧ frame = .list) ∨ (b = asciiByte '\x7d' ∧ frame = .object) ↔
      b = frame.closing := by
  cases frame <;> simp [Bracket.closing]

variable (frame : Bracket) {frames : List Bracket} {input rest : List UInt8} {rounds : Nat}

theorem resume_closing {items : Bool} (ahead : skipBlank input = frame.closing :: rest) :
    resume rounds items (frame :: frames) input = resume rounds true frames rest := by
  have next : ¬ (frame.closing = asciiByte ',' ∧ items) := fun h => frame.closing_ne_comma h.1
  simp only [resume, List.length_cons, skipSeparator, ahead, if_neg next, closes_iff, if_true]

theorem resume_next (ahead : skipBlank input = asciiByte ',' :: rest) :
    resume rounds true (frame :: frames) input =
      skipKey frame rest >>= skipValue rounds (frame :: frames) := by
  simp only [resume, List.length_cons, skipSeparator, ahead, and_self, if_true]
  cases skipKey frame rest <;> rfl

theorem resume_first {b : UInt8} (ahead : skipBlank input = b :: rest)
    (opened : b ≠ frame.closing) :
    resume rounds false (frame :: frames) input =
      skipKey frame (b :: rest) >>= skipValue rounds (frame :: frames) := by
  simp only [resume, List.length_cons, skipSeparator, ahead, closes_iff, if_neg opened,
    Bool.false_eq_true, and_false, if_false]
  cases skipKey frame (b :: rest) <;> rfl

/-! Items and members. -/

theorem nextItem_false {first : Bool} {input unread : List UInt8}
    (h : nextItem first input = .ok (false, unread)) :
    ∃ rest, skipBlank input = asciiByte ']' :: rest ∧ unread = asciiByte ']' :: rest := by
  simp only [nextItem] at h
  split at h
  · cases h
  · next b rest ahead =>
    split_ifs at h with close one comma
    · simp only [Except.ok.injEq, Prod.mk.injEq, true_and] at h
      exact ⟨rest, close ▸ ahead, close ▸ h.symm⟩
    · cases h
    · split at h
      · cases h
      · split_ifs at h <;> cases h
    · cases h

theorem nextItem_true {first : Bool} {input here : List UInt8}
    (h : nextItem first input = .ok (true, here)) :
    if first then ∃ b rest, skipBlank input = b :: rest ∧ b ≠ asciiByte ']' ∧ here = b :: rest
    else ∃ rest, skipBlank input = asciiByte ',' :: rest ∧ skipBlank rest = here := by
  simp only [nextItem] at h
  split at h
  · cases h
  · next b rest ahead =>
    split_ifs at h with close one comma
    · cases h
    · simp only [Except.ok.injEq, Prod.mk.injEq, true_and] at h
      rw [if_pos one]
      exact ⟨b, rest, ahead, close, h.symm⟩
    · split at h
      · cases h
      · next c behind next =>
        split_ifs at h with trailing
        · cases h
        · simp only [Except.ok.injEq, Prod.mk.injEq, true_and] at h
          rw [if_neg one]
          exact ⟨rest, comma ▸ ahead, next.trans h⟩
    · cases h

theorem nextKey_false {first : Bool} {input unread : List UInt8}
    (h : nextKey first input = .ok (false, unread)) :
    ∃ rest, skipBlank input = asciiByte '\x7d' :: rest ∧ unread = asciiByte '\x7d' :: rest := by
  simp only [nextKey] at h
  split at h
  · cases h
  · next b rest ahead =>
    split_ifs at h with close one quote comma
    · simp only [Except.ok.injEq, Prod.mk.injEq, true_and] at h
      exact ⟨rest, close ▸ ahead, close ▸ h.symm⟩
    · cases h
    · cases h
    · split at h
      · cases h
      · split_ifs at h <;> cases h
    · cases h

theorem nextKey_true {first : Bool} {input quoted : List UInt8}
    (h : nextKey first input = .ok (true, quoted)) :
    if first then skipBlank input = asciiByte '"' :: quoted
    else ∃ rest, skipBlank input = asciiByte ',' :: rest ∧
      skipBlank rest = asciiByte '"' :: quoted := by
  simp only [nextKey] at h
  split at h
  · cases h
  · next b rest ahead =>
    split_ifs at h with close one quote comma
    · cases h
    · simp only [Except.ok.injEq, Prod.mk.injEq, true_and] at h
      rw [if_pos one, ← h, ← quote, ahead]
    · cases h
    · split at h
      · cases h
      · next c behind next =>
        split at h
        · next quote =>
          simp only [Except.ok.injEq, Prod.mk.injEq, true_and] at h
          rw [if_neg one]
          exact ⟨rest, comma ▸ ahead, by rw [next, quote, h]⟩
        · cases h
    · cases h

theorem skipKey_object {input quoted colon here unread : List UInt8} {key : String}
    (ahead : skipBlank input = asciiByte '"' :: quoted)
    (named : readString quoted = .ok (key, colon)) (separated : readColon colon = .ok here)
    (skip : skipKey .object input = .ok unread) : unread = here := by
  simp only [skipKey, ahead, if_true, bind_ok_iff] at skip
  obtain ⟨colon', skipped, skip⟩ := skip
  obtain rfl := skipString_of_readString named skipped
  exact Except.ok.inj (skip.symm.trans separated)

/-! Values. -/

theorem skipValue_skipBlank {r : List UInt8} (h : skipValue rounds frames input = .ok r) :
    skipValue rounds frames (skipBlank input) = .ok r := by
  cases rounds with
  | zero => cases h
  | succ rounds => simpa only [skipValue, skipStart, skipBlank_skipBlank] using h

/-- Behind a value that can be read, the loop goes on as if it had read it. -/
def Resumes (reading : List UInt8 → Reading Value) : Prop :=
  ∀ {input v unread rounds frames r}, reading input = .ok (v, unread) →
    skipValue rounds frames input = .ok r → ∃ rounds, resume rounds true frames unread = .ok r

theorem resume_of_items {reading : List UInt8 → Reading Value} (value : Resumes reading)
    {first input vs unread} (items : Items reading first input vs unread) {rounds r}
    (skip : resume rounds (!first) (.list :: frames) input = .ok r) :
    ∃ rounds, resume rounds true frames unread.tail = .ok r := by
  induction items generalizing rounds with
  | done next =>
    obtain ⟨rest, ahead, rfl⟩ := nextItem_false next
    exact ⟨rounds, (resume_closing .list ahead).symm.trans skip⟩
  | @more first input here v behind vs unread next read items ih =>
    have next := nextItem_true next
    cases first with
    | true =>
      obtain ⟨b, rest, ahead, opened, rfl⟩ := next
      obtain ⟨_, skip⟩ := value read ((resume_first .list ahead opened).symm.trans skip)
      exact ih skip
    | false =>
      obtain ⟨rest, ahead, rfl⟩ := next
      have skip := skipValue_skipBlank ((resume_next .list ahead).symm.trans skip)
      obtain ⟨_, skip⟩ := value read skip
      exact ih skip

theorem resume_of_members {reading : List UInt8 → Reading Value} (value : Resumes reading)
    {first input entries unread} (members : Members reading first input entries unread) {rounds r}
    (skip : resume rounds (!first) (.object :: frames) input = .ok r) :
    ∃ rounds, resume rounds true frames unread.tail = .ok r := by
  induction members generalizing rounds with
  | done next =>
    obtain ⟨rest, ahead, rfl⟩ := nextKey_false next
    exact ⟨rounds, (resume_closing .object ahead).symm.trans skip⟩
  | @more first input quoted key colon here v behind entries unread next named separated read
      _ ih =>
    obtain ⟨input', keyed, skip⟩ : ∃ input', skipBlank input' = asciiByte '"' :: quoted ∧
        (skipKey .object input' >>= skipValue rounds (.object :: frames)) = .ok r := by
      have next := nextKey_true next
      cases first with
      | true =>
        have keyed : skipBlank (asciiByte '"' :: quoted) = asciiByte '"' :: quoted := rfl
        exact ⟨_, keyed, (resume_first .object next (by decide)).symm.trans skip⟩
      | false =>
        obtain ⟨rest, ahead, keyed⟩ := next
        exact ⟨rest, keyed, (resume_next .object ahead).symm.trans skip⟩
    obtain ⟨here', skipped, skip⟩ := bind_ok_iff.mp skip
    obtain rfl := skipKey_object keyed named separated skipped
    obtain ⟨_, skip⟩ := value read skip
    exact ih skip

theorem skipStart_number {b : UInt8} {n : Number} {unread : List UInt8}
    {started : Bool × List Bracket × List UInt8} (ahead : skipBlank input = b :: rest)
    (starts : startsNumber b) (read : readSignedNumber (b :: rest) = .ok (n, unread))
    (found : skipStart frames input = .ok started) : started = (true, frames, unread) := by
  rw [skipStart, ahead] at found
  simp only [readSignedNumber] at read
  by_cases minus : b = asciiByte '-'
  · subst minus
    obtain ⟨_, skipped, rfl⟩ := map_ok_iff.mp found
    obtain rfl := Except.ok.inj (skipped.symm.trans (skipInteger_of_readNumber read))
    rfl
  · have digit : (digit? b).isSome := by simpa [startsNumber, minus] using starts
    rw [if_neg minus] at read
    dsimp only at found
    split at found
    case h_5 c => exact absurd (eq_asciiByte c) minus
    case h_8 =>
      rw [if_pos digit, skipInteger_of_readNumber read] at found
      exact (Except.ok.inj found).symm
    -- no other value starts with a digit
    all_goals
      next c =>
        obtain rfl := eq_asciiByte c
        exact absurd digit (by decide)

theorem resumes_readValue (depth : Nat) : Resumes (readValue depth) := by
  induction depth with
  | zero =>
    intro input v unread rounds frames r h
    cases h
  | succ depth ih =>
    intro input v unread rounds frames r h skip
    obtain ⟨b, rest, ahead, begins⟩ := readValue_succ_iff.mp h
    cases rounds with
    | zero => cases skip
    | succ rounds =>
      obtain ⟨_, found, skip⟩ := bind_ok_iff.mp skip
      cases begins with
      | number starts read =>
        obtain rfl := skipStart_number ahead starts read found
        exact ⟨rounds, skip⟩
      | null word | true word | false word =>
        rw [skipStart, ahead] at found
        obtain ⟨_, skipped, rfl⟩ := map_ok_iff.mp found
        obtain rfl := Except.ok.inj (skipped.symm.trans word)
        exact ⟨rounds, skip⟩
      | text read =>
        rw [skipStart, ahead] at found
        obtain ⟨_, skipped, rfl⟩ := map_ok_iff.mp found
        obtain rfl := skipString_of_readString read skipped
        exact ⟨rounds, skip⟩
      | list _ _ items =>
        rw [skipStart, ahead] at found
        obtain rfl := Except.ok.inj found
        exact resume_of_items ih items skip
      | object _ _ members =>
        rw [skipStart, ahead] at found
        obtain rfl := Except.ok.inj found
        exact resume_of_members ih members skip

/-- A value that can be read and skipped ends at the same byte either way. -/
theorem skipValue_of_readValue {depth rounds : Nat} {input unread r : List UInt8} {v : Value}
    (h : readValue depth input = .ok (v, unread)) (skip : skipValue rounds [] input = .ok r) :
    r = unread := by
  obtain ⟨_, done⟩ := resumes_readValue depth h skip
  exact (Except.ok.inj done).symm

end MqttRouting.Json
