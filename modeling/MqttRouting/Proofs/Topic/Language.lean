import MqttRouting.Proofs.Topic.Levels
import Mathlib.Data.List.TakeWhile

/-!
The language of the expression of a route. The walk that looks for captures finds those of
the language and no others, and the language holds the topics that the segments cover
level by level. A piece that takes a level is never followed by one that could go on with
it, so a topic is cut up in one way only.
-/

namespace MqttRouting.Topic
namespace Expression

/-! One piece at a time. -/

theorem accepts_nil {text : List Char} {captures : List Capture} :
    Accepts [] text captures ↔ text = [] ∧ captures = [] := by
  constructor
  · intro h
    cases h
    exact ⟨rfl, rfl⟩
  · rintro ⟨rfl, rfl⟩
    exact .nil

theorem accepts_char {c : Char} {rest : Expression} {text : List Char}
    {captures : List Capture} :
    Accepts (.char c :: rest) text captures ↔
      ∃ text', text = c :: text' ∧ Accepts rest text' captures := by
  constructor
  · intro h
    cases h with
    | cons taken more =>
        cases taken
        exact ⟨_, rfl, more⟩
  · rintro ⟨text', rfl, more⟩
    exact .cons (.char c) more

theorem accepts_chars {level : Level} {rest : Expression} {text : List Char}
    {captures : List Capture} :
    Accepts (level.map .char ++ rest) text captures ↔
      ∃ text', text = level ++ text' ∧ Accepts rest text' captures := by
  induction level generalizing text with
  | nil =>
      constructor
      · intro h
        exact ⟨text, rfl, h⟩
      · rintro ⟨_, rfl, h⟩
        exact h
  | cons c level ih =>
      rw [List.map_cons, List.cons_append, accepts_char]
      constructor
      · rintro ⟨_, rfl, h⟩
        obtain ⟨text', rfl, more⟩ := ih.mp h
        exact ⟨text', rfl, more⟩
      · rintro ⟨text', rfl, more⟩
        exact ⟨level ++ text', rfl, ih.mpr ⟨text', rfl, more⟩⟩

theorem accepts_level {rest : Expression} {text : List Char} {captures : List Capture} :
    Accepts (.level :: rest) text captures ↔
      ∃ level text' captures', level ≠ [] ∧ '/' ∉ level ∧ text = level ++ text' ∧
        captures = some level :: captures' ∧ Accepts rest text' captures' := by
  constructor
  · intro h
    cases h with
    | cons taken more =>
        cases taken with
        | level filled clean => exact ⟨_, _, _, filled, clean, rfl, rfl, more⟩
  · rintro ⟨level, text', captures', filled, clean, rfl, rfl, more⟩
    exact .cons (.level filled clean) more

theorem accepts_tail {text : List Char} {captures : List Capture} :
    Accepts [.tail] text captures ↔
      text = [] ∧ captures = [none] ∨
        ∃ text', text = '/' :: text' ∧ captures = [some text] := by
  constructor
  · intro h
    cases h with
    | cons taken more =>
        cases more
        cases taken with
        | noTail => exact .inl ⟨rfl, rfl⟩
        | tail text' => exact .inr ⟨text', by simp⟩
  · rintro (⟨rfl, rfl⟩ | ⟨text', rfl, rfl⟩)
    · exact .cons .noTail .nil
    · have taken := Accepts.cons (.tail text') .nil
      rwa [List.append_nil, List.append_nil] at taken

theorem accepts_all {text : List Char} {captures : List Capture} :
    Accepts [.all] text captures ↔ captures = [some text] := by
  constructor
  · intro h
    cases h with
    | cons taken more =>
        cases more
        cases taken
        simp
  · rintro rfl
    have taken := Accepts.cons (.all text) .nil
    rwa [List.append_nil, List.append_nil] at taken

/-! Pieces of segments. -/

/-- The slash in front of a level that is not the first. -/
def lead (first : Bool) : List Char := if first then [] else ['/']

def pieces (first : Bool) : List Segment → Expression
  | [] => []
  | segment :: rest => ofSegment first segment ++ pieces false rest

theorem pieces_literal (first : Bool) (level : Level) (rest : List Segment) :
    pieces first (.literal level :: rest) =
      (lead first ++ level).map .char ++ pieces false rest := by
  cases first <;> rfl

theorem pieces_plus (first : Bool) (rest : List Segment) :
    pieces first (.plus :: rest) = (lead first).map .char ++ .level :: pieces false rest := by
  cases first <;> rfl

theorem ofSegments_pieces (segments : List Segment) : ofSegments segments = pieces true segments := by
  have later (rest : List Segment) : rest.flatMap (ofSegment false) = pieces false rest := by
    induction rest with
    | nil => rfl
    | cons segment rest ih => rw [List.flatMap_cons, ih, pieces]
  cases segments with
  | nil => rfl
  | cons segment rest => rw [ofSegments, pieces, later]

/-- Pieces behind a level leave it where it ended. -/
theorem ends_of_accepts {segments : List Segment} (proper : Proper segments) {text : List Char}
    {captures : List Capture} (h : Accepts (pieces false segments) text captures) :
    Ends text := by
  cases segments with
  | nil =>
      obtain ⟨rfl, _⟩ := accepts_nil.mp h
      exact ends_nil
  | cons segment rest =>
      cases segment with
      | literal level =>
          rw [pieces_literal, accepts_chars] at h
          obtain ⟨_, rfl, _⟩ := h
          exact ends_slash _
      | plus =>
          rw [pieces_plus, accepts_chars] at h
          obtain ⟨_, rfl, _⟩ := h
          exact ends_slash _
      | hash =>
          cases proper
          obtain ⟨rfl, _⟩ | ⟨_, rfl, _⟩ := accepts_tail.mp h
          · exact ends_nil
          · exact ends_slash _

/-! The walk finds the captures of the language. -/

theorem accepts_of_match? {expression : Expression} {text : List Char} {captures : List Capture}
    (h : match? expression text = some captures) : Accepts expression text captures := by
  induction expression generalizing text captures with
  | nil =>
      cases text with
      | nil =>
          cases h
          exact .nil
      | cons c text => cases h
  | cons piece rest ih =>
      cases piece with
      | char c =>
          cases text with
          | nil => cases h
          | cons c' text =>
              rw [match?] at h
              split at h
              · rename_i same
                subst same
                exact .cons (.char c) (ih h)
              · cases h
      | level =>
          rw [match?] at h
          split at h
          · cases h
          · rename_i filled
            obtain ⟨captures', found, rfl⟩ := Option.map_eq_some_iff.mp h
            have taken : Piece.Takes .level (text.takeWhile (· != '/')) _ :=
              .level (filled ∘ List.isEmpty_iff.mpr)
                fun slash => absurd (List.mem_takeWhile_imp slash) (by decide)
            have whole := Accepts.cons taken (ih found)
            rwa [List.takeWhile_append_dropWhile] at whole
      | tail =>
          rw [match?.eq_def] at h
          dsimp only at h
          split at h
          · rename_i behind
            obtain ⟨captures', found, rfl⟩ := Option.map_eq_some_iff.mp h
            have taken := Accepts.cons (.tail behind) (ih found)
            rwa [List.append_nil] at taken
          · obtain ⟨captures', found, rfl⟩ := Option.map_eq_some_iff.mp h
            exact .cons .noTail (ih found)
      | all =>
          rw [match?] at h
          obtain ⟨captures', found, rfl⟩ := Option.map_eq_some_iff.mp h
          have taken := Accepts.cons (.all text) (ih found)
          rwa [List.append_nil] at taken

theorem match?_chars (level : Level) (rest : Expression) (text : List Char) :
    match? (level.map .char ++ rest) (level ++ text) = match? rest text := by
  induction level with
  | nil => rfl
  | cons c level ih => simpa [match?] using ih

/-- A level piece stops where the level does. -/
theorem match?_level {level : Level} (filled : level ≠ []) (clean : '/' ∉ level)
    (rest : Expression) {text : List Char} (ends : Ends text) :
    match? (.level :: rest) (level ++ text) = (match? rest text).map (some level :: ·) := by
  have within : ∀ c ∈ level, (c != '/') = true := by
    intro c mem
    simpa using fun slash : c = '/' => clean (slash ▸ mem)
  have stops : text.takeWhile (· != '/') = [] ∧ text.dropWhile (· != '/') = text := by
    cases text with
    | nil => exact ⟨rfl, rfl⟩
    | cons c text =>
        have slash : c = '/' := ends c rfl
        simp [slash]
  rw [match?, List.takeWhile_append_of_pos within, List.dropWhile_append_of_pos within,
    stops.1, stops.2, List.append_nil, if_neg (by simpa using filled)]

theorem match?_of_accepts {segments : List Segment} (proper : Proper segments) {first : Bool}
    {text : List Char} {captures : List Capture}
    (h : Accepts (pieces first segments) text captures) :
    match? (pieces first segments) text = some captures := by
  induction segments generalizing first text captures with
  | nil =>
      obtain ⟨rfl, rfl⟩ := accepts_nil.mp h
      rfl
  | cons segment rest ih =>
      cases segment with
      | literal level =>
          rw [pieces_literal] at h ⊢
          obtain ⟨text', rfl, more⟩ := accepts_chars.mp h
          rw [match?_chars]
          exact ih proper.2 more
      | plus =>
          have later : Proper rest := proper
          rw [pieces_plus] at h ⊢
          obtain ⟨_, rfl, taken⟩ := accepts_chars.mp h
          obtain ⟨level, text', captures', filled, clean, rfl, rfl, more⟩ := accepts_level.mp taken
          rw [match?_chars, match?_level filled clean _ (ends_of_accepts later more),
            ih later more]
          rfl
      | hash =>
          cases proper
          cases first with
          | true =>
              cases accepts_all.mp h
              rfl
          | false =>
              obtain ⟨rfl, rfl⟩ | ⟨text', rfl, rfl⟩ := accepts_tail.mp h <;> rfl

theorem match?_iff {segments : List Segment} (proper : Proper segments) (text : List Char)
    (captures : List Capture) :
    match? (ofSegments segments) text = some captures ↔
      Accepts (ofSegments segments) text captures := by
  refine ⟨accepts_of_match?, ?_⟩
  rw [ofSegments_pieces]
  exact match?_of_accepts proper

/-! The topics of the language. -/

/-- Behind the first level, what is accepted is what the segments cover, with a slash in front
of each level. -/
theorem accepts_slashed {segments : List Segment} (proper : Proper segments) {topic : List Level}
    (clean : ∀ l ∈ topic, '/' ∉ l) :
    (∃ captures, Accepts (pieces false segments) (slashed topic) captures) ↔
      covers segments topic = true := by
  induction segments generalizing topic with
  | nil =>
      cases topic with
      | nil => exact ⟨fun _ => rfl, fun _ => ⟨[], .nil⟩⟩
      | cons level topic =>
          constructor
          · rintro ⟨captures, h⟩
            cases (accepts_nil.mp h).1
          · intro covered
            cases covered
  | cons segment rest ih =>
      cases segment with
      | literal text =>
          rw [pieces_literal]
          cases topic with
          | nil =>
              constructor
              · rintro ⟨captures, h⟩
                obtain ⟨_, none, _⟩ := accepts_chars.mp h
                cases none
              · intro covered
                cases covered
          | cons level topic =>
              obtain ⟨here, later⟩ := List.forall_mem_cons.mp clean
              rw [covers, Bool.and_eq_true, beq_iff_eq, ← ih proper.2 later]
              constructor
              · rintro ⟨captures, h⟩
                obtain ⟨text', whole, more⟩ := accepts_chars.mp h
                -- the level of the segment and the one of the topic end at the same slash
                obtain ⟨rfl, rfl⟩ := level_unique here proper.1 (ends_slashed topic)
                  (ends_of_accepts proper.2 more) (List.cons.inj whole).2
                exact ⟨rfl, captures, more⟩
              · rintro ⟨rfl, captures, more⟩
                exact ⟨captures, accepts_chars.mpr ⟨slashed topic, rfl, more⟩⟩
      | plus =>
          have proper : Proper rest := proper
          rw [pieces_plus]
          cases topic with
          | nil =>
              constructor
              · rintro ⟨captures, h⟩
                obtain ⟨_, none, _⟩ := accepts_chars.mp h
                cases none
              · intro covered
                cases covered
          | cons level topic =>
              obtain ⟨here, later⟩ := List.forall_mem_cons.mp clean
              rw [covers, Bool.and_eq_true, ← ih proper later]
              constructor
              · rintro ⟨captures, h⟩
                obtain ⟨_, whole, taken⟩ := accepts_chars.mp h
                obtain ⟨level', text', captures', filled, clean', rfl, rfl, more⟩ :=
                  accepts_level.mp taken
                obtain ⟨rfl, rfl⟩ := level_unique here clean' (ends_slashed topic)
                  (ends_of_accepts proper more) (List.cons.inj whole).2
                exact ⟨by simpa using filled, captures', more⟩
              · rintro ⟨filled, captures, more⟩
                have taken : Accepts (.level :: pieces false rest) (level ++ slashed topic)
                    (some level :: captures) :=
                  accepts_level.mpr
                    ⟨level, _, captures, by simpa using filled, here, rfl, rfl, more⟩
                exact ⟨_, accepts_chars.mpr ⟨level ++ slashed topic, rfl, taken⟩⟩
      | hash =>
          cases proper
          refine ⟨fun _ => rfl, fun _ => ?_⟩
          cases topic with
          | nil => exact ⟨[none], accepts_tail.mpr (.inl ⟨rfl, rfl⟩)⟩
          | cons level topic => exact ⟨_, accepts_tail.mpr (.inr ⟨_, rfl, rfl⟩)⟩

/-- The first level is like the others once it has a slash of its own. -/
theorem accepts_first {segments : List Segment} (proper : Proper segments) (filled : segments ≠ [])
    (text : List Char) :
    (∃ captures, Accepts (pieces true segments) text captures) ↔
      ∃ captures, Accepts (pieces false segments) ('/' :: text) captures := by
  cases segments with
  | nil => contradiction
  | cons segment rest =>
      cases segment with
      | literal level =>
          simp only [pieces_literal, accepts_chars, lead]
          simp
      | plus =>
          simp only [pieces_plus, accepts_chars, lead]
          simp
      | hash =>
          cases proper
          exact ⟨fun _ => ⟨_, accepts_tail.mpr (.inr ⟨text, rfl, rfl⟩)⟩,
            fun _ => ⟨_, accepts_all.mpr rfl⟩⟩

theorem accepts_iff_covers {segments : List Segment} (proper : Proper segments)
    (filled : segments ≠ []) (text : List Char) :
    (∃ captures, Accepts (ofSegments segments) text captures) ↔
      covers segments (levels text) = true := by
  obtain ⟨level, rest, cut, whole, clean⟩ := levels_split text
  rw [ofSegments_pieces, accepts_first proper filled, cut, ← accepts_slashed proper clean,
    slashed_cons, ← whole]

end Expression

theorem Matcher.isMatch_iff {route : String} {m : Matcher} (made : m.Made route)
    (topic : String) :
    m.isMatch topic = true ↔
      ∃ captures, (Expression.ofSegments m.segments).Accepts topic.toList captures := by
  rw [Matcher.isMatch, made.expression, Option.isSome_iff_exists]
  exact exists_congr (Expression.match?_iff made.proper _)

end MqttRouting.Topic
