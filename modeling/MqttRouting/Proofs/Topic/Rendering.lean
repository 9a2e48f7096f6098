import MqttRouting.Proofs.Topic.Language

/-!
Topics made from a route and values. In place of each wildcard stands a text of its kind: a
level that is not empty for `+`, the rest of the topic with its slash for a `#` behind other
levels, any text for a `#` alone. The texts that the expression of a route accepts are the
topics made like this, and the values are what the groups capture.
-/

namespace MqttRouting.Topic

open Expression (lead pieces)

/-- Values for the wildcards of a route, from left to right. -/
inductive Fits : Bool → List Level → List (List Char) → Prop where
  | nil (first : Bool) : Fits first [] []
  | literal {first : Bool} {level : Level} {route : List Level} {values : List (List Char)} :
      level ≠ ['+'] → level ≠ ['#'] → Fits false route values →
      Fits first (level :: route) values
  | plus {first : Bool} {value : List Char} {route : List Level} {values : List (List Char)} :
      value ≠ [] → '/' ∉ value → Fits false route values →
      Fits first (['+'] :: route) (value :: values)
  | all (value : List Char) : Fits true [['#']] [value]
  | tail {value : List Char} : Ends value → Fits false [['#']] [value]

/-- The topic of a route with values in place of its wildcards. Behind the first level the
value of `#` replaces the slash as well. -/
def render (first : Bool) : List Level → List (List Char) → List Char
  | [], _ => []
  | level :: route, values =>
    if level = ['#'] then values.headD []
    else if level = ['+'] then lead first ++ (values.headD [] ++ render false route values.tail)
    else lead first ++ (level ++ render false route values)

theorem fits_literal {level : Level} (notPlus : level ≠ ['+']) (notHash : level ≠ ['#'])
    {first : Bool} {route : List Level} {values : List (List Char)} :
    Fits first (level :: route) values ↔ Fits false route values := by
  constructor
  · intro fits
    cases fits with
    | literal _ _ more => exact more
    | plus => exact absurd rfl notPlus
    | all => exact absurd rfl notHash
    | tail => exact absurd rfl notHash
  · exact .literal notPlus notHash

theorem fits_plus {first : Bool} {route : List Level} {values : List (List Char)} :
    Fits first (['+'] :: route) values ↔
      ∃ value more, values = value :: more ∧ value ≠ [] ∧ '/' ∉ value ∧ Fits false route more := by
  constructor
  · intro fits
    cases fits with
    | literal notPlus => exact absurd rfl notPlus
    | plus filled clean more => exact ⟨_, _, rfl, filled, clean, more⟩
  · rintro ⟨value, more, rfl, filled, clean, fits⟩
    exact .plus filled clean fits

theorem fits_hash {first : Bool} {values : List (List Char)} :
    Fits first [['#']] values ↔ ∃ value, values = [value] ∧ (first = false → Ends value) := by
  constructor
  · intro fits
    cases fits with
    | literal _ notHash => exact absurd rfl notHash
    | all value => exact ⟨value, rfl, nofun⟩
    | tail ends => exact ⟨_, rfl, fun _ => ends⟩
  · rintro ⟨value, rfl, ends⟩
    cases first with
    | true => exact .all value
    | false => exact .tail (ends rfl)

theorem render_literal {level : Level} (notPlus : level ≠ ['+']) (notHash : level ≠ ['#'])
    (first : Bool) (route : List Level) (values : List (List Char)) :
    render first (level :: route) values = lead first ++ (level ++ render false route values) := by
  rw [render, if_neg notHash, if_neg notPlus]

theorem render_plus (first : Bool) (route : List Level) (value : List Char)
    (more : List (List Char)) :
    render first (['+'] :: route) (value :: more) =
      lead first ++ (value ++ render false route more) := rfl

theorem render_hash (first : Bool) (value : List Char) : render first [['#']] [value] = value := rfl

/-- There is a value for each wildcard. -/
theorem fits_length {segments : List Segment} {route : List Level}
    (reads : Reads segments route) (proper : Proper segments) {first : Bool}
    {values : List (List Char)} (fits : Fits first route values) :
    values.length = segments.countP Segment.isWildcard := by
  induction reads generalizing first values with
  | nil =>
      cases fits
      rfl
  | @cons segment level segments route here reads ih =>
      cases segment with
      | literal text =>
          obtain ⟨rfl, notPlus, notHash⟩ := Segment.ofLevel_literal here
          rw [ih proper.2 ((fits_literal notPlus notHash).mp fits),
            List.countP_cons_of_neg Bool.false_ne_true]
      | plus =>
          cases Segment.ofLevel_plus here
          obtain ⟨value, more, rfl, _, _, fits⟩ := fits_plus.mp fits
          rw [List.length_cons, ih proper fits, List.countP_cons_of_pos rfl]
      | hash =>
          cases Segment.ofLevel_hash here
          cases proper
          cases reads
          obtain ⟨value, rfl, _⟩ := fits_hash.mp fits
          rfl

/-- What a group holds; a group that took no part holds nothing. -/
def held (captures : List Capture) : List (List Char) := captures.map (·.getD [])

/-- What the groups hold fits the route and makes the text again. -/
theorem render_held {segments : List Segment} {route : List Level}
    (reads : Reads segments route) (proper : Proper segments) {first : Bool}
    {text : List Char} {captures : List Capture}
    (h : Expression.Accepts (pieces first segments) text captures) :
    Fits first route (held captures) ∧ render first route (held captures) = text := by
  induction reads generalizing first text captures with
  | nil =>
      obtain ⟨rfl, rfl⟩ := Expression.accepts_nil.mp h
      exact ⟨.nil first, rfl⟩
  | @cons segment level segments route here reads ih =>
      cases segment with
      | literal text =>
          obtain ⟨rfl, notPlus, notHash⟩ := Segment.ofLevel_literal here
          rw [Expression.pieces_literal] at h
          obtain ⟨text', rfl, more⟩ := Expression.accepts_chars.mp h
          obtain ⟨fits, whole⟩ := ih proper.2 more
          rw [fits_literal notPlus notHash, render_literal notPlus notHash, whole,
            List.append_assoc]
          exact ⟨fits, rfl⟩
      | plus =>
          cases Segment.ofLevel_plus here
          rw [Expression.pieces_plus] at h
          obtain ⟨_, rfl, taken⟩ := Expression.accepts_chars.mp h
          obtain ⟨level, text', captures', filled, clean, rfl, rfl, more⟩ :=
            Expression.accepts_level.mp taken
          obtain ⟨fits, whole⟩ := ih proper more
          refine ⟨.plus filled clean fits, ?_⟩
          rw [← whole]
          rfl
      | hash =>
          cases Segment.ofLevel_hash here
          cases proper
          cases reads
          cases first with
          | true =>
              cases Expression.accepts_all.mp h
              exact ⟨.all text, rfl⟩
          | false =>
              obtain ⟨rfl, rfl⟩ | ⟨text', rfl, rfl⟩ := Expression.accepts_tail.mp h
              · exact ⟨.tail ends_nil, rfl⟩
              · exact ⟨.tail (ends_slash text'), rfl⟩

/-- The topic of values that fit is accepted, and the groups hold the values. -/
theorem accepts_render {segments : List Segment} {route : List Level}
    (reads : Reads segments route) (proper : Proper segments) {first : Bool}
    {values : List (List Char)} (fits : Fits first route values) :
    ∃ captures, Expression.Accepts (pieces first segments) (render first route values) captures ∧
      held captures = values := by
  induction reads generalizing first values with
  | nil =>
      cases fits
      exact ⟨[], .nil, rfl⟩
  | @cons segment level segments route here reads ih =>
      cases segment with
      | literal text =>
          obtain ⟨rfl, notPlus, notHash⟩ := Segment.ofLevel_literal here
          obtain ⟨captures, more, rfl⟩ := ih proper.2 ((fits_literal notPlus notHash).mp fits)
          rw [render_literal notPlus notHash, Expression.pieces_literal, ← List.append_assoc]
          exact ⟨captures, Expression.accepts_chars.mpr ⟨_, rfl, more⟩, rfl⟩
      | plus =>
          cases Segment.ofLevel_plus here
          obtain ⟨value, _, rfl, filled, clean, fits⟩ := fits_plus.mp fits
          obtain ⟨captures, more, rfl⟩ := ih proper fits
          have taken := Expression.accepts_level.mpr ⟨value, _, _, filled, clean, rfl, rfl, more⟩
          rw [render_plus, Expression.pieces_plus]
          exact ⟨some value :: captures, Expression.accepts_chars.mpr ⟨_, rfl, taken⟩, rfl⟩
      | hash =>
          cases Segment.ofLevel_hash here
          cases proper
          cases reads
          obtain ⟨value, rfl, ends⟩ := fits_hash.mp fits
          rw [render_hash]
          cases first with
          | true => exact ⟨_, Expression.accepts_all.mpr rfl, rfl⟩
          | false =>
              cases value with
              | nil => exact ⟨[none], Expression.accepts_tail.mpr (.inl ⟨rfl, rfl⟩), rfl⟩
              | cons c value =>
                  have slash : c = '/' := ends rfl c rfl
                  subst slash
                  exact ⟨_, Expression.accepts_tail.mpr (.inr ⟨value, rfl, rfl⟩), rfl⟩

end MqttRouting.Topic
