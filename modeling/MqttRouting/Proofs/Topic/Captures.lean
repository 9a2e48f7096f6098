import MqttRouting.Proofs.Topic.Regex
import MqttRouting.Proofs.Topic.Rendering
import MqttRouting.Proofs.Topic.Search
import MqttRouting.Topic.Engine.Sized

/-!
Captures. The search for matches goes on behind each match, but the anchors allow one match
only, so the captures of a topic are those of that match. They stand for the wildcards from
left to right: the topic is made from the route and its captures, and the captures of a
topic that is made from values are these values.
-/

namespace MqttRouting.Topic

/-! The search. -/

/-- What a search of the engine is relied on for: it reports a match that starts at the
offset or behind it, and reports none only where there is none. -/
structure Conforms (regex : Regex) (topic : List Char) (find : Nat → Option Found) : Prop where
  sound {start : Nat} {found : Found} : find start = some found →
    ∃ before text after, topic = before ++ text ++ after ∧
      start ≤ Text.byteLength before ∧ found.start = Text.byteLength before ∧
      found.stop = Text.byteLength (before ++ text) ∧
      regex.Matches before text after found.groups
  complete {start : Nat} : find start = none →
    ∀ before text after captures, topic = before ++ text ++ after →
      start ≤ Text.byteLength before → ¬ regex.Matches before text after captures

namespace Conforms

variable {expression : Expression} {topic : List Char} {find : Nat → Option Found}

/-- Between its anchors an expression matches the whole topic. -/
theorem found_whole (h : Conforms (Regex.ofPieces expression) topic find) {start : Nat}
    {found : Found} (reported : find start = some found) :
    start = 0 ∧ found = ⟨0, Text.byteLength topic, found.groups⟩ ∧
      expression.Accepts topic found.groups := by
  obtain ⟨before, text, after, whole, behind, first, last, matched⟩ := h.sound reported
  obtain ⟨rfl, rfl, rfl, accepted⟩ := Regex.ofPieces_whole whole matched
  refine ⟨Nat.le_zero.mp behind, ?_, accepted⟩
  cases found
  cases first
  cases last
  rfl

theorem none_accepted (h : Conforms (Regex.ofPieces expression) topic find)
    (nothing : find 0 = none) (captures : List Capture) : ¬ expression.Accepts topic captures := by
  intro accepted
  exact h.complete nothing [] topic [] captures (by simp) (Nat.zero_le _)
    (Regex.ofPieces_accepted accepted)

/-- There is one match at most, and the search ends behind it. -/
theorem scan_one (h : Conforms (Regex.ofPieces expression) topic find) :
    (scan find topic 0 = [] ∧ ∀ captures, ¬ expression.Accepts topic captures) ∨
      ∃ groups, scan find topic 0 = [⟨0, Text.byteLength topic, groups⟩] ∧
        expression.Accepts topic groups := by
  rw [scan, if_pos (Nat.zero_le _)]
  cases reported : find 0 with
  | none => exact .inl ⟨rfl, h.none_accepted reported⟩
  | some found =>
      obtain ⟨_, eq, accepted⟩ := h.found_whole reported
      have ordered : found.start ≤ found.stop := by
        rw [eq]
        exact Nat.zero_le _
      have progress : 0 < found.next topic :=
        Nat.zero_lt_of_lt (Found.start_lt_next ordered topic)
      have ended : scan find topic (found.next topic) = [] := by
        rw [scan]
        split
        -- a match would have to start at the start of the topic once more
        · cases again : find (found.next topic) with
          | none => rfl
          | some other =>
              have start := (h.found_whole again).1
              omega
        · rfl
      refine .inr ⟨found.groups, ?_, accepted⟩
      simp only [if_pos progress, ended, ← eq]

end Conforms

namespace Matcher

variable {route : String} {m : Matcher}

theorem find_conforms (made : m.Made route) (topic : List Char) :
    Conforms (Regex.ofPieces (.ofSegments m.segments)) topic (m.find topic) where
  sound {start found} reported := by
    unfold find at reported
    split at reported
    · obtain ⟨groups, matched, rfl⟩ := Option.map_eq_some_iff.mp reported
      rw [made.expression, Expression.match?_iff made.proper] at matched
      exact ⟨[], topic, [], by simp, by simp [*], rfl, rfl, Regex.ofPieces_accepted matched⟩
    · cases reported
  complete {start} nothing := by
    intro before text after captures whole behind matched
    obtain ⟨rfl, rfl, rfl, accepted⟩ := Regex.ofPieces_whole whole matched
    rw [find, if_pos (Nat.le_zero.mp behind), Option.map_eq_none_iff, made.expression] at nothing
    rw [← Expression.match?_iff made.proper, nothing] at accepted
    cases accepted

theorem captures_of_accepts (made : m.Made route) {topic : String} {groups : List Capture}
    (accepted : (Expression.ofSegments m.segments).Accepts topic.toList groups) :
    m.captures topic = (held groups).map String.ofList := by
  obtain ⟨_, never⟩ | ⟨groups', one, accepted'⟩ :=
    (find_conforms made topic.toList).scan_one
  · exact absurd accepted (never groups)
  · rw [← Expression.match?_iff made.proper] at accepted accepted'
    have same : groups' = groups := Option.some.inj (accepted'.symm.trans accepted)
    rw [captures, one, same]
    simp [held]

theorem captures_of_mismatch (made : m.Made route) {topic : String}
    (mismatch : m.isMatch topic = false) : m.captures topic = [] := by
  obtain ⟨nothing, _⟩ | ⟨groups, _, accepted⟩ := (find_conforms made topic.toList).scan_one
  · rw [captures, nothing]
    rfl
  · rw [(isMatch_iff made topic).mpr ⟨groups, accepted⟩] at mismatch
    cases mismatch

end Matcher

/-! Captures and values. -/

/-- Values that can stand for the wildcards of a route. -/
def AreValues (route : String) (values : List String) : Prop :=
  Fits true (levels route.toList) (values.map String.toList)

/-- The topic of a route with these values. -/
def topicOf (route : String) (values : List String) : String :=
  String.ofList (render true (levels route.toList) (values.map String.toList))

theorem toList_ofList_map (values : List (List Char)) :
    (values.map String.ofList).map String.toList = values := by
  simp [Function.comp_def]

theorem ofList_toList_map (values : List String) :
    (values.map String.toList).map String.ofList = values := by
  simp [Function.comp_def]

namespace Matcher

/-- A topic that does not match has no captures; one that matches has a value for each
wildcard, and is the topic of its captures; and the topic of any values matches, with these
values as its captures. -/
theorem captures_invert [Engine] {route : String} {m : Matcher} (compiled : compile route = .ok m) :
    (∀ topic, m.isMatch topic = false → m.captures topic = []) ∧
    (∀ topic, m.isMatch topic = true →
      (m.captures topic).length = m.wildcardCount ∧ AreValues route (m.captures topic) ∧
        topicOf route (m.captures topic) = topic) ∧
    (∀ values, AreValues route values →
      m.isMatch (topicOf route values) = true ∧ m.captures (topicOf route values) = values) := by
  have made := compile_made compiled
  refine ⟨fun topic => captures_of_mismatch made, ?_, ?_⟩
  · intro topic matched
    obtain ⟨groups, accepted⟩ := (isMatch_iff made topic).mp matched
    have captured := captures_of_accepts made accepted
    rw [Expression.ofSegments_pieces] at accepted
    obtain ⟨fits, whole⟩ := render_held made.reads made.proper accepted
    rw [captured, AreValues, topicOf, toList_ofList_map, whole, String.ofList_toList]
    refine ⟨?_, fits, rfl⟩
    rw [List.length_map]
    exact fits_length made.reads made.proper fits
  · intro values fits
    obtain ⟨groups, made_of, values_eq⟩ := accepts_render made.reads made.proper fits
    have accepted :
        (Expression.ofSegments m.segments).Accepts (topicOf route values).toList groups := by
      rwa [Expression.ofSegments_pieces, topicOf, String.toList_ofList]
    refine ⟨(isMatch_iff made _).mpr ⟨groups, accepted⟩, ?_⟩
    rw [captures_of_accepts made accepted, values_eq, ofList_toList_map]

/-- A tail that is absent has an empty value of its own. -/
theorem captures_of_an_absent_tail :
    ∃ m, compile "a/+/#" = .ok m ∧ m.captures "b" = [] ∧ m.isMatch "a/é" = true ∧
      m.captures "a/é" = ["é", ""] := by
  refine ⟨_, rfl, ?_⟩
  obtain ⟨mismatch, _, inverse⟩ := @captures_invert _ "a/+/#" _ rfl
  have values : AreValues "a/+/#" ["é", ""] :=
    .literal (by decide) (by decide) (.plus (by decide) (by decide) (.tail ends_nil))
  exact ⟨mismatch "b" rfl, inverse ["é", ""] values⟩

end Matcher
end MqttRouting.Topic
