import MqttRouting.Proofs.Text.Offset
import MqttRouting.Topic.Matcher
import MqttRouting.Topic.Search

/-!
The search for all matches ends, and it neither asks nor cuts inside a character, whatever the
engine reports, as long as its matches lie between boundaries of the topic. A round that finds
something goes on behind its match: at the end of the match, one character further, or behind
the end of the topic, where the next round is over at once. So there is a round for each
boundary at most, and the search collects what `scan` does.
-/

namespace MqttRouting.Topic

namespace Found

variable {found : Found} {text : List Char}

/-- A match brings progress, an empty one too. -/
theorem start_lt_next (ordered : found.start ≤ found.stop) (text : List Char) :
    found.start < found.next text := by
  unfold Found.next
  split
  · cases Text.charAt? text found.stop with
    | none => exact Nat.lt_succ_of_le ordered
    | some c => exact Nat.lt_of_le_of_lt ordered (Nat.lt_add_of_pos_right c.utf8Size_pos)
  · omega

theorem next?_eq_none_iff :
    found.next? text = none ↔ found.start = found.stop ∧ ¬ Text.IsBoundary text found.stop := by
  rw [← Text.suffix?_eq_none_iff, next?]
  split <;> simp [*]

theorem next?_eq (boundary : Text.IsBoundary text found.stop) :
    found.next? text = some (found.next text) := by
  obtain ⟨before, after, whole, stop⟩ := boundary
  have cut := Text.suffix?_eq_some_iff.mpr ⟨before, whole, stop⟩
  rw [Found.next?, Found.next, Text.charAt?_eq, cut]
  split <;> rfl

/-- Behind the last character an empty match leads past the end, and nothing else does. -/
theorem next_boundary (boundary : Text.IsBoundary text found.stop) :
    Text.IsBoundary text (found.next text) ∨ found.next text = Text.byteLength text + 1 := by
  rw [Found.next]
  split
  · obtain ⟨before, after, rfl, stop⟩ := boundary
    rw [Text.charAt?_eq, ← stop, Text.suffix?_append]
    cases after with
    | nil => exact .inr (by simp)
    | cons c rest => exact .inl ⟨before ++ [c], rest, by simp, by simp⟩
  · exact .inl boundary

end Found

namespace Search

variable {find : Nat → Option Found} {text : List Char} {start : Nat}

theorem round_past (past : Text.byteLength text < start) : round find text start = .ended :=
  if_neg (Nat.not_le_of_lt past)

/-- A round fails exactly where the topic is cut off a boundary. -/
theorem round_eq_failed_iff :
    round find text start = .failed ↔
      start ≤ Text.byteLength text ∧ ∃ found, find start = some found ∧
        found.start = found.stop ∧ ¬ Text.IsBoundary text found.stop := by
  simp only [← Found.next?_eq_none_iff]
  fun_cases round find text start <;> simp [*]

theorem Within.lt_next {found : Found} (h : Within found text start) :
    start < found.next text :=
  Nat.lt_of_le_of_lt h.behind (Found.start_lt_next h.ordered text)

/-- Where the search can stand: at a boundary, or one past the end. -/
def Stands (text : List Char) (offset : Nat) : Prop :=
  Text.IsBoundary text offset ∨ offset = Text.byteLength text + 1

namespace Stands

theorem boundary (h : Stands text start) (inside : start ≤ Text.byteLength text) :
    Text.IsBoundary text start := by
  cases h with
  | inl boundary => exact boundary
  | inr past => omega

theorem le (h : Stands text start) : start ≤ Text.byteLength text + 1 := by
  cases h with
  | inl boundary => exact Nat.le_succ_of_le boundary.le
  | inr past => exact Nat.le_of_eq past

end Stands

namespace KeepsTo

theorem round_reported (h : KeepsTo find text) (boundary : Text.IsBoundary text start)
    {found : Found} (reported : find start = some found) :
    round find text start = .found found (found.next text) := by
  have within := h start found boundary reported
  simp only [round, if_pos boundary.le, reported, Found.next?_eq within.stopBoundary]

theorem round_ne_failed (h : KeepsTo find text) (stands : Stands text start) :
    round find text start ≠ .failed := by
  intro failed
  obtain ⟨inside, found, reported, _, torn⟩ := round_eq_failed_iff.mp failed
  exact torn (h start found (stands.boundary inside) reported).stopBoundary

/-- What a round that finds something has done. -/
theorem round_found (h : KeepsTo find text) (stands : Stands text start) {found : Found}
    {next : Nat} (step : round find text start = .found found next) :
    Within found text start ∧ start < next ∧ Stands text next := by
  by_cases inside : start ≤ Text.byteLength text
  · have boundary := stands.boundary inside
    cases reported : find start with
    | none =>
        rw [round, if_pos inside, reported] at step
        cases step
    | some other =>
        rw [h.round_reported boundary reported] at step
        cases step
        have within := h start found boundary reported
        exact ⟨within, within.lt_next, Found.next_boundary within.stopBoundary⟩
  · rw [round_past (Nat.lt_of_not_le inside)] at step
    cases step

theorem rounds_stand (h : KeepsTo find text) {founds : List Found} {stop : Nat}
    (rounds : Rounds find text start founds stop) (stands : Stands text start) :
    Stands text stop := by
  induction rounds with
  | nil => exact stands
  | cons step _ ih => exact ih (h.round_found stands step).2.2

/-- Each round leaves fewer characters behind it, and one more can follow at the end. -/
theorem rounds_length (h : KeepsTo find text) {founds : List Found} {stop : Nat}
    (rounds : Rounds find text start founds stop) {before after : List Char}
    (whole : text = before ++ after) (here : Text.byteLength before = start) :
    founds.length ≤ after.length + 1 := by
  induction rounds generalizing before after with
  | nil => exact Nat.zero_le _
  | cons step rest ih =>
      obtain ⟨_, forth, ⟨before', after', whole', there⟩ | past⟩ :=
        h.round_found (.inl ⟨before, after, whole, here⟩) step
      · have less := ih whole' there
        have shorter : after'.length < after.length :=
          Text.length_lt_of_byteLength_lt (whole.symm.trans whole') (by omega)
        rw [List.length_cons]
        omega
      -- the next round starts behind the end, and is over
      · cases rest with
        | nil => exact Nat.le_add_left 1 _
        | cons step =>
            rw [round_past (by omega)] at step
            cases step

/-- The search ends, and `scan` lists its matches. -/
theorem rounds_scan (h : KeepsTo find text) (stands : Stands text start) :
    ∃ stop, Rounds find text start (scan find text start) stop ∧
      round find text stop = .ended := by
  fun_induction scan find text start with
  | case1 start inside nothing =>
      exact ⟨start, .nil, by rw [round, if_pos inside, nothing]⟩
  | case2 start inside found reported _ ih =>
      have boundary := stands.boundary inside
      have within := h start found boundary reported
      obtain ⟨stop, rest, ended⟩ := ih (Found.next_boundary within.stopBoundary)
      exact ⟨stop, .cons (h.round_reported boundary reported) rest, ended⟩
  | case3 start inside found reported stuck =>
      -- the case that `scan` guards against
      have within := h start found (stands.boundary inside) reported
      exact absurd within.lt_next stuck
  | case4 start outside =>
      exact ⟨start, .nil, if_neg outside⟩

end KeepsTo

/-- The search ends, and `scan` collects its matches. However far it has come, it has found one
match for each character and one more at most; it stands at a boundary of the topic when it asks
the engine; it does not fail, since it cuts the topic at a boundary; and behind a match it moves
on, to one past the end at most. -/
theorem ends_within_topic (h : KeepsTo find text) :
    (∃ stop, Rounds find text 0 (scan find text 0) stop ∧ round find text stop = .ended) ∧
      ∀ founds offset, Rounds find text 0 founds offset →
        founds.length ≤ text.length + 1 ∧
        (offset ≤ Text.byteLength text → Text.IsBoundary text offset) ∧
        round find text offset ≠ .failed ∧
        ∀ found next, round find text offset = .found found next →
          Text.IsBoundary text found.stop ∧ offset < next ∧ next ≤ Text.byteLength text + 1 := by
  have begins : Stands text 0 := .inl (.zero text)
  refine ⟨h.rounds_scan begins, ?_⟩
  intro founds offset rounds
  have stands := h.rounds_stand rounds begins
  refine ⟨h.rounds_length rounds (List.nil_append text).symm rfl, stands.boundary,
    h.round_ne_failed stands, ?_⟩
  intro found next step
  obtain ⟨within, forth, stands'⟩ := h.round_found stands step
  exact ⟨within.stopBoundary, forth, stands'.le⟩

/-- An empty match, one that is not, and an empty one at the end. -/
def eachKind : Nat → Option Found
  | 0 => some ⟨0, 0, []⟩
  | 2 => some ⟨2, 5, [some ['€']]⟩
  | 5 => some ⟨5, 5, [none]⟩
  | _ => none

theorem eachKind_keepsTo : KeepsTo eachKind "é€".toList := by
  intro start found _ reported
  have first : Text.IsBoundary "é€".toList 0 := .zero _
  have second : Text.IsBoundary "é€".toList 2 := ⟨['é'], ['€'], by decide, by decide⟩
  have last : Text.IsBoundary "é€".toList 5 := ⟨['é', '€'], [], by decide, by decide⟩
  unfold eachKind at reported
  split at reported <;> cases reported
  · exact ⟨first, first, by decide, by decide⟩
  · exact ⟨second, last, by decide, by decide⟩
  · exact ⟨last, last, by decide, by decide⟩

theorem each_kind_of_progress :
    KeepsTo eachKind "é€".toList ∧
      (∃ stop, Rounds eachKind "é€".toList 0 (scan eachKind "é€".toList 0) stop ∧
        round eachKind "é€".toList stop = .ended) ∧
      Rounds eachKind "é€".toList 0 [⟨0, 0, []⟩, ⟨2, 5, [some ['€']]⟩] 5 ∧
      Text.IsBoundary "é€".toList 5 ∧ round eachKind "é€".toList 5 ≠ .failed ∧
      round eachKind "é€".toList 5 = .found ⟨5, 5, [none]⟩ 6 ∧ 5 < 6 ∧
      round eachKind "é€".toList 6 = .ended := by
  have rounds : Rounds eachKind "é€".toList 0 [⟨0, 0, []⟩, ⟨2, 5, [some ['€']]⟩] 5 :=
    .cons rfl (.cons rfl .nil)
  obtain ⟨ends, reached⟩ := ends_within_topic eachKind_keepsTo
  obtain ⟨_, boundary, sound, moves⟩ := reached _ _ rounds
  obtain ⟨_, progress, _⟩ := moves _ _ rfl
  exact ⟨eachKind_keepsTo, ends, rounds, boundary (by decide), sound, rfl, progress, rfl⟩

end Search

namespace Matcher

theorem find_keepsTo (m : Matcher) (topic : List Char) : Search.KeepsTo (m.find topic) topic := by
  intro start found _ reported
  unfold find at reported
  split at reported
  · obtain ⟨groups, _, rfl⟩ := Option.map_eq_some_iff.mp reported
    exact ⟨.zero topic, ⟨topic, [], by simp, rfl⟩, by omega, Nat.zero_le _⟩
  · cases reported

/-- The captures are what the search collects round by round. -/
theorem captures_eq_of_rounds (m : Matcher) (topic : String) :
    ∃ founds stop, Search.Rounds (m.find topic.toList) topic.toList 0 founds stop ∧
      Search.round (m.find topic.toList) topic.toList stop = .ended ∧
      m.captures topic = founds.flatMap fun found =>
        found.groups.map fun group => String.ofList (group.getD []) := by
  obtain ⟨stop, rounds, ended⟩ :=
    (m.find_keepsTo topic.toList).rounds_scan (.inl (.zero topic.toList))
  exact ⟨_, stop, rounds, ended, rfl⟩

end Matcher
end MqttRouting.Topic
