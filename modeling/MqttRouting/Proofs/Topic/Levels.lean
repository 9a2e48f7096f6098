import MqttRouting.Topic.Matcher
import Mathlib.Data.List.Forall2

/-!
Texts and routes level by level. A text is its first level and, each behind a slash, the
others; no level holds a slash, and there is only one way to cut a text like this. A route
that can be read has one segment to a level, and `#` at most in the last one.
-/

namespace MqttRouting.Topic

/-! Levels of a text. -/

/-- Levels, each behind a slash. -/
def slashed (rest : List Level) : List Char := rest.flatMap ('/' :: ·)

theorem slashed_cons (level : Level) (rest : List Level) :
    slashed (level :: rest) = '/' :: (level ++ slashed rest) := rfl

theorem levels_cons (c : Char) (text : List Char) :
    levels (c :: text) =
      match levels text with
      | [] => [[c]]
      | level :: rest => if c = '/' then [] :: level :: rest else (c :: level) :: rest := rfl

/-- A text is its first level followed by the others, and no level holds a slash. -/
theorem levels_split (text : List Char) :
    ∃ level rest, levels text = level :: rest ∧ text = level ++ slashed rest ∧
      ∀ l ∈ level :: rest, '/' ∉ l := by
  induction text with
  | nil => exact ⟨[], [], rfl, rfl, by simp⟩
  | cons c text ih =>
      obtain ⟨level, rest, cut, whole, clean⟩ := ih
      rw [levels_cons, cut]
      by_cases slash : c = '/'
      · subst slash
        exact ⟨[], level :: rest, rfl, by rw [whole]; rfl,
          List.forall_mem_cons.mpr ⟨List.not_mem_nil, clean⟩⟩
      · simp only [if_neg slash]
        obtain ⟨first, others⟩ := List.forall_mem_cons.mp clean
        refine ⟨c :: level, rest, rfl, by rw [whole]; rfl, List.forall_mem_cons.mpr ⟨?_, others⟩⟩
        simp [Ne.symm slash, first]

/-- A slash ends the first level. -/
theorem levels_slash {level : Level} (clean : '/' ∉ level) (text : List Char) :
    levels (level ++ '/' :: text) = level :: levels text := by
  induction level with
  | nil =>
      obtain ⟨first, rest, cut, _⟩ := levels_split text
      rw [List.nil_append, levels_cons, cut]
      rfl
  | cons c level ih =>
      rw [List.mem_cons, not_or] at clean
      rw [List.cons_append, levels_cons, ih clean.2]
      exact if_neg (Ne.symm clean.1)

theorem levels_slashed {level : Level} {rest : List Level} (clean : ∀ l ∈ level :: rest, '/' ∉ l) :
    levels (level ++ slashed rest) = level :: rest := by
  induction rest generalizing level with
  | nil =>
      obtain ⟨first, rest, cut, whole, _⟩ := levels_split level
      cases rest with
      | nil =>
          rw [slashed, List.flatMap_nil, List.append_nil] at whole ⊢
          rw [cut, whole]
      | cons next rest =>
          refine absurd ?_ (clean level List.mem_cons_self)
          rw [whole, slashed_cons]
          simp
  | cons next rest ih =>
      obtain ⟨here, others⟩ := List.forall_mem_cons.mp clean
      rw [slashed_cons, levels_slash here, ih others]

theorem joinLevels_cons (level : Level) (rest : List Level) :
    joinLevels (level :: rest) = level ++ slashed rest := by
  induction rest generalizing level with
  | nil => exact (List.append_nil level).symm
  | cons next rest ih =>
      rw [joinLevels, ih, slashed_cons]
      nofun

theorem joinLevels_levels (text : List Char) : joinLevels (levels text) = text := by
  obtain ⟨level, rest, cut, whole, _⟩ := levels_split text
  rw [cut, joinLevels_cons, ← whole]

theorem levels_eq_splitOn (text : List Char) : levels text = text.splitOn '/' := by
  induction text with
  | nil => rfl
  | cons c text ih =>
      obtain ⟨level, rest, cut, _⟩ := levels_split text
      rw [List.splitOn_eq_splitOnP] at ih ⊢
      rw [List.splitOnP_cons_eq_if_modifyHead, levels_cons, ← ih, cut]
      simp

/-- What can follow a level: nothing, or a slash and more. -/
def Ends (text : List Char) : Prop := ∀ c ∈ text.head?, c = '/'

theorem ends_nil : Ends [] := nofun

theorem ends_slash (text : List Char) : Ends ('/' :: text) := by
  intro c h
  cases h
  rfl

theorem ends_slashed (rest : List Level) : Ends (slashed rest) := by
  cases rest with
  | nil => exact ends_nil
  | cons level rest => exact ends_slash _

/-- There is one way only to take a level off the front of a text. -/
theorem level_unique {level level' : Level} {text text' : List Char}
    (clean : '/' ∉ level) (clean' : '/' ∉ level') (ends : Ends text) (ends' : Ends text')
    (same : level ++ text = level' ++ text') : level = level' ∧ text = text' := by
  induction level generalizing level' with
  | nil =>
      cases level' with
      | nil => exact ⟨rfl, same⟩
      | cons c level' =>
          have slash : c = '/' := by
            apply ends
            rw [show text = c :: (level' ++ text') from same]
            rfl
          exact absurd (slash ▸ List.mem_cons_self) clean'
  | cons c level ih =>
      cases level' with
      | nil =>
          have slash : c = '/' := by
            apply ends'
            rw [show text' = c :: (level ++ text) from same.symm]
            rfl
          exact absurd (slash ▸ List.mem_cons_self) clean
      | cons c' level' =>
          rw [List.mem_cons, not_or] at clean clean'
          rw [List.cons_append, List.cons_append, List.cons.injEq] at same
          obtain ⟨eq, rest⟩ := ih clean.2 clean'.2 same.2
          exact ⟨by rw [same.1, eq], rest⟩

/-! Segments of a route. -/

/-- Segments as they are read from levels. -/
def Reads (segments : List Segment) (route : List Level) : Prop :=
  List.Forall₂ (fun segment level => Segment.ofLevel level = .ok segment) segments route

/-- `#` stands last, and no text of a segment holds a slash. -/
def Proper : List Segment → Prop
  | [] => True
  | .hash :: rest => rest = []
  | .plus :: rest => Proper rest
  | .literal level :: rest => '/' ∉ level ∧ Proper rest

namespace Segment

theorem ofLevel_literal {level text : Level} (h : ofLevel level = .ok (.literal text)) :
    text = level ∧ level ≠ ['+'] ∧ level ≠ ['#'] := by
  unfold ofLevel at h
  split at h
  · cases h
  · split at h
    · cases h
    · split at h
      · cases h
      · cases h
        exact ⟨rfl, ‹_›, ‹_›⟩

theorem ofLevel_plus {level : Level} (h : ofLevel level = .ok .plus) : level = ['+'] := by
  unfold ofLevel at h
  split at h
  · assumption
  · split at h
    · cases h
    · split at h <;> cases h

theorem ofLevel_hash {level : Level} (h : ofLevel level = .ok .hash) : level = ['#'] := by
  unfold ofLevel at h
  split at h
  · cases h
  · split at h
    · assumption
    · split at h <;> cases h

theorem ofLevels_reads {done segments : List Segment} {route : List Level}
    (h : ofLevels done route = .ok segments) :
    ∃ more, segments = done.reverse ++ more ∧ Reads more route := by
  induction route generalizing done with
  | nil =>
      cases h
      exact ⟨[], (List.append_nil _).symm, .nil⟩
  | cons level rest ih =>
      rw [ofLevels] at h
      cases first : ofLevel level with
      | error e =>
          rw [first] at h
          cases h
      | ok segment =>
          rw [first] at h
          obtain ⟨more, rfl, reads⟩ := ih h
          exact ⟨segment :: more, by simp, .cons first reads⟩

end Segment

theorem hashBeforeLast_cons (segment next : Segment) (rest : List Segment) :
    hashBeforeLast (segment :: next :: rest) =
      (segment == .hash || hashBeforeLast (next :: rest)) := rfl

theorem proper_of_reads {segments : List Segment} {route : List Level}
    (reads : Reads segments route) (clean : ∀ l ∈ route, '/' ∉ l)
    (last : hashBeforeLast segments = false) : Proper segments := by
  induction reads with
  | nil => trivial
  | @cons segment level segments route first reads ih =>
      obtain ⟨here, others⟩ := List.forall_mem_cons.mp clean
      have tail : hashBeforeLast segments = false ∧ (segment = .hash → segments = []) := by
        cases segments with
        | nil => exact ⟨rfl, fun _ => rfl⟩
        | cons next rest =>
            rw [hashBeforeLast_cons, Bool.or_eq_false_iff] at last
            refine ⟨last.2, ?_⟩
            rintro rfl
            cases last.1
      cases segment with
      | literal text =>
          obtain ⟨rfl, _⟩ := Segment.ofLevel_literal first
          exact ⟨here, ih others tail.1⟩
      | plus => exact ih others tail.1
      | hash => exact tail.2 rfl

theorem parseRoute_ok {route : String} {segments : List Segment}
    (h : parseRoute route = .ok segments) :
    Segment.ofLevels [] (levels route.toList) = .ok segments ∧
      hashBeforeLast segments = false := by
  unfold parseRoute at h
  split at h
  · cases h
  · split at h
    · cases h
    · split at h
      · cases h
      · split at h
        · cases h
        · rename_i read
          split at h
          · cases h
          · rename_i last
            cases h
            exact ⟨read, Bool.eq_false_iff.mpr last⟩

/-- A route that can be read is not too long and holds no null character. -/
theorem parseRoute_fits {route : String} {segments : List Segment}
    (h : parseRoute route = .ok segments) :
    route.utf8ByteSize ≤ maxLength ∧ '\x00' ∉ route.toList := by
  unfold parseRoute at h
  split at h
  · cases h
  · split at h
    · cases h
    · rename_i short
      split at h
      · cases h
      · exact ⟨Nat.le_of_not_lt short, ‹_›⟩

/-- What a matcher is made of: the segments of the levels of its route. -/
structure Matcher.Made (m : Matcher) (route : String) : Prop where
  reads : Reads m.segments (levels route.toList)
  proper : Proper m.segments
  expression : m.expression = .ofSegments m.segments

theorem Matcher.compile_made [Engine] {route : String} {m : Matcher}
    (h : Matcher.compile route = .ok m) :
    m.Made route := by
  unfold Matcher.compile at h
  split at h
  · cases h
  · rename_i segments parsed
    split at h
    · cases h
    · cases h
      obtain ⟨read, last⟩ := parseRoute_ok parsed
      obtain ⟨more, rfl, reads⟩ := Segment.ofLevels_reads read
      obtain ⟨level, rest, cut, _, clean⟩ := levels_split route.toList
      exact ⟨reads, proper_of_reads reads (cut ▸ clean) last, rfl⟩

theorem Matcher.compile_fits [Engine] {route : String} {m : Matcher}
    (h : Matcher.compile route = .ok m) :
    route.utf8ByteSize ≤ maxLength ∧ '\x00' ∉ route.toList := by
  unfold Matcher.compile at h
  split at h
  · cases h
  · exact parseRoute_fits ‹_›

/-! The walk. -/

/-- Walking the levels of a route and of a topic side by side. -/
inductive Walks : List Level → List Level → Prop where
  | done : Walks [] []
  | hash (topic : List Level) : Walks [['#']] topic
  | plus {level : Level} {route topic : List Level} :
      level ≠ [] → Walks route topic → Walks (['+'] :: route) (level :: topic)
  | literal {level : Level} {route topic : List Level} :
      level ≠ ['+'] → level ≠ ['#'] → Walks route topic → Walks (level :: route) (level :: topic)

theorem covers_iff_walks {segments : List Segment} {route : List Level}
    (reads : Reads segments route) (proper : Proper segments) (topic : List Level) :
    covers segments topic = true ↔ Walks route topic := by
  induction reads generalizing topic with
  | nil =>
      cases topic with
      | nil => exact ⟨fun _ => .done, fun _ => rfl⟩
      | cons level rest => exact ⟨nofun, nofun⟩
  | @cons segment level segments route first reads ih =>
      cases segment with
      | literal text =>
          obtain ⟨rfl, notPlus, notHash⟩ := Segment.ofLevel_literal first
          cases topic with
          | nil =>
              constructor
              · exact nofun
              · intro walk
                cases walk
                exact absurd rfl notHash
          | cons level rest =>
              rw [covers, Bool.and_eq_true, beq_iff_eq, ih proper.2]
              constructor
              · rintro ⟨rfl, walk⟩
                exact .literal notPlus notHash walk
              · intro walk
                cases walk with
                | hash => exact absurd rfl notHash
                | plus => exact absurd rfl notPlus
                | literal _ _ walk => exact ⟨rfl, walk⟩
      | plus =>
          cases Segment.ofLevel_plus first
          cases topic with
          | nil => exact ⟨nofun, nofun⟩
          | cons level rest =>
              rw [covers, Bool.and_eq_true, ih proper]
              constructor
              · rintro ⟨some, walk⟩
                exact .plus (by simpa using some) walk
              · intro walk
                cases walk with
                | plus some walk => exact ⟨by simpa using some, walk⟩
                | literal notPlus => exact absurd rfl notPlus
      | hash =>
          cases Segment.ofLevel_hash first
          cases proper
          cases reads
          exact ⟨fun _ => .hash topic, fun _ => rfl⟩

end MqttRouting.Topic
