import MqttRouting.Proofs.Topic.Acceptance

/-!
What is wrong with a route. A text may have several defects at once; each of them can be looked
for on its own, and they are told in one order. A text without defects is read as the segments
of its levels, and nothing of it is lost.
-/

namespace MqttRouting.Topic

/-- A text that can be read as a route. -/
structure IsRoute (route : String) : Prop where
  visible : ∃ c ∈ route.toList, Text.isBlankChar c = false
  fits : route.utf8ByteSize ≤ 65535
  noNull : '\x00' ∉ route.toList
  alone : ∀ level ∈ route.toList.splitOn '/', Alone level
  last : ['#'] ∉ (route.toList.splitOn '/').dropLast

/-- All that is wrong with a route, in the order in which it is told. -/
def defects (route : String) : List PatternError :=
  (if route.toList.all Text.isBlankChar then [.emptyTopic] else []) ++
  (if 65535 < route.utf8ByteSize then [.tooLong route.utf8ByteSize 65535] else []) ++
  (if '\x00' ∈ route.toList then [.nullCharacter route] else []) ++
  ((route.toList.splitOn '/').filter fun level => ¬ Alone level).map
    (fun level => .mixedLevel (String.ofList level)) ++
  (if ['#'] ∈ (route.toList.splitOn '/').dropLast then [.hashPosition route] else [])

theorem isRoute_iff (route : String) : IsRoute route ↔ defects route = [] := by
  have visible : (∃ c ∈ route.toList, Text.isBlankChar c = false) ↔
      ¬ route.toList.all Text.isBlankChar = true := by
    simp
  simp only [defects, List.append_eq_nil_iff, ite_eq_right_iff, List.map_eq_nil_iff,
    List.filter_eq_nil_iff, reduceCtorEq, imp_false, ← visible, and_assoc]
  constructor
  · intro h
    exact ⟨h.visible, Nat.not_lt.mpr h.fits, h.noNull, by simpa using h.alone, h.last⟩
  · rintro ⟨visible, fits, noNull, alone, last⟩
    exact ⟨visible, Nat.not_lt.mp fits, noNull, by simpa using alone, last⟩

/-! Reading. -/

/-- The levels are read up to the leftmost one that mixes a wildcard with other characters. -/
theorem Segment.ofLevels_eq (done : List Segment) (route : List Level) :
    ofLevels done route =
      match route.filter fun level => ¬ Alone level with
      | [] => .ok (done.reverse ++ route.map ofText)
      | level :: _ => .error (.mixedLevel (String.ofList level)) := by
  induction route generalizing done with
  | nil => simp [ofLevels]
  | cons level route ih =>
      rw [ofLevels, ofLevel_eq]
      by_cases alone : Alone level
      · simp [alone, ih]
      · simp [alone]

theorem reads_ofText {route : List Level} (alone : ∀ level ∈ route, Alone level) :
    Reads (route.map Segment.ofText) route := by
  induction route with
  | nil => exact .nil
  | cons level route ih =>
      obtain ⟨here, others⟩ := List.forall_mem_cons.mp alone
      exact .cons (by rw [Segment.ofLevel_eq, if_pos here]) (ih others)

theorem parseRoute_eq (route : String) :
    parseRoute route =
      match defects route with
      | [] => .ok ((levels route.toList).map Segment.ofText)
      | e :: _ => .error e := by
  rw [parseRoute, Text.isBlank, defects]
  simp only [← levels_eq_splitOn, Segment.ofLevels_eq]
  by_cases invisible : route.toList.all Text.isBlankChar = true
  · simp only [if_pos invisible, List.append_assoc, List.cons_append]
  rw [if_neg invisible, if_neg invisible]
  by_cases long : maxLength < route.utf8ByteSize
  · rw [if_pos long, if_pos (show 65535 < route.utf8ByteSize from long)]
    simp only [maxLength, List.append_assoc, List.nil_append, List.cons_append]
  rw [if_neg long, if_neg (show ¬ 65535 < route.utf8ByteSize from long)]
  by_cases null : '\x00' ∈ route.toList
  · simp only [if_pos null, List.nil_append, List.cons_append]
  rw [if_neg null, if_neg null]
  cases mixed : (levels route.toList).filter fun level => ¬ Alone level with
  | cons level rest => simp
  | nil =>
      have alone : ∀ level ∈ levels route.toList, Alone level := by
        simpa [List.filter_eq_nil_iff] using mixed
      have last := hashBeforeLast_iff (reads_ofText alone)
      simp only [List.reverse_nil, List.nil_append, last]
      split <;> simp

theorem intercalate_ofText (route : String) :
    "/".intercalate ((levels route.toList).map (Segment.text ∘ Segment.ofText)) = route := by
  have chars : String.toList ∘ Segment.text ∘ Segment.ofText = id := by
    funext level
    simp [Segment.text, Segment.chars_ofText]
  rw [← String.toList_inj, String.toList_intercalate, List.map_map, chars, List.map_id,
    levels_eq_splitOn]
  exact List.intercalate_splitOn '/'

/-- A text is read exactly if it is a route, level by level and without a loss; otherwise the
first of its defects is told. -/
theorem parseRoute_reads_or_tells (route : String) :
    (∀ segments, parseRoute route = .ok segments ↔
      IsRoute route ∧ segments = (route.toList.splitOn '/').map Segment.ofText) ∧
    (∀ segments, parseRoute route = .ok segments →
      "/".intercalate (segments.map Segment.text) = route) ∧
    ∀ e, parseRoute route = .error e ↔ (defects route).head? = some e := by
  simp only [isRoute_iff, ← levels_eq_splitOn, parseRoute_eq]
  cases defects route with
  | nil =>
      refine ⟨by simp [eq_comm], ?_, by simp⟩
      rintro _ ⟨⟩
      rw [List.map_map, intercalate_ofText]
  | cons e rest => simp

/-- Empty levels are read too. Of a `#` in front, a mixed level and another one behind it, the
first mixed level is told. -/
theorem mixed_level_before_hash :
    (∃ segments, parseRoute "/+//é/#" = .ok segments ∧
      "/".intercalate (segments.map Segment.text) = "/+//é/#") ∧
    parseRoute "#/b+/c#" = .error (.mixedLevel "b+") := by
  obtain ⟨_, whole, _⟩ := parseRoute_reads_or_tells "/+//é/#"
  obtain ⟨segments, read⟩ : ∃ segments, parseRoute "/+//é/#" = .ok segments := ⟨_, rfl⟩
  refine ⟨⟨segments, read, whole segments read⟩, ?_⟩
  rw [(parseRoute_reads_or_tells "#/b+/c#").2.2]
  decide

end MqttRouting.Topic
