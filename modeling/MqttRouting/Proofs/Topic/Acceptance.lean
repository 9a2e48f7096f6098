import MqttRouting.Proofs.Topic.Levels
import MqttRouting.Proofs.Topic.Prefixes

/-!
What compiles. Whether a text is refused can be told from its levels and its length, and
taking off a prefix is taking off levels.
-/

namespace MqttRouting.Topic

/-- Some character is visible; a slash is. -/
def Visible (route : List Level) : Prop :=
  1 < route.length ∨ ∃ level ∈ route, ∃ c ∈ level, Text.isBlankChar c = false

/-- A wildcard stands alone in a level. -/
def Alone (level : Level) : Prop :=
  level = ['+'] ∨ level = ['#'] ∨ ('+' ∉ level ∧ '#' ∉ level)

instance : DecidablePred Alone := fun level =>
  inferInstanceAs (Decidable (level = ['+'] ∨ level = ['#'] ∨ ('+' ∉ level ∧ '#' ∉ level)))

/-- Levels without a null character, where wildcards stand alone and `#` last. -/
structure Orderly (route : List Level) : Prop where
  noNull : ∀ level ∈ route, '\x00' ∉ level
  alone : ∀ level ∈ route, Alone level
  last : ['#'] ∉ route.dropLast

/-! Texts and their levels. -/

/-- Every slash ends a level. -/
theorem levels_append_slash (front back : List Char) :
    levels (front ++ '/' :: back) = levels front ++ levels back := by
  induction front with
  | nil => exact levels_slash List.not_mem_nil back
  | cons c front ih =>
      obtain ⟨level, rest, cut, _⟩ := levels_split front
      rw [List.cons_append, levels_cons, levels_cons, ih, cut, List.cons_append]
      by_cases slash : c = '/'
      · simp [slash]
      · simp [slash]

theorem mem_slashed_iff {c : Char} (other : c ≠ '/') (rest : List Level) :
    c ∈ slashed rest ↔ ∃ level ∈ rest, c ∈ level := by
  simp [slashed, other]

theorem mem_levels_iff {c : Char} (other : c ≠ '/') (text : List Char) :
    c ∈ text ↔ ∃ level ∈ levels text, c ∈ level := by
  obtain ⟨level, rest, cut, whole, _⟩ := levels_split text
  rw [cut, List.exists_mem_cons_iff, ← mem_slashed_iff other, ← List.mem_append, ← whole]

theorem slash_mem_iff (text : List Char) : '/' ∈ text ↔ 1 < (levels text).length := by
  obtain ⟨level, rest, cut, whole, clean⟩ := levels_split text
  rw [cut, whole, List.mem_append]
  cases rest with
  | nil => simpa [slashed] using clean
  | cons next rest => simp [slashed_cons]

theorem levels_of_no_slash {text : List Char} (clean : '/' ∉ text) : levels text = [text] := by
  obtain ⟨level, rest, cut, whole, _⟩ := levels_split text
  cases rest with
  | nil => rw [cut, whole, slashed, List.flatMap_nil, List.append_nil]
  | cons next rest =>
      rw [slash_mem_iff, cut] at clean
      exact absurd (by simp) clean

theorem isBlank_iff {text : String} :
    Text.isBlank text = false ↔ Visible (levels text.toList) := by
  rw [Text.isBlank, List.all_eq_false]
  constructor
  · rintro ⟨c, mem, visible⟩
    rw [Bool.not_eq_true] at visible
    by_cases slash : c = '/'
    · exact .inl ((slash_mem_iff _).mp (slash ▸ mem))
    · obtain ⟨level, among, mem⟩ := (mem_levels_iff slash _).mp mem
      exact .inr ⟨level, among, c, mem, visible⟩
  · rintro (several | ⟨level, among, c, mem, visible⟩)
    · exact ⟨'/', (slash_mem_iff _).mpr several, by decide⟩
    · refine ⟨c, ?_, by simp [visible]⟩
      by_cases slash : c = '/'
      · obtain ⟨first, rest, cut, _, clean⟩ := levels_split text.toList
        exact absurd (slash ▸ mem) (clean _ (cut ▸ among))
      · exact (mem_levels_iff slash _).mpr ⟨level, among, mem⟩

theorem Visible.append_left {route : List Level} (visible : Visible route) (front : List Level) :
    Visible (front ++ route) := by
  obtain several | ⟨level, among, seen⟩ := visible
  · exact .inl (by rw [List.length_append]; omega)
  · exact .inr ⟨level, List.mem_append_right front among, seen⟩

theorem Visible.append_right {front : List Level} (visible : Visible front) (route : List Level) :
    Visible (front ++ route) := by
  obtain several | ⟨level, among, seen⟩ := visible
  · exact .inl (by rw [List.length_append]; omega)
  · exact .inr ⟨level, List.mem_append_left route among, seen⟩

theorem orderly_cons_iff {level : Level} {route : List Level} :
    Orderly (level :: route) ↔
      '\x00' ∉ level ∧ Alone level ∧ (level = ['#'] → route = []) ∧ Orderly route := by
  have last : ['#'] ∉ (level :: route).dropLast ↔
      (level = ['#'] → route = []) ∧ ['#'] ∉ route.dropLast := by
    cases route with
    | nil => simp
    | cons next rest => simp [List.dropLast_cons_cons, eq_comm]
  constructor
  · rintro ⟨noNull, alone, final⟩
    obtain ⟨noNull, noNulls⟩ := List.forall_mem_cons.mp noNull
    obtain ⟨alone, others⟩ := List.forall_mem_cons.mp alone
    obtain ⟨final, finals⟩ := last.mp final
    exact ⟨noNull, alone, final, noNulls, others, finals⟩
  · rintro ⟨noNull, alone, final, noNulls, others, finals⟩
    exact ⟨List.forall_mem_cons.mpr ⟨noNull, noNulls⟩, List.forall_mem_cons.mpr ⟨alone, others⟩,
      last.mpr ⟨final, finals⟩⟩

/-! Reading. -/

/-- The segment that a level is by its text. -/
def Segment.ofText (level : Level) : Segment :=
  if level = ['+'] then .plus else if level = ['#'] then .hash else .literal level

theorem Segment.chars_ofText (level : Level) : (ofText level).chars = level := by
  unfold ofText
  split
  · exact (‹level = _›).symm
  · split
    · exact (‹level = _›).symm
    · rfl

theorem Segment.ofLevel_eq (level : Level) :
    ofLevel level =
      if Alone level then .ok (ofText level) else .error (.mixedLevel (String.ofList level)) := by
  unfold ofLevel ofText Alone
  by_cases plus : level = ['+']
  · simp [plus]
  · by_cases hash : level = ['#']
    · simp [hash]
    · have mixed : level.any (fun c => c == '+' || c == '#') = true ↔
          '+' ∈ level ∨ '#' ∈ level := by
        simp [List.any_eq_true, and_or_left, exists_or]
      simp only [mixed, plus, hash, if_false, false_or, ← not_or, ite_not]

theorem Segment.ofLevel_ok_iff {level : Level} :
    (∃ segment, ofLevel level = .ok segment) ↔ Alone level := by
  rw [ofLevel_eq]
  split
  · exact ⟨fun _ => ‹_›, fun _ => ⟨_, rfl⟩⟩
  · exact ⟨nofun, fun alone => absurd alone ‹_›⟩

theorem Segment.eq_hash_iff {segment : Segment} {level : Level}
    (read : ofLevel level = .ok segment) : segment = .hash ↔ level = ['#'] := by
  constructor
  · rintro rfl
    exact ofLevel_hash read
  · rintro rfl
    cases read
    rfl

theorem Segment.ofLevels_of_reads {segments : List Segment} {route : List Level}
    (reads : Reads segments route) (done : List Segment) :
    ofLevels done route = .ok (done.reverse ++ segments) := by
  induction reads generalizing done with
  | nil => rw [ofLevels, List.append_nil]
  | cons first _ ih =>
      rw [ofLevels, first]
      simp [ih]

theorem reads_iff_alone {route : List Level} :
    (∃ segments, Reads segments route) ↔ ∀ level ∈ route, Alone level := by
  constructor
  · rintro ⟨segments, reads⟩
    induction reads with
    | nil => nofun
    | cons first _ ih =>
        exact List.forall_mem_cons.mpr ⟨Segment.ofLevel_ok_iff.mp ⟨_, first⟩, ih⟩
  · intro alone
    induction route with
    | nil => exact ⟨[], .nil⟩
    | cons level route ih =>
        obtain ⟨here, others⟩ := List.forall_mem_cons.mp alone
        obtain ⟨segment, first⟩ := Segment.ofLevel_ok_iff.mpr here
        obtain ⟨segments, reads⟩ := ih others
        exact ⟨segment :: segments, .cons first reads⟩

theorem hashBeforeLast_iff {segments : List Segment} {route : List Level}
    (reads : Reads segments route) :
    hashBeforeLast segments = true ↔ ['#'] ∈ route.dropLast := by
  induction reads with
  | nil => simp [hashBeforeLast]
  | @cons segment level segments route first reads ih =>
      cases reads with
      | nil => simp [hashBeforeLast]
      | @cons next level' segments route second reads =>
          rw [hashBeforeLast_cons, Bool.or_eq_true, ih, beq_iff_eq, Segment.eq_hash_iff first,
            List.dropLast_cons_cons, List.mem_cons, eq_comm]

theorem parseRoute_ok_iff {route : String} {segments : List Segment} :
    parseRoute route = .ok segments ↔
      Visible (levels route.toList) ∧ route.utf8ByteSize ≤ maxLength ∧
        '\x00' ∉ route.toList ∧ Reads segments (levels route.toList) ∧
        ['#'] ∉ (levels route.toList).dropLast := by
  rw [← isBlank_iff]
  constructor
  · intro parsed
    obtain ⟨fits, noNull⟩ := parseRoute_fits parsed
    obtain ⟨read, last⟩ := parseRoute_ok parsed
    obtain ⟨more, rfl, reads⟩ := Segment.ofLevels_reads read
    refine ⟨?_, fits, noNull, reads, ?_⟩
    · rw [parseRoute] at parsed
      split at parsed
      · cases parsed
      · exact Bool.eq_false_iff.mpr ‹_›
    · rw [← hashBeforeLast_iff reads]
      exact Bool.eq_false_iff.mp last
  · rintro ⟨visible, fits, noNull, reads, last⟩
    rw [← hashBeforeLast_iff reads, Bool.not_eq_true] at last
    have short : ¬ maxLength < route.utf8ByteSize := Nat.not_lt.mpr fits
    simp [parseRoute, visible, short, noNull, Segment.ofLevels_of_reads reads, last]

/-- Exactly those routes can be read that are visible, short enough and orderly. -/
theorem parseRoute_ok_iff_orderly {route : String} :
    (∃ segments, parseRoute route = .ok segments) ↔
      route.utf8ByteSize ≤ maxLength ∧ Visible (levels route.toList) ∧
        Orderly (levels route.toList) := by
  have noNull : '\x00' ∉ route.toList ↔ ∀ level ∈ levels route.toList, '\x00' ∉ level := by
    rw [mem_levels_iff (by decide)]
    simp
  constructor
  · rintro ⟨segments, parsed⟩
    obtain ⟨visible, fits, absent, reads, last⟩ := parseRoute_ok_iff.mp parsed
    exact ⟨fits, visible, noNull.mp absent, reads_iff_alone.mp ⟨_, reads⟩, last⟩
  · rintro ⟨fits, visible, orderly⟩
    obtain ⟨segments, reads⟩ := reads_iff_alone.mpr orderly.alone
    exact ⟨segments, parseRoute_ok_iff.mpr
      ⟨visible, fits, noNull.mpr orderly.noNull, reads, orderly.last⟩⟩

/-- Of a route that can be read a matcher is made, unless the engine refuses its expression. -/
theorem Matcher.compile_of_parsed [Engine] {route : String} {segments : List Segment}
    (parsed : parseRoute route = .ok segments) :
    Matcher.compile route =
      match Engine.refusal? (Topic.written segments) with
      | some reason => .error (.matcher route reason)
      | none => .ok ⟨route, segments, .ofSegments segments⟩ := by
  cases refused : Engine.refusal? (Topic.written segments) with
  | none => simp [Matcher.compile, parsed, refused]
  | some reason => simp [Matcher.compile, parsed, refused]

theorem Matcher.compile_ok_iff [Engine] {route : String} :
    (∃ m, Matcher.compile route = .ok m) ↔
      ∃ segments, parseRoute route = .ok segments ∧
        Engine.refusal? (Topic.written segments) = none := by
  constructor
  · rintro ⟨m, built⟩
    cases parsed : parseRoute route with
    | error e =>
        rw [Matcher.compile, parsed] at built
        cases built
    | ok segments =>
        rw [compile_of_parsed parsed] at built
        split at built
        · cases built
        · exact ⟨segments, rfl, ‹_›⟩
  · rintro ⟨segments, parsed, taken⟩
    exact ⟨⟨route, segments, .ofSegments segments⟩, by rw [compile_of_parsed parsed, taken]⟩

/-! Prefixes, level by level. -/

def stripQueueLevels : List Level → List Level
  | first :: next :: rest => if first = "$queue".toList then next :: rest else first :: next :: rest
  | route => route

def stripShareLevels : List Level → List Level
  | first :: group :: next :: rest =>
    if first = "$share".toList ∧ IsGroup group then next :: rest
    else first :: group :: next :: rest
  | route => route

theorem stripQueueLevels_queue {route : List Level} (more : route ≠ []) :
    stripQueueLevels ("$queue".toList :: route) = route := by
  cases route with
  | nil => exact absurd rfl more
  | cons next rest => rw [stripQueueLevels, if_pos rfl]

theorem stripQueueLevels_other {first : Level} (other : first ≠ "$queue".toList)
    (rest : List Level) : stripQueueLevels (first :: rest) = first :: rest := by
  cases rest with
  | nil => rfl
  | cons next rest => rw [stripQueueLevels, if_neg other]

theorem stripShareLevels_share {group : Level} (named : IsGroup group) {route : List Level}
    (more : route ≠ []) : stripShareLevels ("$share".toList :: group :: route) = route := by
  cases route with
  | nil => exact absurd rfl more
  | cons next rest => rw [stripShareLevels, if_pos ⟨rfl, named⟩]

theorem stripShareLevels_other {first : Level} (other : first ≠ "$share".toList)
    (rest : List Level) : stripShareLevels (first :: rest) = first :: rest := by
  match rest with
  | [] => rfl
  | [_] => rfl
  | group :: next :: rest => rw [stripShareLevels, if_neg fun both => other both.1]

theorem stripShareLevels_unnamed {group : Level} (unnamed : ¬ IsGroup group) (first : Level)
    (rest : List Level) : stripShareLevels (first :: group :: rest) = first :: group :: rest := by
  cases rest with
  | nil => rfl
  | cons next rest => rw [stripShareLevels, if_neg fun both => unnamed both.2]

theorem levels_queue (route : List Char) :
    levels (queuePrefix.toList ++ route) = "$queue".toList :: levels route := by
  have clean : '/' ∉ "$queue".toList := by decide
  exact levels_slash clean route

theorem levels_share {group : List Char} (clean : '/' ∉ group) (route : List Char) :
    levels (sharePrefix.toList ++ (group ++ '/' :: route)) =
      "$share".toList :: group :: levels route := by
  have marked : '/' ∉ "$share".toList := by decide
  rw [← levels_slash clean]
  exact levels_slash marked _

theorem levels_stripQueue (text : List Char) :
    levels (stripQueue text) = stripQueueLevels (levels text) := by
  rw [stripQueue]
  cases behind : afterStart? queuePrefix.toList text with
  | some route =>
      obtain ⟨next, rest, cut, _⟩ := levels_split route
      rw [append_of_afterStart? behind, levels_queue, Option.getD_some, cut, stripQueueLevels,
        if_pos rfl]
  | none =>
      obtain ⟨first, rest, cut, whole, _⟩ := levels_split text
      rw [Option.getD_none, cut]
      cases rest with
      | nil => rfl
      | cons next rest =>
          have other : first ≠ "$queue".toList := by
            rintro rfl
            have found := afterStart?_append queuePrefix.toList (next ++ slashed rest)
            rw [show queuePrefix.toList ++ (next ++ slashed rest) = text from whole.symm,
              behind] at found
            cases found
          rw [stripQueueLevels, if_neg other]

theorem levels_stripShare (text : List Char) :
    levels (stripShare text) = stripShareLevels (levels text) := by
  obtain same | ⟨group, named, whole⟩ := stripShare_cases text
  · rw [same]
    obtain ⟨first, rest, cut, whole, _⟩ := levels_split text
    rw [cut]
    match rest with
    | [] => rfl
    | [_] => rfl
    | group :: next :: rest =>
      have other : ¬ (first = "$share".toList ∧ IsGroup group) := by
        rintro ⟨rfl, named⟩
        exact stripShare_eq_self_iff.mp same ⟨group, next ++ slashed rest, named, whole⟩
      rw [stripShareLevels, if_neg other]
  · obtain ⟨next, rest, cut, _⟩ := levels_split (stripShare text)
    have share : levels text = "$share".toList :: group :: next :: rest := by
      conv_lhs => rw [whole]
      rw [levels_share named.no_slash, cut]
    rw [share, cut, stripShareLevels, if_pos ⟨rfl, named⟩]

theorem levels_stripPrefixes (template : String) :
    levels (stripPrefixes template).toList =
      stripShareLevels (stripQueueLevels (levels template.toList)) := by
  rw [stripPrefixes, String.toList_ofList, levels_stripShare, levels_stripQueue]

theorem stripQueue_suffix (text : List Char) : ∃ front, text = front ++ stripQueue text := by
  rw [stripQueue]
  cases behind : afterStart? queuePrefix.toList text with
  | some route => exact ⟨_, append_of_afterStart? behind⟩
  | none => exact ⟨[], rfl⟩

theorem stripShare_suffix (text : List Char) : ∃ front, text = front ++ stripShare text := by
  obtain same | ⟨group, _, whole⟩ := stripShare_cases text
  · exact ⟨[], same.symm⟩
  · refine ⟨sharePrefix.toList ++ (group ++ ['/']), ?_⟩
    conv_lhs => rw [whole]
    simp

theorem stripPrefixes_size (template : String) :
    (stripPrefixes template).utf8ByteSize ≤ template.utf8ByteSize := by
  obtain ⟨front, whole⟩ := stripQueue_suffix template.toList
  obtain ⟨front', whole'⟩ := stripShare_suffix (stripQueue template.toList)
  have parts : template = String.ofList (front ++ front') ++ stripPrefixes template := by
    rw [← String.toList_inj, String.toList_append, String.toList_ofList, stripPrefixes,
      String.toList_ofList, List.append_assoc, ← whole', ← whole]
  conv_rhs => rw [parts, String.utf8ByteSize_append]
  exact Nat.le_add_left ..

/-- A template compiles, under any policy, if a matcher can be made of what is behind its
prefixes. -/
theorem Compiled.compile_ok_iff [Engine] {template : String} (policy : Policy) :
    (∃ topic, Compiled.compile template policy = .ok topic) ↔
      ∃ m, Matcher.compile (stripPrefixes template) = .ok m := by
  constructor
  · rintro ⟨topic, compiled⟩
    obtain ⟨m, built, _⟩ := compile_ok compiled
    exact ⟨m, built⟩
  · rintro ⟨m, built⟩
    exact ⟨.ofMatcher m policy, by rw [Compiled.compile, built]; rfl⟩

end MqttRouting.Topic
