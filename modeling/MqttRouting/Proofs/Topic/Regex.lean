import MqttRouting.Proofs.Topic.Language
import MqttRouting.Topic.Engine.Sized

/-!
What the written expression of a route matches. The engine reads an item for each piece of
the route between the two anchors; what the items take in the text of a topic is what the
pieces take, and the anchors leave nothing before and nothing behind it.
-/

namespace MqttRouting.Topic.Regex

/-! Reading an expression that was written. -/

/-- A character that begins neither an escape nor a set is read by itself. -/
theorem readOn_cons (r : Reading) {c : Char} (notEscape : c ≠ '\\') (notSet : c ≠ '[')
    (rest : List Char) :
    readOn r (c :: rest) =
      if c ∈ metaChars then
        match r.sign c with
        | some r => readOn r rest
        | none => none
      else readOn (r.push (.only c)) rest := by
  rw [readOn.eq_def]
  split
  · rename_i same
    cases same
    exact absurd rfl notEscape
  · rename_i same
    cases same
    exact absurd rfl notSet
  · rename_i same
    cases same
    rfl
  · rename_i same
    cases same

theorem readOn_plain (r : Reading) {c : Char} (plain : c ∉ metaChars) (rest : List Char) :
    readOn r (c :: rest) = readOn (r.push (.only c)) rest := by
  have notEscape : c ≠ '\\' := fun same => plain (same ▸ by decide)
  have notSet : c ≠ '[' := fun same => plain (same ▸ by decide)
  rw [readOn_cons r notEscape notSet, if_neg plain]

theorem readOn_sign {r r' : Reading} {c : Char} (special : c ∈ metaChars ∧ c ≠ '\\' ∧ c ≠ '[')
    (h : r.sign c = some r') (rest : List Char) : readOn r (c :: rest) = readOn r' rest := by
  rw [readOn_cons r special.2.1 special.2.2, if_pos special.1, h]

theorem readOn_escaped (r : Reading) {c : Char} (special : c ∈ metaChars) (rest : List Char) :
    readOn r ('\\' :: c :: rest) = readOn (r.push (.only c)) rest := if_pos special

theorem readOn_except (r : Reading) {c : Char} (plain : c ∉ metaChars) (rest : List Char) :
    readOn r ('[' :: '^' :: c :: ']' :: rest) = readOn (r.push (.except c)) rest := if_neg plain

def ofPiece : Piece → Item
  | .char c => .span ⟨.only c, .once⟩
  | .level => .group [⟨.except '/', .oneOrMore⟩] false
  | .tail => .group [⟨.only '/', .once⟩, ⟨.any, .anyNumber⟩] true
  | .all => .group [⟨.any, .anyNumber⟩] false

/-- Outside of a group, with the items of some more pieces read. -/
def behind (items : List Item) (expression : Expression) : Reading :=
  ⟨(expression.map ofPiece).reverse ++ items, none⟩

/-- A text that is read as the items of an expression, wherever it stands. -/
def Spells (text : List Char) (expression : Expression) : Prop :=
  ∀ items rest, readOn ⟨items, none⟩ (text ++ rest) = readOn (behind items expression) rest

namespace Spells

theorem nil : Spells [] [] := fun _ _ => rfl

theorem append {text text' : List Char} {expression expression' : Expression}
    (h : Spells text expression) (h' : Spells text' expression') :
    Spells (text ++ text') (expression ++ expression') := by
  intro items rest
  have whole : behind items (expression ++ expression') =
      behind ((expression.map ofPiece).reverse ++ items) expression' := by
    simp [behind]
  rw [List.append_assoc, h, whole, ← h']
  rfl

theorem slash : Spells ['/'] [.char '/'] := fun _ rest => readOn_plain _ (by decide) rest

theorem escape (level : Level) : Spells (escape level) (level.map .char) := by
  induction level with
  | nil => exact nil
  | cons c level ih =>
      have first : Spells (if c ∈ metaChars then ['\\', c] else [c]) [.char c] := by
        intro items rest
        by_cases special : c ∈ metaChars
        · rw [if_pos special]
          exact readOn_escaped _ special rest
        · rw [if_neg special]
          exact readOn_plain _ special rest
      exact first.append ih

theorem level : Spells "([^/]+)".toList [.level] := fun items rest =>
  calc readOn ⟨items, none⟩ ('(' :: '[' :: '^' :: '/' :: ']' :: '+' :: ')' :: rest)
    _ = readOn ⟨items, some []⟩ ('[' :: '^' :: '/' :: ']' :: '+' :: ')' :: rest) :=
      readOn_sign (by decide) rfl _
    _ = readOn ⟨items, some [⟨.except '/', .once⟩]⟩ ('+' :: ')' :: rest) :=
      readOn_except _ (by decide) _
    _ = readOn ⟨items, some [⟨.except '/', .oneOrMore⟩]⟩ (')' :: rest) :=
      readOn_sign (by decide) rfl _
    _ = readOn (behind items [.level]) rest := readOn_sign (by decide) rfl _

theorem all : Spells "(.*)".toList [.all] := fun items rest =>
  calc readOn ⟨items, none⟩ ('(' :: '.' :: '*' :: ')' :: rest)
    _ = readOn ⟨items, some []⟩ ('.' :: '*' :: ')' :: rest) := readOn_sign (by decide) rfl _
    _ = readOn ⟨items, some [⟨.any, .once⟩]⟩ ('*' :: ')' :: rest) :=
      readOn_sign (by decide) rfl _
    _ = readOn ⟨items, some [⟨.any, .anyNumber⟩]⟩ (')' :: rest) := readOn_sign (by decide) rfl _
    _ = readOn (behind items [.all]) rest := readOn_sign (by decide) rfl _

theorem tail : Spells "(/.*)?".toList [.tail] := fun items rest =>
  calc readOn ⟨items, none⟩ ('(' :: '/' :: '.' :: '*' :: ')' :: '?' :: rest)
    _ = readOn ⟨items, some []⟩ ('/' :: '.' :: '*' :: ')' :: '?' :: rest) :=
      readOn_sign (by decide) rfl _
    _ = readOn ⟨items, some [⟨.only '/', .once⟩]⟩ ('.' :: '*' :: ')' :: '?' :: rest) :=
      readOn_plain _ (by decide) _
    _ = readOn ⟨items, some [⟨.any, .once⟩, ⟨.only '/', .once⟩]⟩ ('*' :: ')' :: '?' :: rest) :=
      readOn_sign (by decide) rfl _
    _ = readOn ⟨items, some [⟨.any, .anyNumber⟩, ⟨.only '/', .once⟩]⟩ (')' :: '?' :: rest) :=
      readOn_sign (by decide) rfl _
    _ = readOn ⟨.group [⟨.only '/', .once⟩, ⟨.any, .anyNumber⟩] false :: items, none⟩
        ('?' :: rest) := readOn_sign (by decide) rfl _
    _ = readOn (behind items [.tail]) rest := readOn_sign (by decide) rfl _

theorem segment (first : Bool) (segment : Segment) :
    Spells (segment.written first) (Expression.ofSegment first segment) := by
  cases segment with
  | literal text =>
      cases first with
      | true => exact escape text
      | false => exact slash.append (escape text)
  | plus =>
      cases first with
      | true => exact level
      | false => exact slash.append level
  | hash =>
      cases first with
      | true => exact all
      | false => exact tail

theorem segments (segments : List Segment) :
    Spells (writtenSegments segments) (.ofSegments segments) := by
  have later (rest : List Segment) :
      Spells (rest.flatMap (Segment.written false))
        (rest.flatMap (Expression.ofSegment false)) := by
    induction rest with
    | nil => exact nil
    | cons next rest ih => exact (segment false next).append ih
  cases segments with
  | nil => exact nil
  | cons next rest => exact (segment true next).append (later rest)

end Spells

/-- The expression of a route between its anchors. -/
def ofPieces (expression : Expression) : Regex :=
  ⟨true, .start :: (expression.map ofPiece ++ [.stop])⟩

theorem read_written (segments : List Segment) :
    read (written segments) = some (ofPieces (.ofSegments segments)) := by
  have text : (written segments).toList =
      '(' :: '?' :: 's' :: ')' :: '^' :: (writtenSegments segments ++ ['$']) :=
    String.toList_ofList
  have items :=
    calc readOn ⟨[], none⟩ ('^' :: (writtenSegments segments ++ ['$']))
      _ = readOn ⟨[.start], none⟩ (writtenSegments segments ++ ['$']) :=
        readOn_sign (by decide) rfl _
      _ = readOn (behind [.start] (.ofSegments segments)) ['$'] := Spells.segments _ _ _
      _ = readOn ⟨.stop :: (behind [.start] (.ofSegments segments)).items, none⟩ [] :=
        readOn_sign (by decide) rfl _
      _ = some (.start :: ((Expression.ofSegments segments).map ofPiece ++ [.stop])) := by
        simp [readOn, Reading.finish, behind]
  rw [read, text]
  simp only [items]
  rfl

/-! What the items take. -/

theorem span_once {dotAll : Bool} {set : CharSet} {text : List Char} :
    Span.Takes dotAll ⟨set, .once⟩ text ↔ ∃ c, text = [c] ∧ set.Has dotAll c := by
  constructor
  · rintro ⟨single, has⟩
    obtain ⟨c, rfl⟩ := List.length_eq_one_iff.mp single
    exact ⟨c, rfl, has c List.mem_cons_self⟩
  · rintro ⟨c, rfl, has⟩
    exact ⟨rfl, by simpa using has⟩

theorem span_any (text : List Char) : Span.Takes true ⟨.any, .anyNumber⟩ text :=
  ⟨trivial, fun _ _ => .inl rfl⟩

theorem spans_one {dotAll : Bool} {span : Span} {text : List Char} :
    SpansTake dotAll [span] text ↔ span.Takes dotAll text := by
  constructor
  · intro h
    cases h with
    | cons taken more =>
        cases more
        rwa [List.append_nil]
  · intro taken
    have whole := SpansTake.cons taken .nil
    rwa [List.append_nil] at whole

theorem spans_cons {dotAll : Bool} {span : Span} {rest : List Span} {text : List Char} :
    SpansTake dotAll (span :: rest) text ↔
      ∃ taken text', text = taken ++ text' ∧ span.Takes dotAll taken ∧
        SpansTake dotAll rest text' := by
  constructor
  · intro h
    cases h with
    | cons taken more => exact ⟨_, _, rfl, taken, more⟩
  · rintro ⟨taken, text', rfl, here, more⟩
    exact .cons here more

theorem ofPiece_takes {piece : Piece} {before text after : List Char} {captures : List Capture} :
    (ofPiece piece).Takes true before text after captures ↔ piece.Takes text captures := by
  cases piece with
  | char c =>
      constructor
      · intro h
        cases h with
        | span taken =>
            obtain ⟨_, rfl, rfl⟩ := span_once.mp taken
            exact .char _
      · intro h
        cases h
        exact .span (span_once.mpr ⟨c, rfl, rfl⟩)
  | level =>
      constructor
      · intro h
        cases h with
        | group taken =>
            obtain ⟨filled, others⟩ := spans_one.mp taken
            exact .level (List.length_pos_iff.mp filled) fun slash => others _ slash rfl
      · intro h
        cases h with
        | level filled clean =>
            refine .group (spans_one.mpr ⟨List.length_pos_iff.mpr filled, ?_⟩)
            intro c mem slash
            exact clean (slash ▸ mem)
  | tail =>
      constructor
      · intro h
        cases h with
        | group taken =>
            obtain ⟨_, text', rfl, slash, _⟩ := spans_cons.mp taken
            obtain ⟨_, rfl, rfl⟩ := span_once.mp slash
            exact .tail text'
        | absent => exact .noTail
      · intro h
        cases h with
        | noTail => exact .absent
        | tail text =>
            have slash : Span.Takes true ⟨.only '/', .once⟩ ['/'] := span_once.mpr ⟨'/', rfl, rfl⟩
            exact .group (spans_cons.mpr
              ⟨['/'], text, rfl, slash, spans_one.mpr (span_any text)⟩)
  | all =>
      constructor
      · intro h
        cases h with
        | group => exact .all text
      · intro h
        cases h
        exact .group (spans_one.mpr (span_any text))

theorem start_takes {dotAll : Bool} {before text after : List Char} {captures : List Capture} :
    Item.Takes dotAll .start before text after captures ↔
      before = [] ∧ text = [] ∧ captures = [] := by
  constructor
  · intro h
    cases h
    exact ⟨rfl, rfl, rfl⟩
  · rintro ⟨rfl, rfl, rfl⟩
    exact .start

theorem stop_takes {dotAll : Bool} {before text after : List Char} {captures : List Capture} :
    Item.Takes dotAll .stop before text after captures ↔
      text = [] ∧ after = [] ∧ captures = [] := by
  constructor
  · intro h
    cases h
    exact ⟨rfl, rfl, rfl⟩
  · rintro ⟨rfl, rfl, rfl⟩
    exact .stop

/-- Pieces with the end of the topic behind them. -/
theorem items_take {expression : Expression} {before text after : List Char}
    {captures : List Capture} :
    ItemsTake true (expression.map ofPiece ++ [.stop]) before text after captures ↔
      after = [] ∧ Expression.Accepts expression text captures := by
  induction expression generalizing before text captures with
  | nil =>
      rw [Expression.accepts_nil]
      constructor
      · intro h
        cases h with
        | cons stop more =>
            cases more
            obtain ⟨rfl, none, rfl⟩ := stop_takes.mp stop
            exact ⟨none, rfl, rfl⟩
      · rintro ⟨rfl, rfl, rfl⟩
        exact .cons .stop .nil
  | cons piece expression ih =>
      constructor
      · intro h
        cases h with
        | cons taken more =>
            obtain ⟨none, accepted⟩ := ih.mp more
            exact ⟨none, .cons (ofPiece_takes.mp taken) accepted⟩
      · rintro ⟨rfl, h⟩
        cases h with
        | cons taken more => exact .cons (ofPiece_takes.mpr taken) (ih.mpr ⟨rfl, more⟩)

/-- The anchors hold a match at both ends of the topic. -/
theorem ofPieces_matches {expression : Expression} {before text after : List Char}
    {captures : List Capture} :
    (ofPieces expression).Matches before text after captures ↔
      before = [] ∧ after = [] ∧ expression.Accepts text captures := by
  constructor
  · intro h
    cases h with
    | cons start more =>
        obtain ⟨rfl, rfl, rfl⟩ := start_takes.mp start
        exact ⟨rfl, items_take.mp more⟩
  · rintro ⟨rfl, rfl, accepted⟩
    exact .cons .start (items_take.mpr ⟨rfl, accepted⟩)

theorem ofPieces_whole {expression : Expression} {topic before text after : List Char}
    {captures : List Capture} (whole : topic = before ++ text ++ after)
    (matched : (ofPieces expression).Matches before text after captures) :
    before = [] ∧ text = topic ∧ after = [] ∧ expression.Accepts topic captures := by
  obtain ⟨rfl, rfl, accepted⟩ := ofPieces_matches.mp matched
  rw [List.nil_append, List.append_nil] at whole
  subst whole
  exact ⟨rfl, rfl, rfl, accepted⟩

theorem ofPieces_accepted {expression : Expression} {topic : List Char} {captures : List Capture}
    (accepted : expression.Accepts topic captures) :
    (ofPieces expression).Matches [] topic [] captures :=
  ofPieces_matches.mpr ⟨rfl, rfl, accepted⟩

theorem ofPieces_occurs {expression : Expression} {topic : List Char} :
    (ofPieces expression).Occurs topic ↔ ∃ captures, expression.Accepts topic captures := by
  constructor
  · rintro ⟨before, text, after, captures, whole, matched⟩
    obtain ⟨_, _, _, accepted⟩ := ofPieces_whole whole matched
    exact ⟨captures, accepted⟩
  · rintro ⟨captures, accepted⟩
    exact ⟨[], topic, [], captures, by simp, ofPieces_accepted accepted⟩

end Regex

/-- The written expression of a route, read as the engine reads it, matches somewhere in a
topic exactly if the levels of the route and of the topic can be walked side by side; and
that is when the topic matches. -/
theorem Matcher.written_matches_levels [Engine] {route : String} {m : Matcher}
    (compiled : Matcher.compile route = .ok m) (topic : String) :
    ∃ regex, Regex.read m.written = some regex ∧
      (regex.Occurs topic.toList ↔ Walks (levels route.toList) (levels topic.toList)) ∧
      (m.isMatch topic = true ↔ Walks (levels route.toList) (levels topic.toList)) := by
  have made := Matcher.compile_made compiled
  have filled : m.segments ≠ [] := by
    obtain ⟨level, rest, cut, _⟩ := levels_split route.toList
    intro none
    have reads := made.reads
    rw [none, cut] at reads
    cases reads
  have walk : (∃ captures, (Expression.ofSegments m.segments).Accepts topic.toList captures) ↔
      Walks (levels route.toList) (levels topic.toList) :=
    (Expression.accepts_iff_covers made.proper filled _).trans
      (covers_iff_walks made.reads made.proper _)
  exact ⟨_, Regex.read_written m.segments, Regex.ofPieces_occurs.trans walk,
    (Matcher.isMatch_iff made topic).trans walk⟩

/-- A dot in a route is a dot, an empty level is a level, and a newline fills one. -/
theorem Matcher.dots_and_newlines_are_text :
    ∃ m, Matcher.compile "a.b//+/#" = .ok m ∧ m.written = "(?s)^a\\.b//([^/]+)(/.*)?$" ∧
      ∃ regex, Regex.read m.written = some regex ∧ regex.Occurs "a.b//\n".toList ∧
        m.isMatch "a.b//\n" = true := by
  refine ⟨_, rfl, rfl, ?_⟩
  have walk : Walks (levels "a.b//+/#".toList) (levels "a.b//\n".toList) :=
    .literal (by decide) (by decide)
      (.literal (by decide) (by decide) (.plus (by decide) (.hash [])))
  obtain ⟨regex, read, occurs, isMatch⟩ :=
    @Matcher.written_matches_levels _ "a.b//+/#" _ rfl "a.b//\n"
  exact ⟨regex, read, occurs.mpr walk, isMatch.mpr walk⟩

end MqttRouting.Topic
