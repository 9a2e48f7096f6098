import MqttRouting.Attribute.Analysis
import MqttRouting.Proofs.Dispatcher.History
import MqttRouting.Proofs.Topic.Acceptance
import MqttRouting.Proofs.Topic.Placeholders
import MqttRouting.Proofs.Topic.Sized

/-!
Templates checked before their values are known. The check puts a plain level in the place of
every placeholder. What comes there later is a level as plain or the placeholder itself, which
can be several levels; either is none a prefix begins with, and a group of a share prefix at
most where the plain level was one too. So it compiles where the check went well.
-/

namespace MqttRouting.Topic

/-- A value that is one level, without wildcards, and begins no prefix. -/
structure PlainLevel (value : String) : Prop where
  visible : Text.isBlank value = false
  clean : ∀ c ∈ value.toList, c ∉ ['/', '+', '#', '\x00']
  unmarked : value.toList.head? ≠ some '$'

/-- Every placeholder fills whole levels: a slash comes before it or nothing, and behind it a
slash or nothing. -/
def WholeLevels (ps : List Part) : Prop :=
  ∀ front name back, ps = front ++ .placeholder name :: back →
    Ends (front.flatMap Part.chars).reverse ∧ Ends (back.flatMap Part.chars)

/-- No null character and no wildcard. -/
def Clean (level : Level) : Prop := '\x00' ∉ level ∧ '+' ∉ level ∧ '#' ∉ level

/-- What can come in the place of a placeholder. Where it is several levels, the first is no
share group. -/
structure Fills (filler : List Level) : Prop where
  visible : Visible filler
  clean : ∀ level ∈ filler, Clean level
  unmarked : ∀ first ∈ filler.head?, first.head? ≠ some '$'
  single : ∀ first ∈ filler.head?, IsGroup first → filler = [first]

/-- A route with sample levels, and the route with something else in their place. -/
inductive Replaced : List Level → List Level → Prop where
  | nil : Replaced [] []
  | same (level : Level) {sample route : List Level} :
      Replaced sample route → Replaced (level :: sample) (level :: route)
  | hole {filler sample route : List Level} :
      Fills filler → Replaced sample route → Replaced (sampleLevel :: sample) (filler ++ route)

/-! What comes in the place of a placeholder. -/

theorem clean_levels {text : List Char} (clean : ∀ c ∈ text, c ∉ ['+', '#', '\x00']) :
    ∀ level ∈ levels text, Clean level := by
  intro level among
  have absent (c : Char) (other : c ≠ '/') (wild : c ∈ ['+', '#', '\x00']) : c ∉ level :=
    fun mem => clean c ((mem_levels_iff other text).mpr ⟨level, among, mem⟩) wild
  exact ⟨absent _ (by decide) (by simp), absent _ (by decide) (by simp),
    absent _ (by decide) (by simp)⟩

theorem PlainLevel.fills {value : String} (h : PlainLevel value) : Fills (levels value.toList) := by
  have one : levels value.toList = [value.toList] := by
    apply levels_of_no_slash
    intro slash
    exact h.clean _ slash (by simp)
  refine ⟨isBlank_iff.mp h.visible, ?_, ?_, ?_⟩
  · apply clean_levels
    intro c mem wild
    exact h.clean c mem (List.mem_cons_of_mem _ wild)
  · intro first head
    rw [one] at head
    cases head
    exact h.unmarked
  · intro first head _
    rw [one] at head ⊢
    cases head
    rfl

theorem fills_placeholder {name : List Char} (clean : ∀ c ∈ name, c ∉ ['+', '#', '\x00']) :
    Fills (levels (Part.placeholder name).chars) := by
  obtain ⟨level, rest, cut, _⟩ := levels_split ('{' :: name ++ ['}', '}'])
  have opened : levels (Part.placeholder name).chars = ('{' :: level) :: rest := by
    rw [Part.chars, List.cons_append, levels_cons, cut]
    exact if_neg (by decide)
  refine ⟨?_, ?_, ?_, ?_⟩
  · rw [opened]
    exact .inr ⟨_, List.mem_cons_self, '{', List.mem_cons_self, by decide⟩
  · apply clean_levels
    intro c mem wild
    have inside : c ∈ name ∨ c = '{' ∨ c = '}' := by grind [Part.chars]
    rcases inside with inside | rfl | rfl
    · exact clean c inside wild
    · simp at wild
    · simp at wild
  · intro first head
    rw [opened] at head
    cases head
    simp
  · intro first head group
    rw [opened] at head
    cases head
    cases group.2 '{' List.mem_cons_self

/-! From templates to levels. -/

theorem Replaced.refl (route : List Level) : Replaced route route := by
  induction route with
  | nil => exact .nil
  | cons level route ih => exact .same level ih

theorem Replaced.front (front : List Level) {sample route : List Level}
    (h : Replaced sample route) : Replaced (front ++ sample) (front ++ route) := by
  induction front with
  | nil => exact h
  | cons level front ih => exact .same level ih

theorem ends_of_append {text rest : List Char} (ends : Ends (text ++ rest)) : Ends text := by
  intro c head
  apply ends
  cases text with
  | nil => cases head
  | cons c' text => exact head

theorem ends_reverse {text : List Char} (ends : Ends text.reverse) :
    text = [] ∨ ∃ front, text = front ++ ['/'] := by
  obtain rfl | ⟨front, c, rfl⟩ := List.eq_nil_or_concat' text
  · exact .inl rfl
  · rw [List.reverse_append] at ends
    exact .inr ⟨front, by rw [ends c rfl]⟩

theorem ends_reverse_append {text : List Char} (ends : Ends text.reverse) (more : text ≠ [])
    (before : List Char) : Ends (before ++ text).reverse := by
  rw [List.reverse_append]
  cases last : text.reverse with
  | nil => exact absurd (List.reverse_eq_nil_iff.mp last) more
  | cons c rest =>
      rw [last] at ends
      exact ends

theorem wholeLevels_plain (text : List Char) : WholeLevels [.plain text] := by
  intro front name back same
  have mem : Part.placeholder name ∈ [Part.plain text] := by
    rw [same]
    simp
  simp at mem

theorem wholeLevels_cons_iff {before name : List Char} {more : List Part} :
    WholeLevels (.plain before :: .placeholder name :: more) ↔
      Ends before.reverse ∧ Ends (more.flatMap Part.chars) ∧ WholeLevels more := by
  constructor
  · intro whole
    obtain ⟨start, behind⟩ := whole [.plain before] name more rfl
    refine ⟨by simpa [Part.chars] using start, behind, ?_⟩
    rintro front name' back rfl
    obtain ⟨start, behind⟩ := whole (.plain before :: .placeholder name :: front) name' back rfl
    refine ⟨?_, behind⟩
    rw [List.flatMap_cons, List.flatMap_cons, ← List.append_assoc, List.reverse_append] at start
    exact ends_of_append start
  · rintro ⟨start, behind, others⟩ front name' back same
    cases front with
    | nil => cases same
    | cons first front =>
        cases front with
        | nil =>
            cases same
            exact ⟨by simpa [Part.chars] using start, behind⟩
        | cons second front =>
            simp only [List.cons_append, List.cons.injEq] at same
            obtain ⟨rfl, rfl, rfl⟩ := same
            obtain ⟨start', behind'⟩ := others front name' back rfl
            refine ⟨?_, behind'⟩
            rw [List.flatMap_cons, List.flatMap_cons, ← List.append_assoc]
            refine ends_reverse_append start' (fun empty => ?_) _
            -- The placeholder would stand where only a slash can.
            rw [List.flatMap_append, empty] at behind
            cases behind '{' rfl

theorem Scanned.head {text : List Char} {ps : List Part} (scanned : Scanned text ps)
    (ends : Ends text) : ps = [.plain []] ∨ ∃ s rest, ps = .plain ('/' :: s) :: rest := by
  cases scanned with
  | last _ =>
      cases text with
      | nil => exact .inl rfl
      | cons c text => exact .inr ⟨text, [], by rw [ends c rfl]⟩
  | @next _ before name rest more first _ =>
      rw [firstPlaceholder?_whole first] at ends
      cases before with
      | nil => cases ends '{' rfl
      | cons c before => exact .inr ⟨before, _, by rw [ends c rfl]⟩

/-- A level that is no sample is in both. -/
theorem Replaced.inv {level : Level} {sample route : List Level}
    (h : Replaced (level :: sample) route) (other : level ≠ sampleLevel) :
    ∃ rest, route = level :: rest ∧ Replaced sample rest := by
  generalize whole : level :: sample = levels at h
  cases h with
  | nil => cases whole
  | same _ h =>
      cases whole
      exact ⟨_, rfl, h⟩
  | hole =>
      cases whole
      exact absurd rfl other

theorem replaced_levels {filler : List Char → List Char} {text : List Char} {ps : List Part}
    (scanned : Scanned text ps) (whole : WholeLevels ps)
    (fills : ∀ name, .placeholder name ∈ ps → Fills (levels (filler name))) :
    Replaced (levels (ps.flatMap (Part.put fun _ => sampleLevel)))
      (levels (ps.flatMap (Part.put filler))) := by
  have one : levels sampleLevel = [sampleLevel] := by decide
  induction scanned with
  | last _ => exact .refl _
  | @next _ before name rest more first scanned ih =>
      obtain ⟨front, back, whole⟩ := wholeLevels_cons_iff.mp whole
      have hole := fills name (by simp)
      have others := ih whole fun name mem => fills name (by simp [mem])
      rw [scanned.chars] at back
      have behind : Replaced (levels (sampleLevel ++ more.flatMap (Part.put fun _ => sampleLevel)))
          (levels (filler name ++ more.flatMap (Part.put filler))) := by
        obtain rfl | ⟨s, more, rfl⟩ := scanned.head back
        · simpa [Part.put, one] using Replaced.hole hole .nil
        · simp only [List.flatMap_cons, Part.put, List.cons_append] at others ⊢
          have slash (text : List Char) : levels ('/' :: text) = [] :: levels text :=
            levels_slash List.not_mem_nil text
          rw [slash, slash] at others
          obtain ⟨_, same, others⟩ := others.inv (by decide)
          cases same
          rw [levels_append_slash, levels_append_slash, one]
          exact .hole hole others
      simp only [List.flatMap_cons, Part.put]
      obtain rfl | ⟨start, rfl⟩ := ends_reverse front
      · exact behind
      · simp only [List.append_assoc, List.singleton_append, levels_append_slash]
        exact behind.front _

/-! Prefixes. -/

theorem Fills.cons {filler : List Level} (h : Fills filler) :
    ∃ first rest, filler = first :: rest ∧ first.head? ≠ some '$' := by
  cases filler with
  | nil =>
      obtain several | ⟨level, mem, _⟩ := h.visible
      · cases several
      · cases mem
  | cons first rest => exact ⟨first, rest, rfl, h.unmarked first rfl⟩

theorem Replaced.eq_nil_iff {sample route : List Level} (h : Replaced sample route) :
    sample = [] ↔ route = [] := by
  cases h with
  | nil => exact Iff.rfl
  | same => simp
  | hole filler _ =>
      obtain ⟨first, rest, rfl, _⟩ := filler.cons
      simp

theorem ne_of_unmarked {first : Level} (unmarked : first.head? ≠ some '$') {mark : List Char} :
    first ≠ '$' :: mark := by
  rintro rfl
  exact unmarked rfl

/-- A queue prefix comes off both or neither. -/
theorem Replaced.stripQueue {sample route : List Level} (h : Replaced sample route) :
    Replaced (stripQueueLevels sample) (stripQueueLevels route) := by
  cases h with
  | nil => exact .nil
  | @same level sample route h =>
      by_cases queue : level = "$queue".toList
      · subst queue
        by_cases more : route = []
        · rw [more, h.eq_nil_iff.mpr more]
          exact .refl _
        · rw [stripQueueLevels_queue more, stripQueueLevels_queue (mt h.eq_nil_iff.mp more)]
          exact h
      · rw [stripQueueLevels_other queue, stripQueueLevels_other queue]
        exact .same level h
  | hole filler h =>
      obtain ⟨first, rest, rfl, unmarked⟩ := filler.cons
      rw [stripQueueLevels_other (by decide), List.cons_append,
        stripQueueLevels_other (ne_of_unmarked unmarked), ← List.cons_append]
      exact .hole filler h

/-- A route with something else in the place of sample levels, and plain levels in front. -/
def ReplacedBehind (sample route : List Level) : Prop :=
  ∃ front rest, route = front ++ rest ∧ Replaced sample rest ∧ ∀ level ∈ front, Clean level

theorem Replaced.behind {sample route : List Level} (h : Replaced sample route) :
    ReplacedBehind sample route :=
  ⟨[], route, rfl, h, nofun⟩

theorem Replaced.stripShare_group (group : Level) {sample route : List Level}
    (h : Replaced sample route) :
    Replaced (stripShareLevels ("$share".toList :: group :: sample))
      (stripShareLevels ("$share".toList :: group :: route)) := by
  by_cases named : IsGroup group
  · by_cases more : route = []
    · rw [more, h.eq_nil_iff.mpr more]
      exact .refl _
    · rw [stripShareLevels_share named more,
        stripShareLevels_share named (mt h.eq_nil_iff.mp more)]
      exact h
  · rw [stripShareLevels_unnamed named, stripShareLevels_unnamed named]
    exact .same _ (.same group h)

/-- Where the group was a placeholder the prefix can stay, unless nothing is behind it. -/
theorem Replaced.stripShare_hole {filler sample route : List Level} (fills : Fills filler)
    (h : Replaced sample route) :
    ReplacedBehind (stripShareLevels ("$share".toList :: sampleLevel :: sample))
      (stripShareLevels ("$share".toList :: (filler ++ route))) := by
  obtain ⟨first, others, rfl, _⟩ := fills.cons
  have marked : Clean "$share".toList := by
    unfold Clean
    decide
  by_cases more : route = []
  · rw [more, h.eq_nil_iff.mpr more, List.append_nil]
    have all : Replaced ("$share".toList :: [sampleLevel])
        ("$share".toList :: (first :: others ++ [])) := .same _ (.hole fills .nil)
    rw [List.append_nil] at all
    by_cases named : IsGroup first
    · rw [fills.single first rfl named] at all ⊢
      exact all.behind
    · rw [stripShareLevels_unnamed named]
      exact all.behind
  · rw [stripShareLevels_share (by decide) (mt h.eq_nil_iff.mp more)]
    by_cases named : IsGroup first
    · rw [fills.single first rfl named, List.singleton_append, stripShareLevels_share named more]
      exact h.behind
    · rw [List.cons_append, stripShareLevels_unnamed named]
      exact ⟨"$share".toList :: first :: others, route, rfl, h,
        List.forall_mem_cons.mpr ⟨marked, fills.clean⟩⟩

/-- A share prefix comes off both or neither, except where its group was a placeholder. -/
theorem Replaced.stripShare {sample route : List Level} (h : Replaced sample route) :
    ReplacedBehind (stripShareLevels sample) (stripShareLevels route) := by
  cases h with
  | nil => exact Replaced.nil.behind
  | hole fills rest =>
      obtain ⟨first, _, rfl, unmarked⟩ := fills.cons
      rw [stripShareLevels_other (by decide), List.cons_append,
        stripShareLevels_other (ne_of_unmarked unmarked), ← List.cons_append]
      exact (Replaced.hole fills rest).behind
  | same level rest =>
      by_cases share : level = "$share".toList
      · subst share
        cases rest with
        | nil => exact (Replaced.refl _).behind
        | same group rest => exact (rest.stripShare_group group).behind
        | hole fills rest => exact rest.stripShare_hole fills
      · rw [stripShareLevels_other share, stripShareLevels_other share]
        exact (rest.same level).behind

/-! What makes a route acceptable. -/

theorem Clean.ne_wildcard {level : Level} (clean : Clean level) :
    level ≠ ['+'] ∧ level ≠ ['#'] := by
  constructor
  · rintro rfl
    exact clean.2.1 (List.mem_singleton.mpr rfl)
  · rintro rfl
    exact clean.2.2 (List.mem_singleton.mpr rfl)

theorem Orderly.clean_append {front route : List Level} (clean : ∀ level ∈ front, Clean level)
    (orderly : Orderly route) : Orderly (front ++ route) := by
  induction front with
  | nil => exact orderly
  | cons level front ih =>
      obtain ⟨here, others⟩ := List.forall_mem_cons.mp clean
      exact orderly_cons_iff.mpr ⟨here.1, .inr (.inr here.2),
        fun hash => absurd hash here.ne_wildcard.2, ih others⟩

theorem Replaced.orderly {sample route : List Level} (h : Replaced sample route)
    (orderly : Orderly sample) : Orderly route := by
  induction h with
  | nil => exact orderly
  | same level rest ih =>
      obtain ⟨noNull, alone, last, others⟩ := orderly_cons_iff.mp orderly
      exact orderly_cons_iff.mpr
        ⟨noNull, alone, fun hash => rest.eq_nil_iff.mp (last hash), ih others⟩
  | hole fills _ ih =>
      obtain ⟨_, _, _, others⟩ := orderly_cons_iff.mp orderly
      exact (ih others).clean_append fills.clean

theorem Replaced.visible {sample route : List Level} (h : Replaced sample route)
    (visible : Visible sample) : Visible route := by
  cases h with
  | nil => exact visible
  | hole fills _ => exact fills.visible.append_right _
  | @same level sample route rest =>
      cases rest with
      | nil => exact visible
      | same => exact .inl (by simp)
      | hole fills _ =>
          rw [← List.singleton_append]
          exact (fills.visible.append_right _).append_left _

/-- What can be told from the levels of a sample holds of a route as well. -/
theorem Replaced.acceptable {sample route : List Level} (h : Replaced sample route)
    (visible : Visible (stripShareLevels (stripQueueLevels sample)))
    (orderly : Orderly (stripShareLevels (stripQueueLevels sample))) :
    Visible (stripShareLevels (stripQueueLevels route)) ∧
      Orderly (stripShareLevels (stripQueueLevels route)) := by
  obtain ⟨front, rest, same, filled, clean⟩ := h.stripQueue.stripShare
  rw [same]
  exact ⟨(filled.visible visible).append_left front, (filled.orderly orderly).clean_append clean⟩

/-! Routes of one plain level with `+` levels behind it. -/

namespace Corridor

/-- A room, and a row of doors behind it. -/
def route (room : Level) (doors : Nat) : String :=
  String.ofList (room ++ slashed (List.replicate doors ['+']))

theorem levels_route {room : Level} (plain : '/' ∉ room) (doors : Nat) :
    levels (route room doors).toList = room :: List.replicate doors ['+'] := by
  rw [route, String.toList_ofList]
  apply levels_slashed
  rw [List.forall_mem_cons]
  refine ⟨plain, fun level mem => ?_⟩
  rw [List.eq_of_mem_replicate mem]
  decide

theorem route_size (room : Level) (doors : Nat) :
    (route room doors).utf8ByteSize = Text.byteLength room + 2 * doors := by
  rw [route, Text.utf8ByteSize_ofList, Text.byteLength_append]
  congr 1
  induction doors with
  | zero => rfl
  | succ doors ih =>
      rw [List.replicate_succ, slashed_cons, Text.byteLength_cons, Text.byteLength_append, ih]
      change 1 + (1 + 2 * doors) = _
      omega

variable {room : Level} (plain : PlainLevel (String.ofList room))

include plain

theorem absent {c : Char} (other : c ∈ ['/', '+', '#', '\x00']) : c ∉ room := by
  have clean := plain.clean
  rw [String.toList_ofList] at clean
  exact fun mem => clean c mem other

theorem stripPrefixes_route (doors : Nat) :
    stripPrefixes (route room doors) = route room doors := by
  have unmarked := plain.unmarked
  rw [String.toList_ofList] at unmarked
  have other (name : Level) (marked : name.head? = some '$') : room ≠ name := by
    rintro rfl
    exact unmarked marked
  rw [← String.toList_inj, ← joinLevels_levels (stripPrefixes _).toList, levels_stripPrefixes,
    levels_route (absent plain (by simp)), stripQueueLevels_other (other _ rfl),
    stripShareLevels_other (other _ rfl), ← levels_route (absent plain (by simp)),
    joinLevels_levels]

theorem parseRoute_route {doors : Nat} (short : Text.byteLength room + 2 * doors ≤ maxLength) :
    parseRoute (route room doors) = .ok (.literal room :: List.replicate doors .plus) := by
  have cut := levels_route (absent plain (by simp)) doors
  have alone : Alone room := .inr (.inr ⟨absent plain (by simp), absent plain (by simp)⟩)
  have notPlus : room ≠ ['+'] := by
    rintro rfl
    exact absent plain (c := '+') (by simp) (by simp)
  have notHash : room ≠ ['#'] := by
    rintro rfl
    exact absent plain (c := '#') (by simp) (by simp)
  have first : Segment.ofLevel room = .ok (.literal room) := by
    rw [Segment.ofLevel_eq, if_pos alone, Segment.ofText, if_neg notPlus, if_neg notHash]
  have others : Reads (List.replicate doors .plus) (List.replicate doors ['+']) :=
    List.forall₂_iff_get.mpr ⟨by simp, by simp [Segment.ofLevel]⟩
  have seen : Visible [room] := by
    have seen := isBlank_iff.mp plain.visible
    rwa [String.toList_ofList, levels_of_no_slash (absent plain (by simp))] at seen
  have noNull : '\x00' ∉ (route room doors).toList := by
    rw [mem_levels_iff (by decide), cut]
    rintro ⟨level, mem, null⟩
    rcases List.mem_cons.mp mem with rfl | mem
    · exact absent plain (by simp) null
    · rw [List.eq_of_mem_replicate mem] at null
      simp at null
  have last : ['#'] ∉ (room :: List.replicate doors ['+']).dropLast := by
    intro mem
    rcases List.mem_cons.mp (List.dropLast_subset _ mem) with rfl | mem
    · exact notHash rfl
    · cases List.eq_of_mem_replicate mem
  rw [parseRoute_ok_iff, cut, route_size]
  exact ⟨seen.append_right _, short, noNull, .cons first others, last⟩

/-- The engine that bounds the size of its programs counts the bytes of the room and the doors. -/
theorem compile_route {doors : Nat} (short : Text.byteLength room + 2 * doors ≤ maxLength) :
    ((∃ topic, Compiled.compile (route room doors) {} = .ok topic) ↔
      32 * Text.byteLength room + 1072 * doors + 128 ≤ 10485760) ∧
    (10485760 < 32 * Text.byteLength room + 1072 * doors + 128 →
      Compiled.compile (route room doors) {} =
        .error (.matcher (route room doors) Engine.sizeReason)) := by
  have compiled := Matcher.compile_of_parsed (parseRoute_route plain short)
  rw [Engine.sized_refusal?, Expression.size_text_plus] at compiled
  have whole : Compiled.compile (route room doors) {} = _ :=
    congrArg (Except.map _) ((congrArg _ (stripPrefixes_route plain doors)).trans compiled)
  rw [whole]
  by_cases large : 10485760 < 32 * Text.byteLength room + 1072 * doors + 128
  · rw [if_pos large]
    exact ⟨⟨nofun, fun small => absurd large (Nat.not_lt.mpr small)⟩, fun _ => rfl⟩
  · rw [if_neg large]
    exact ⟨⟨fun _ => Nat.not_lt.mp large, fun _ => ⟨_, rfl⟩⟩, fun more => absurd more large⟩

end Corridor

end MqttRouting.Topic

namespace MqttRouting.Attribute

open Topic

/-- The values that are given for the names of a template are plain levels, and the names could
stand in a topic themselves. -/
structure Fitting (template : String) (bindings : Bindings) : Prop where
  whole : WholeLevels (parts template.toList)
  names : ∀ name, .placeholder name ∈ parts template.toList → ∀ c ∈ name, c ∉ ['+', '#', '\x00']
  values : ∀ name, .placeholder name ∈ parts template.toList →
    ∀ value, bindings.find? (String.ofList name) = some value → PlainLevel value

theorem Fitting.replaced {template : String} {bindings : Bindings} (h : Fitting template bindings) :
    Replaced (levels (fill template).toList) (levels (substitute template bindings).toList) := by
  rw [fill_eq, substitute_eq]
  apply replaced_levels (parts_scanned template.toList) h.whole
  intro name mem
  rw [valueOf]
  cases found : bindings.find? (String.ofList name) with
  | none => exact fills_placeholder (h.names name mem)
  | some value => exact (h.values name mem value found).fills

theorem checkTemplate_ok_iff [Engine] {template : String} :
    checkTemplate template = .ok () ↔
      ∃ m, Matcher.compile (stripPrefixes (fill template)) = .ok m := by
  rw [← Compiled.compile_ok_iff {}]
  unfold checkTemplate
  cases Compiled.compile (fill template) {} with
  | error e => simp
  | ok topic => simp

theorem absent_of_all {text bad : List Char} (clear : text.all (fun c => c ∉ bad) = true) :
    ∀ c ∈ text, c ∉ bad :=
  fun c mem => of_decide_eq_true (List.all_eq_true.mp clear c mem)

/-- Whoever compiles a template answers this: on its own, with a memory of any other templates, and
in a dispatcher after any history. -/
def Answered [Engine] (ν : Type) (template : String) (policy : Policy)
    (answer : Except PatternError Compiled) : Prop :=
  Compiled.compile template policy = answer ∧
    (∀ calls, ((Compiler.after calls).compile template policy).1 = answer) ∧
    ∀ settings transforms hook declarations (d : Dispatcher ν),
      Dispatcher.ofDeclarations settings transforms hook declarations = .ok d → ∀ history,
        ((d.run history).2.compiler.compile template policy).1 = answer

theorem answered [Engine] (ν : Type) (template : String) (policy : Policy) :
    Answered ν template policy (Compiled.compile template policy) := by
  refine ⟨rfl, fun calls => ((Compiler.sound_after calls).compile _ _).1, ?_⟩
  intro settings transforms hook declarations d built history
  obtain ⟨_, _, unused, _⟩ := Dispatcher.ofDeclarations_ok built
  exact ((unused.reflects.run history).sound.compile _ _).1

/-- A template that was accepted without its values can be read with them. Under every policy it
compiles, unless the engine refuses the expression of its route; then that is the answer. -/
theorem checked_template_compiles [Engine] {ν : Type} {template : String} {bindings : Bindings}
    (checked : checkTemplate template = .ok ()) (fitting : Fitting template bindings)
    (short : (substitute template bindings).utf8ByteSize ≤ maxLength) (policy : Policy) :
    let resolved := substitute template bindings
    let route := stripPrefixes resolved
    ∃ segments, parseRoute route = .ok segments ∧
      match Engine.refusal? (written segments) with
      | none => ∃ topic, Answered ν resolved policy (.ok topic)
      | some reason => Answered ν resolved policy (.error (.matcher route reason)) := by
  intro resolved route
  obtain ⟨sample, read, _⟩ := Matcher.compile_ok_iff.mp (checkTemplate_ok_iff.mp checked)
  obtain ⟨_, visible, orderly⟩ := parseRoute_ok_iff_orderly.mp ⟨sample, read⟩
  rw [levels_stripPrefixes] at visible orderly
  obtain ⟨visible, orderly⟩ := fitting.replaced.acceptable visible orderly
  rw [← levels_stripPrefixes] at visible orderly
  obtain ⟨segments, parsed⟩ := parseRoute_ok_iff_orderly.mpr
    ⟨Nat.le_trans (stripPrefixes_size _) short, visible, orderly⟩
  have compiled : Compiled.compile resolved policy = _ :=
    congrArg (Except.map _) (Matcher.compile_of_parsed parsed)
  have told := answered ν resolved policy
  refine ⟨segments, parsed, ?_⟩
  cases refused : Engine.refusal? (written segments) with
  | none =>
      rw [compiled, refused] at told
      exact ⟨_, told⟩
  | some reason =>
      rw [compiled, refused] at told
      exact told

/-- A group that is no word, and a name without a value that is two levels. Only when it is
checked does the template begin with a share prefix. -/
theorem crew_template_compiles :
    checkTemplate "$share/{{crew}}/+/{{a/b}}/#" = .ok () ∧
      ∃ topic, Compiled.compile
          (substitute "$share/{{crew}}/+/{{a/b}}/#" [("crew", "night-crew")]) { queue := true } =
          .ok topic ∧
        topic.route = "$share/night-crew/+/{{a/b}}/#" := by
  have cut : parts "$share/{{crew}}/+/{{a/b}}/#".toList =
      [.plain "$share/".toList, .placeholder "crew".toList, .plain "/+/".toList,
        .placeholder "a/b".toList, .plain "/#".toList] :=
    (parts_scanned _).unique (.next rfl (.next rfl (.last rfl)))
  have sample : fill "$share/{{crew}}/+/{{a/b}}/#" = "$share/placeholder/+/placeholder/#" := by
    rw [← String.toList_inj, fill_eq, cut]
    decide
  have put : substitute "$share/{{crew}}/+/{{a/b}}/#" [("crew", "night-crew")] =
      "$share/night-crew/+/{{a/b}}/#" := by
    rw [← String.toList_inj, substitute_eq, cut]
    decide
  have checked : checkTemplate "$share/{{crew}}/+/{{a/b}}/#" = .ok () := by
    rw [checkTemplate_ok_iff, sample]
    exact ⟨_, rfl⟩
  have fitting : Fitting "$share/{{crew}}/+/{{a/b}}/#" [("crew", "night-crew")] := by
    have either {name : List Char}
        (mem : .placeholder name ∈ parts "$share/{{crew}}/+/{{a/b}}/#".toList) :
        name = "crew".toList ∨ name = "a/b".toList := by
      rw [cut] at mem
      simpa using mem
    refine ⟨?_, ?_, ?_⟩
    · rw [cut, wholeLevels_cons_iff, wholeLevels_cons_iff]
      exact ⟨ends_slash _, ends_slash _, ends_slash _, ends_slash _, wholeLevels_plain _⟩
    · intro name mem
      rcases either mem with rfl | rfl
      · exact absent_of_all (by decide)
      · exact absent_of_all (by decide)
    · intro name mem value found
      rcases either mem with rfl | rfl
      · cases found
        exact ⟨by decide, absent_of_all (by decide), by decide⟩
      · cases found
  obtain ⟨segments, parsed, answered⟩ := @checked_template_compiles _ Unit _ _ checked fitting
    (by rw [put]; decide) { queue := true }
  have read : parseRoute (stripPrefixes "$share/night-crew/+/{{a/b}}/#") = .ok
      [.literal "$share".toList, .literal "night-crew".toList, .plus, .literal "\x7b\x7ba".toList,
        .literal "b\x7d\x7d".toList, .hash] := rfl
  rw [put] at parsed answered
  cases parsed.symm.trans read
  rw [Engine.sized_refusal?, if_neg (by decide)] at answered
  obtain ⟨topic, compiled, _⟩ := answered
  refine ⟨checked, topic, by rw [put]; exact compiled, ?_⟩
  cases compiled
  rfl

namespace Corridor

open Topic.Corridor

/-- A room that gets its name later, and a row of doors behind it. -/
def template (doors : Nat) : String := route "{{room}}".toList doors

def name (letters : Nat) : List Char := List.replicate letters 'a'

def bindings (letters : Nat) : Bindings := [("room", String.ofList (name letters))]

theorem name_bytes (letters : Nat) : Text.byteLength (name letters) = letters := by
  induction letters with
  | zero => rfl
  | succ letters ih =>
      rw [name, List.replicate_succ, Text.byteLength_cons, ← name, ih]
      exact Nat.add_comm 1 letters

theorem plain_name {letters : Nat} (some : 0 < letters) :
    PlainLevel (String.ofList (name letters)) := by
  obtain ⟨letters, rfl⟩ := Nat.exists_eq_add_of_lt some
  have first : ∃ rest, name (0 + letters + 1) = 'a' :: rest := ⟨_, List.replicate_succ⟩
  obtain ⟨rest, cut⟩ := first
  constructor
  · rw [Text.isBlank, String.toList_ofList, cut]
    rfl
  · rw [String.toList_ofList]
    intro c mem
    rw [List.eq_of_mem_replicate mem]
    decide
  · rw [String.toList_ofList, cut]
    simp

theorem parts_template (doors : Nat) : parts (template doors).toList =
    [.plain [], .placeholder "room".toList, .plain (slashed (List.replicate doors ['+']))] := by
  have plain : '{' ∉ slashed (List.replicate doors ['+']) := by
    rw [mem_slashed_iff (by decide)]
    rintro ⟨level, mem, brace⟩
    rw [List.eq_of_mem_replicate mem] at brace
    simp at brace
  rw [template, route, String.toList_ofList]
  generalize slashed (List.replicate doors ['+']) = row at plain ⊢
  have unopened : splitAtPair '{' row = none := by
    rw [splitAtPair_eq_none_iff]
    exact fun opens => plain (opens.subset (by simp))
  have last : firstPlaceholder? row = none := by
    rw [firstPlaceholder?, unopened]
    rfl
  exact (parts_scanned _).unique (.next rfl (.last last))

theorem fill_template (doors : Nat) : fill (template doors) = route sampleLevel doors := by
  rw [← String.toList_inj, fill_eq, parts_template, route, String.toList_ofList]
  simp [Part.put]

theorem substitute_template (doors letters : Nat) :
    substitute (template doors) (bindings letters) = route (name letters) doors := by
  have value : valueOf (bindings letters) "room".toList = name letters := String.toList_ofList
  have text : (route (name letters) doors).toList =
      name letters ++ slashed (List.replicate doors ['+']) := String.toList_ofList
  rw [← String.toList_inj, substitute_eq, parts_template, text]
  simp only [List.flatMap_cons, List.flatMap_nil, Part.put, value, List.nil_append,
    List.append_nil]

theorem fitting {doors letters : Nat} (some : 0 < letters) :
    Fitting (template doors) (bindings letters) := by
  have only {name : List Char} (mem : .placeholder name ∈ parts (template doors).toList) :
      name = "room".toList := by
    rw [parts_template] at mem
    simpa using mem
  constructor
  · rw [parts_template, wholeLevels_cons_iff]
    exact ⟨ends_nil, by simpa [Part.chars] using ends_slashed _, wholeLevels_plain _⟩
  · intro name mem
    rw [only mem]
    exact absent_of_all (by decide)
  · intro name' mem value found
    cases only mem
    cases found
    exact plain_name some

/-- The sample level leaves room for more doors than a long name does. -/
theorem refused_of_long_name {doors letters : Nat} (some : 0 < letters)
    (short : letters + 2 * doors ≤ 65535) (taken : 1072 * doors + 480 ≤ 10485760)
    (large : 10485760 < 32 * letters + 1072 * doors + 128) :
    checkTemplate (template doors) = .ok () ∧
      (substitute (template doors) (bindings letters)).utf8ByteSize ≤ maxLength ∧
      Compiled.compile (substitute (template doors) (bindings letters)) {} =
        .error (.matcher (route (name letters) doors) Engine.sizeReason) := by
  have bytes := name_bytes letters
  have fits : Text.byteLength (name letters) + 2 * doors ≤ maxLength := by
    rw [bytes]
    exact short
  have sample : PlainLevel (String.ofList sampleLevel) :=
    ⟨by decide, absent_of_all (by decide), by decide⟩
  have eleven : Text.byteLength sampleLevel = 11 := by decide
  refine ⟨?_, ?_, ?_⟩
  · rw [checkTemplate_ok_iff, ← Compiled.compile_ok_iff {}, fill_template]
    refine (compile_route sample ?_).1.mpr ?_
    · rw [eleven, maxLength]
      omega
    · omega
  · rw [substitute_template, route_size]
    exact fits
  · rw [substitute_template]
    refine (compile_route (plain_name some) fits).2 ?_
    rwa [bytes]

/-- With the sample level the engine takes a row of 9050 doors, and with 47000 letters in its
place it does not. -/
theorem long_name_is_refused :
    checkTemplate (template 9050) = .ok () ∧ Fitting (template 9050) (bindings 47000) ∧
      (substitute (template 9050) (bindings 47000)).utf8ByteSize ≤ maxLength ∧
      Compiled.compile (substitute (template 9050) (bindings 47000)) {} =
        .error (.matcher (route (name 47000) 9050) Engine.sizeReason) := by
  obtain ⟨checked, short, refused⟩ := @refused_of_long_name 9050 47000 (by decide) (by decide)
    (by decide) (by decide)
  exact ⟨checked, fitting (by decide), short, refused⟩

end Corridor

end MqttRouting.Attribute
