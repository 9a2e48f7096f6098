import Mathlib.Data.List.Basic
import Mathlib.Data.List.Nodup
import MqttRouting.Proofs.Session.Ledger
import MqttRouting.Topic.Engine.Sized

/-!
What callers hear. Whoever adds a declaration gets one answer at most. It is the outcome of
just that declaration, at its place among all commands that were handled; a call that is lost
was never handled.
-/

namespace MqttRouting

variable {ν : Type}

theorem Dispatcher.step_add_outcome [Topic.Engine] (d : Dispatcher ν) (declaration : Declaration ν)
    (answers : List (Request × Answer)) :
    ∃ result, (d.step (.add declaration)).1.outcome answers = some result := by
  rw [step]
  rcases d.add declaration with ⟨e | pass, next⟩
  · exact ⟨_, rfl⟩
  · exact ⟨_, rfl⟩

theorem Entry.call?_eq_some {entry : Entry ν} {caller : Nat} {declaration : Declaration ν} :
    entry.call? = some (caller, declaration) ↔ entry = ⟨.add declaration, some caller⟩ := by
  obtain ⟨command, caller'⟩ := entry
  cases command with
  | event e => simp [call?]
  | add declaration' =>
      cases caller' with
      | none => simp [call?]
      | some caller' => simp [call?, and_comm]

namespace Session

variable {s t : Session ν} {d : Dispatcher ν} {l : Ledger ν}

theorem told_eq_some {caller? : Option Nat} {outcome : Option CallResult} {caller : Nat}
    {result : CallResult} :
    told caller? outcome = some (caller, result) ↔
      caller? = some caller ∧ outcome = some result := by
  cases outcome with
  | none => simp [told]
  | some other => cases caller? <;> simp [told]

/-- The requests of the pass under way that are not answered yet. -/
def outstanding (s : Session ν) : List Request :=
  match s.stage with
  | .requesting pass => pass.current :: pass.rest
  | .ready | .draining | .ended => []

/-- The caller whose declaration is under way. -/
def caller? (s : Session ν) : Option Nat :=
  match s.stage with
  | .requesting pass => pass.caller
  | .ready | .draining | .ended => none

/-- What a caller hears, against the commands that were handled and the requests that were
answered, both in order. The report is that of the declaration itself, with the answers to its
own requests; what was lost was not handled. -/
def Truthful [Topic.Engine] (d : Dispatcher ν) (handled : List (Entry ν))
    (asked : List (Request × Answer)) (caller : Nat) (declaration : Declaration ν) : CallResult → Prop
  | .report r => ∃ before after p earlier answers later,
      handled = before ++ ⟨.add declaration, some caller⟩ :: after ∧
      ((d.run (before.map Entry.command)).2.step (.add declaration)).1 = .pass p ∧
      asked = earlier ++ answers ++ later ∧
      earlier.map Prod.fst = (d.run (before.map Entry.command)).1.flatMap Effect.requests ∧
      answers.map Prod.fst = p.requests ∧ r = .ofAnswers p.registered answers
  | .refused e => ∃ before after,
      handled = before ++ ⟨.add declaration, some caller⟩ :: after ∧
      ((d.run (before.map Entry.command)).2.step (.add declaration)).1 = .refused e
  | .lost _ => ∀ entry ∈ handled, entry.caller ≠ some caller

namespace Keeps

variable [Topic.Engine]

/-! Reading the books. -/

/-- Each effect is the one of a step behind the turns before it. -/
theorem cut (h : Keeps d l s) {front back : List (Turn ν)} {turn : Turn ν}
    (turns : l.turns = front ++ turn :: back) :
    (d.run ((front.map Turn.entry).map Entry.command)).1 = front.map Turn.effect ∧
      ((d.run ((front.map Turn.entry).map Entry.command)).2.step turn.entry.command).1 =
        turn.effect := by
  have effects := congrArg Prod.fst h.effects
  rw [Ledger.handled, turns, List.map_append, List.map_append, Dispatcher.run_append,
    List.map_append] at effects
  obtain ⟨before, behind⟩ := List.append_inj effects (by simp [Dispatcher.run_length])
  exact ⟨before, (List.cons.inj behind).1⟩

/-- The requests of settled turns are all answered. -/
theorem answered (h : Keeps d l s) {front : List (Turn ν)}
    (settled : ∀ turn ∈ front, turn ∈ l.settled) :
    (front.flatMap Turn.answers).map Prod.fst =
      (front.map Turn.effect).flatMap Effect.requests := by
  induction front with
  | nil => rfl
  | cons turn rest ih =>
      obtain ⟨first, others⟩ := List.forall_mem_cons.mp settled
      rw [List.flatMap_cons, List.map_append, h.complete turn first, ih others]
      rfl

theorem requests (h : Keeps d l s) :
    l.asked.map Prod.fst ++ s.outstanding =
      (d.run (l.handled.map Entry.command)).1.flatMap Effect.requests := by
  rw [h.effects, Ledger.asked, Ledger.turns, List.flatMap_append, List.map_append, List.map_append,
    h.answered fun _ mem => mem, List.flatMap_append, List.append_assoc]
  congr 1
  have current := h.current
  rw [outstanding]
  cases stage : s.stage with
  | requesting pass =>
      rw [stage] at current
      obtain ⟨entry, p, current, requests, _, _⟩ := current.underway
      simp [current, Effect.requests, requests]
  | ready | draining | ended => simp [current.idle (by simp [stage])]

theorem current_caller (h : Keeps d l s) :
    s.caller? = l.current.bind fun turn => turn.entry.caller := by
  have current := h.current
  rw [caller?]
  cases stage : s.stage with
  | requesting pass =>
      rw [stage] at current
      obtain ⟨entry, p, current, _, _, caller⟩ := current.underway
      rw [current]
      exact caller
  | ready | draining | ended => rw [current.idle (by simp [stage])]; rfl

theorem accepted_of_settled (h : Keeps d l s) {turn : Turn ν} (mem : turn ∈ l.settled) :
    turn.entry ∈ l.accepted := by
  rw [h.order, Ledger.handled, Ledger.turns]
  simp only [List.map_append, List.mem_append]
  exact .inl (.inl (.inl (List.mem_map_of_mem mem)))

/-- An entry with a caller is that of a call. -/
theorem call_of_caller (h : Keeps d l s) {entry : Entry ν} (mem : entry ∈ l.accepted)
    {caller : Nat} (called : entry.caller = some caller) :
    ∃ declaration, entry = ⟨.add declaration, some caller⟩ ∧ (caller, declaration) ∈ l.calls := by
  have own := h.callers entry mem
  rw [called] at own
  obtain ⟨⟨_, declaration⟩, call, rfl⟩ := Option.map_eq_some_iff.mp own.symm
  refine ⟨declaration, Entry.call?_eq_some.mp call, List.mem_append_left _ ?_⟩
  exact List.mem_filterMap.mpr ⟨entry, mem, call⟩

/-- Whoever called hears of it when the turn is settled. -/
theorem told_of_settled (h : Keeps d l s) {turn : Turn ν} (mem : turn ∈ l.settled) :
    turn.told.map Prod.fst = turn.entry.caller := by
  cases called : turn.entry.caller with
  | none => cases outcome : turn.effect.outcome turn.answers <;> simp [Turn.told, told, *]
  | some caller =>
      obtain ⟨declaration, own, _⟩ := h.call_of_caller (h.accepted_of_settled mem) called
      obtain ⟨front, back, settled⟩ := List.append_of_mem mem
      have turns : l.turns = front ++ turn :: (back ++ l.current.toList) := by
        rw [Ledger.turns, settled]
        simp
      have effect := (h.cut turns).2
      rw [own] at effect
      obtain ⟨result, outcome⟩ := Dispatcher.step_add_outcome
        (d.run ((front.map Turn.entry).map Entry.command)).2 declaration turn.answers
      rw [effect] at outcome
      simp [Turn.told, told, called, outcome]

/-- Every call is in the books once. -/
theorem calls_callers (h : Keeps d l s) :
    l.calls.map Prod.fst = l.handled.filterMap Entry.caller ++ (l.lost.filterMap Entry.caller ++
      (s.commands.filterMap Entry.caller ++ l.late.map Prod.fst)) := by
  have callers : (l.accepted.filterMap Entry.call?).map Prod.fst =
      l.accepted.filterMap Entry.caller := by
    rw [List.map_filterMap]
    exact List.filterMap_congr fun entry mem => (h.callers entry mem).symm
  rw [Ledger.calls, List.map_append, callers, h.order]
  simp

theorem results_callers (h : Keeps d l s) :
    s.results.map Prod.fst = (l.settled.map Turn.entry).filterMap Entry.caller ++
      (l.lost.filterMap Entry.caller ++ l.late.map Prod.fst) := by
  have settled : (l.settled.filterMap Turn.told).map Prod.fst =
      (l.settled.map Turn.entry).filterMap Entry.caller := by
    rw [List.map_filterMap, List.filterMap_map]
    exact List.filterMap_congr fun turn mem => h.told_of_settled mem
  have lost (entry : Entry ν) :
      (told entry.caller (some (.lost .responseLost))).map Prod.fst = entry.caller := by
    cases called : entry.caller <;> rfl
  rw [h.results, Ledger.results, List.map_append, List.map_append, settled, List.map_filterMap,
    List.append_assoc]
  simp [lost, Function.comp_def]

/-- Every call is answered, or under way, or it waits. -/
theorem calls_perm (h : Keeps d l s) :
    (l.calls.map Prod.fst).Perm (s.results.map Prod.fst ++ s.caller?.toList ++
      s.commands.filterMap Entry.caller) := by
  have handled : l.handled.filterMap Entry.caller =
      (l.settled.map Turn.entry).filterMap Entry.caller ++ s.caller?.toList := by
    rw [Ledger.handled, Ledger.turns, List.map_append, List.filterMap_append, h.current_caller]
    cases l.current with
    | none => rfl
    | some turn => cases called : turn.entry.caller <;> simp [called]
  rw [h.calls_callers, h.results_callers, handled, List.perm_iff_count]
  intro caller
  simp only [List.count_append]
  omega

/-- A caller that lost its call is not among those of handled commands. -/
theorem lost_unhandled (h : Keeps d l s) (distinct : (l.calls.map Prod.fst).Nodup) {caller : Nat}
    (lost : caller ∈ l.lost.filterMap Entry.caller ∨ caller ∈ l.late.map Prod.fst) :
    ∀ entry ∈ l.handled, entry.caller ≠ some caller := by
  intro entry mem own
  rw [h.calls_callers] at distinct
  apply (List.nodup_append.mp distinct).2.2 caller (List.mem_filterMap.mpr ⟨entry, mem, own⟩)
    caller ?_ rfl
  simp only [List.mem_append]
  exact lost.imp_right .inr

theorem truthful_of_settled (h : Keeps d l s) {turn : Turn ν} (mem : turn ∈ l.settled)
    {caller : Nat} {declaration : Declaration ν} {result : CallResult}
    (own : turn.entry = ⟨.add declaration, some caller⟩)
    (outcome : turn.effect.outcome turn.answers = some result) :
    Truthful d l.handled l.asked caller declaration result := by
  obtain ⟨front, back, settled⟩ := List.append_of_mem mem
  have turns : l.turns = front ++ turn :: (back ++ l.current.toList) := by
    rw [Ledger.turns, settled]
    simp
  obtain ⟨before, effect⟩ := h.cut turns
  have handled : l.handled = front.map Turn.entry ++ ⟨.add declaration, some caller⟩ ::
      (back ++ l.current.toList).map Turn.entry := by
    rw [Ledger.handled, turns, List.map_append, List.map_cons, own]
  rw [own] at effect
  cases made : turn.effect with
  | pass p =>
      rw [made] at effect outcome
      cases outcome
      have complete := h.complete turn mem
      rw [Turn.Complete, made] at complete
      refine ⟨_, _, p, front.flatMap Turn.answers, turn.answers,
        (back ++ l.current.toList).flatMap Turn.answers, handled, effect, ?_, ?_, complete, rfl⟩
      · rw [Ledger.asked, turns]
        simp
      · rw [before]
        apply h.answered
        intro earlier among
        rw [settled]
        exact List.mem_append_left _ among
  | refused e =>
      rw [made] at effect outcome
      cases outcome
      exact ⟨_, _, handled, effect⟩
  | call c =>
      rw [made] at outcome
      cases outcome
  | nothing =>
      rw [made] at outcome
      cases outcome

theorem truthful (h : Keeps d l s) (distinct : (l.calls.map Prod.fst).Nodup) {caller : Nat}
    {declaration : Declaration ν} {result : CallResult} (called : (caller, declaration) ∈ l.calls)
    (heard : (caller, result) ∈ s.results) :
    Truthful d l.handled l.asked caller declaration result := by
  rw [h.results, Ledger.results, List.mem_append, List.mem_append] at heard
  obtain (heard | heard) | heard := heard
  · obtain ⟨turn, mem, told⟩ := List.mem_filterMap.mp heard
    obtain ⟨own, outcome⟩ := told_eq_some.mp told
    obtain ⟨declaration', entry, called'⟩ := h.call_of_caller (h.accepted_of_settled mem) own
    cases List.inj_on_of_nodup_map distinct called called' rfl
    exact h.truthful_of_settled mem entry outcome
  · obtain ⟨entry, mem, told⟩ := List.mem_filterMap.mp heard
    obtain ⟨own, outcome⟩ := told_eq_some.mp told
    cases outcome
    exact h.lost_unhandled distinct (.inl (List.mem_filterMap.mpr ⟨entry, mem, own⟩))
  · obtain ⟨call, mem, told⟩ := List.mem_map.mp heard
    cases told
    exact h.lost_unhandled distinct (.inr (List.mem_map_of_mem mem))

end Keeps

theorem call?_uncalled {entry : Entry ν} (uncalled : entry.caller = none) :
    entry.call? = none := by
  rw [Entry.call?, uncalled]
  cases entry.command <;> rfl

/-- A session whose worker is ready and owes no answer begins with empty books. -/
theorem keeps_start [Topic.Engine] (ready : s.stage = .ready) (unanswered : s.results = [])
    (uncalled : ∀ entry ∈ s.commands, entry.caller = none) :
    Keeps s.dispatcher { accepted := s.commands } s where
  order := rfl
  effects := rfl
  complete := by
    intro turn mem
    cases mem
  current := by
    rw [ready]
    exact .nothing nofun
  results := unanswered
  emptied ended := by
    rw [ready] at ended
    cases ended
  intact _ := ⟨rfl, rfl⟩
  callers := by
    intro entry mem
    rw [call?_uncalled (uncalled entry mem)]
    exact uncalled entry mem

/-- Whatever happens, in whatever order: the worker handles a prefix of what the queue has
accepted, each command once and in turn, and what the dispatcher and the client have come to is
due to just these. Every call is answered once, or is under way, or waits. With a name for each
call, whatever a caller hears of its declaration is true. -/
theorem calls_answered_in_order [Topic.Engine] {moves : List (Move ν)} (ready : s.stage = .ready)
    (unanswered : s.results = []) (uncalled : ∀ entry ∈ s.commands, entry.caller = none)
    (moved : s.run? moves = some t) :
    let accepted := s.commands ++ s.along accepts moves
    let handled := s.along takes moves
    let asked := s.along asks moves
    let calls := moves.filterMap Move.call?
    handled <+: accepted ∧
    t.dispatcher = (s.dispatcher.run (handled.map Entry.command)).2 ∧
    asked.map Prod.fst ++ t.outstanding =
      (s.dispatcher.run (handled.map Entry.command)).1.flatMap Effect.requests ∧
    (calls.map Prod.fst).Perm
      (t.results.map Prod.fst ++ t.caller?.toList ++ t.commands.filterMap Entry.caller) ∧
    ((calls.map Prod.fst).Nodup → ∀ caller declaration result,
      (caller, declaration) ∈ calls → (caller, result) ∈ t.results →
        Truthful s.dispatcher handled asked caller declaration result) := by
  obtain ⟨l, kept, grows⟩ := (keeps_start ready unanswered uncalled).run moved
  have accepted : l.accepted = s.commands ++ s.along accepts moves := grows.accepted
  have handled : l.handled = s.along takes moves := grows.handled
  have asked : l.asked = s.along asks moves := grows.asked
  have calls : l.calls = moves.filterMap Move.call? := by
    have none : s.commands.filterMap Entry.call? = [] := by
      rw [List.filterMap_eq_nil_iff]
      exact fun entry mem => call?_uncalled (uncalled entry mem)
    rw [grows.calls, Ledger.calls, none]
    rfl
  rw [← accepted, ← handled, ← asked, ← calls]
  refine ⟨?_, ?_, kept.requests, kept.calls_perm, ?_⟩
  · rw [kept.order, List.append_assoc]
    exact List.prefix_append ..
  · rw [kept.effects]
  · intro distinct caller declaration result called heard
    exact kept.truthful distinct called heard

/-- Three callers around a shutdown: the first has its report, the second loses its call with
the worker, the third comes too late. Of the three only the first was handled. -/
theorem answers_around_a_shutdown :
    ∃ (s t : Session Unit) (door : Declaration Unit) (moves : List (Move Unit)) (r : Report),
      s = { limits := {}, dispatcher := { settings := {} }, handles := 2,
            commands := [⟨.event (.connected false), none⟩] } ∧
      door = { topics := ["door"], handler := .idle, owner := "doors" } ∧
      moves = [.add 1 door, .takeCommand, .takeCommand, .add 2 door, .shutdown, .handOver, .stop,
        .add 3 door] ∧
      s.run? moves = some t ∧ r = ⟨1, ["door"], []⟩ ∧
      t.results = [(1, .report r), (2, .lost .responseLost), (3, .lost .channelClosed)] ∧
      ∀ caller result, (caller, result) ∈ t.results →
        Truthful s.dispatcher (s.along takes moves) (s.along asks moves) caller door result := by
  obtain ⟨s, start⟩ : ∃ s : Session Unit,
      s = { limits := {}, dispatcher := { settings := {} }, handles := 2,
            commands := [⟨.event (.connected false), none⟩] } := ⟨_, rfl⟩
  obtain ⟨door, doors⟩ : ∃ door : Declaration Unit,
      door = { topics := ["door"], handler := .idle, owner := "doors" } := ⟨_, rfl⟩
  obtain ⟨moves, schedule⟩ : ∃ moves : List (Move Unit),
      moves = [.add 1 door, .takeCommand, .takeCommand, .add 2 door, .shutdown, .handOver, .stop,
        .add 3 door] := ⟨_, rfl⟩
  obtain ⟨t, r, moved, report, results⟩ : ∃ t r, s.run? moves = some t ∧ r = ⟨1, ["door"], []⟩ ∧
      t.results = [(1, .report r), (2, .lost .responseLost), (3, .lost .channelClosed)] := by
    rw [start, schedule, doors]
    exact ⟨_, _, rfl, by decide, rfl⟩
  have ready : s.stage = .ready := by rw [start]
  have unanswered : s.results = [] := by rw [start]
  have uncalled : ∀ entry ∈ s.commands, entry.caller = none := by simp [start]
  obtain ⟨_, _, _, _, truthful⟩ := calls_answered_in_order ready unanswered uncalled moved
  have calls : moves.filterMap Move.call? = [(1, door), (2, door), (3, door)] := by
    rw [schedule]
    rfl
  rw [calls] at truthful
  refine ⟨s, t, door, moves, r, start, doors, schedule, moved, report, results, ?_⟩
  intro caller result heard
  refine truthful (by simp) caller door result ?_ heard
  rw [results] at heard
  simp only [List.mem_cons, Prod.mk.injEq, List.not_mem_nil, or_false] at heard
  rcases heard with ⟨rfl, _⟩ | ⟨rfl, _⟩ | ⟨rfl, _⟩ <;> simp

end Session
end MqttRouting
