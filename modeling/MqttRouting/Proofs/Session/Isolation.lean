import MqttRouting.Proofs.Session.Alike
import MqttRouting.Topic.Engine.Sized

/-!
What a message leaves behind. Its handler may end, fail, crash or wait for ever, or there may be
none: as long as the worker stays in its loop, that makes no difference to anything else. A run
is followed move by move by one without the message, and by one in which its handler does
something else; only crashes are collected where they happen.
-/

namespace MqttRouting.Session

variable {ν : Type} {s s' t : Session ν}

/-! Runs side by side. -/

/-- The moves that do not collect a crash. -/
def uncollected (moves : List (Move ν)) : List (Move ν) :=
  moves.filter fun m => match m with
    | .collect => false
    | _ => true

theorem uncollected_append (front back : List (Move ν)) :
    uncollected (front ++ back) = uncollected front ++ uncollected back := List.filter_append ..

/-- A run with what can be told from it: the requests with their answers, and the handlers with
their arguments. -/
structure Shows [Topic.Engine] (s : Session ν) (moves : List (Move ν)) (t : Session ν)
    (asked : List (Request × Answer)) (invoked : List (Declaration ν × Args)) : Prop where
  moved : s.run? moves = some t
  asks : s.along asks moves = asked
  invokes : s.along invokes moves = invoked

theorem Shows.append [Topic.Engine] {u : Session ν} {front back : List (Move ν)}
    {asked asked' : List (Request × Answer)} {invoked invoked' : List (Declaration ν × Args)}
    (h : Shows s front t asked invoked) (h' : Shows t back u asked' invoked') :
    Shows s (front ++ back) u (asked ++ asked') (invoked ++ invoked') := by
  constructor
  · rw [run?_append, h.moved]
    exact h'.moved
  · rw [along_append _ h.moved, h.asks, h'.asks]
  · rw [along_append _ h.moved, h.invokes, h'.invokes]

theorem Shows.nil [Topic.Engine] (s : Session ν) : Shows s [] s [] [] := ⟨rfl, rfl, rfl⟩

theorem Shows.single [Topic.Engine] {m : Move ν} (moved : s.move? m = some t) :
    Shows s [m] t (s.asks m) (s.invokes m) := by
  constructor
  · rw [run?, moved]
    rfl
  · rw [along_cons _ moved]
    exact List.append_nil _
  · rw [along_cons _ moved]
    exact List.append_nil _

theorem invokes_eq_nil [Topic.Engine] {m : Move ν} (other : m ≠ .takeCommand) :
    s.invokes m = [] := by
  cases m <;> first | rfl | exact absurd rfl other

theorem takes_eq_nil {m : Move ν} (other : m ≠ .takeCommand) : s.takes m = [] := by
  cases m <;> first | rfl | exact absurd rfl other

theorem uncollected_cons {m : Move ν} (other : m ≠ .collect) (rest : List (Move ν)) :
    uncollected (m :: rest) = m :: uncollected rest := by
  cases m <;> first | rfl | exact absurd rfl other

/-- Where a run puts something into the queue, it leaves that many places free. -/
def Spares [Topic.Engine] (n : Nat) (s : Session ν) : List (Move ν) → Prop
  | [] => True
  | m :: rest =>
    (s.accepts m ≠ [] → s.commands.length + n < s.limits.commands) ∧
      ∀ t, s.move? m = some t → t.Spares n rest

theorem spares_zero [Topic.Engine] {moves : List (Move ν)} (moved : s.run? moves = some t) :
    s.Spares 0 moves := by
  induction moves generalizing s with
  | nil => exact trivial
  | cons m rest ih =>
      obtain ⟨next, first, moved⟩ := Option.bind_eq_some_iff.mp moved
      refine ⟨fun puts => ?_, fun other same => ?_⟩
      · exact of_decide_eq_true (move_room first puts)
      · rw [first] at same
        cases same
        exact ih moved

/-- Two sessions with different gaps in their queues, behind the same front. -/
structure Differs (front gap gap' : List (Entry ν)) (s t : Session ν) : Prop where
  alike : Alike s t
  queues : ∃ back, s.commands = front ++ gap ++ back ∧ t.commands = front ++ gap' ++ back

namespace Differs

variable {front gap gap' : List (Entry ν)} {s s' t : Session ν}

theorem symm (h : Differs front gap gap' s s') : Differs front gap' gap s' s := by
  obtain ⟨back, queue, queue'⟩ := h.queues
  exact ⟨h.alike.symm, back, queue', queue⟩

theorem room (h : Differs front gap gap' s s') {n : Nat} (few : gap'.length ≤ gap.length + n)
    (room : s.commands.length + n < s.limits.commands) : s'.hasCommandRoom = true := by
  obtain ⟨back, queue, queue'⟩ := h.queues
  rw [hasCommandRoom, h.alike.limits, decide_eq_true_eq]
  simp only [queue, queue', List.length_append] at room ⊢
  omega

/-- What is taken before the gaps waits in both. -/
theorem head (h : Differs front gap gap' s s') {entry : Entry ν} {others : List (Entry ν)}
    (waiting : s.commands = entry :: others) (early : gap ++ gap' = [] ∨ front ≠ []) :
    ∃ rest back, s.commands = entry :: (rest ++ gap ++ back) ∧
      s'.commands = entry :: (rest ++ gap' ++ back) ∧
      (gap ++ gap' = [] ∨ front = entry :: rest) := by
  obtain ⟨back, queue, queue'⟩ := h.queues
  rw [waiting] at queue
  cases front with
  | nil =>
      have none := early.resolve_right fun some => some rfl
      obtain ⟨rfl, rfl⟩ := List.append_eq_nil_iff.mp none
      rw [waiting, queue']
      exact ⟨[], _, rfl, queue.symm, .inl rfl⟩
  | cons e rest =>
      cases queue
      exact ⟨rest, back, waiting, queue', .inr rfl⟩

variable [Topic.Engine]

theorem takeCommand (h : Differs front gap gap' s s') (moved : s.takeCommand? = some t)
    (inside : t.InLoop) (early : gap ++ gap' = [] ∨ front ≠ []) :
    ∃ rest t', Shows s' [.takeCommand] t' [] (s.invokes .takeCommand) ∧
      Differs rest gap gap' t t' ∧ (gap ++ gap' = [] ∨ front = s.takes .takeCommand ++ rest) := by
  obtain ⟨entry, _, _, waiting, _⟩ := takeCommand_inv moved
  obtain ⟨rest, back, queue, queue', first⟩ := h.head waiting early
  obtain ⟨t', moved', alike, invokes⟩ := h.alike.takeCommand moved queue queue'
  have left := move_queue (m := .takeCommand) moved inside
  have left' := move_queue (m := .takeCommand) moved' (alike.inLoop.mpr inside)
  rw [takes, queue] at left ⊢
  rw [takes, queue'] at left'
  refine ⟨rest, t', ?_, ⟨alike, back, ?_, ?_⟩, first⟩
  · rw [← invokes]
    exact .single (m := .takeCommand) moved'
  · simpa [accepts] using left.symm
  · simpa [accepts] using left'.symm

/-- As long as nothing is taken out of the gaps, a move can be made in both sessions. -/
theorem move (h : Differs front gap gap' s s') {m : Move ν} (moved : s.move? m = some t)
    (inside : t.InLoop) (room : s.accepts m ≠ [] → s'.hasCommandRoom = true)
    (early : gap ++ gap' = [] ∨ (s.takes m).length ≤ front.length) :
    ∃ rest t', Shows s' (uncollected [m]) t' (s.asks m) (s.invokes m) ∧
      Differs rest gap gap' t t' ∧ (gap ++ gap' = [] ∨ front = s.takes m ++ rest) := by
  by_cases taking : m = .takeCommand
  · subst taking
    refine h.takeCommand moved inside (early.imp_right ?_)
    rintro few rfl
    obtain ⟨_, _, _, waiting, _⟩ := takeCommand_inv moved
    simp [takes, waiting] at few
  · obtain ⟨back, queue, queue'⟩ := h.queues
    have left := move_queue moved inside
    rw [takes_eq_nil taking] at left ⊢
    rw [invokes_eq_nil taking]
    by_cases collecting : m = .collect
    · subst collecting
      obtain ⟨_, crashes, activity, rfl⟩ := collect_inv moved
      refine ⟨front, s', .nil s', ⟨?_, back, queue, queue'⟩, .inr rfl⟩
      exact .trans (.symm (.intro s s.commands s.pool crashes activity)) h.alike
    · obtain ⟨t', moved', alike⟩ := h.alike.move moved inside taking collecting room
      have left' := move_queue moved' (alike.inLoop.mpr inside)
      have shows := Shows.single moved'
      rw [invokes_eq_nil taking, h.alike.asks] at shows
      rw [takes_eq_nil taking, h.alike.accepts] at left'
      rw [uncollected_cons collecting]
      refine ⟨front, t', shows, ⟨alike, back ++ s.accepts m, ?_, ?_⟩, .inr rfl⟩
      · rw [← List.append_assoc, ← queue]
        exact left.symm
      · rw [← List.append_assoc, ← queue']
        exact left'.symm

/-- A run that takes nothing out of the gaps is one of the other session as well, if it spares
what the other one has more in its queue. -/
theorem run (h : Differs front gap gap' s s') {n : Nat} (few : gap'.length ≤ gap.length + n)
    {moves : List (Move ν)} (moved : s.run? moves = some t) (inside : t.InLoop)
    (spares : s.Spares n moves)
    (early : gap ++ gap' = [] ∨ (s.along takes moves).length ≤ front.length) :
    ∃ rest t', Shows s' (uncollected moves) t' (s.along asks moves) (s.along invokes moves) ∧
      Differs rest gap gap' t t' ∧ (gap ++ gap' = [] ∨ front = s.along takes moves ++ rest) := by
  -- Each command that is taken makes the front shorter; what is put into the queue comes behind.
  induction moves generalizing s s' front with
  | nil =>
      cases moved
      exact ⟨front, s', .nil s', h, .inr rfl⟩
  | cons m others ih =>
      obtain ⟨u, first, moved⟩ := Option.bind_eq_some_iff.mp moved
      rw [along_cons _ first] at early
      rw [along_cons _ first, along_cons _ first, along_cons _ first]
      rw [List.length_append] at early
      have inside' := ((run_inLoop moved).mp inside).1
      obtain ⟨between, u', shows, differs, passed⟩ := h.move first inside'
        (fun puts => h.room few (spares.1 puts))
        (early.imp_right fun few => Nat.le_trans (Nat.le_add_right ..) few)
      have early' : gap ++ gap' = [] ∨ (u.along takes others).length ≤ between.length := by
        obtain none | passed := passed
        · exact .inl none
        · refine early.imp_right fun few => ?_
          rw [passed, List.length_append] at few
          exact Nat.le_of_add_le_add_left few
      obtain ⟨rest, t', shows', differs, passed'⟩ := ih differs moved (spares.2 u first) early'
      refine ⟨rest, t', ?_, differs, ?_⟩
      · have moves : uncollected (m :: others) = uncollected [m] ++ uncollected others :=
          uncollected_append [m] others
        rw [moves]
        exact shows.append shows'
      · obtain none | passed := passed
        · exact .inl none
        · refine passed'.imp_right fun passed' => ?_
          rw [passed, passed', List.append_assoc]

/-- Up to the turn of what one of them lacks, the sessions are led side by side. -/
theorem turn {entry : Entry ν} (h : Differs front [entry] [] s s') {moves : List (Move ν)}
    (moved : s.run? moves = some t) (inside : t.InLoop)
    (count : (s.along takes moves).length = front.length) :
    ∃ back t', s.along takes moves = front ∧ t.commands = entry :: back ∧ t'.commands = back ∧
      Alike t t' ∧ Shows s' (uncollected moves) t' (s.along asks moves) (s.along invokes moves) := by
  obtain ⟨rest, t', shows, ⟨alike, back, queue, queue'⟩, passed⟩ :=
    h.run (Nat.zero_le _) moved inside (spares_zero moved) (.inr (Nat.le_of_eq count))
  have passed := passed.resolve_left (List.cons_ne_nil _ _)
  have none : rest = [] := by
    rw [passed, List.length_append] at count
    exact List.length_eq_zero_iff.mp (Nat.left_eq_add.mp count)
  subst none
  rw [List.append_nil] at passed
  exact ⟨back, t', passed.symm, queue, queue', alike, shows⟩

end Differs

section

variable [Topic.Engine]

/-- Every run of the one session, as long as the worker is in its loop, is one of the other as
well, with the same requests and the same handlers. -/
def Follows (s t : Session ν) : Prop :=
  ∀ moves s', s.run? moves = some s' → s'.InLoop → ∃ t', Agree s' t' ∧
    Shows t (uncollected moves) t' (s.along asks moves) (s.along invokes moves)

theorem Agree.follows (h : Agree s t) : Follows s t := by
  intro moves s' moved inside
  have differs : Differs [] [] [] s t := ⟨h.alike, s.commands, rfl, h.commands⟩
  obtain ⟨_, t', shows, ⟨alike, _, queue, queue'⟩, _⟩ :=
    differs.run (Nat.zero_le _) moved inside (spares_zero moved) (.inl rfl)
  exact ⟨t', ⟨alike, queue'.trans queue.symm⟩, shows⟩

/-- A run takes no more than `n` commands, or it can be cut where it takes the next one. -/
theorem run_turn {moves : List (Move ν)} (n : Nat) (moved : s.run? moves = some t) :
    (s.along takes moves).length ≤ n ∨
      ∃ first u v later, moves = first ++ .takeCommand :: later ∧ s.run? first = some u ∧
        (s.along takes first).length = n ∧ u.takeCommand? = some v ∧ v.run? later = some t := by
  induction moves generalizing s n with
  | nil => exact .inl (Nat.zero_le n)
  | cons m rest ih =>
      obtain ⟨next, begun, goesOn⟩ := Option.bind_eq_some_iff.mp moved
      by_cases now : m = .takeCommand ∧ n = 0
      · obtain ⟨rfl, rfl⟩ := now
        exact .inr ⟨[], s, next, rest, rfl, rfl, rfl, begun, goesOn⟩
      · have few : (s.takes m).length ≤ n := by
          by_cases taking : m = .takeCommand
          · subst taking
            have one : (s.takes .takeCommand).length ≤ 1 := by
              rw [takes]
              cases s.commands.head? <;> simp
            have some : n ≠ 0 := fun none => now ⟨rfl, none⟩
            omega
          · rw [takes_eq_nil taking]
            exact Nat.zero_le n
        obtain fewer | ⟨first, u, v, later, rfl, before, count, taken, after⟩ :=
          ih (n - (s.takes m).length) goesOn
        · refine .inl ?_
          rw [along_cons _ begun, List.length_append]
          omega
        · refine .inr ⟨m :: first, u, v, later, rfl, ?_, ?_, taken, after⟩
          · rw [run?, begun]
            exact before
          · rw [along_cons _ begun, List.length_append]
            omega

/-- A run that takes a message, cut at its turn. The handlers that were started before it and
behind it stand at both sides of its own, if it has one. -/
structure Turns (m : Message) (front : List (Entry ν)) (s : Session ν) (first : List (Move ν))
    (u v : Session ν) (later : List (Move ν)) (t : Session ν) : Prop where
  before : s.run? first = some u
  ahead : s.along takes first = front
  taken : u.takeCommand? = some v
  after : v.run? later = some t
  invokes : s.along invokes (first ++ .takeCommand :: later) =
    s.along invokes first ++ invocation u.dispatcher (.event (.message m)) ++ v.along invokes later

/-- While the worker is in its loop, nothing but its own handler can be told from a message. As
long as it waits, a run is one without it as well, and the other way round where it does not
take the last place in the queue. At its turn it is taken, whatever its handler does, and from
there on the runs are those of a session in which it has not been. So a run that has taken it is
one without it, where no handler but its own is missing, and goes on in the same way with any
other handler in its place. -/
theorem message_is_isolated {m : Message} {front back : List (Entry ν)} {moves : List (Move ν)}
    (waits : s.commands = front ++ ⟨.event (.message m), none⟩ :: back)
    (moved : s.run? moves = some t) (inside : t.InLoop) :
    let without : Session ν := { s with commands := front ++ back }
    (∃ rest t', Differs rest [⟨.event (.message m), none⟩] [] t t' ∧
        Shows without (uncollected moves) t' (s.along asks moves) (s.along invokes moves) ∧
        (∀ more u', t'.run? more = some u' → u'.InLoop → t'.Spares 1 more →
          (t'.along takes more).length ≤ rest.length → ∃ rest' u,
            Differs rest' [⟨.event (.message m), none⟩] [] u u' ∧
            Shows t (uncollected more) u (t'.along asks more) (t'.along invokes more)) ∧
        (rest = [] → t.stage = .ready →
          ∀ alter, ∃ v, t.takeAltered? alter = some v ∧ Follows v t' ∧ Follows t' v)) ∨
      ∃ first u v later, moves = first ++ .takeCommand :: later ∧
        Turns m front s first u v later t ∧
        (∃ t', Agree t t' ∧ Shows without (uncollected (first ++ later)) t' (s.along asks moves)
          (s.along invokes first ++ v.along invokes later)) ∧
        ∀ alter, ∃ v', u.takeAltered? alter = some v' ∧ Follows v v' ∧ Follows v' v := by
  intro without
  have differs : Differs front [⟨.event (.message m), none⟩] [] s without := by
    refine ⟨.intro s (front ++ back) s.pool s.crashes s.activity, back, ?_, ?_⟩
    · rw [waits, List.append_assoc]
      rfl
    · rw [List.append_nil]
  obtain few | ⟨first, u, v, later, rfl, before, count, taken, after⟩ :=
    run_turn front.length moved
  · obtain ⟨rest, t', shows, differs, _⟩ :=
      differs.run (Nat.zero_le _) moved inside (spares_zero moved) (.inr few)
    refine .inl ⟨rest, t', differs, shows, ?_, ?_⟩
    · intro more u' moved' inside' spares early
      obtain ⟨rest', u, shows', differs', _⟩ :=
        differs.symm.run (Nat.le_refl 1) moved' inside' spares (.inr early)
      exact ⟨rest', u, differs'.symm, shows'⟩
    · intro none ready alter
      subst none
      obtain ⟨back', queue, queue'⟩ := differs.queues
      obtain ⟨v, taken, agree⟩ := takeAltered?_message alter ready queue differs.alike queue'
      exact ⟨v, taken, agree.follows, agree.symm.follows⟩
  · have insideV := ((run_inLoop after).mp inside).1
    have insideU := ((move_inLoop (m := .takeCommand) taken).mp insideV).1
    obtain ⟨_, u', ahead, queue, queue', alike, shows⟩ := differs.turn before insideU count
    obtain ⟨_, _, ready, _, _⟩ := takeCommand_inv taken
    have turn (alter : Task ν → Task ν) := takeAltered?_message alter ready queue alike queue'
    have agree : Agree v u' := by
      obtain ⟨_, same, agree⟩ := turn id
      rw [takeAltered?_id, taken] at same
      cases same
      exact agree
    refine .inr ⟨first, u, v, later, rfl, ⟨before, ahead, taken, after, ?_⟩, ?_, ?_⟩
    · rw [along_append _ before, along_cons (m := .takeCommand) _ taken, Session.invokes, queue,
        List.append_assoc]
      simp
    · obtain ⟨t', agree', shows'⟩ := agree.follows later t after inside
      refine ⟨t', agree', ?_⟩
      rw [uncollected_append, along_append _ before, along_cons (m := .takeCommand) _ taken]
      exact shows.append shows'
    · intro alter
      obtain ⟨v', taken', agree'⟩ := turn alter
      have same := agree.trans agree'.symm
      exact ⟨v', taken', same.follows, same.symm.follows⟩

end

/-- The handler of a door crashes, and a bell rings behind it. It rings as well where nobody is at
the door, and where the handler does its work. -/
theorem bell_rings_behind_a_crash :
    ∃ (start s t : Session Unit) (door bell : Declaration Unit) (knock ring : Message),
      door = { topics := ["door"], handler := ⟨fun _ => .crashed⟩, owner := "doors" } ∧
      bell = { topics := ["bell"], handler := .idle, owner := "bells" } ∧
      knock = .plain "door" [] ∧ ring = .plain "bell" [] ∧
      start = { limits := {}, dispatcher := { settings := {} }, commands := [
        ⟨.add door, none⟩, ⟨.add bell, none⟩, ⟨.event (.connected false), none⟩,
        ⟨.event (.message knock), none⟩, ⟨.event (.message ring), none⟩] } ∧
      start.run? [.takeCommand, .takeCommand, .takeCommand, .handOver, .handOver] = some s ∧
      s.run? [.takeCommand, .collect, .takeCommand] = some t ∧
      (s.along invokes [.takeCommand, .collect, .takeCommand]).map (fun i => i.1.owner) =
        ["doors", "bells"] ∧
      (∃ asked invoked t', Shows { s with commands := [⟨.event (.message ring), none⟩] }
        [.takeCommand] t' asked invoked ∧ invoked.map (fun i => i.1.owner) = ["bells"] ∧
        Agree t t') ∧
      ∃ v t', s.takeAltered? (fun _ => .done) = some v ∧ v.run? [.takeCommand] = some t' ∧
        Agree t t' := by
  obtain ⟨door, doors⟩ : ∃ door : Declaration Unit,
      door = { topics := ["door"], handler := ⟨fun _ => .crashed⟩, owner := "doors" } := ⟨_, rfl⟩
  obtain ⟨bell, bells⟩ : ∃ bell : Declaration Unit,
      bell = { topics := ["bell"], handler := .idle, owner := "bells" } := ⟨_, rfl⟩
  obtain ⟨knock, knocks⟩ : ∃ knock : Message, knock = .plain "door" [] := ⟨_, rfl⟩
  obtain ⟨ring, rings⟩ : ∃ ring : Message, ring = .plain "bell" [] := ⟨_, rfl⟩
  obtain ⟨start, begins⟩ : ∃ start : Session Unit,
      start = { limits := {}, dispatcher := { settings := {} }, commands := [
        ⟨.add door, none⟩, ⟨.add bell, none⟩, ⟨.event (.connected false), none⟩,
        ⟨.event (.message knock), none⟩, ⟨.event (.message ring), none⟩] } := ⟨_, rfl⟩
  obtain ⟨s, t, setUp, moved, inside, owners, own, waits, done⟩ : ∃ s t,
      start.run? [.takeCommand, .takeCommand, .takeCommand, .handOver, .handOver] = some s ∧
      s.run? [.takeCommand, .collect, .takeCommand] = some t ∧ t.InLoop ∧
      (s.along invokes [.takeCommand, .collect, .takeCommand]).map (fun i => i.1.owner) =
        ["doors", "bells"] ∧
      (invocation s.dispatcher (.event (.message knock))).map (fun i => i.1.owner) = ["doors"] ∧
      s.commands = [] ++ ⟨.event (.message knock), none⟩ :: [⟨.event (.message ring), none⟩] ∧
      t.commands = [] := by
    rw [begins, doors, bells, knocks, rings]
    exact ⟨_, _, rfl, rfl, .inl rfl, by decide, by decide, rfl, rfl⟩
  refine ⟨start, s, t, door, bell, knock, ring, doors, bells, knocks, rings, begins, setUp, moved,
    owners, ?_⟩
  obtain ⟨_, _, ⟨_, _, queue, _⟩, _⟩ |
    ⟨first, u, v, later, cut, turns, ⟨t', agree, shows⟩, altered⟩ :=
    message_is_isolated waits moved inside
  · rw [done] at queue
    exact absurd queue.symm (by simp)
  · have none : first = [] := by
      cases first with
      | nil => rfl
      | cons x others =>
          obtain ⟨rfl, _⟩ := List.cons.inj cut
          obtain ⟨next, taken, _⟩ := Option.bind_eq_some_iff.mp turns.before
          have ahead := turns.ahead
          rw [along_cons (m := .takeCommand) _ taken, takes, waits] at ahead
          cases ahead
    subst none
    cases cut
    cases turns.before
    obtain ⟨v', taken', follows, _⟩ := altered fun _ => .done
    obtain ⟨t'', agree', shows'⟩ := follows _ t turns.after inside
    refine ⟨⟨_, _, t', shows, ?_, agree⟩,
      v', t'', taken', shows'.moved, agree'⟩
    have whole := turns.invokes
    rw [List.nil_append] at whole
    rw [whole, List.map_append, List.map_append, own] at owners
    simpa [along] using owners

end MqttRouting.Session
