import MqttRouting.Dispatcher.Host
import MqttRouting.Proofs.Dispatcher.Routing
import MqttRouting.Topic.Engine.Sized

/-!
Accounts of subscribe requests. Over a whole run, with a transport that may refuse
anything, each request can be told from the history before it: nothing is asked for twice
unless a session was lost, and every report counts what was registered and splits what was
asked for by the answers.
-/

namespace MqttRouting

variable {σ ν : Type}

namespace Transport

/-- A transport that also writes down what it was asked for, with its answers. -/
def recorded (transport : Transport σ) : Transport (σ × List (Request × Answer)) :=
  fun (state, log) request =>
    let (answer, state) := transport state request
    (answer, state, log ++ [(request, answer)])

/-- Everything is handed over, in order. -/
theorem submit_requests (transport : Transport σ) (state : σ) (requests : List Request) :
    (transport.submit state requests).1.map Prod.fst = requests := by
  induction requests generalizing state with
  | nil => rfl
  | cons request rest ih =>
      rw [submit, List.map_cons, ih]

theorem recorded_submit (transport : Transport σ) (state : σ) (log : List (Request × Answer))
    (requests : List Request) :
    (transport.recorded.submit (state, log) requests).2.2 =
      log ++ (transport.recorded.submit (state, log) requests).1 := by
  induction requests generalizing state log with
  | nil => simp [submit]
  | cons request rest ih =>
      simp only [submit]
      change (transport.recorded.submit ((transport state request).2,
        log ++ [(request, (transport state request).1)]) rest).2.2 = _
      rw [ih, List.append_assoc]
      rfl

end Transport

namespace Dispatcher

/-- The request for a subscriber, with the general level of service if it has none. -/
def request (settings : Settings) (s : Subscriber ν) : Request :=
  ⟨s.wireTopic, s.declaration.qos.getD settings.defaultQos⟩

/-- The subscribers that a command enters in the registry after a history: all at the first
connection, and what is new of a declaration that comes later. -/
def entered [Topic.Engine] (settings : Settings) (initial : List (Subscriber ν))
    (history : List (Command ν)) : Command ν → List (Subscriber ν)
  | .event (.connected _) =>
    if hasConnected history then []
    else Subscriber.distinct (initial ++ added settings history)
  | .add declaration =>
    if hasConnected history then
      Subscriber.distinct <| (declaration.accepted settings).filter fun s =>
        s.wireTopic ∉ (table settings initial history).map Subscriber.wireTopic
    else []
  | .event (.message _) | .event (.subscribeResult _ _) => []

/-- The subscribers that a command asks for after a history: those it enters, or all of
them at a reconnection that has lost the session, if the settings want that. -/
def asked [Topic.Engine] (settings : Settings) (initial : List (Subscriber ν))
    (history : List (Command ν)) (command : Command ν) : List (Subscriber ν) :=
  match command with
  | .event (.connected sessionPresent) =>
    if hasConnected history && !sessionPresent && settings.resubscribeOnSessionLoss then
      table settings initial history
    else entered settings initial history command
  | .event (.message _) | .event (.subscribeResult _ _) | .add _ =>
    entered settings initial history command

/-- A report counts what was entered, and splits what was asked for by the answers. -/
structure Splits (registered : Nat) (answers : List (Request × Answer)) (report : Report) :
    Prop where
  registered : report.registered = registered
  subscribed : report.subscribed = (answers.filter (·.2.isNone)).map (·.1.wireTopic)
  failed : report.failed = (answers.filter (·.2.isSome)).map (·.1.wireTopic)

theorem splits_ofAnswers (registered : Nat) (answers : List (Request × Answer)) :
    Splits registered answers (.ofAnswers registered answers) := ⟨rfl, rfl, rfl⟩

variable [Topic.Engine]

/-- What a command after a history asks for, with the answers it gets, and its reply. -/
inductive Accounted (settings : Settings) (initial : List (Subscriber ν))
    (history : List (Command ν)) : Command ν → List (Request × Answer) → Reply → Prop where
  | connected {sessionPresent : Bool} {answers : List (Request × Answer)} {report : Report} :
      answers.map Prod.fst =
        (asked settings initial history (.event (.connected sessionPresent))).map
          (request settings) →
      Splits (entered settings initial history (.event (.connected sessionPresent))).length
        answers report →
      Accounted settings initial history (.event (.connected sessionPresent)) answers
        (.report report)
  | taken {declaration : Declaration ν} {subscribers : List (Subscriber ν)}
      {answers : List (Request × Answer)} {report : Report} :
      declaration.subscribers settings = .ok subscribers →
      answers.map Prod.fst =
        (asked settings initial history (.add declaration)).map (request settings) →
      Splits (entered settings initial history (.add declaration)).length answers report →
      Accounted settings initial history (.add declaration) answers (.report report)
  | refused {declaration : Declaration ν} {e : DeclarationError} :
      declaration.subscribers settings = .error e →
      Accounted settings initial history (.add declaration) [] (.refused e)
  | handled (m : Message) (status : Job.Status) :
      Accounted settings initial history (.event (.message m)) [] (.handler status)
  | dropped (m : Message) : Accounted settings initial history (.event (.message m)) [] .nothing
  | subscribeResult (wireTopic : String) (success : Bool) :
      Accounted settings initial history (.event (.subscribeResult wireTopic success)) [] .nothing

/-- The accounts of a run: what it asks for is what its steps ask for, one after the other. -/
inductive Accounts (settings : Settings) (initial : List (Subscriber ν)) :
    List (Command ν) → List (Command ν) → List (Request × Answer) → List Reply → Prop where
  | nil (history : List (Command ν)) : Accounts settings initial history [] [] []
  | cons {history rest : List (Command ν)} {command : Command ν}
      {answers log : List (Request × Answer)} {reply : Reply} {replies : List Reply} :
      Accounted settings initial history command answers reply →
      Accounts settings initial (history ++ [command]) rest log replies →
      Accounts settings initial history (command :: rest) (answers ++ log) (reply :: replies)

/-! The passes of single steps. -/

namespace Reflects

variable {origin d : Dispatcher ν} {history : List (Command ν)}

theorem connected_pass (h : Reflects origin history d) (sessionPresent : Bool) :
    (d.connected sessionPresent).1 =
      ⟨(entered origin.settings origin.compiled history
          (.event (.connected sessionPresent))).length,
        (asked origin.settings origin.compiled history (.event (.connected sessionPresent))).map
          (request origin.settings)⟩ := by
  have before := h.registry
  have stage := h.lifecycle
  cases seen : hasConnected history with
  | false =>
      rw [seen, if_neg Bool.false_ne_true] at before stage
      have fresh : (d.registry.registerAll d.compiled).1 =
          Subscriber.distinct (origin.compiled ++ added origin.settings history) := by
        rw [← h.compiled, ← Registry.ofList_entries, Registry.ofList,
          Registry.registerAll_entries, before]
        rfl
      simp [Dispatcher.connected, asked, entered, seen, stage, fresh, ← h.settings, requestOf,
        request]
  | true =>
      rw [seen, if_pos rfl] at before stage
      have again : d.registry.registerAll d.compiled = ([], d.registry) := by
        rw [before, Registry.ofList_again]
      simp only [Dispatcher.connected, again, stage, asked, entered, seen, h.entries, h.settings]
      cases sessionPresent <;> cases origin.settings.resubscribeOnSessionLoss <;>
        simp [requestOf, request, h.settings]

theorem add_pass (h : Reflects origin history d) {declaration : Declaration ν}
    {subscribers : List (Subscriber ν)}
    (outcome : declaration.subscribers origin.settings = .ok subscribers) :
    (d.add declaration).1 =
      .ok ⟨(entered origin.settings origin.compiled history (.add declaration)).length,
        (asked origin.settings origin.compiled history (.add declaration)).map
          (request origin.settings)⟩ := by
  have before := h.registry
  have stage := h.lifecycle
  have outcome' := outcome
  rw [← h.settings] at outcome'
  cases seen : hasConnected history with
  | false =>
      rw [seen, if_neg Bool.false_ne_true] at stage
      obtain ⟨compiler, _, taken⟩ := add_early h.sound outcome' stage
      simp [taken, asked, entered, seen]
  | true =>
      rw [seen, if_pos rfl] at stage
      obtain ⟨compiler, _, taken⟩ := add_late h.sound outcome' stage
      have fresh := Registry.registerAll_fresh h.indexed subscribers
      rw [Registry.wireTopics, h.entries] at fresh
      simp [taken, fresh, asked, entered, seen, Declaration.accepted, outcome, requestOf, request,
        h.settings]

end Reflects

/-! Whole runs. -/

theorem step_taken {d : Dispatcher ν} {declaration : Declaration ν} {p : Pass}
    (h : (d.add declaration).1 = .ok p) : (d.step (.add declaration)).1 = .pass p := by
  rw [step]
  generalize d.add declaration = outcome at h
  obtain ⟨answer, next⟩ := outcome
  cases h
  rfl

theorem table_step (settings : Settings) (initial : List (Subscriber ν))
    (history : List (Command ν)) (command : Command ν) :
    table settings initial (history ++ [command]) =
      table settings initial history ++ entered settings initial history command := by
  unfold table
  rw [hasConnected_concat]
  cases seen : hasConnected history with
  | false =>
      cases command with
      | add declaration => simp [entered, seen, Command.isConnected]
      | event e => cases e <;> simp [entered, seen, Command.isConnected, added_event]
  | true =>
      cases command with
      | add declaration =>
          simp only [Bool.true_or, if_true, entered, seen, table, added_add]
          rw [← List.append_assoc, Subscriber.distinct_append]
      | event e => cases e <;> simp [entered, seen, added_event]

theorem asked_subset (settings : Settings) (initial : List (Subscriber ν))
    (history : List (Command ν)) (command : Command ν) {s : Subscriber ν}
    (mem : s ∈ asked settings initial history command) :
    s ∈ table settings initial (history ++ [command]) := by
  rw [table_step, List.mem_append]
  unfold asked at mem
  split at mem
  · split at mem
    · exact Or.inl mem
    · exact Or.inr mem
  all_goals exact Or.inr mem

theorem table_mono (settings : Settings) (initial : List (Subscriber ν))
    (history more : List (Command ν)) {s : Subscriber ν}
    (mem : s ∈ table settings initial history) : s ∈ table settings initial (history ++ more) := by
  induction more generalizing history with
  | nil =>
      rw [List.append_nil]
      exact mem
  | cons command rest ih =>
      rw [List.append_cons]
      apply ih
      rw [table_step]
      exact List.mem_append_left _ mem

/-- Every request is the one of a subscriber in the table that the run ends with. -/
theorem Accounts.requests {settings : Settings} {initial : List (Subscriber ν)}
    {history commands : List (Command ν)} {log : List (Request × Answer)} {replies : List Reply}
    (h : Accounts settings initial history commands log replies) :
    ∀ entry ∈ log, ∃ s ∈ table settings initial (history ++ commands),
      entry.1 = request settings s := by
  induction h with
  | nil history => exact nofun
  | @cons history rest command answers log reply replies first _ ih =>
      rw [List.append_cons]
      intro entry mem
      rcases List.mem_append.mp mem with mem | mem
      · have requests : answers.map Prod.fst =
            (asked settings initial history command).map (request settings) := by
          cases first with
          | connected requests _ => exact requests
          | taken _ requests _ => exact requests
          | refused bad => simp [asked, entered, Declaration.accepted, bad, Subscriber.distinct]
          | handled m status => rfl
          | dropped m => rfl
          | subscribeResult wireTopic success => rfl
        obtain ⟨s, wanted, same⟩ := List.mem_map.mp (requests ▸ List.mem_map_of_mem mem)
        exact ⟨s, table_mono settings initial _ rest
          (asked_subset settings initial history command wanted), same.symm⟩
      · exact ih entry mem

end Dispatcher

namespace Host

open Dispatcher

section

variable [Topic.Engine]

variable {origin : Dispatcher ν} {history : List (Command ν)}

theorem step_pass (transport : Transport σ) (h : Host σ ν) {command : Command ν} {p : Pass}
    (effect : (h.dispatcher.step command).1 = .pass p) :
    (h.step transport command).1 =
        .report (.ofAnswers p.registered (transport.submit h.link p.requests).1) ∧
      (h.step transport command).2.2.link = (transport.submit h.link p.requests).2 := by
  unfold step
  generalize h.dispatcher.step command = outcome at effect
  obtain ⟨effect', notices, next⟩ := outcome
  cases effect
  exact ⟨rfl, rfl⟩

theorem step_refused (transport : Transport σ) (h : Host σ ν) {command : Command ν}
    {e : DeclarationError} (effect : (h.dispatcher.step command).1 = .refused e) :
    (h.step transport command).1 = .refused e ∧
      (h.step transport command).2.2.link = h.link := by
  unfold step
  generalize h.dispatcher.step command = outcome at effect
  obtain ⟨effect', notices, next⟩ := outcome
  cases effect
  exact ⟨rfl, rfl⟩

theorem step_message (transport : Transport σ) (h : Host σ ν) (m : Message) :
    ((∃ status, (h.step transport (.event (.message m))).1 = .handler status) ∨
        (h.step transport (.event (.message m))).1 = .nothing) ∧
      (h.step transport (.event (.message m))).2.2.link = h.link := by
  simp only [step, Dispatcher.step]
  generalize h.dispatcher.receive m = outcome
  obtain ⟨call, notices⟩ := outcome
  cases call with
  | none => exact ⟨Or.inr rfl, rfl⟩
  | some call => exact ⟨Or.inl ⟨_, rfl⟩, rfl⟩

theorem step_dispatcher (transport : Transport σ) (h : Host σ ν) (command : Command ν) :
    (h.step transport command).2.2.dispatcher = (h.dispatcher.step command).2.2 := by
  unfold step
  generalize h.dispatcher.step command = outcome
  obtain ⟨effect, notices, next⟩ := outcome
  generalize messageOf? command = carried
  cases effect <;> cases carried <;> rfl

/-- One step adds to the log what it is accounted for. -/
theorem step_accounted (transport : Transport σ) (h : Host (σ × List (Request × Answer)) ν)
    (reflects : Reflects origin history h.dispatcher) (command : Command ν) :
    ∃ answers, (h.step transport.recorded command).2.2.link.2 = h.link.2 ++ answers ∧
      Accounted origin.settings origin.compiled history command answers
        (h.step transport.recorded command).1 := by
  cases command with
  | add declaration =>
      cases outcome : declaration.subscribers origin.settings with
      | error e =>
          have bad := outcome
          rw [← reflects.settings, ← Dispatcher.step_refused reflects.sound] at bad
          obtain ⟨reply, link⟩ := h.step_refused transport.recorded bad
          rw [reply, link]
          exact ⟨[], (List.append_nil _).symm, .refused outcome⟩
      | ok subscribers =>
          have effect : (h.dispatcher.step (.add declaration)).1 = .pass _ :=
            Dispatcher.step_taken (reflects.add_pass outcome)
          obtain ⟨reply, link⟩ := h.step_pass transport.recorded effect
          rw [reply, link]
          exact ⟨_, transport.recorded_submit h.link.1 h.link.2 _,
            .taken outcome (Transport.submit_requests _ _ _) (splits_ofAnswers _ _)⟩
  | event e =>
      cases e with
      | connected sessionPresent =>
          have effect : (h.dispatcher.step (.event (.connected sessionPresent))).1 = .pass _ :=
            congrArg Effect.pass (reflects.connected_pass sessionPresent)
          obtain ⟨reply, link⟩ := h.step_pass transport.recorded effect
          rw [reply, link]
          exact ⟨_, transport.recorded_submit h.link.1 h.link.2 _,
            .connected (Transport.submit_requests _ _ _) (splits_ofAnswers _ _)⟩
      | message m =>
          obtain ⟨⟨status, reply⟩ | reply, link⟩ := h.step_message transport.recorded m
          · rw [reply, link]
            exact ⟨[], (List.append_nil _).symm, .handled m status⟩
          · rw [reply, link]
            exact ⟨[], (List.append_nil _).symm, .dropped m⟩
      | subscribeResult wireTopic success =>
          exact ⟨[], (List.append_nil _).symm, .subscribeResult wireTopic success⟩

/-- A run adds to the log what its steps are accounted for. -/
theorem run_accounts (transport : Transport σ) (h : Host (σ × List (Request × Answer)) ν)
    (reflects : Reflects origin history h.dispatcher) (commands : List (Command ν)) :
    ∃ log, (h.run transport.recorded commands).2.link.2 = h.link.2 ++ log ∧
      Accounts origin.settings origin.compiled history commands log
        (h.run transport.recorded commands).1 := by
  induction commands generalizing h history with
  | nil => exact ⟨[], (List.append_nil _).symm, .nil history⟩
  | cons command rest ih =>
      obtain ⟨answers, grown, accounted⟩ := h.step_accounted transport reflects command
      have after := reflects.step command
      rw [← h.step_dispatcher transport.recorded] at after
      obtain ⟨log, more, accounts⟩ := ih _ after
      refine ⟨answers ++ log, ?_, .cons accounted accounts⟩
      rw [← List.append_assoc, ← grown]
      exact more

theorem run_dispatcher (transport : Transport σ) (h : Host σ ν) (commands : List (Command ν)) :
    (h.run transport commands).2.dispatcher = (h.dispatcher.run commands).2 := by
  induction commands generalizing h with
  | nil => rfl
  | cons command rest ih =>
      change ((h.step transport command).2.2.run transport rest).2.dispatcher = _
      rw [ih, step_dispatcher]
      rfl

/-- Every run asks for exactly what its steps are accounted for, whatever the transport
answers; each request has the level of service of the entry under its wire topic; and the
registry grows by what each step enters. -/
theorem run_asks_as_accounted {settings : Settings} {transforms : Transforms}
    {hook : Option Hook} {declarations : List (Declaration ν)} {d : Dispatcher ν}
    (built : ofDeclarations settings transforms hook declarations = .ok d)
    (transport : Transport σ) (link : σ) (pool : Pool ν) :
    ∃ initial, declarations.mapM (Declaration.subscribers settings) = .ok initial ∧
      ∀ commands : List (Command ν),
        let start : Host (σ × List (Request × Answer)) ν := ⟨d, (link, []), pool⟩
        let finish := start.run transport.recorded commands
        Accounts settings initial.flatten [] commands finish.2.link.2 finish.1 ∧
        (∀ entry ∈ finish.2.link.2, ∃ s,
          finish.2.dispatcher.registry.get? entry.1.wireTopic = some s ∧
            entry.1.qos = s.declaration.qos.getD settings.defaultQos) ∧
        ∀ command,
          let next := start.run transport.recorded (commands ++ [command])
          next.2.dispatcher.registry.entries = finish.2.dispatcher.registry.entries ++
            entered settings initial.flatten commands command := by
  obtain ⟨initial, compiles, unused, rfl, _, _, known⟩ := ofDeclarations_ok built
  refine ⟨initial, compiles, fun commands => ?_⟩
  intro start finish
  have standing (more : List (Command ν)) :
      Reflects d more (start.run transport.recorded more).2.dispatcher := by
    rw [run_dispatcher]
    exact unused.reflects.run more
  obtain ⟨log, logged, accounts⟩ :=
    start.run_accounts transport unused.reflects commands
  change finish.2.link.2 = [] ++ log at logged
  rw [List.nil_append] at logged
  rw [logged, ← known]
  refine ⟨accounts, ?_, ?_⟩
  · intro entry mem
    obtain ⟨s, entered, same⟩ := accounts.requests entry mem
    rw [List.nil_append, ← (standing commands).entries] at entered
    rw [same]
    exact ⟨s, (standing commands).distinct.get?_self (standing commands).indexed entered, rfl⟩
  · intro command next
    rw [(standing _).entries, (standing commands).entries, table_step]

end

/-- A refused topic, one that two declarations share, and a lost session: each wire topic
is asked for once, and once more after the loss. -/
theorem requests_of_a_run_with_a_lost_session :
    ∃ d : Dispatcher Unit,
      ofDeclarations { resubscribeOnSessionLoss := true } {} none
        [{ topics := ["a/+", "b"], qos := some .atMostOnce, handler := .idle, owner := "first" },
          { topics := ["b", "c"], handler := .idle, owner := "second" }] = .ok d ∧
      ((⟨d, ({ refused := ["c"] }, []), {}⟩ : Host (Outbox × List (Request × Answer)) Unit).run
          Outbox.transport.recorded
          [.event (.connected false),
            .add { topics := ["c", "d/#"], handler := .idle, owner := "third" },
            .event (.connected true), .event (.connected false)]).2.link.2.map Prod.fst =
        [⟨"a/+", .atMostOnce⟩, ⟨"b", .atMostOnce⟩, ⟨"c", .atLeastOnce⟩, ⟨"d/#", .atLeastOnce⟩,
          ⟨"a/+", .atMostOnce⟩, ⟨"b", .atMostOnce⟩, ⟨"c", .atLeastOnce⟩, ⟨"d/#", .atLeastOnce⟩] := by
  obtain ⟨d, built⟩ : ∃ d : Dispatcher Unit,
      ofDeclarations { resubscribeOnSessionLoss := true } {} none
        [{ topics := ["a/+", "b"], qos := some .atMostOnce, handler := .idle, owner := "first" },
          { topics := ["b", "c"], handler := .idle, owner := "second" }] = .ok d := ⟨_, rfl⟩
  obtain ⟨initial, compiles, accounts⟩ :=
    run_asks_as_accounted built Outbox.transport { refused := ["c"] } {}
  cases compiles
  refine ⟨d, built, ?_⟩
  have steps := (accounts [.event (.connected false),
    .add { topics := ["c", "d/#"], handler := .idle, owner := "third" },
    .event (.connected true), .event (.connected false)]).1
  generalize Host.run _ _ _ = finish at steps ⊢
  obtain ⟨replies, host⟩ := finish
  generalize host.link.2 = log at steps ⊢
  obtain _ | ⟨first, steps⟩ := steps
  obtain _ | ⟨second, steps⟩ := steps
  obtain _ | ⟨third, steps⟩ := steps
  obtain _ | ⟨fourth, steps⟩ := steps
  cases steps
  obtain ⟨first, _⟩ := first
  obtain ⟨third, _⟩ := third
  obtain ⟨fourth, _⟩ := fourth
  cases second with
  | refused bad => cases bad
  | taken _ second =>
      simp only [List.map_append, first, second, third, fourth]
      rfl

end Host
end MqttRouting
