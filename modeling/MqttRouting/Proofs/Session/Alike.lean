import MqttRouting.Proofs.Session.Ledger
import MqttRouting.Proofs.Session.Release

/-!
Moves side by side. What handlers leave behind decides about no move of a worker in its loop
but the collection of crashes, and a queue can only be in the way where it is full. Where it is
not, a move in one session is possible in another one that is the same up to its handlers and
its queue, and there it does the same.
-/

namespace MqttRouting

variable {ν : Type}

/-- A message changes nothing in the dispatcher, whether there is a handler for it or not. -/
theorem Dispatcher.step_message_cases [Topic.Engine] (d : Dispatcher ν) (m : Message) :
    ∃ notices, d.step (.event (.message m)) = (.nothing, notices, d) ∨
      ∃ c, d.step (.event (.message m)) = (.call c, notices, d) := by
  rw [step]
  rcases d.receive m with ⟨none | c, notices⟩
  · exact ⟨notices, .inl rfl⟩
  · exact ⟨notices, .inr ⟨c, rfl⟩⟩

namespace Session

variable {s s' t : Session ν}

/-- Two sessions that differ at most in what waits for the worker and in what handlers have left
behind. -/
inductive Alike : Session ν → Session ν → Prop where
  | intro (s : Session ν) (commands : List (Entry ν)) (pool : Pool ν) (crashes : Nat)
      (activity : Activity ν) : Alike s { s with commands, pool, crashes, activity }

namespace Alike

theorem trans {u : Session ν} (h : Alike s t) (h' : Alike t u) : Alike s u := by
  cases h
  cases h'
  exact .intro ..

theorem symm (h : Alike s t) : Alike t s := by
  cases h
  exact .intro _ s.commands s.pool s.crashes s.activity

end Alike

/-- Two sessions that differ at most in what handlers have left behind. -/
structure Agree (s t : Session ν) : Prop where
  alike : Alike s t
  commands : t.commands = s.commands

namespace Agree

theorem trans {u : Session ν} (h : Agree s t) (h' : Agree t u) : Agree s u :=
  ⟨h.alike.trans h'.alike, h'.commands.trans h.commands⟩

theorem symm (h : Agree s t) : Agree t s := ⟨h.alike.symm, h.commands.symm⟩

end Agree

section

variable [Topic.Engine]

/-- The handler that a command starts, with its arguments. -/
def invocation (d : Dispatcher ν) (command : Command ν) : List (Declaration ν × Args) :=
  ((d.step command).1.call?.map fun c => (c.subscriber.declaration, c.args)).toList

/-- The handlers that a move starts. -/
def invokes (s : Session ν) : Move ν → List (Declaration ν × Args)
  | .takeCommand =>
    s.commands.head?.toList.flatMap fun entry => invocation s.dispatcher entry.command
  | _ => []

/-! A handler that does something else. -/

/-- Carries out a command with another task for its handler. -/
def carryOutAltered (alter : Task ν → Task ν) (s : Session ν) (entry : Entry ν) : Session ν :=
  let (effect, notices, dispatcher) := s.dispatcher.step entry.command
  let s := { s with dispatcher }.note notices
  match effect, Host.messageOf? entry.command with
  | .pass p, _ => s.continuePass p.registered [] entry.caller p.requests
  | .refused e, _ => s.reply entry.caller (.refused e)
  | .call c, some m => s.startJob { Host.job c m with task := alter (Host.job c m).task }
  | .call _, none | .nothing, _ => s

def takeAltered? (alter : Task ν → Task ν) (s : Session ν) : Option (Session ν) :=
  match s.isReady, s.commands with
  | true, entry :: rest => some ({ s with commands := rest }.carryOutAltered alter entry)
  | _, _ => none

theorem takeAltered?_id (s : Session ν) : s.takeAltered? id = s.takeCommand? := rfl

/-! Moves side by side. -/

theorem carryOut_commands (ready : s.stage = .ready) (entry : Entry ν) :
    (s.carryOut entry).commands = s.commands := by
  obtain ⟨_, _, _, ⟨_, done⟩ | ⟨_, _, _, _, _, begun⟩⟩ := carryOut_eq ready entry
  · rw [done]
  · rw [begun]

theorem takeAltered?_eq (alter : Task ν → Task ν) (ready : s.stage = .ready) {entry : Entry ν}
    {rest : List (Entry ν)} (waiting : s.commands = entry :: rest) :
    s.takeAltered? alter = some ({ s with commands := rest }.carryOutAltered alter entry) := by
  rw [takeAltered?, isReady_iff.mpr ready, waiting]

/-- A message leaves behind no more than its handler does, whatever that is. -/
theorem carryOutAltered_message (alter : Task ν → Task ν) (s : Session ν) (m : Message) :
    ∃ pool crashes activity, s.carryOutAltered alter ⟨.event (.message m), none⟩ =
      { s with pool, crashes, activity } := by
  obtain ⟨notices, step | ⟨c, step⟩⟩ := s.dispatcher.step_message_cases m
  · simp only [carryOutAltered, step]
    exact ⟨_, _, _, rfl⟩
  · simp only [carryOutAltered, step]
    exact ⟨_, _, _, rfl⟩

/-- Once a message is taken, it is as if it had not been there. -/
theorem takeAltered?_message (alter : Task ν → Task ν) (ready : s.stage = .ready) {m : Message}
    {rest : List (Entry ν)} (waiting : s.commands = ⟨.event (.message m), none⟩ :: rest)
    (alike : Alike s t) (commands : t.commands = rest) :
    ∃ u, s.takeAltered? alter = some u ∧ Agree u t := by
  obtain ⟨pool, crashes, activity, done⟩ :=
    carryOutAltered_message alter { s with commands := rest } m
  refine ⟨_, takeAltered?_eq alter ready waiting, ?_⟩
  rw [done]
  refine ⟨.trans (.symm ?_) alike, commands⟩
  exact .intro s rest pool crashes activity

end

namespace Alike

theorem note (h : Alike s t) (notices notices' : List Notice) :
    Alike (s.note notices) (t.note notices') := by
  cases h
  exact .intro ..

theorem reply (h : Alike s t) (caller : Option Nat) (result : CallResult) :
    Alike (s.reply caller result) (t.reply caller result) := by
  cases h
  rw [reply_eq, reply_eq]
  exact .intro ..

theorem startJob (h : Alike s t) (job job' : Job ν) : Alike (s.startJob job) (t.startJob job') := by
  cases h
  exact .intro ..

theorem continuePass (h : Alike s t) (registered : Nat) (answered : List (Request × Answer))
    (caller : Option Nat) (requests : List Request) :
    Alike (s.continuePass registered answered caller requests)
      (t.continuePass registered answered caller requests) := by
  cases h
  cases requests with
  | nil =>
      refine reply ?_ caller _
      exact .intro ..
  | cons r more => exact .intro ..

theorem withLink (h : Alike s t) (link : List Notice × EventLoop × Sender) :
    Alike (s.withLink link) (t.withLink link) := by
  cases h
  exact .intro ..

theorem carryOutAltered [Topic.Engine] (h : Alike s t) (alter alter' : Task ν → Task ν)
    (entry : Entry ν) :
    Alike (s.carryOutAltered alter entry) (t.carryOutAltered alter' entry) := by
  cases h with
  | intro commands pool crashes activity =>
      unfold Session.carryOutAltered
      dsimp only
      generalize s.dispatcher.step entry.command = outcome
      obtain ⟨effect, notices, d⟩ := outcome
      have noted : Alike ({ s with dispatcher := d }.note notices)
          ({ s with dispatcher := d, commands, pool, crashes, activity }.note notices) :=
        note (.intro ..) _ _
      cases effect with
      | pass p => exact noted.continuePass ..
      | refused e => exact noted.reply ..
      | call c =>
          cases Host.messageOf? entry.command with
          | none => exact noted
          | some m => exact noted.startJob ..
      | nothing => exact noted

/-- What is done under a condition that both sessions share. -/
theorem of_guard {c : Prop} [Decidable c] {x y : Session ν} (h : Alike x y)
    (moved : (if c then some x else none) = some s') :
    ∃ t', (if c then some y else none) = some t' ∧ Alike s' t' := by
  split at moved
  · cases moved
    exact ⟨y, if_pos ‹c›, h⟩
  · cases moved

theorem of_guard_not {c : Prop} [Decidable c] {x y : Session ν} (h : Alike x y)
    (moved : (if c then none else some x) = some s') :
    ∃ t', (if c then none else some y) = some t' ∧ Alike s' t' := by
  split at moved
  · cases moved
  · cases moved
    exact ⟨y, if_neg ‹¬c›, h⟩

theorem inLoop (h : Alike s t) : t.InLoop ↔ s.InLoop := by
  cases h
  exact Iff.rfl

theorem accepts (h : Alike s t) (m : Move ν) : t.accepts m = s.accepts m := by
  cases h
  cases m <;> rfl

theorem asks (h : Alike s t) (m : Move ν) : t.asks m = s.asks m := by
  cases h
  cases m <;> rfl

theorem takeCommand [Topic.Engine] (h : Alike s t) {entry : Entry ν} {rest rest' : List (Entry ν)}
    (moved : s.takeCommand? = some s') (waiting : s.commands = entry :: rest)
    (waiting' : t.commands = entry :: rest') :
    ∃ t', t.takeCommand? = some t' ∧ Alike s' t' ∧
      t.invokes .takeCommand = s.invokes .takeCommand := by
  obtain ⟨_, _, ready, taken, rfl⟩ := takeCommand_inv moved
  rw [waiting] at taken
  cases taken
  have ready' : t.stage = .ready := by
    cases h
    exact ready
  refine ⟨_, takeAltered?_eq id ready' waiting', ?_, ?_⟩
  · refine carryOutAltered ?_ id id entry
    cases h
    exact .intro ..
  · rw [invokes, invokes, waiting, waiting']
    cases h
    rfl

theorem handOver (h : Alike s t) (moved : s.handOver? = some s') :
    ∃ t', t.handOver? = some t' ∧ Alike s' t' := by
  cases h with
  | intro commands pool crashes activity =>
      unfold Session.handOver? at moved ⊢
      cases stage : s.stage with
      | requesting pass =>
          simp only [stage] at moved ⊢
          refine of_guard_not ?_ moved
          apply continuePass
          exact note (.intro ..) _ _
      | ready | draining | ended => simp [stage] at moved

theorem limits (h : Alike s t) : t.limits = s.limits := by
  cases h
  rfl

theorem passEvent (h : Alike s t) (moved : s.passEvent? = some s') (inside : s.InLoop)
    (room : s.accepts .passEvent ≠ [] → t.hasCommandRoom = true) :
    ∃ t', t.passEvent? = some t' ∧ Alike s' t' := by
  obtain ⟨e, held, ⟨ended, _⟩ | ⟨alive, _, rfl⟩⟩ := passEvent_inv moved
  · simp [InLoop, ended] at inside
  · have room' := room (by simp [accepts_passEvent alive held])
    cases h with
    | intro commands pool crashes activity =>
        have works : s.workerEnded = false := by
          rw [← Bool.not_eq_true, workerEnded_iff]
          exact alive
        unfold Session.passEvent?
        simp only [held]
        rw [if_neg (by simpa [workerEnded] using works), if_pos room']
        exact ⟨_, rfl, .intro ..⟩

theorem add (h : Alike s t) {caller : Nat} {declaration : Declaration ν}
    (moved : s.add? caller declaration = some s') (inside : s.InLoop)
    (room : s.accepts (.add caller declaration) ≠ [] → t.hasCommandRoom = true) :
    ∃ t', t.add? caller declaration = some t' ∧ Alike s' t' := by
  obtain ⟨handles, ⟨ended, _⟩ | ⟨alive, _, rfl⟩⟩ := add_inv moved
  · simp [InLoop, ended] at inside
  · have room' := room (by simp [accepts_add alive])
    cases h with
    | intro commands pool crashes activity =>
        have works : s.workerEnded = false := by
          rw [← Bool.not_eq_true, workerEnded_iff]
          exact alive
        unfold Session.add?
        rw [if_neg handles, if_neg (by simpa [workerEnded] using works), if_pos room']
        exact ⟨_, rfl, .intro ..⟩

/-- A move that neither takes a command nor collects a crash can be made in the other session as
well, if there is room for what it puts into the queue. -/
theorem move [Topic.Engine] (h : Alike s t) {m : Move ν} (moved : s.move? m = some s')
    (inside : s'.InLoop) (taking : m ≠ .takeCommand) (collecting : m ≠ .collect)
    (room : s.accepts m ≠ [] → t.hasCommandRoom = true) :
    ∃ t', t.move? m = some t' ∧ Alike s' t' := by
  obtain ⟨inside, stays⟩ := (move_inLoop moved).mp inside
  cases m with
  | takeCommand => exact absurd rfl taking
  | collect => exact absurd rfl collecting
  | handOver => exact h.handOver moved
  | stop | closeCommands => cases stays
  | drained =>
      obtain ⟨draining, _⟩ := drained_inv moved
      simp [InLoop, draining] at inside
  | giveUp =>
      obtain ⟨draining, _⟩ := giveUp_inv moved
      simp [InLoop, draining] at inside
  | sendRequest =>
      obtain ⟨link, sends, rfl⟩ := Option.map_eq_some_iff.mp moved
      refine ⟨_, Option.map_eq_some_iff.mpr ⟨link, ?_, rfl⟩, h.withLink link⟩
      cases h
      exact sends
  | poll =>
      obtain ⟨link, polls, rfl⟩ := Option.map_eq_some_iff.mp moved
      refine ⟨_, Option.map_eq_some_iff.mpr ⟨link, ?_, rfl⟩, h.withLink link⟩
      cases h
      exact polls
  | passEvent => exact h.passEvent moved inside room
  | shutdown =>
      obtain ⟨holds, _, rfl⟩ := shutdown_inv moved
      cases h
      refine ⟨_, if_pos holds, ?_⟩
      split
      · exact .intro ..
      · exact .intro ..
  | disconnect =>
      obtain ⟨_, ended, _⟩ := disconnect_inv moved
      simp [InLoop, ended] at inside
  | close =>
      cases h
      exact of_guard (note (.intro ..) _ _) moved
  | release =>
      cases h
      exact of_guard (note (.intro ..) _ _) moved
  | arrive packet =>
      cases h
      exact of_guard_not (.intro ..) moved
  | add caller declaration => exact h.add moved inside room
  | dropHandle =>
      cases h
      exact of_guard_not (.intro ..) moved
  | permit n =>
      cases h
      cases moved
      exact ⟨_, rfl, .intro ..⟩

end Alike

variable [Topic.Engine]

/-! The queue. -/

theorem move_room {m : Move ν} (moved : s.move? m = some t) (puts : s.accepts m ≠ []) :
    s.hasCommandRoom = true := by
  cases m with
  | passEvent =>
      obtain ⟨_, _, ⟨ended, _⟩ | ⟨_, room, _⟩⟩ := passEvent_inv moved
      · exact absurd (if_pos (workerEnded_iff.mpr ended)) puts
      · exact room
  | add caller declaration =>
      obtain ⟨_, ⟨ended, _⟩ | ⟨_, room, _⟩⟩ := add_inv moved
      · exact absurd (if_pos (workerEnded_iff.mpr ended)) puts
      · exact room
  | takeCommand | handOver | stop | closeCommands | collect | drained | giveUp | sendRequest
  | poll | shutdown | disconnect | close | release | arrive _ | dropHandle | permit _ =>
      exact absurd rfl puts

/-- As long as the worker is in its loop, the queue gives from its head what it has got at its
end. -/
theorem move_queue {m : Move ν} (moved : s.move? m = some t) (inside : t.InLoop) :
    s.commands ++ s.accepts m = s.takes m ++ t.commands := by
  obtain ⟨inside, stays⟩ := (move_inLoop moved).mp inside
  have alive : s.stage ≠ .ended := by
    intro ended
    simp [InLoop, ended] at inside
  cases m with
  | takeCommand =>
      obtain ⟨entry, rest, ready, waiting, rfl⟩ := takeCommand_inv moved
      rw [carryOut_commands (s := { s with commands := rest }) ready, takes, waiting]
      exact List.append_nil _
  | handOver =>
      obtain ⟨_, _, _, _, ⟨_, rfl⟩ | ⟨_, _, _, rfl⟩⟩ := handOver_eq moved
      · exact List.append_nil _
      · exact List.append_nil _
  | stop | closeCommands => cases stays
  | collect =>
      obtain ⟨_, _, _, rfl⟩ := collect_inv moved
      exact List.append_nil _
  | drained =>
      obtain ⟨draining, _⟩ := drained_inv moved
      simp [InLoop, draining] at inside
  | giveUp =>
      obtain ⟨draining, _⟩ := giveUp_inv moved
      simp [InLoop, draining] at inside
  | sendRequest =>
      obtain ⟨_, _, rfl⟩ := Option.map_eq_some_iff.mp moved
      exact List.append_nil _
  | poll =>
      obtain ⟨_, _, rfl⟩ := Option.map_eq_some_iff.mp moved
      exact List.append_nil _
  | passEvent =>
      obtain ⟨e, held, ⟨ended, _⟩ | ⟨_, _, rfl⟩⟩ := passEvent_inv moved
      · exact absurd ended alive
      · rw [accepts_passEvent alive held]
        rfl
  | shutdown =>
      obtain ⟨_, _, rfl⟩ := shutdown_inv moved
      exact List.append_nil _
  | disconnect =>
      obtain ⟨_, ended, _⟩ := disconnect_inv moved
      exact absurd ended alive
  | close =>
      obtain ⟨_, _, _, rfl⟩ := close_inv moved
      exact List.append_nil _
  | release =>
      obtain ⟨_, _, rfl⟩ := release_inv moved
      exact List.append_nil _
  | arrive packet =>
      obtain ⟨_, rfl⟩ := arrive_inv moved
      exact List.append_nil _
  | add caller declaration =>
      obtain ⟨_, ⟨ended, _⟩ | ⟨_, _, rfl⟩⟩ := add_inv moved
      · exact absurd ended alive
      · rw [accepts_add alive]
        rfl
  | dropHandle =>
      obtain ⟨_, rfl⟩ := dropHandle_inv moved
      exact List.append_nil _
  | permit n =>
      cases moved
      exact List.append_nil _

end Session
end MqttRouting
