import MqttRouting.Proofs.Attribute.Code
import MqttRouting.Proofs.Attribute.Readers
import MqttRouting.Proofs.Dispatcher.Arguments
import MqttRouting.Topic.Engine.Sized

/-!
From attributes to calls. The builder calls of a handler declare just what its attributes say,
with one parameter for each argument at its number; a dispatcher fills all slots of such a
declaration; and the handler takes each of them once, from left to right.
-/

namespace MqttRouting

variable {ν : Type}

/-! Positions without gaps. -/

namespace Builder

/-- A builder with parameters at the first positions fails only if these are too many. -/
theorem build_numbered {b : Builder ν} {n : Nat} {handler : Handler ν}
    (positions : b.parameters.map Parameter.position = List.range n) (topics : b.topics ≠ [])
    (handled : b.handler = some handler) :
    (n ≤ 64 → b.build = .ok { b with handler }) ∧
      (64 < n → b.build = .error (.positionOutOfRange b.owner 64)) := by
  have numbered : b.positions = List.range n := positions
  constructor
  · intro few
    have low : ∀ m ∈ b.positions, m ≤ maxPosition := by
      intro m mem
      rw [numbered, List.mem_range] at mem
      rw [maxPosition]
      omega
    exact Complete.build_eq ⟨topics, low, numbered ▸ List.nodup_range, handled⟩
  · intro many
    obtain ⟨more, rfl⟩ : ∃ more, n = 64 + (more + 1) := ⟨n - 65, by omega⟩
    have behind : (List.range (more + 1)).map (64 + ·) =
        64 :: ((List.range more).map Nat.succ).map (64 + ·) := by
      rw [List.range_succ_eq_map]
      rfl
    rw [List.range_add, behind] at numbered
    refine (Fault.tooHigh topics numbered (by decide) fun m mem => ?_).build_eq
    rw [List.mem_range] at mem
    rw [maxPosition]
    omega

end Builder

namespace Attribute

/-! The declaration of a handler. -/

/-- The group to share in. That of nobody turns sharing off. -/
def ShareOption.groupName : ShareOption → String
  | .group name => name.value
  | .disabled => ""

def HandlerArg.parameter (a : HandlerArg) : MqttRouting.Parameter :=
  ⟨a.position, a.kind, a.transform.map fun name => .ofName name.value⟩

namespace HandlerMethod

/-- What attributes declare. -/
def declared (m : HandlerMethod) (owner : String) (handler : Handler ν) : Declaration ν where
  topics := m.subscribe.topics.map TextLiteral.value
  queue := m.subscribe.queue
  share := m.subscribe.share.map ShareOption.groupName
  transform := m.subscribe.transform.map fun name => .ofName name.value
  qos := m.subscribe.qos
  parameters := m.args.map HandlerArg.parameter
  handler := handler
  owner := owner

end HandlerMethod

/-! Builder calls. -/

theorem foldl_topics (templates : List TextLiteral) (b : Builder ν) :
    (Step.topics templates).calls.foldl Builder.apply b =
      { b with topics := b.topics ++ templates.map TextLiteral.value } := by
  rw [Step.calls, List.foldl_map]
  induction templates generalizing b with
  | nil => simp
  | cons t rest ih => rw [List.foldl_cons, ih]; simp [Builder.apply]

theorem foldl_options (args : SubscribeArgs) {b : Builder ν} (unset : b.queue = none ∧
    b.share = none ∧ b.transform = none ∧ b.qos = none) :
    (args.steps.flatMap Step.calls).foldl Builder.apply b = { b with
      queue := args.queue
      share := args.share.map ShareOption.groupName
      transform := args.transform.map fun name => .ofName name.value
      qos := args.qos } := by
  obtain ⟨topics, queue, share, transform, qos, parameters, handler, owner⟩ := b
  obtain ⟨rfl, rfl, rfl, rfl⟩ := unset
  obtain ⟨templates, queue, share, transform, qos⟩ := args
  rcases share with _ | ⟨_ | _⟩ <;> cases queue <;> cases transform <;> cases qos <;> rfl

/-- Only payloads have a transform of their own. -/
theorem parameter_calls {a : HandlerArg} (plain : a.kind ≠ .payload → a.transform = none) :
    (Step.parameter a.position a.kind a.transform).calls =
      [(.param a.parameter : Builder.Call ν)] := by
  obtain ⟨position, kind, type, transform⟩ := a
  cases kind with
  | payload => cases transform <;> rfl
  | topic | packet | params =>
      have none : transform = none := plain nofun
      subst none
      rfl

theorem foldl_parameters {args : List HandlerArg}
    (plain : ∀ a ∈ args, a.kind ≠ .payload → a.transform = none) (b : Builder ν) :
    ((args.map fun a => Step.parameter a.position a.kind a.transform).flatMap Step.calls).foldl
      Builder.apply b = { b with parameters := b.parameters ++ args.map HandlerArg.parameter } := by
  induction args generalizing b with
  | nil => simp
  | cons a rest ih =>
      obtain ⟨first, others⟩ := List.forall_mem_cons.mp plain
      rw [List.map_cons, List.flatMap_cons, List.foldl_append, parameter_calls first, ih others]
      simp [Builder.apply]

namespace HandlerMethod

/-- The builder calls of a handler set everything that its attributes say, and nothing else. -/
theorem run_calls (m : HandlerMethod) (owner : String) (handler : Handler ν)
    (plain : ∀ a ∈ m.args, a.kind ≠ .payload → a.transform = none) :
    Builder.run (m.calls owner handler) = { m.declared owner handler with
      handler := some handler } := by
  unfold Builder.run calls steps
  rw [List.foldl_append, List.cons_append, List.flatMap_cons, List.foldl_append,
    List.flatMap_append, List.foldl_append, foldl_topics, foldl_options _ ⟨rfl, rfl, rfl, rfl⟩,
    foldl_parameters plain]
  rfl

theorem declaration_eq (m : HandlerMethod) (owner : String) (handler : Handler ν) {n : Nat}
    (plain : ∀ a ∈ m.args, a.kind ≠ .payload → a.transform = none)
    (topics : m.subscribe.topics ≠ [])
    (positions : m.args.map HandlerArg.position = List.range n) :
    (n ≤ 64 → m.declaration owner handler = .ok (m.declared owner handler)) ∧
      (64 < n → m.declaration owner handler = .error (.positionOutOfRange owner 64)) := by
  rw [declaration, Declaration.ofCalls, m.run_calls owner handler plain]
  refine Builder.build_numbered ?_ (by simpa [declared] using topics) rfl
  rw [← positions]
  simp [declared, HandlerArg.parameter, Function.comp_def]

/-! Taking arguments out of their slots. -/

/-- The values of arguments, taken out of their slots one after the other up to the first misfit,
behind the positions that are looked at. -/
def extracted (typeOf : HandlerArg → ArgType) :
    List HandlerArg → Args → List Nat × Except ArgumentError (List ArgValue)
  | [], _ => ([], .ok [])
  | a :: rest, args =>
    match args.extract (typeOf a) a.position with
    | (.ok value, args) =>
      let (taken, values) := extracted typeOf rest args
      (a.position :: taken, values.map (value :: ·))
    | (.error e, _) => ([a.position], .error e)

section Extracted

variable (typeOf : HandlerArg → ArgType) (body : List ArgValue → Task ν)

theorem extractAll_eq (values : List ArgValue) (arguments : List HandlerArg) (args : Args) :
    extractAll typeOf body values arguments args =
      match (extracted typeOf arguments args).2 with
      | .ok more => body (values.reverse ++ more)
      | .error e => .failed (.argument e) := by
  induction arguments generalizing values args with
  | nil => simp [extractAll, extracted]
  | cons a rest ih =>
      rw [extractAll, Task.extract, extracted]
      cases outcome : args.extract (typeOf a) a.position with
      | mk result left =>
          cases result with
          | error e => rfl
          | ok value =>
              dsimp only
              rw [ih]
              cases (extracted typeOf rest left).2 with
              | error e => rfl
              | ok more => simp [Except.map]

/-- What an argument is as the type that is wanted for it. -/
def converted (a : HandlerArg) (arg : Arg) : Except ArgumentError ArgValue :=
  (typeOf a).convert a.position (some arg)

theorem converted_not_missing {a : HandlerArg} {arg : Arg} {e : ArgumentError}
    (h : converted typeOf a arg = .error e) (position : Nat) : e ≠ .missing position := by
  unfold converted ArgType.convert at h
  dsimp only at h
  split at h <;> cases h <;> nofun

theorem get?_take_ne (args : Args) {position other : Nat} (apart : other ≠ position) :
    (args.take position).2.get? other = args.get? other := by
  simp only [Args.take, Args.get?, List.getElem?_set_ne (Ne.symm apart)]

theorem held_take {arguments : List HandlerArg} {filling : List Arg} {args : Args}
    {position : Nat} (apart : position ∉ arguments.map HandlerArg.position)
    (held : List.Forall₂ (fun a arg => args.get? a.position = some arg) arguments filling) :
    List.Forall₂ (fun a arg => (args.take position).2.get? a.position = some arg)
      arguments filling := by
  induction held with
  | nil => exact .nil
  | cons here _ ih =>
      rw [List.map_cons, List.mem_cons, not_or] at apart
      exact .cons ((get?_take_ne args (Ne.symm apart.1)).trans here) (ih apart.2)

/-- Out of filled slots with distinct positions each value is what has been in its slot. -/
theorem extracted_filled {arguments : List HandlerArg} {filling : List Arg} {args : Args}
    (distinct : (arguments.map HandlerArg.position).Nodup)
    (held : List.Forall₂ (fun a arg => args.get? a.position = some arg) arguments filling) :
    (∃ values : List ArgValue, List.zipWith (converted typeOf) arguments filling = values.map .ok ∧
      extracted typeOf arguments args = (arguments.map HandlerArg.position, .ok values)) ∨
    ∃ (values : List ArgValue) (e : ArgumentError) (rest : List (Except ArgumentError ArgValue)),
      List.zipWith (converted typeOf) arguments filling = values.map .ok ++ .error e :: rest ∧
      (∀ position, e ≠ .missing position) ∧
      extracted typeOf arguments args =
        ((arguments.map HandlerArg.position).take (values.length + 1), .error e) := by
  induction arguments generalizing filling args with
  | nil =>
      cases held
      exact .inl ⟨[], rfl, rfl⟩
  | cons a others ih =>
      obtain _ | @⟨_, arg, _, more, here, behind⟩ := held
      obtain ⟨apart, distinct⟩ := List.nodup_cons.mp distinct
      have taken : args.extract (typeOf a) a.position =
          (converted typeOf a arg, (args.take a.position).2) := by
        rw [Args.extract, converted, ← here]
        rfl
      rw [List.zipWith_cons_cons, extracted, taken]
      cases outcome : converted typeOf a arg with
      | error e => exact .inr ⟨[], e, _, rfl, converted_not_missing typeOf outcome, rfl⟩
      | ok value =>
          obtain ⟨values, results, goes⟩ | ⟨values, e, rest, results, there, stops⟩ :=
            ih distinct (held_take apart behind)
          · refine .inl ⟨value :: values, by rw [results]; rfl, ?_⟩
            simp only [goes]
            rfl
          · refine .inr ⟨value :: values, e, rest, by rw [results]; rfl, there, ?_⟩
            simp only [stops]
            rfl

end Extracted

end HandlerMethod

/-! Calls. -/

/-- How a handler is served by the dispatcher: the slots are filled just as far as there are
arguments, each with what its parameter stands for. -/
structure Served (d : Dispatcher ν) (msg : Message) (m : HandlerMethod) (call : Call ν)
    (filling : List Arg) : Prop where
  slots : call.args.slots = filling.map some
  held : List.Forall₂ (fun a arg => call.args.get? a.position = some arg) m.args filling
  stands : List.Forall₂ (fun a arg => d.argument call.subscriber msg a.parameter = .ok arg)
    m.args filling

theorem arity_declared {m : HandlerMethod} {owner : String} {handler : Handler ν} {n : Nat}
    (positions : m.args.map HandlerArg.position = List.range n) :
    (m.declared owner handler).arity = n := by
  have ends : ((m.declared owner handler).parameters.map fun p => p.position + 1) =
      (List.range n).map (· + 1) := by
    rw [← positions]
    simp [HandlerMethod.declared, HandlerArg.parameter, Function.comp_def]
  rw [Declaration.arity_eq, ends]
  cases n with
  | zero => rfl
  | succ n =>
      have last : ((List.range (n + 1)).map (· + 1)).max? = some (n + 1) := by
        rw [List.max?_eq_some_iff]
        refine ⟨by simp, ?_⟩
        simp only [List.mem_map, List.mem_range]
        omega
      rw [last]
      rfl

/-- Each of many has one. -/
theorem exists_forall₂ {α β : Type} {R : α → β → Prop} {l : List α} (h : ∀ a ∈ l, ∃ b, R a b) :
    ∃ l', List.Forall₂ R l l' := by
  induction l with
  | nil => exact ⟨[], .nil⟩
  | cons a rest ih =>
      obtain ⟨⟨b, here⟩, others⟩ := List.forall_mem_cons.mp h
      obtain ⟨more, behind⟩ := ih others
      exact ⟨b :: more, .cons here behind⟩

theorem served {d : Dispatcher ν} {msg : Message} {m : HandlerMethod} {call : Call ν}
    {owner : String} {handler : Handler ν} {n : Nat}
    (positions : m.args.map HandlerArg.position = List.range n)
    (prepared : d.prepare msg = .ok (some call))
    (declared : call.subscriber.declaration = m.declared owner handler) :
    ∃ filling, Served d msg m call filling := by
  have filled := Dispatcher.prepare_slots prepared
  have arity : call.subscriber.declaration.arity = n := declared ▸ arity_declared positions
  have numbers : call.subscriber.declaration.parameters.map MqttRouting.Parameter.position =
      List.range n := by
    rw [declared, ← positions]
    simp [HandlerMethod.declared, HandlerArg.parameter, Function.comp_def]
  obtain ⟨length, holds, _⟩ := Dispatcher.fillSlots_ok (numbers ▸ List.nodup_range)
    (fun p mem => by simpa using Declaration.position_lt_arity mem) filled
  rw [List.length_replicate, arity] at length
  have each : ∀ a ∈ m.args, ∃ arg, call.args.slots[a.position]? = some (some arg) ∧
      d.argument call.subscriber msg a.parameter = .ok arg := by
    intro a mem
    exact holds a.parameter (by rw [declared]; exact List.mem_map_of_mem mem)
  obtain ⟨filling, same⟩ := exists_forall₂ each
  refine ⟨filling, ?_, same.imp fun _ _ both => ?_, same.imp fun _ _ both => both.2⟩
  swap
  · rw [Args.get?, both.1]
    rfl
  have count : m.args.length = n := by simpa using congrArg List.length positions
  apply List.ext_getElem?
  intro i
  by_cases less : i < n
  · have here : i < m.args.length := count ▸ less
    have there : i < filling.length := same.length_eq ▸ here
    have number : m.args[i].position = i := by
      have read : (m.args.map HandlerArg.position)[i]? = (List.range n)[i]? := by rw [positions]
      simpa [here, less] using read
    obtain ⟨present, _⟩ := same.get here there
    rw [List.get_eq_getElem, number] at present
    rw [present]
    simp [there]
  · rw [List.getElem?_eq_none (by omega), List.getElem?_eq_none]
    rw [List.length_map, ← same.length_eq, count]
    omega

/-! Closures. -/

/-- The names for the arguments of a handler are different ones. -/
theorem argNames_nodup {m : HandlerMethod} {n : Nat}
    (positions : m.args.map HandlerArg.position = List.range n) :
    (m.args.map Code.argName).Nodup := by
  have named : m.args.map Code.argName = (List.range n).map fun i => "__arg" ++ toString i := by
    rw [← positions, List.map_map]
    rfl
  rw [named]
  refine List.nodup_range.map fun i j same => ?_
  have spelled := congrArg String.toList same
  rw [String.toList_append, String.toList_append, List.append_cancel_left_eq] at spelled
  exact Nat.repr_inj.mp (String.toList_inj.mp spelled)

/-- Each name stands for the value that it has been bound to. -/
theorem filterMap_lookup {α : Type} {names : List String} {values : List α} (apart : names.Nodup)
    (same : values.length = names.length) :
    names.filterMap (List.lookup · (names.zip values).reverse) = values := by
  induction names generalizing values with
  | nil => exact (List.length_eq_zero_iff.mp same).symm
  | cons name rest ih =>
      obtain ⟨value, more, rfl⟩ := List.exists_cons_of_length_eq_add_one same
      obtain ⟨new, apart⟩ := List.nodup_cons.mp apart
      have same : more.length = rest.length := by simpa using same
      have unbound : List.lookup name (rest.zip more).reverse = none := by
        rw [List.lookup_eq_none_iff]
        rintro ⟨name', value'⟩ mem
        have present : name' ∈ rest := (List.of_mem_zip (List.mem_reverse.mp mem)).1
        simp [ne_of_mem_of_not_mem present new |>.symm]
      have others : rest.filterMap (List.lookup · ((name, value) :: rest.zip more).reverse) =
          rest.filterMap (List.lookup · (rest.zip more).reverse) := by
        refine List.filterMap_congr fun name' mem => ?_
        have other : name' ≠ name := ne_of_mem_of_not_mem mem new
        simp [List.lookup_append, List.lookup, beq_false_of_ne other]
      rw [List.zip_cons_cons, List.filterMap_cons, others, ih apart same, List.reverse_cons,
        List.lookup_append, unbound]
      simp

namespace HandlerMethod

theorem extracted_length {typeOf : HandlerArg → ArgType} {arguments : List HandlerArg} {args : Args}
    {values : List ArgValue} (h : (extracted typeOf arguments args).2 = .ok values) :
    values.length = arguments.length := by
  induction arguments generalizing args values with
  | nil =>
      cases h
      rfl
  | cons a rest ih =>
      rw [extracted] at h
      split at h
      · obtain ⟨more, found, rfl⟩ := map_ok_iff.mp h
        rw [List.length_cons, List.length_cons, ih found]
      · cases h

end HandlerMethod

namespace Code

/-- The lines of a handler take its arguments out, and bind them to their names. -/
theorem extract_lines (typeOf : List Token → ArgType) (scope : List (String × ArgValue))
    (arguments : List HandlerArg) (args : Args) :
    let found := HandlerMethod.extracted (typeOf ·.type) arguments args
    extract typeOf scope (arguments.map lineOf) args = (found.1,
      found.2.map fun values => ((arguments.map argName).zip values).reverse ++ scope) := by
  induction arguments generalizing scope args with
  | nil => rfl
  | cons a rest ih =>
      rw [List.map_cons, extract, HandlerMethod.extracted]
      dsimp only [lineOf]
      cases outcome : args.extract (typeOf a.type) a.position with
      | mk result left =>
          cases result with
          | error e => rfl
          | ok value =>
              dsimp only
              rw [ih]
              cases (HandlerMethod.extracted (typeOf ·.type) rest left).2 with
              | error e => rfl
              | ok values => simp [Except.map]

/-- The closure of a method is its handler. -/
theorem closureOf_handler {m : HandlerMethod} {n : Nat}
    (positions : m.args.map HandlerArg.position = List.range n) (object : Object ν) :
    (closureOf m).handler object =
      m.handlerOf (object.typeOf ·.type) (object.method m.name) := by
  have each (args : Args) : ((closureOf m).handler object).call args =
      (m.handlerOf (object.typeOf ·.type) (object.method m.name)).call args := by
    have outcome := HandlerMethod.extractAll_eq (object.typeOf ·.type) (object.method m.name) []
      m.args args
    refine Eq.trans ?_ outcome.symm
    rw [Closure.handler, closureOf]
    dsimp only
    rw [extract_lines]
    cases found : (HandlerMethod.extracted (object.typeOf ·.type) m.args args).2 with
    | error e => simp [Except.map]
    | ok values =>
        have length := HandlerMethod.extracted_length found
        have bound := filterMap_lookup (argNames_nodup positions) (by simpa using length)
        simp [Except.map, bound]
  exact congrArg Handler.mk (funext each)

/-- What a call of a closure comes to. All arguments are converted in their order and passed on,
or the first one that does not fit is the error; meanwhile no position is looked at twice, and
none is found empty. -/
def Called (closure : Closure) (object : Object ν) (m : HandlerMethod) (args : Args)
    (filling : List Arg) : Prop :=
  let arguments := List.zipWith (HandlerMethod.converted (object.typeOf ·.type)) m.args filling
  (∃ values : List ArgValue, arguments = values.map .ok ∧
    closure.positions object args = List.range m.args.length ∧
    (closure.handler object).call args = object.method m.name values) ∨
  ∃ (values : List ArgValue) (e : ArgumentError) (rest : List (Except ArgumentError ArgValue)),
    arguments = values.map .ok ++ .error e :: rest ∧
    closure.positions object args = List.range (values.length + 1) ∧
    (∀ position, e ≠ .missing position) ∧
    (closure.handler object).call args = .failed (.argument e)

theorem called {m : HandlerMethod} {d : Dispatcher ν} {msg : Message} {call : Call ν}
    {filling : List Arg} (positions : m.args.map HandlerArg.position = List.range m.args.length)
    (served : Served d msg m call filling) (object : Object ν) :
    Called (closureOf m) object m call.args filling := by
  have looked : (closureOf m).positions object call.args =
      (HandlerMethod.extracted (object.typeOf ·.type) m.args call.args).1 := by
    rw [Closure.positions, closureOf, extract_lines]
  have outcome := HandlerMethod.extractAll_eq (object.typeOf ·.type) (object.method m.name) []
    m.args call.args
  unfold Called
  rw [closureOf_handler positions, looked]
  obtain ⟨values, results, goes⟩ | ⟨values, e, rest, results, there, stops⟩ :=
    HandlerMethod.extracted_filled (object.typeOf ·.type) (positions ▸ List.nodup_range) served.held
  · refine .inl ⟨values, results, by rw [goes, positions], ?_⟩
    rw [goes] at outcome
    exact outcome
  · have few : values.length + 1 ≤ m.args.length := by
      have lengths := congrArg List.length results
      simp at lengths
      omega
    refine .inr ⟨values, e, rest, results, ?_, there, ?_⟩
    · rw [stops, positions, List.take_range, Nat.min_eq_left few]
    · rw [stops] at outcome
      exact outcome

end Code

/-! All of it. -/

theorem topics_ne_nil [Topic.Engine] {args : SubscribeArgs}
    (h : Analysis.checkSubscribe args = .ok ()) : args.topics ≠ [] := by
  rintro none
  simp [Analysis.checkSubscribe, none] at h

theorem handlers_ok [Topic.Engine] {b : ImplBlock} {found : List HandlerMethod}
    (h : b.handlers = .ok found) : Analysis.handlers b.items = .ok found := by
  unfold ImplBlock.handlers at h
  split at h
  · cases h
  · split at h
    · cases h
    · cases h
    · cases h
      assumption

/-- What is known of a handler, and of the code for it as it is read. -/
structure Wired (b : ImplBlock) (object : Object ν) (m : HandlerMethod) (chain : Code.Chain ν) :
    Prop where
  /-- It comes of a method with a `subscribe` attribute. Templates and options are those of the
  attribute, and its arguments those behind the receiver, each with its source. -/
  told : ∃ method attr delimiter inner leading options receiver arguments,
    .method method ∈ b.items ∧ Analysis.subscribeAttr? method = some attr ∧
    attr.args = .list delimiter inner ∧ SubscribeArgs.Written inner leading options ∧
    m.subscribe = .ofOptions leading options ∧ m.name = method.signature.name ∧
    method.signature.inputs = receiver :: arguments ∧ receiver.body.isReceiver = true ∧
    List.Forall₂ Analysis.Describes arguments m.args
  numbered : m.args.map HandlerArg.position = List.range m.args.length
  /-- The code makes the builder calls that are planned, with the handler that is planned. -/
  planned : chain.allCalls object =
    m.calls object.owner (m.handlerOf (object.typeOf ·.type) (object.method m.name))
  /-- The code looks at each position once, in order. -/
  lines : chain.closure.extractions.map Code.Extraction.position = List.range m.args.length
  declares : m.args.length ≤ 64 → Declaration.ofCalls (chain.allCalls object) =
    .ok (m.declared object.owner (chain.closure.handler object))
  refuses : 64 < m.args.length →
    Declaration.ofCalls (chain.allCalls object) = .error (.positionOutOfRange object.owner 64)
  serves : ∀ (d : Dispatcher ν) (msg : Message) (call : Call ν), d.prepare msg = .ok (some call) →
    call.subscriber.declaration = m.declared object.owner (chain.closure.handler object) →
    ∃ filling, Served d msg m call filling ∧
      Code.Called chain.closure object m call.args filling

/-- The closure that is read does what is planned. -/
theorem Wired.handler {b : ImplBlock} {object : Object ν} {m : HandlerMethod}
    {chain : Code.Chain ν} (h : Wired b object m chain) : chain.closure.handler object =
      m.handlerOf (object.typeOf ·.type) (object.method m.name) := by
  simpa [Code.Chain.allCalls, HandlerMethod.calls] using congrArg List.getLast? h.planned

/-- A handler comes of a method with a `subscribe` attribute. -/
theorem exists_handles [Topic.Engine] {b : ImplBlock} {found : List HandlerMethod}
    {m : HandlerMethod} (analyzed : b.handlers = .ok found) (mem : m ∈ found) :
    ∃ method attr, .method method ∈ b.items ∧ Analysis.subscribeAttr? method = some attr ∧
      Analysis.Handles method attr m := by
  have all := Analysis.handlers_ok.mp (handlers_ok analyzed)
  obtain ⟨⟨method, attr⟩, marked, handles⟩ := exists_of_forall₂ all mem
  obtain ⟨item, present, marks⟩ := List.mem_filterMap.mp marked
  cases item with
  | other tokens => cases marks
  | method m' =>
      obtain ⟨_, found, same⟩ := Option.map_eq_some_iff.mp marks
      cases same
      exact ⟨method, attr, present, found, handles⟩

namespace Analysis.Handles

variable [Topic.Engine] {method : Method} {attr : Attr} {m : HandlerMethod}

/-- The arguments of a handler are those behind the receiver, in their order. -/
theorem described (h : Handles method attr m) (sound : method.signature.Sound) :
    ∃ receiver arguments, method.signature.inputs = receiver :: arguments ∧
      receiver.body.isReceiver = true ∧ List.Forall₂ Describes arguments m.args ∧
      m.args.map HandlerArg.position = List.range m.args.length := by
  obtain ⟨receiver, arguments, inputs, receives⟩ := checkSignature_ok h.signature
  have placed : ∀ input ∈ arguments, input.body.isReceiver = false := by
    simpa [inputs] using sound.placed
  have numbered := h.args
  rw [inputs, List.drop_one, List.tail_cons] at numbered
  obtain ⟨described, positions⟩ := handlerArgs_ok placed numbered
  rw [← List.range_eq_range', described.length_eq] at positions
  exact ⟨receiver, arguments, inputs, receives, described, positions⟩

theorem unbroken (h : Handles method attr m) (sound : method.signature.Sound) :
    ∀ a ∈ m.args, Unbroken a.type := by
  obtain ⟨receiver, arguments, inputs, -, described, -⟩ := h.described sound
  intro a mem
  obtain ⟨input, present, describes⟩ := exists_of_forall₂ described mem
  obtain ⟨pattern, typed⟩ := describes.typed
  have type := sound.unbroken input (inputs ▸ List.mem_cons_of_mem _ present)
  rwa [typed] at type

theorem genuine (h : Handles method attr m) (sound : method.signature.Sound) :
    ∀ s ∈ m.steps, ∀ t ∈ s.texts, t.Genuine := by
  obtain ⟨_, _, _, _, described, _⟩ := h.described sound
  obtain ⟨_, _, _, read⟩ := h.subscribe
  obtain ⟨leading, options, written, adds⟩ := SubscribeArgs.ofTokens_ok.mp read
  refine Code.steps_genuine written adds fun a mem => ?_
  obtain ⟨_, _, describes⟩ := exists_of_forall₂ described mem
  obtain ⟨_, _, _, _, transforms⟩ := describes.sourced
  exact transforms.genuine

/-- Only payloads have a transform. -/
theorem plain (h : Handles method attr m) (sound : method.signature.Sound) :
    ∀ a ∈ m.args, a.kind ≠ .payload → a.transform = none := by
  obtain ⟨_, _, _, _, described, _⟩ := h.described sound
  intro a mem other
  obtain ⟨_, _, describes⟩ := exists_of_forall₂ described mem
  obtain ⟨_, _, _, _, ⟨_, none⟩ | ⟨payload, _⟩⟩ := describes.sourced
  · exact none
  · exact absurd payload other

end Analysis.Handles

/-- The code for a handler of a block is wired to it. -/
theorem wired [Topic.Engine] {tokens : List Token} {b : ImplBlock} {found : List HandlerMethod}
    {m : HandlerMethod} (parsed : ImplBlock.ofTokens tokens = .ok b)
    (analyzed : b.handlers = .ok found) (mem : m ∈ found) (object : Object ν) :
    Wired b object m ⟨m.steps.flatMap Step.calls, Code.closureOf m⟩ := by
  obtain ⟨method, attr, present, subscribed, handles⟩ := exists_handles analyzed mem
  have sound : method.signature.Sound := ImplBlock.ofTokens_sound parsed present
  obtain ⟨receiver, arguments, inputs, receives, described, positions⟩ := handles.described sound
  obtain ⟨delimiter, inner, args, read⟩ := handles.subscribe
  obtain ⟨leading, options, written, adds⟩ := SubscribeArgs.ofTokens_ok.mp read
  have handler := Code.closureOf_handler positions object
  have planned : (⟨m.steps.flatMap Step.calls, Code.closureOf m⟩ : Code.Chain ν).allCalls object =
      m.calls object.owner ((Code.closureOf m).handler object) := rfl
  obtain ⟨few, many⟩ := m.declaration_eq object.owner ((Code.closureOf m).handler object)
    (handles.plain sound) (topics_ne_nil handles.checked) positions
  exact {
    told := ⟨method, attr, delimiter, inner, leading, options, receiver, arguments, present,
      subscribed, args, written, adds, handles.name, inputs, receives, described⟩
    numbered := positions
    planned := planned.trans (congrArg (m.calls object.owner) handler)
    lines := by rw [← positions, Code.closureOf, List.map_map]; rfl
    declares := few
    refuses := many
    serves := fun d msg call prepared declared =>
      let ⟨filling, served⟩ := served positions prepared declared
      ⟨filling, served, Code.called positions served object⟩ }

namespace Doorbell

/-- A block with one method, `ring`, which takes the payload and the topic of a message. -/
def source : List Token :=
  [.ident "impl", .ident "Doorbell", .group .brace
    [.punct '#' false, .group .bracket [.ident "subscribe", .group .paren
      [.literal "\"door/+\"", .punct ',' false, .ident "qos", .punct '=' false, .literal "1"]],
    .ident "async", .ident "fn", .ident "ring", .group .paren
      [.punct '&' false, .ident "self", .punct ',' false,
        .punct '#' false, .group .bracket [.ident "payload"],
        .ident "body", .punct ':' false, .ident "Bytes", .punct ',' false,
        .punct '#' false, .group .bracket [.ident "topic"],
        .ident "name", .punct ':' false, .ident "String"],
    .group .brace []]]

/-- What is found there. -/
def ring : HandlerMethod where
  name := "ring"
  subscribe := { topics := [⟨"\"door/+\"", "door/+"⟩], qos := some .atLeastOnce }
  args := [⟨0, .payload, [.ident "Bytes"], none⟩, ⟨1, .topic, [.ident "String"], none⟩]

/-- Tells how many values its methods have got. -/
def doorbell : Object Nat where
  owner := "Doorbell"
  typeOf type := if type = [.ident "String"] then .text else .bytes
  method _ values := .note values.length .done

theorem source_read : ∃ b, ImplBlock.ofTokens source = .ok b ∧ b.handlers = .ok [ring] := by
  have read : ((ImplBlock.ofTokens source).toOption.bind fun b => b.handlers.toOption) =
      some [ring] := by
    decide +kernel
  obtain ⟨b, parsed, analyzed⟩ := Option.bind_eq_some_iff.mp read
  exact ⟨b, toOption_eq_some_iff.mp parsed, toOption_eq_some_iff.mp analyzed⟩

end Doorbell

end Attribute
end MqttRouting
