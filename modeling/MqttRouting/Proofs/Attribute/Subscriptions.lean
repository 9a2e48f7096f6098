import MqttRouting.Proofs.Attribute.Wiring
import MqttRouting.Topic.Engine.Sized

/-!
Several `subscribe` attributes on one method. All of them are taken off, and the first is what
the method is declared by. The others are neither read nor checked: a block without them comes
to the same code.
-/

namespace MqttRouting.Attribute

variable {ν : Type}

open Analysis (subscribeName)

/-- The `subscribe` attributes of a method, in front of it and inside of it. -/
def Method.subscriptions (m : Method) : List Attr :=
  (m.attrs ++ m.innerAttrs).filter (·.isNamed subscribeName)

/-- The templates of all `subscribe` attributes of a method, where each can be read and passes
its check. -/
def Method.Subscribes [Topic.Engine] (m : Method) (templates : List String) : Prop :=
  ∃ args, List.Forall₂ (fun (a : Attr) args => Analysis.subscribeArgs a.args = .ok args ∧
      Analysis.checkSubscribe args = .ok ()) m.subscriptions args ∧
    templates = (args.flatMap SubscribeArgs.topics).map TextLiteral.value

def Item.method? : Item → Option Method
  | .method m => some m
  | .other _ => none

/-- The methods with a `subscribe` attribute. -/
def subscribed (items : List Item) : List Method :=
  (items.filterMap Item.method?).filter (!·.subscriptions.isEmpty)

/-! Attributes without all `subscribe` attributes but the first. -/

def keepFirst (seen : Bool) : List Attr → List Attr
  | [] => []
  | a :: rest =>
    if a.isNamed subscribeName then
      if seen then keepFirst true rest else a :: keepFirst true rest
    else a :: keepFirst seen rest

def Method.firstOnly (m : Method) : Method :=
  { m with
    attrs := keepFirst false m.attrs
    innerAttrs := keepFirst (m.attrs.any (·.isNamed subscribeName)) m.innerAttrs }

def Item.firstOnly : Item → Item
  | .method m => .method m.firstOnly
  | .other tokens => .other tokens

def ImplBlock.firstOnly (b : ImplBlock) : ImplBlock :=
  { b with items := b.items.map Item.firstOnly }

theorem keepFirst_append (seen : Bool) (front back : List Attr) :
    keepFirst seen (front ++ back) =
      keepFirst seen front ++ keepFirst (seen || front.any (·.isNamed subscribeName)) back := by
  induction front generalizing seen with
  | nil => simp [keepFirst]
  | cons a front ih =>
      cases named : a.isNamed subscribeName <;> cases seen <;> simp [keepFirst, named, ih]

theorem keepFirst_others (seen : Bool) (attrs : List Attr) :
    (keepFirst seen attrs).filter (!·.isNamed subscribeName) =
      attrs.filter (!·.isNamed subscribeName) := by
  induction attrs generalizing seen with
  | nil => rfl
  | cons a attrs ih =>
      cases named : a.isNamed subscribeName <;> cases seen <;> simp [keepFirst, named, ih]

theorem keepFirst_true (attrs : List Attr) :
    (keepFirst true attrs).filter (·.isNamed subscribeName) = [] := by
  induction attrs with
  | nil => rfl
  | cons a attrs ih => cases named : a.isNamed subscribeName <;> simp [keepFirst, named, ih]

theorem keepFirst_take (attrs : List Attr) :
    (keepFirst false attrs).filter (·.isNamed subscribeName) =
      (attrs.filter (·.isNamed subscribeName)).take 1 := by
  induction attrs with
  | nil => rfl
  | cons a attrs ih =>
      cases named : a.isNamed subscribeName with
      | true => simp [keepFirst, named, keepFirst_true]
      | false => simp [keepFirst, named, ih]

theorem firstOnly_subscriptions (m : Method) :
    m.firstOnly.subscriptions = m.subscriptions.take 1 := by
  rw [Method.subscriptions, Method.subscriptions, ← keepFirst_take, keepFirst_append]
  rfl

theorem subscribeAttr?_eq (m : Method) : Analysis.subscribeAttr? m = m.subscriptions.head? :=
  List.head?_filter.symm

theorem firstOnly_subscribeAttr? (m : Method) :
    Analysis.subscribeAttr? m.firstOnly = Analysis.subscribeAttr? m := by
  rw [subscribeAttr?_eq, subscribeAttr?_eq, firstOnly_subscriptions]
  cases m.subscriptions <;> rfl

theorem keepFirst_none {attrs : List Attr} (none : ∀ a ∈ attrs, a.isNamed subscribeName = false)
    (seen : Bool) : keepFirst seen attrs = attrs := by
  induction attrs with
  | nil => rfl
  | cons a attrs ih =>
      obtain ⟨other, others⟩ := List.forall_mem_cons.mp none
      simp [keepFirst, other, ih others]

/-- What is left when all markers are taken off is the same. -/
theorem firstOnly_withoutMarkers (m : Method) : m.firstOnly.withoutMarkers = m.withoutMarkers := by
  rw [Method.withoutMarkers, Method.withoutMarkers, firstOnly_subscribeAttr?]
  cases marked : Analysis.subscribeAttr? m with
  | some first => simp only [Option.isSome_some, if_true, Method.firstOnly, keepFirst_others]
  | none =>
      have none : ∀ a ∈ m.attrs ++ m.innerAttrs, a.isNamed subscribeName = false := by
        intro a mem
        exact Bool.eq_false_iff.mpr (List.find?_eq_none.mp marked a mem)
      obtain ⟨outer, inner⟩ := List.forall_mem_append.mp none
      simp only [Option.isSome_none, Method.firstOnly, keepFirst_none outer, keepFirst_none inner]

theorem firstOnly_handlers [Topic.Engine] (items : List Item) :
    Analysis.handlers (items.map Item.firstOnly) = Analysis.handlers items := by
  induction items with
  | nil => rfl
  | cons item rest ih =>
      cases item with
      | other tokens => exact ih
      | method m =>
          simp only [List.map_cons, Item.firstOnly, Analysis.handlers, firstOnly_subscribeAttr?, ih]
          rfl

theorem firstOnly_complete (b : ImplBlock) (found : List HandlerMethod) :
    Generated.complete b.firstOnly found = Generated.complete b found := by
  have same (item : Item) : item.firstOnly.withoutMarkers = item.withoutMarkers := by
    cases item with
    | other tokens => rfl
    | method m => exact congrArg Item.method (firstOnly_withoutMarkers m)
  have bare : b.firstOnly.withoutMarkers = b.withoutMarkers := by
    simp [ImplBlock.withoutMarkers, ImplBlock.firstOnly, Function.comp_def, same]
  rw [Generated.complete, bare]
  rfl

/-! What is taken off. -/

theorem subscriptions_perm (m : Method) :
    (m.attrs ++ m.innerAttrs).Perm
      (m.subscriptions ++ (m.withoutMarkers.attrs ++ m.withoutMarkers.innerAttrs)) := by
  rw [Method.withoutMarkers, subscribeAttr?_eq]
  cases taken : m.subscriptions with
  | nil => exact .refl _
  | cons first further =>
      rw [← taken, taken, List.head?_cons, Option.isSome_some, if_pos rfl, ← List.filter_append,
        ← taken]
      exact (List.filter_append_perm _ _).symm

theorem withoutMarkers_subscriptions (m : Method) : m.withoutMarkers.subscriptions = [] := by
  rw [Method.withoutMarkers, subscribeAttr?_eq]
  cases taken : m.subscriptions with
  | nil => exact taken
  | cons first further => simp [Method.subscriptions]

/-! What is declared. -/

namespace HandlerMethod

theorem foldl_parameters_topics (args : List HandlerArg) (b : Builder ν) :
    (((args.map fun a => Step.parameter a.position a.kind a.transform).flatMap Step.calls).foldl
      Builder.apply b).topics = b.topics := by
  induction args generalizing b with
  | nil => rfl
  | cons a rest ih =>
      rw [List.map_cons, List.flatMap_cons, List.foldl_append, ih]
      obtain ⟨position, kind, type, transform⟩ := a
      cases kind <;> cases transform <;> rfl

theorem run_calls_topics (m : HandlerMethod) (owner : String) (handler : Handler ν) :
    (Builder.run (m.calls owner handler)).topics = m.subscribe.topics.map TextLiteral.value := by
  unfold Builder.run calls steps
  rw [List.foldl_append, List.cons_append, List.flatMap_cons, List.foldl_append,
    List.flatMap_append, List.foldl_append, foldl_topics, foldl_options _ ⟨rfl, rfl, rfl, rfl⟩]
  exact foldl_parameters_topics m.args _

end HandlerMethod

/-- The templates of the first attribute are those of all only where there is no other. -/
theorem subscribes_iff [Topic.Engine] {m : Method} {h : HandlerMethod} {first : Attr}
    {further : List Attr}
    (written : m.subscriptions = first :: further) (handles : Analysis.Handles m first h) :
    m.Subscribes (h.subscribe.topics.map TextLiteral.value) ↔ further = [] := by
  have read := Analysis.subscribeArgs_ok.mpr handles.subscribe
  rw [Method.Subscribes, written]
  constructor
  · rintro ⟨_, all, same⟩
    cases all with
    | @cons _ args _ more here others =>
        cases read.symm.trans here.1
        have none : more.flatMap SubscribeArgs.topics = [] := by
          have lengths := congrArg List.length same
          simp only [List.flatMap_cons, List.length_map, List.length_append] at lengths
          exact List.length_eq_zero_iff.mp (by omega)
        cases others with
        | nil => rfl
        | cons there _ =>
            rw [List.flatMap_cons, List.append_eq_nil_iff] at none
            exact absurd none.1 (topics_ne_nil there.2)
  · rintro rfl
    exact ⟨[h.subscribe], .cons ⟨read, handles.checked⟩ .nil, by simp⟩

theorem handlers_subscribed [Topic.Engine] {items : List Item} {found : List HandlerMethod}
    (handled : Analysis.handlers items = .ok found) :
    List.Forall₂ (fun m h => ∃ first further, m.subscriptions = first :: further ∧
      Analysis.Handles m first h) (subscribed items) found := by
  rw [Analysis.handlers_ok] at handled
  induction items generalizing found with
  | nil =>
      cases handled
      exact .nil
  | cons item rest ih =>
      cases item with
      | other tokens => exact ih handled
      | method m =>
          have taken := subscribeAttr?_eq m
          cases written : m.subscriptions with
          | nil =>
              have skipped : subscribed (.method m :: rest) = subscribed rest := by
                simp [subscribed, Item.method?, written]
              have marks : Analysis.marked? (.method m) = none := by
                rw [Analysis.marked?, taken, written]
                rfl
              rw [skipped]
              rw [List.filterMap_cons_none marks] at handled
              exact ih handled
          | cons first further =>
              have kept : subscribed (.method m :: rest) = m :: subscribed rest := by
                simp [subscribed, Item.method?, written]
              have marks : Analysis.marked? (.method m) = some (m, first) := by
                rw [Analysis.marked?, taken, written]
                rfl
              rw [kept]
              rw [List.filterMap_cons_some marks] at handled
              cases handled with
              | cons here others => exact .cons ⟨first, further, written, here⟩ (ih others)

/-- Of the `subscribe` attributes that are taken off a method the first is declared, and the
others vanish. -/
theorem first_subscription_declared [Topic.Engine] {b : ImplBlock} {found : List HandlerMethod}
    (analyzed : b.handlers = .ok found) (owner : String) (handler : Handler ν) :
    (∀ m, .method m ∈ b.items → m.withoutMarkers.subscriptions = [] ∧
      (m.attrs ++ m.innerAttrs).Perm
        (m.subscriptions ++ (m.withoutMarkers.attrs ++ m.withoutMarkers.innerAttrs))) ∧
    List.Forall₂ (fun m h => ∃ first further, m.subscriptions = first :: further ∧
        Analysis.Handles m first h ∧
        (Builder.run (h.calls owner handler)).topics =
          h.subscribe.topics.map TextLiteral.value ∧
        (m.Subscribes (Builder.run (h.calls owner handler)).topics ↔ further = []))
      (subscribed b.items) found ∧
    b.firstOnly.handlers = .ok found ∧
    Generated.complete b.firstOnly found = Generated.complete b found := by
  refine ⟨fun m _ => ⟨withoutMarkers_subscriptions m, subscriptions_perm m⟩, ?_, ?_,
    firstOnly_complete b found⟩
  · refine (handlers_subscribed (handlers_ok analyzed)).imp ?_
    rintro m h ⟨first, further, written, handles⟩
    rw [h.run_calls_topics owner handler]
    exact ⟨first, further, written, handles, rfl, subscribes_iff written handles⟩
  · rw [ImplBlock.handlers, ImplBlock.firstOnly, firstOnly_handlers]
    exact analyzed

namespace Doubled

/-- A block with one method, `on_a`, which has two `subscribe` attributes. The template of the
second is no topic. -/
def source : List Token :=
  [.ident "impl", .ident "Service", .group .brace
    [.punct '#' false, .group .bracket [.ident "subscribe", .group .paren [.literal "\"a\""]],
      .punct '#' false, .group .bracket [.ident "subscribe", .group .paren
        [.literal "\"b#/c\""]],
      .ident "async", .ident "fn", .ident "on_a", .group .paren
        [.punct '&' false, .ident "self"],
      .group .brace []]]

def block? : Option ImplBlock := (ImplBlock.ofTokens source).toOption

/-- What is read in each `subscribe` attribute of each method. -/
def read (b : ImplBlock) : List (List (Option SubscribeArgs)) :=
  (b.items.filterMap Item.method?).map fun m =>
    m.subscriptions.map fun a => (Analysis.subscribeArgs a.args).toOption

theorem source_read : ∃ b m h first second,
    ImplBlock.ofTokens source = .ok b ∧ b.handlers = .ok [h] ∧
    h.subscribe.topics.map TextLiteral.value = ["a"] ∧ .method m ∈ b.items ∧
    m.subscriptions = [first, second] ∧
    Analysis.subscribeArgs second.args = .ok { topics := [⟨"\"b#/c\"", "b#/c"⟩] } := by
  have attributes : block?.map read =
      some [[some { topics := [⟨"\"a\"", "a"⟩] },
        some { topics := [⟨"\"b#/c\"", "b#/c"⟩] }]] := by
    decide +kernel
  have declared : (block?.bind fun b => b.handlers.toOption).map
      (·.map fun h => h.subscribe.topics.map TextLiteral.value) = some [["a"]] := by
    decide +kernel
  obtain ⟨b, parsed, attributes⟩ := Option.map_eq_some_iff.mp attributes
  obtain ⟨found, analyzed, declared⟩ := Option.map_eq_some_iff.mp declared
  rw [parsed, Option.bind_some] at analyzed
  obtain ⟨h, rfl, topics⟩ := List.map_eq_singleton_iff.mp declared
  obtain ⟨m, methods, attributes⟩ := List.map_eq_singleton_iff.mp attributes
  obtain ⟨first, rest, written, _, attributes⟩ := List.map_eq_cons_iff.mp attributes
  obtain ⟨second, rfl, told⟩ := List.map_eq_singleton_iff.mp attributes
  obtain ⟨item, present, same⟩ := List.mem_filterMap.mp (methods ▸ List.mem_singleton_self m)
  cases item with
  | other tokens => cases same
  | method m' =>
      cases same
      exact ⟨b, m, h, first, second, toOption_eq_some_iff.mp parsed,
        toOption_eq_some_iff.mp analyzed, topics, present, written, toOption_eq_some_iff.mp told⟩

theorem second_refused :
    Analysis.checkSubscribe { topics := [⟨"\"b#/c\"", "b#/c"⟩] } =
      .error (.template (.mixedLevel "b#")) := by
  decide +kernel

/-- The method is declared with its first attribute, as if there were no second. -/
theorem on_a_declared_by_first : ∃ b m h,
    ImplBlock.ofTokens source = .ok b ∧ b.handlers = .ok [h] ∧ .method m ∈ b.items ∧
    m.subscriptions.length = 2 ∧ m.withoutMarkers.subscriptions = [] ∧
    (Builder.run (h.calls "Service" (Handler.idle : Handler Unit))).topics = ["a"] ∧
    b.firstOnly.handlers = .ok [h] := by
  obtain ⟨b, m, h, first, second, parsed, analyzed, topics, present, written, _⟩ := source_read
  obtain ⟨removed, declared, alone, _⟩ :=
    first_subscription_declared analyzed "Service" (Handler.idle : Handler Unit)
  obtain ⟨_, _, ⟨_, _, _, _, called, _⟩, _⟩ := List.forall₂_cons_right_iff.mp declared
  exact ⟨b, m, h, parsed, analyzed, present, by rw [written]; rfl, (removed m present).1,
    called.trans topics, alone⟩

/-- The second attribute is taken off and appears nowhere: not in the one declaration, and not
in an error either, though its template is no topic. -/
theorem second_subscription_vanishes : ∃ b m h first second args,
    ImplBlock.ofTokens source = .ok b ∧ b.handlers = .ok [h] ∧ .method m ∈ b.items ∧
    m.subscriptions = [first, second] ∧ m.withoutMarkers.subscriptions = [] ∧
    (Builder.run (h.calls "Service" (Handler.idle : Handler Unit))).topics = ["a"] ∧
    Analysis.subscribeArgs second.args = .ok args ∧
    args.topics.map TextLiteral.value = ["b#/c"] ∧
    Analysis.checkSubscribe args = .error (.template (.mixedLevel "b#")) ∧
    ∀ templates, ¬ m.Subscribes templates := by
  obtain ⟨b, m, h, first, second, parsed, analyzed, topics, present, written, told⟩ := source_read
  refine ⟨b, m, h, first, second, _, parsed, analyzed, present, written,
    withoutMarkers_subscriptions m, (h.run_calls_topics "Service" _).trans topics, told, rfl,
    second_refused, ?_⟩
  rintro templates ⟨_, all, _⟩
  rw [written] at all
  obtain ⟨_, _, _, others, rfl⟩ := List.forall₂_cons_left_iff.mp all
  obtain ⟨args, _, ⟨read, checked⟩, _⟩ := List.forall₂_cons_left_iff.mp others
  obtain rfl : _ = args := Except.ok.inj (told.symm.trans read)
  rw [second_refused] at checked
  cases checked

end Doubled

end MqttRouting.Attribute
