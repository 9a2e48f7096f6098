import Mathlib.Data.List.Forall2
import Mathlib.Data.List.Induction
import MqttRouting.Attribute.Analysis
import MqttRouting.Proofs.Except

/-!
What attributes say. The options of a `subscribe` attribute add up in their order, each argument
of a handler has one attribute that tells its source, and a handler comes of each method with a
`subscribe` attribute, with its arguments numbered from left to right.
-/

namespace MqttRouting.Attribute

theorem exists_of_forall₂ {α β : Type} {R : α → β → Prop} {l : List α} {l' : List β}
    (h : List.Forall₂ R l l') {b : β} (mem : b ∈ l') : ∃ a ∈ l, R a b := by
  induction h with
  | nil => cases mem
  | cons here _ ih =>
      rcases List.mem_cons.mp mem with rfl | mem
      · exact ⟨_, List.mem_cons_self, here⟩
      · obtain ⟨a, present, there⟩ := ih mem
        exact ⟨a, List.mem_cons_of_mem _ present, there⟩

/-! Texts. -/

/-- A literal has the value that is written in it. -/
def TextLiteral.Genuine (t : TextLiteral) : Prop := Literal.text? t.source = some t

theorem Stretch.text?_genuine {token : Token} {t : TextLiteral} (h : text? token = some t) :
    t.Genuine := by
  cases token with
  | literal source =>
      have read : Literal.text? source = some t := h
      have same : t.source = source := by
        unfold Literal.text? at read
        split at read <;> cases read <;> rfl
      rw [TextLiteral.Genuine, same, read]
  | ident | punct | group => cases h

theorem Stretch.text_genuine {last : Bool} {tokens rest : List Token} {t : TextLiteral}
    (h : text last tokens = .ok (t, rest)) : t.Genuine := by
  unfold text at h
  split at h
  · split at h
    · rename_i found
      cases h
      exact text?_genuine found
    · cases h
  · cases h

theorem Stretch.finish_ok {α : Type} {value result : α} {tokens : List Token}
    (h : finish value tokens = .ok result) : value = result := by
  cases tokens with
  | nil =>
      cases h
      rfl
  | cons => cases h

theorem Stretch.templates_genuine {stretches : List (List Token × Bool)} {found : List TextLiteral}
    (h : templates stretches = .ok found) : ∀ t ∈ found, t.Genuine := by
  induction stretches generalizing found with
  | nil =>
      cases h
      exact nofun
  | cons stretch rest ih =>
      obtain ⟨⟨t, left⟩, read, h⟩ := bind_ok_iff.mp h
      obtain ⟨t', ended, h⟩ := bind_ok_iff.mp h
      obtain ⟨more, others, h⟩ := bind_ok_iff.mp h
      cases h
      cases finish_ok ended
      exact List.forall_mem_cons.mpr ⟨text_genuine read, ih others⟩

/-! Options. -/

namespace SubscribeOption

def texts : SubscribeOption → List TextLiteral
  | .share (.group name) => [name]
  | .transform name => [name]
  | .topics templates => templates
  | .queue _ | .share .disabled | .qos _ => []

theorem genuine_of_option {last : Bool} {tokens : List Token} {o : SubscribeOption}
    (h : Stretch.option last tokens = .ok o) : ∀ t ∈ o.texts, t.Genuine := by
  unfold Stretch.option at h
  split at h
  · split at h
    · cases h
    · unfold Stretch.namedOption at h
      split at h
      · split at h
        · obtain ⟨_, _, h⟩ := bind_ok_iff.mp h
          cases Stretch.finish_ok h
          exact nofun
        · cases Stretch.finish_ok h
          exact nofun
      · cases Stretch.finish_ok h
        exact nofun
      · obtain ⟨_, _, h⟩ := bind_ok_iff.mp h
        obtain ⟨_, read, h⟩ := bind_ok_iff.mp h
        cases Stretch.finish_ok h
        exact List.forall_mem_singleton.mpr (Stretch.text_genuine read)
      · obtain ⟨_, _, h⟩ := bind_ok_iff.mp h
        obtain ⟨_, read, h⟩ := bind_ok_iff.mp h
        cases Stretch.finish_ok h
        exact List.forall_mem_singleton.mpr (Stretch.text_genuine read)
      · obtain ⟨_, _, h⟩ := bind_ok_iff.mp h
        obtain ⟨_, _, h⟩ := bind_ok_iff.mp h
        cases Stretch.finish_ok h
        exact nofun
      · obtain ⟨_, _, h⟩ := bind_ok_iff.mp h
        split at h
        · obtain ⟨_, read, h⟩ := bind_ok_iff.mp h
          cases Stretch.finish_ok h
          exact Stretch.templates_genuine read
        · unfold Stretch.missing at h
          split at h <;> cases h
      · cases h
  · cases h

def queue? : SubscribeOption → Option Bool
  | .queue on => some on
  | .share _ | .transform _ | .qos _ | .topics _ => none

def share? : SubscribeOption → Option ShareOption
  | .share choice => some choice
  | .queue _ | .transform _ | .qos _ | .topics _ => none

def transform? : SubscribeOption → Option TextLiteral
  | .transform name => some name
  | .queue _ | .share _ | .qos _ | .topics _ => none

def qos? : SubscribeOption → Option Qos
  | .qos q => some q
  | .queue _ | .share _ | .transform _ | .topics _ => none

def templates : SubscribeOption → List TextLiteral
  | .topics templates => templates
  | .queue _ | .share _ | .transform _ | .qos _ => []

end SubscribeOption

namespace SubscribeArgs

/-- What a template and the options behind it amount to: all templates in their order, and the
last of each other option. -/
def ofOptions (leading : Option TextLiteral) (options : List SubscribeOption) : SubscribeArgs where
  topics := leading.toList ++ options.flatMap SubscribeOption.templates
  queue := (options.filterMap SubscribeOption.queue?).getLast?
  share := (options.filterMap SubscribeOption.share?).getLast?
  transform := (options.filterMap SubscribeOption.transform?).getLast?
  qos := (options.filterMap SubscribeOption.qos?).getLast?

theorem foldl_apply (leading : Option TextLiteral) (options : List SubscribeOption) :
    options.foldl apply { topics := leading.toList } = ofOptions leading options := by
  induction options using List.reverseRecOn with
  | nil => simp [ofOptions]
  | append_singleton front last ih =>
      rw [List.foldl_concat, ih]
      cases last <;>
        simp [ofOptions, apply, SubscribeOption.templates, SubscribeOption.queue?,
          SubscribeOption.share?, SubscribeOption.transform?, SubscribeOption.qos?]

/-- A stretch between commas is an option. The last one ends where the input ends. -/
def States (stretch : List Token × Bool) (o : SubscribeOption) : Prop :=
  Stretch.option (!stretch.2) stretch.1 = .ok o

/-- A template may come before the options. -/
inductive Opens : Option TextLiteral → List (List Token × Bool) → List (List Token × Bool) → Prop
    where
  | options (stretches : List (List Token × Bool)) : Opens none stretches stretches
  | template {token : Token} {literal : TextLiteral} (comma : Bool)
      (rest : List (List Token × Bool)) :
      Stretch.text? token = some literal → Opens (some literal) (([token], comma) :: rest) rest

/-- What is written in an attribute. -/
def Written (inner : List Token) (leading : Option TextLiteral) (options : List SubscribeOption) :
    Prop :=
  ∃ stretches, Opens leading (commaSeparated inner) stretches ∧
    List.Forall₂ States stretches options

/-- All texts that are written are genuine. -/
theorem Written.genuine {inner : List Token} {leading : Option TextLiteral}
    {options : List SubscribeOption} (h : Written inner leading options) :
    (∀ t ∈ leading, t.Genuine) ∧ ∀ o ∈ options, ∀ t ∈ o.texts, t.Genuine := by
  obtain ⟨stretches, opens, stated⟩ := h
  generalize commaSeparated inner = all at opens
  constructor
  · rintro t ⟨⟩
    cases opens with
    | template comma rest text => exact Stretch.text?_genuine text
  · clear opens
    induction stated with
    | nil => exact nofun
    | cons stated _ ih =>
        exact List.forall_mem_cons.mpr ⟨SubscribeOption.genuine_of_option stated, ih⟩

theorem readOptions_ok {args result : SubscribeArgs} {stretches : List (List Token × Bool)} :
    args.readOptions stretches = .ok result ↔
      ∃ options, List.Forall₂ States stretches options ∧ result = options.foldl apply args := by
  induction stretches generalizing args with
  | nil => simp [readOptions, eq_comm]
  | cons stretch rest ih =>
      obtain ⟨stretch, comma⟩ := stretch
      rw [readOptions]
      cases first : Stretch.option (!comma) stretch with
      | error e =>
          simp only [reduceCtorEq, false_iff]
          rintro ⟨_, options, _⟩
          cases options with
          | cons stated _ => cases first.symm.trans stated
      | ok o =>
          simp only
          rw [ih]
          constructor
          · rintro ⟨options, stated, rfl⟩
            exact ⟨o :: options, .cons first stated, rfl⟩
          · rintro ⟨_, stated, rfl⟩
            cases stated with
            | cons stated others =>
                cases first.symm.trans stated
                exact ⟨_, others, rfl⟩

theorem leading?_of_states {stretches : List (List Token × Bool)} {options : List SubscribeOption}
    (stated : List.Forall₂ States stretches options) : leading? stretches = none := by
  cases stated with
  | nil => rfl
  | @cons stretch o rest _ stated _ =>
      obtain ⟨tokens, comma⟩ := stretch
      unfold States Stretch.option at stated
      split at stated
      · rename_i name left
        dsimp only at left
        subst left
        rfl
      · cases stated

theorem leading?_some {all : List (List Token × Bool)} {template : TextLiteral}
    {left : List Token} (h : leading? all = some (template, left)) :
    ∃ token comma rest, all = (token :: left, comma) :: rest ∧
      Stretch.text? token = some template := by
  unfold leading? at h
  split at h
  · obtain ⟨literal, found, same⟩ := Option.map_eq_some_iff.mp h
    cases same
    exact ⟨_, _, _, rfl, found⟩
  · cases h

/-- An attribute is read exactly if something is written in it, and as what that amounts to. -/
theorem ofTokens_ok {inner : List Token} {args : SubscribeArgs} :
    ofTokens inner = .ok args ↔
      ∃ leading options, Written inner leading options ∧ args = ofOptions leading options := by
  unfold ofTokens Written
  dsimp only
  generalize commaSeparated inner = all
  constructor
  · intro h
    cases front : leading? all with
    | none =>
        rw [front] at h
        obtain ⟨options, stated, rfl⟩ := readOptions_ok.mp h
        exact ⟨none, options, ⟨all, .options all, stated⟩, foldl_apply none options⟩
    | some found =>
        obtain ⟨template, left⟩ := found
        obtain ⟨token, comma, rest, rfl, text⟩ := leading?_some front
        rw [front] at h
        cases left with
        | nil =>
            obtain ⟨options, stated, rfl⟩ := readOptions_ok.mp h
            exact ⟨some template, options, ⟨rest, .template comma rest text, stated⟩,
              foldl_apply (some template) options⟩
        | cons _ _ => cases h
  · rintro ⟨leading, options, ⟨stretches, opens, stated⟩, rfl⟩
    rw [← foldl_apply]
    cases opens with
    | options =>
        rw [leading?_of_states stated]
        exact readOptions_ok.mpr ⟨options, stated, rfl⟩
    | template comma rest text =>
        simp only [leading?, text, Option.map_some]
        exact readOptions_ok.mpr ⟨options, stated, rfl⟩

end SubscribeArgs

/-! Arguments. -/

namespace Analysis

/-- The transform of a payload, as its attribute has it: the last one that is named. Other
sources have none. -/
def Transforms (kind : ParameterKind) (args : AttrArgs) (transform : Option TextLiteral) : Prop :=
  args = .none ∧ transform = none ∨
    kind = .payload ∧ ∃ delimiter inner names, args = .list delimiter inner ∧
      List.Forall₂ (fun stretch name => nestedOption (!stretch.2) stretch.1 = .ok name)
        (commaSeparated inner) names ∧
      transform = names.getLast?

/-- One attribute, and no other, tells the source of an argument. -/
def Sourced (attrs : List Attr) (kind : ParameterKind) (transform : Option TextLiteral) : Prop :=
  ∃ a name, attrs.filter isSource = [a] ∧ sourceOf? a = some (name, kind) ∧
    Transforms kind a.args transform

theorem nested_ok {transform result : Option TextLiteral} {stretches : List (List Token × Bool)} :
    nested transform stretches = .ok result ↔
      ∃ names, List.Forall₂ (fun stretch name => nestedOption (!stretch.2) stretch.1 = .ok name)
        stretches names ∧ result = names.getLast?.or transform := by
  induction stretches generalizing transform with
  | nil => simp [nested, eq_comm]
  | cons stretch rest ih =>
      obtain ⟨stretch, comma⟩ := stretch
      rw [nested]
      cases first : nestedOption (!comma) stretch with
      | error e =>
          refine ⟨nofun, ?_⟩
          rintro ⟨_, named, _⟩
          cases named with
          | cons named _ => cases first.symm.trans named
      | ok name =>
          change nested (some name) rest = .ok result ↔ _
          rw [ih]
          have last (names : List TextLiteral) :
              (name :: names).getLast?.or transform = names.getLast?.or (some name) := by
            rw [List.getLast?_cons]
            cases names.getLast? <;> rfl
          constructor
          · rintro ⟨names, named, rfl⟩
            exact ⟨name :: names, .cons first named, (last names).symm⟩
          · rintro ⟨_, named, rfl⟩
            cases named with
            | cons named others =>
                cases first.symm.trans named
                exact ⟨_, others, last _⟩

theorem nestedOption_genuine {last : Bool} {stretch : List Token} {t : TextLiteral}
    (h : nestedOption last stretch = .ok t) : t.Genuine := by
  unfold nestedOption at h
  dsimp only at h
  split at h
  · obtain ⟨_, _, h⟩ := bind_ok_iff.mp h
    cases h
  · obtain ⟨⟨path, left⟩, _, h⟩ := bind_ok_iff.mp h
    dsimp only at h
    split at h
    · cases h
    · obtain ⟨_, _, h⟩ := bind_ok_iff.mp h
      obtain ⟨⟨name, left⟩, read, h⟩ := bind_ok_iff.mp h
      cases Stretch.finish_ok h
      exact Stretch.text_genuine read

theorem Transforms.genuine {kind : ParameterKind} {args : AttrArgs}
    {transform : Option TextLiteral} (h : Transforms kind args transform) :
    ∀ t ∈ transform, t.Genuine := by
  rcases h with ⟨-, rfl⟩ | ⟨-, _, _, names, -, named, rfl⟩
  · exact nofun
  · intro t last
    obtain ⟨_, -, named⟩ := exists_of_forall₂ named (List.mem_of_getLast? last)
    exact nestedOption_genuine named

theorem sourceArgs_ok {name : String} {kind : ParameterKind} {args : AttrArgs}
    {transform : Option TextLiteral} :
    sourceArgs name kind args = .ok transform ↔ Transforms kind args transform := by
  unfold sourceArgs Transforms
  cases args with
  | none => simp [eq_comm]
  | list delimiter inner =>
      by_cases payload : kind = .payload
      · simp [payload, nested_ok]
      · simp [payload]
  | value tokens => simp

theorem source_found {found result : ParameterKind × Option TextLiteral} {attrs : List Attr} :
    source (some found) attrs = .ok result ↔ attrs.filter isSource = [] ∧ result = found := by
  induction attrs with
  | nil => simp [source, eq_comm]
  | cons a rest ih =>
      cases told : sourceOf? a with
      | none => simp [source, isSource, told, ih]
      | some _ => simp [source, isSource, told]

/-- An argument gets its source from its one attribute that tells one. -/
theorem source_ok {kind : ParameterKind} {transform : Option TextLiteral} {attrs : List Attr} :
    source none attrs = .ok (kind, transform) ↔ Sourced attrs kind transform := by
  unfold Sourced
  induction attrs with
  | nil => simp [source]
  | cons a rest ih =>
      cases told : sourceOf? a with
      | none => simp [source, isSource, told, ih]
      | some found =>
          obtain ⟨name, kind'⟩ := found
          have only : (a :: rest).filter isSource = a :: rest.filter isSource := by
            simp [isSource, told]
          simp only [source, told, only]
          constructor
          · intro h
            split at h
            · rename_i transform' named
              obtain ⟨alone, same⟩ := source_found.mp h
              cases same
              exact ⟨a, name, by rw [alone], told, sourceArgs_ok.mp named⟩
            · cases h
          · rintro ⟨_, _, alone, told', named⟩
            obtain ⟨rfl, none⟩ := List.cons_eq_cons.mp alone
            cases told.symm.trans told'
            rw [sourceArgs_ok.mpr named]
            exact source_found.mpr ⟨none, rfl⟩

/-- What is known of an argument from what stands in the signature. -/
structure Describes (input : Input) (a : HandlerArg) : Prop where
  typed : ∃ pattern, input.body = .typed pattern a.type
  sourced : Sourced input.attrs a.kind a.transform
  owned : checkType a.type = .ok ()

/-- Without receivers among them, arguments are numbered from left to right. -/
theorem handlerArgs_ok {position : Nat} {inputs : List Input} {args : List HandlerArg}
    (placed : ∀ input ∈ inputs, input.body.isReceiver = false)
    (h : handlerArgs position inputs = .ok args) :
    List.Forall₂ Describes inputs args ∧
      args.map HandlerArg.position = List.range' position inputs.length := by
  induction inputs generalizing position args with
  | nil =>
      cases h
      exact ⟨.nil, rfl⟩
  | cons input rest ih =>
      obtain ⟨first, others⟩ := List.forall_mem_cons.mp placed
      obtain ⟨attrs, body⟩ := input
      cases body with
      | receiver tokens => cases first
      | typed pattern type =>
          rw [handlerArgs] at h
          obtain ⟨⟨kind, transform⟩, sourced, h⟩ := bind_ok_iff.mp h
          obtain ⟨_, owned, h⟩ := bind_ok_iff.mp h
          obtain ⟨more, behind, h⟩ := bind_ok_iff.mp h
          cases h
          obtain ⟨described, positions⟩ := ih others behind
          refine ⟨.cons ⟨⟨pattern, rfl⟩, source_ok.mp sourced, owned⟩ described, ?_⟩
          rw [List.map_cons, positions, List.length_cons, List.range'_succ]

/-! Handlers. -/

theorem checkSignature_ok {s : Signature} (h : checkSignature s = .ok ()) :
    ∃ receiver arguments, s.inputs = receiver :: arguments ∧ receiver.body.isReceiver = true := by
  unfold checkSignature at h
  split at h
  · cases h
  · split at h
    · cases h
    · unfold checkReceiver at h
      split at h
      · rename_i receiver arguments inputs
        exact ⟨_, arguments, inputs, rfl⟩
      · cases h

/-- What the analysis of a method has found out. -/
structure Handles [Topic.Engine] (m : Method) (a : Attr) (h : HandlerMethod) : Prop where
  name : h.name = m.signature.name
  subscribe : ∃ delimiter inner, a.args = .list delimiter inner ∧
    SubscribeArgs.ofTokens inner = .ok h.subscribe
  checked : checkSubscribe h.subscribe = .ok ()
  signature : checkSignature m.signature = .ok ()
  args : handlerArgs 0 (m.signature.inputs.drop 1) = .ok h.args

theorem subscribeArgs_ok {args : AttrArgs} {subscribe : SubscribeArgs} :
    subscribeArgs args = .ok subscribe ↔ ∃ delimiter inner, args = .list delimiter inner ∧
      SubscribeArgs.ofTokens inner = .ok subscribe := by
  cases args <;> simp [subscribeArgs]

theorem handler_ok [Topic.Engine] {m : Method} {a : Attr} {h : HandlerMethod} :
    handler m a = .ok h ↔ Handles m a h := by
  constructor
  · intro found
    obtain ⟨subscribe, told, found⟩ := bind_ok_iff.mp found
    obtain ⟨_, checked, found⟩ := bind_ok_iff.mp found
    obtain ⟨_, signature, found⟩ := bind_ok_iff.mp found
    obtain ⟨args, numbered, found⟩ := bind_ok_iff.mp found
    cases found
    exact ⟨rfl, subscribeArgs_ok.mp told, checked, signature, numbered⟩
  · obtain ⟨name, subscribe, args⟩ := h
    rintro ⟨rfl, told, checked, signature, numbered⟩
    refine bind_ok_iff.mpr ⟨_, subscribeArgs_ok.mpr told, bind_ok_iff.mpr ⟨_, checked, ?_⟩⟩
    exact bind_ok_iff.mpr ⟨_, signature, bind_ok_iff.mpr ⟨_, numbered, rfl⟩⟩

/-- A method to be handled, with the attribute that makes it one. -/
def marked? : Item → Option (Method × Attr)
  | .method m => (subscribeAttr? m).map (m, ·)
  | .other _ => none

theorem handlers_ok [Topic.Engine] {items : List Item} {found : List HandlerMethod} :
    handlers items = .ok found ↔
      List.Forall₂ (fun pair h => Handles pair.1 pair.2 h) (items.filterMap marked?) found := by
  induction items generalizing found with
  | nil => simp [handlers, eq_comm]
  | cons item rest ih =>
      cases marked : marked? item with
      | none =>
          rw [List.filterMap_cons_none marked, ← ih]
          cases item with
          | other tokens => rfl
          | method m =>
              have unmarked : subscribeAttr? m = none := by simpa [marked?] using marked
              rw [handlers, unmarked]
      | some pair =>
          rw [List.filterMap_cons_some marked]
          cases item with
          | other tokens => cases marked
          | method m =>
              obtain ⟨a, present, rfl⟩ := Option.map_eq_some_iff.mp marked
              rw [handlers, present]
              constructor
              · intro h
                obtain ⟨first, handled, h⟩ := bind_ok_iff.mp h
                obtain ⟨more, others, h⟩ := bind_ok_iff.mp h
                cases h
                exact .cons (handler_ok.mp handled) (ih.mp others)
              · rintro (_ | ⟨handled, others⟩)
                refine bind_ok_iff.mpr ⟨_, handler_ok.mpr handled, ?_⟩
                exact bind_ok_iff.mpr ⟨_, ih.mpr others, rfl⟩

end Analysis

end MqttRouting.Attribute
