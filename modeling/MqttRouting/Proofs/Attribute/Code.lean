import MqttRouting.Attribute.Code
import MqttRouting.Attribute.Generated
import MqttRouting.Proofs.Attribute.Markers
import MqttRouting.Proofs.Attribute.Unbroken

/-!
Generated source text is read back as what it is meant to be: each step of a method as its
builder calls, the closure as one line for each argument and a call of the method with all of
them, and the function as one chain of calls for each method.
-/

namespace MqttRouting.Attribute

/-! Literals. -/

theorem Literal.wholeFrom_digits {digits : List Char} {seen : Bool} (value : Nat)
    (all : ∀ c ∈ digits, c.isDigit = true) (some : seen = true ∨ digits ≠ []) (rest : List Char) :
    wholeFrom 10 value seen (digits ++ 'u' :: rest) =
      .some (Nat.ofDigitChars 10 digits value, 'u' :: rest) := by
  induction digits generalizing value seen with
  | nil =>
      have seen : seen = true := by simpa using some
      subst seen
      rfl
  | cons c more ih =>
      obtain ⟨digit, others⟩ := List.forall_mem_cons.mp all
      have low : c.toNat - 48 < 10 := by
        have : c.toNat ≤ 57 := (Char.isDigit_iff_toNat.mp digit).2
        omega
      have value? : (Lexer.hexValue? c).filter (fun n => n < 10 || 10 < 10) =
          .some (c.toNat - 48) := by
        rw [Lexer.hexValue?, if_pos digit]
        simp [low]
      have plain : c ≠ '_' := by
        rintro rfl
        cases digit
      rw [List.cons_append, wholeFrom, if_neg plain, value?, Nat.ofDigitChars_cons]
      simp [low, ih _ others (.inl rfl), Nat.mul_comm]

/-- A second digit or a suffix tells decimal numbers from those with a radix. -/
theorem Literal.wholeParts?_decimal {source : String} {c d : Char} {rest : List Char}
    (spelled : source.toList = c :: d :: rest) (first : c.isDigit = true)
    (second : d.isDigit = true ∨ d = 'u') :
    wholeParts? source = wholeFrom 10 0 false (c :: d :: rest) := by
  unfold wholeParts?
  rw [spelled]
  split <;> rename_i h <;> cases h
  · exact absurd second (by decide)
  · exact absurd second (by decide)
  · exact absurd second (by decide)
  · rw [if_pos first]

theorem Literal.wholeParts?_position (n : Nat) :
    wholeParts? (toString n ++ "usize") = some (n, ['u', 's', 'i', 'z', 'e']) := by
  have digits : ∀ c ∈ Nat.toDigits 10 n, c.isDigit = true :=
    fun c => Nat.isDigit_of_mem_toDigits (by decide) (by decide)
  have spelled : (toString n ++ "usize").toList =
      Nat.toDigits 10 n ++ ['u', 's', 'i', 'z', 'e'] := by
    rw [String.toList_append, Nat.toString_eq_repr, Nat.toList_repr]
    rfl
  have decimal : wholeParts? (toString n ++ "usize") =
      wholeFrom 10 0 false (Nat.toDigits 10 n ++ ['u', 's', 'i', 'z', 'e']) := by
    obtain ⟨c, more, front⟩ := List.exists_cons_of_ne_nil (Nat.toDigits_ne_nil (b := 10) (n := n))
    rw [front] at digits spelled ⊢
    have first := digits c List.mem_cons_self
    cases more with
    | nil => exact wholeParts?_decimal spelled first (.inr rfl)
    | cons d more => exact wholeParts?_decimal spelled first (.inl (digits d (by simp)))
  rw [decimal, wholeFrom_digits 0 digits (.inr Nat.toDigits_ne_nil), Nat.ofDigitChars_ten_toDigits]

/-- All text literals of a step. Only payloads have a transform. -/
def Step.texts : Step → List TextLiteral
  | .topics templates => templates
  | .share (.group name) => [name]
  | .transform name => [name]
  | .parameter _ .payload (some name) => [name]
  | _ => []

namespace Code

/-! Pieces. -/

@[simp] theorem behind?_append (first rest : List Token) :
    behind? first (first ++ rest) = some rest := by
  simp [behind?]

theorem applied?_path (names : List String) (inner : List Token) :
    applied? names (path names ++ Generated.paren inner) = some inner := by
  simp [applied?, Generated.paren]

@[simp] theorem number?_number (n : Nat) : number? (Generated.number n) = some n := by
  rw [Generated.number, number?, Literal.wholeParts?_position]
  rfl

theorem text?_text {t : TextLiteral} (genuine : t.Genuine) :
    text? (Generated.text t) = some t.value := by
  have read : Literal.text? t.source = some t := genuine
  simp [text?, Generated.text, Stretch.text?, read]

/-! What stands between commas. -/

/-- Something stands there, and no comma outside of groups. -/
def Undivided (tokens : List Token) : Prop :=
  tokens ≠ [] ∧ ∀ token ∈ tokens, token.isPunct ',' = false

theorem commaSeparated_undivided {tokens : List Token} (h : Undivided tokens) :
    commaSeparated tokens = [(tokens, false)] := by
  obtain ⟨some, whole⟩ := h
  induction tokens with
  | nil => exact absurd rfl some
  | cons token rest ih =>
      obtain ⟨here, others⟩ := List.forall_mem_cons.mp whole
      rw [commaSeparated, here]
      cases rest with
      | nil => rfl
      | cons token' rest =>
          rw [ih nofun others]
          rfl

theorem commaSeparated_append {tokens : List Token}
    (whole : ∀ token ∈ tokens, token.isPunct ',' = false) (rest : List Token) :
    commaSeparated (tokens ++ .punct ',' false :: rest) =
      (tokens, true) :: commaSeparated rest := by
  induction tokens with
  | nil => rfl
  | cons token more ih =>
      obtain ⟨here, others⟩ := List.forall_mem_cons.mp whole
      rw [List.cons_append, commaSeparated, here, ih others]
      rfl

theorem separate_undivided {tokens : List Token} (h : Undivided tokens) :
    separate tokens = [tokens] := by
  rw [separate, commaSeparated_undivided h]
  rfl

theorem separate_separated {parts : List (List Token)} (h : ∀ part ∈ parts, Undivided part) :
    separate (Generated.separated parts) = parts := by
  induction parts using Generated.separated.induct with
  | case1 => rfl
  | case2 last =>
      exact separate_undivided (h last List.mem_cons_self)
  | case3 first rest some ih =>
      obtain ⟨here, others⟩ := List.forall_mem_cons.mp h
      rw [Generated.separated, separate, List.append_assoc, Generated.comma, List.singleton_append,
        commaSeparated_append here.2, List.map_cons]
      · exact congrArg (first :: ·) (ih others)
      · exact some

theorem undivided_singleton {token : Token} (h : token.isPunct ',' = false) :
    Undivided [token] :=
  ⟨nofun, List.forall_mem_singleton.mpr h⟩

theorem path_isPunct {c : Char} (other : c ≠ ':') (names : List String) :
    ∀ token ∈ path names, token.isPunct c = false := by
  intro token mem
  obtain ⟨name, -, mem⟩ := List.mem_flatMap.mp mem
  simp only [List.mem_cons, List.not_mem_nil, or_false] at mem
  rcases mem with rfl | rfl | rfl
  · exact beq_eq_false_iff_ne.mpr other
  · exact beq_eq_false_iff_ne.mpr other
  · rfl

theorem undivided_path_paren (names : List String) (inner : List Token) :
    Undivided (path names ++ Generated.paren inner) :=
  ⟨by simp [Generated.paren], List.forall_mem_append.mpr
    ⟨path_isPunct (by decide) names, List.forall_mem_singleton.mpr rfl⟩⟩

theorem mapM_map_some {α β γ : Type} {f : α → β} {read : β → Option γ} {g : α → γ} {l : List α}
    (h : ∀ a ∈ l, read (f a) = some (g a)) : (l.map f).mapM read = some (l.map g) := by
  induction l with
  | nil => rfl
  | cons a rest ih =>
      obtain ⟨here, others⟩ := List.forall_mem_cons.mp h
      rw [List.map_cons, List.mapM_cons, here, ih others]
      rfl

/-! Builder calls. -/

theorem code_from_name : Generated.code "::mqtt_topic_dispatch::TransformSpec::from_name" =
    path ["mqtt_topic_dispatch", "TransformSpec", "from_name"] := by
  decide +kernel

theorem code_qos : Generated.code "::mqtt_topic_dispatch::QoS::" =
    path ["mqtt_topic_dispatch", "QoS"] ++ [.punct ':' true, .punct ':' false] := by
  decide +kernel

theorem transformSpec_eq (name : TextLiteral) : Generated.transformSpec name =
    path ["mqtt_topic_dispatch", "TransformSpec", "from_name"] ++
      Generated.paren (Generated.text name) := by
  rw [Generated.transformSpec, code_from_name]

theorem undivided_transformSpec (name : TextLiteral) :
    Undivided (Generated.transformSpec name) :=
  transformSpec_eq name ▸ undivided_path_paren _ _

theorem undivided_level (q : Qos) : Undivided (Generated.level q) := by
  rw [Generated.level, code_qos]
  refine ⟨by simp, ?_⟩
  cases q <;> decide

theorem transformSpec?_transformSpec {name : TextLiteral} (genuine : name.Genuine) :
    transformSpec? (Generated.transformSpec name) = some (.ofName name.value) := by
  rw [transformSpec_eq, transformSpec?, applied?_path, Option.bind_some, text?_text genuine]
  rfl

theorem qos?_level (q : Qos) : qos? (Generated.level q) = some q := by
  rw [Generated.level, code_qos, qos?, behind?_append]
  cases q <;> rfl

theorem flag?_flag (on : Bool) : flag? (Generated.flag on) = some on := by
  cases on <;> rfl

variable {ν : Type}

/-- What a further call of the chain adds. -/
theorem calls?_chained {name : String} {inner : List Token} {call : Builder.Call ν}
    (read : call? name inner = some call) (rest : List Token) :
    calls? (Generated.chained name inner ++ rest) =
      (calls? rest).map fun chain => { chain with calls := call :: chain.calls } := by
  have other : name ≠ "bound_handler" := by
    rintro rfl
    simp [call?] at read
  rw [Generated.chained, Generated.paren, List.cons_append, List.cons_append, List.singleton_append,
    calls?, read, Option.bind_some]
  exact fun _ _ same => absurd same other

/-- Each step behind the templates is one call. -/
theorem calls?_step {s : Step} (behind : ∀ templates, s ≠ .topics templates)
    (genuine : ∀ t ∈ s.texts, t.Genuine) (rest : List Token) :
    calls? (Generated.step s ++ rest) =
      (calls? rest).map fun chain : Chain ν => { chain with calls := s.calls ++ chain.calls } := by
  have position (n : Nat) : separate (Generated.number n) = [Generated.number n] :=
    separate_undivided (undivided_singleton rfl)
  have text (t : TextLiteral) : separate (Generated.text t) = [Generated.text t] :=
    separate_undivided (undivided_singleton rfl)
  cases s with
  | topics templates => exact absurd rfl (behind templates)
  | queue on =>
      have one : separate (Generated.flag on) = [Generated.flag on] :=
        separate_undivided (undivided_singleton rfl)
      exact calls?_chained (by simp [call?, one, flag?_flag]) rest
  | share choice =>
      cases choice with
      | group name =>
          have read := text?_text (genuine name List.mem_cons_self)
          exact calls?_chained (by simp [call?, text, read]) rest
      | disabled => exact calls?_chained rfl rest
  | transform name =>
      have read := transformSpec?_transformSpec (genuine name List.mem_cons_self)
      have one : separate (Generated.transformSpec name) = [Generated.transformSpec name] :=
        separate_undivided (undivided_transformSpec name)
      exact calls?_chained (by simp [call?, one, read]) rest
  | qos q =>
      have one : separate (Generated.level q) = [Generated.level q] :=
        separate_undivided (undivided_level q)
      exact calls?_chained (by simp [call?, one, qos?_level]) rest
  | parameter n kind transform =>
      cases kind with
      | payload =>
          cases transform with
          | none => exact calls?_chained (by simp [call?, position]) rest
          | some name =>
              have read := transformSpec?_transformSpec (genuine name List.mem_cons_self)
              have both : separate (Generated.number n ++ (Generated.comma ++
                  (Generated.transformSpec name ++ Generated.comma))) =
                  [Generated.number n, Generated.transformSpec name] := by
                have first : Undivided (Generated.number n) := undivided_singleton rfl
                rw [separate, Generated.comma, List.singleton_append, commaSeparated_append first.2,
                  commaSeparated_append (undivided_transformSpec name).2]
                rfl
              exact calls?_chained (by simp [call?, both, read]) rest
      | topic | packet | params => exact calls?_chained (by simp [call?, position]) rest

/-- Further steps one behind the other. -/
theorem calls?_steps {steps : List Step} (behind : ∀ s ∈ steps, ∀ templates, s ≠ .topics templates)
    (genuine : ∀ s ∈ steps, ∀ t ∈ s.texts, t.Genuine) (rest : List Token) :
    calls? (steps.flatMap Generated.step ++ rest) = (calls? rest).map fun chain : Chain ν =>
      { chain with calls := steps.flatMap Step.calls ++ chain.calls } := by
  induction steps with
  | nil => simp
  | cons s more ih =>
      obtain ⟨here, others⟩ := List.forall_mem_cons.mp behind
      obtain ⟨genuine, others'⟩ := List.forall_mem_cons.mp genuine
      rw [List.flatMap_cons, List.append_assoc, calls?_step here genuine, ih others others',
        Option.map_map, List.flatMap_cons]
      simp [Function.comp_def]

/-! Closures. -/

theorem statements_unbroken {tokens : List Token} (h : Unbroken tokens) :
    statements tokens = ([], tokens) := by
  induction tokens with
  | nil => rfl
  | cons token rest ih =>
      obtain ⟨here, others⟩ := List.forall_mem_cons.mp h
      rw [statements, ih others, here]
      rfl

theorem statements_append {statement : List Token} (h : Unbroken statement) (rest : List Token) :
    statements (statement ++ .punct ';' false :: rest) =
      (statement :: (statements rest).1, (statements rest).2) := by
  induction statement with
  | nil => rfl
  | cons token more ih =>
      obtain ⟨here, others⟩ := List.forall_mem_cons.mp h
      rw [List.cons_append, statements, ih others, here]
      rfl

theorem statements_flatMap {α : Type} {statement : α → List Token} {l : List α}
    (h : ∀ a ∈ l, Unbroken (statement a)) {last : List Token} (unbroken : Unbroken last) :
    statements ((l.flatMap fun a => statement a ++ [.punct ';' false]) ++ last) =
      (l.map statement, last) := by
  induction l with
  | nil => exact statements_unbroken unbroken
  | cons a rest ih =>
      obtain ⟨here, others⟩ := List.forall_mem_cons.mp h
      rw [List.flatMap_cons, List.append_assoc, List.append_assoc, List.singleton_append,
        statements_append here, ih others]
      rfl

/-- The name that an argument is bound to. -/
def argName (a : HandlerArg) : String := "__arg" ++ toString a.position

def lineOf (a : HandlerArg) : Extraction := ⟨argName a, a.type, a.position⟩

/-- What the closure of a method is read as. -/
def closureOf (m : HandlerMethod) : Closure :=
  ⟨m.args.map lineOf, m.name, m.args.map argName⟩

/-- A line up to its semicolon. -/
def lineTokens (a : HandlerArg) : List Token :=
  [.ident "let", .ident (argName a), .punct ':' false] ++ a.type ++
    [.punct '=' false, .ident "args", .punct '.' false, .ident "extract",
      .group .paren (Generated.number a.position), .punct '?' true]

theorem extraction_eq (a : HandlerArg) :
    Generated.extraction a = lineTokens a ++ [.punct ';' false] := by
  have taken : Generated.code "= args.extract" =
      [.punct '=' false, .ident "args", .punct '.' false, .ident "extract"] := by
    decide +kernel
  have ended : Generated.code "?;" = [.punct '?' true, .punct ';' false] := by decide +kernel
  rw [Generated.extraction, taken, ended]
  simp [lineTokens, Generated.variableOf, Generated.paren, argName]

theorem lineTokens_unbroken {a : HandlerArg} (h : Unbroken a.type) : Unbroken (lineTokens a) := by
  refine .append (.append ?_ h) ?_
  · exact .cons rfl (.cons rfl (.cons rfl .nil))
  · exact .cons rfl (.cons rfl (.cons rfl (.cons rfl (.cons rfl (.cons rfl .nil)))))

theorem argName_ne {name : String} (h : name.toList.head? ≠ some '_') (a : HandlerArg) :
    argName a ≠ name := by
  rintro rfl
  apply h
  simp [argName]

theorem extraction?_lineTokens (a : HandlerArg) :
    extraction? "args" (lineTokens a) = some (lineOf a) := by
  have other : argName a ≠ "args" ∧ argName a ≠ "this" :=
    ⟨argName_ne (by decide) a, argName_ne (by decide) a⟩
  have width (l : List Token) (h : l.length = 6) : (a.type ++ l).length - 6 = a.type.length := by
    simp [h]
  simp only [lineTokens, List.cons_append, List.nil_append]
  rw [extraction?, width _ rfl, List.drop_left, List.take_left]
  simp [other, lineOf]

theorem methodCall?_closure (m : HandlerMethod) :
    methodCall? (Generated.code "this." ++ [.ident m.name] ++
      Generated.paren (Generated.separated (m.args.map fun a => [Generated.variableOf a])) ++
      Generated.code ".await,") = some (m.name, m.args.map argName) := by
  have this : Generated.code "this." = [.ident "this", .punct '.' false] := by decide +kernel
  have awaited : Generated.code ".await," =
      [.punct '.' false, .ident "await", .punct ',' false] := by
    decide +kernel
  have names : (m.args.map fun a => [Generated.variableOf a]).mapM name? =
      some (m.args.map argName) := by
    exact mapM_map_some fun _ _ => rfl
  rw [this, awaited]
  simp only [Generated.paren, List.cons_append, List.nil_append, methodCall?]
  rw [separate_separated, names]
  · rfl
  · intro part mem
    obtain ⟨a, -, rfl⟩ := List.mem_map.mp mem
    exact undivided_singleton rfl

theorem body?_closure {m : HandlerMethod} {source : String} {changing : Bool}
    (unbroken : ∀ a ∈ m.args, Unbroken a.type)
    (marked : source = "args" ∧ changing = true ∨ m.args = []) :
    body? source changing (m.args.flatMap Generated.extraction ++
      Generated.code "::mqtt_topic_dispatch::IntoHandlerResult::into_handler_result" ++
      Generated.paren (Generated.code "this." ++ [.ident m.name] ++
        Generated.paren (Generated.separated (m.args.map fun a => [Generated.variableOf a])) ++
        Generated.code ".await,")) = some (closureOf m) := by
  have into : Generated.code "::mqtt_topic_dispatch::IntoHandlerResult::into_handler_result" =
      path ["mqtt_topic_dispatch", "IntoHandlerResult", "into_handler_result"] := by
    decide +kernel
  have lines : (m.args.map lineTokens).mapM (extraction? source) = some (m.args.map lineOf) := by
    obtain ⟨rfl, -⟩ | none := marked
    · exact mapM_map_some fun a _ => extraction?_lineTokens a
    · rw [none]
      rfl
  have ended (names : List String) (inner : List Token) :
      Unbroken (path names ++ Generated.paren inner) :=
    .append (path_isPunct (by decide) names) (.cons rfl .nil)
  rw [body?, into, List.append_assoc, funext extraction_eq,
    statements_flatMap (fun a mem => lineTokens_unbroken (unbroken a mem)) (ended _ _)]
  dsimp only
  rw [lines, Option.bind_some, applied?_path, Option.bind_some, methodCall?_closure,
    Option.bind_some]
  have bound : (m.args.map lineOf).map Extraction.name = m.args.map argName := by
    rw [List.map_map]
    rfl
  have may : (changing || (m.args.map lineOf).isEmpty) = true := by
    obtain ⟨-, rfl⟩ | none := marked
    · rfl
    · simp [none]
  dsimp only
  have all : (m.args.map argName).all (m.args.map argName).contains = true :=
    List.all_eq_true.mpr fun name mem => List.contains_iff_mem.mpr mem
  rw [bound, may, all, Bool.true_and, if_pos rfl, closureOf]

/-- The closure is read as one line for each argument and a call with all names. -/
theorem closure?_closure {m : HandlerMethod} (unbroken : ∀ a ∈ m.args, Unbroken a.type) :
    closure? (Generated.closure m) = some (closureOf m) := by
  have this : Generated.code "|this: ::std::sync::Arc<Self>," = thisInput := by decide +kernel
  have type : Generated.code ": ::mqtt_topic_dispatch::HandlerArgs| async move" = sourceType := by
    decide +kernel
  have unused : Generated.code "_args" = [.ident "_args"] := by decide +kernel
  have used : Generated.code "mut args" = [.ident "mut", .ident "args"] := by decide +kernel
  have body {source : String} {changing : Bool}
      (marked : source = "args" ∧ changing = true ∨ m.args = []) :=
    body?_closure unbroken marked
  rw [Generated.closure, closure?, this, type]
  dsimp only
  rw [List.append_assoc, List.append_assoc, behind?_append, Option.bind_some]
  by_cases none : m.args.isEmpty
  · rw [if_pos none, unused, List.singleton_append, source?]
    · rw [Option.bind_some]
      dsimp only
      rw [behind?_append]
      exact body (.inr (List.isEmpty_iff.mp none))
    · nofun
  · rw [if_neg none, used, List.cons_append, List.singleton_append, source?, Option.bind_some]
    dsimp only
    rw [behind?_append]
    exact body (.inl ⟨rfl, rfl⟩)

/-! Methods and functions. -/

/-- The templates and the steps of an attribute have the texts that are written in it. -/
theorem options_genuine {inner : List Token} {leading : Option TextLiteral}
    {options : List SubscribeOption} (written : SubscribeArgs.Written inner leading options) :
    (∀ t ∈ (SubscribeArgs.ofOptions leading options).topics, t.Genuine) ∧
      ∀ s ∈ (SubscribeArgs.ofOptions leading options).steps, ∀ t ∈ s.texts, t.Genuine := by
  obtain ⟨front, all⟩ := written.genuine
  have present {α : Type} {part : SubscribeOption → Option α} {x : α}
      (h : x ∈ (options.filterMap part).getLast?) : ∃ o ∈ options, part o = some x :=
    List.mem_filterMap.mp (List.mem_of_getLast? h)
  constructor
  · intro t mem
    rcases List.mem_append.mp mem with mem | mem
    · exact front t (Option.mem_toList.mp mem)
    · obtain ⟨o, given, mem⟩ := List.mem_flatMap.mp mem
      cases o with
      | topics templates => exact all _ given t mem
      | queue | share | transform | qos => cases mem
  · intro s mem t text
    simp only [SubscribeArgs.steps, SubscribeArgs.ofOptions, List.mem_append, Option.mem_toList,
      Option.map_eq_some_iff] at mem
    obtain ((⟨_, _, rfl⟩ | ⟨choice, last, rfl⟩) | ⟨name, last, rfl⟩) | ⟨_, _, rfl⟩ := mem
    · cases text
    · obtain ⟨o, given, same⟩ := present last
      cases o with
      | share choice' =>
          cases same
          cases choice with
          | group name => exact all _ given t text
          | disabled => cases text
      | queue | transform | qos | topics => cases same
    · obtain ⟨o, given, same⟩ := present last
      cases o with
      | transform name' =>
          cases same
          exact all _ given t text
      | queue | share | qos | topics => cases same
    · cases text

theorem parameter_texts {n : Nat} {kind : ParameterKind} {transform : Option TextLiteral}
    {t : TextLiteral} (mem : t ∈ (Step.parameter n kind transform).texts) : t ∈ transform := by
  cases kind with
  | payload =>
      cases transform with
      | none => cases mem
      | some name => exact List.mem_singleton.mp mem ▸ rfl
  | topic | packet | params => cases mem

/-- The steps of a method have the texts of its attributes. -/
theorem steps_genuine {m : HandlerMethod} {inner : List Token} {leading : Option TextLiteral}
    {options : List SubscribeOption} (written : SubscribeArgs.Written inner leading options)
    (subscribe : m.subscribe = .ofOptions leading options)
    (transforms : ∀ a ∈ m.args, ∀ t ∈ a.transform, t.Genuine) :
    ∀ s ∈ m.steps, ∀ t ∈ s.texts, t.Genuine := by
  obtain ⟨topics, steps⟩ := options_genuine written
  rw [HandlerMethod.steps, subscribe, List.cons_append]
  refine List.forall_mem_cons.mpr ⟨topics, List.forall_mem_append.mpr ⟨steps, fun s mem => ?_⟩⟩
  obtain ⟨a, given, rfl⟩ := List.mem_map.mp mem
  exact fun t text => transforms a given t (parameter_texts text)

variable {ν : Type}

/-- The last calls hand over the closure. -/
theorem calls?_closure {m : HandlerMethod} (unbroken : ∀ a ∈ m.args, Unbroken a.type) :
    calls? (Generated.chained "bound_handler"
        (Generated.code "::std::sync::Arc::clone(self)," ++ Generated.closure m) ++
      (Generated.chained "build" [] ++ Generated.code "?")) =
        some (⟨[], closureOf m⟩ : Chain ν) := by
  have clone : Generated.code "::std::sync::Arc::clone(self)," =
      path ["std", "sync", "Arc", "clone"] ++
        [.group .paren [.ident "self"], .punct ',' false] := by
    decide +kernel
  have tried : Generated.code "?" = [.punct '?' false] := by decide +kernel
  rw [clone, tried]
  simp only [Generated.chained, Generated.paren, List.cons_append, List.nil_append]
  rw [calls?, behind?_append, Option.bind_some, closure?_closure unbroken]
  rfl

/-- Only the first step of a method is about templates. -/
theorem ne_topics {m : HandlerMethod} {s : Step} (mem : s ∈ m.subscribe.steps ++ m.args.map fun a =>
    Step.parameter a.position a.kind a.transform) (templates : List TextLiteral) :
    s ≠ .topics templates := by
  rintro rfl
  simp [SubscribeArgs.steps] at mem

/-- The chain of a method is read as the builder calls of its steps, and its closure. -/
theorem chain?_declaration {m : HandlerMethod} (unbroken : ∀ a ∈ m.args, Unbroken a.type)
    (genuine : ∀ s ∈ m.steps, ∀ t ∈ s.texts, t.Genuine) :
    chain? (Generated.declaration m) =
      some (⟨m.steps.flatMap Step.calls, closureOf m⟩ : Chain ν) := by
  have builder : Generated.code
      "::mqtt_topic_dispatch::SubscriptionDeclaration::builder_for_topics" =
        path ["mqtt_topic_dispatch", "SubscriptionDeclaration", "builder_for_topics"] := by
    decide +kernel
  rw [HandlerMethod.steps, List.cons_append] at genuine
  obtain ⟨templates, others⟩ := List.forall_mem_cons.mp genuine
  have separate : separate (Generated.separated (m.subscribe.topics.map Generated.text)) =
      m.subscribe.topics.map Generated.text := by
    refine separate_separated fun part mem => ?_
    obtain ⟨t, -, rfl⟩ := List.mem_map.mp mem
    exact undivided_singleton rfl
  have texts : (m.subscribe.topics.map Generated.text).mapM text? =
      some (m.subscribe.topics.map TextLiteral.value) :=
    mapM_map_some fun t mem => text?_text (templates t mem)
  have rest := @calls?_steps ν _ (fun s mem => ne_topics mem) others
  rw [Generated.declaration, HandlerMethod.steps, List.cons_append, List.flatMap_cons,
    Generated.step, builder]
  simp only [List.append_assoc] at rest ⊢
  rw [chain?, behind?_append]
  simp only [Generated.paren, List.cons_append, List.nil_append]
  rw [separate, texts, Option.bind_some, rest, calls?_closure unbroken]
  simp [Step.calls, Function.comp_def]

/-- The statement that puts the declaration of a method in the list, up to its semicolon. -/
def pushTokens (m : HandlerMethod) : List Token :=
  [.ident "declarations", .punct '.' false, .ident "push"] ++
    Generated.paren (Generated.declaration m)

theorem push_eq (m : HandlerMethod) : Generated.push m = pushTokens m ++ [.punct ';' false] := by
  have pushed : Generated.code "declarations.push" =
      [.ident "declarations", .punct '.' false, .ident "push"] := by
    decide +kernel
  have ended : Generated.code ";" = [.punct ';' false] := by decide +kernel
  rw [Generated.push, pushed, ended, pushTokens]

theorem push?_pushTokens {m : HandlerMethod} (unbroken : ∀ a ∈ m.args, Unbroken a.type)
    (genuine : ∀ s ∈ m.steps, ∀ t ∈ s.texts, t.Genuine) :
    push? "declarations" (pushTokens m) =
      some (⟨m.steps.flatMap Step.calls, closureOf m⟩ : Chain ν) := by
  simp only [pushTokens, Generated.paren, List.cons_append, List.nil_append]
  rw [push?, if_pos rfl, chain?_declaration unbroken genuine]

/-- The statement that makes the list, up to its semicolon. -/
def newListTokens (n : Nat) : List Token :=
  [.ident "let", .ident "mut", .ident "declarations", .punct '=' false] ++
    path ["std", "vec", "Vec", "with_capacity"] ++ Generated.paren (Generated.number n)

theorem newList?_newListTokens (n : Nat) : newList? (newListTokens n) = some "declarations" := by
  rw [newListTokens, List.append_assoc]
  simp only [List.cons_append, List.nil_append]
  rw [newList?, applied?_path, Option.bind_some, number?_number]
  rfl

def resultTokens : List Token :=
  path ["std", "result", "Result", "Ok"] ++ [.group .paren [.ident "declarations"]]

theorem withoutAttrs_declarationsFn (found : List HandlerMethod) :
    withoutAttrs (Generated.declarationsFn found) = signature ++ Generated.brace
      (newListTokens found.length ++ .punct ';' false ::
        ((found.flatMap fun m => pushTokens m ++ [.punct ';' false]) ++ resultTokens)) := by
  have signed : Generated.code
      "pub fn subscription_declarations(self: &::std::sync::Arc<Self>)" ++
        (Generated.code "-> ::std::result::Result<" ++
        (Generated.code "::std::vec::Vec<::mqtt_topic_dispatch::SubscriptionDeclaration>," ++
        Generated.code "::mqtt_topic_dispatch::errors::DeclarationError,>")) = signature := by
    decide +kernel
  have made : Generated.code "let mut declarations = ::std::vec::Vec::with_capacity" =
      [.ident "let", .ident "mut", .ident "declarations", .punct '=' false] ++
        path ["std", "vec", "Vec", "with_capacity"] := by
    decide +kernel
  have result : Generated.code "::std::result::Result::Ok(declarations)" = resultTokens := by
    decide +kernel
  have ended : Generated.code ";" = [.punct ';' false] := by decide +kernel
  have documented (line : String) (rest : List Token) :
      withoutAttrs (Generated.docAttr line ++ rest) = withoutAttrs rest := rfl
  have bare (rest : List Token) : withoutAttrs (signature ++ rest) = signature ++ rest := rfl
  rw [← bare, ← signed, ← result, newListTokens, ← made, ← funext push_eq]
  simp only [Generated.declarationsFn, List.append_assoc, documented, ended, List.cons_append,
    List.nil_append]

/-- The function is read as one chain for each method, in their order. -/
theorem function?_declarationsFn {found : List HandlerMethod}
    (unbroken : ∀ m ∈ found, ∀ a ∈ m.args, Unbroken a.type)
    (genuine : ∀ m ∈ found, ∀ s ∈ m.steps, ∀ t ∈ s.texts, t.Genuine) :
    function? (Generated.declarationsFn found) =
      some (found.map fun m => (⟨m.steps.flatMap Step.calls, closureOf m⟩ : Chain ν)) := by
  have plain (names : List String) : Unbroken (path names) := path_isPunct (by decide) names
  have first (n : Nat) : Unbroken (newListTokens n) := by
    refine .append (.append ?_ (plain _)) (.cons rfl .nil)
    exact .cons rfl (.cons rfl (.cons rfl (.cons rfl .nil)))
  have last : Unbroken resultTokens := (plain _).append (.cons rfl .nil)
  have between (m : HandlerMethod) : Unbroken (pushTokens m) :=
    .cons rfl (.cons rfl (.cons rfl (.cons rfl .nil)))
  have read : (found.map pushTokens).mapM (push? "declarations") =
      some (found.map fun m => (⟨m.steps.flatMap Step.calls, closureOf m⟩ : Chain ν)) :=
    mapM_map_some fun m mem => push?_pushTokens (unbroken m mem) (genuine m mem)
  rw [function?, withoutAttrs_declarationsFn, behind?_append]
  dsimp only [Generated.brace]
  rw [statements_append (first _), statements_flatMap (fun m _ => between m) last]
  dsimp only
  rw [newList?_newListTokens, Option.bind_some, resultTokens, if_pos rfl, read]

end Code
end MqttRouting.Attribute
