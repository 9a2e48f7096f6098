import MqttRouting.Attribute.ImplBlock.Reader
import MqttRouting.Proofs.Attribute.Types

/-!
What is known of everything that can be read. Two things matter later: a block is only read if
none of its methods has a receiver behind its first input, and no type of an input has a semicolon
that would end a statement.
-/

namespace MqttRouting.Attribute

def InputBody.Unbroken : InputBody → Prop
  | .receiver _ => True
  | .typed _ type => Attribute.Unbroken type

/-- What is known of the inputs of a signature: behind the first there are no receivers. -/
structure Signature.Sound (s : Signature) : Prop where
  placed : ∀ input ∈ s.inputs.drop 1, input.body.isReceiver = false
  unbroken : ∀ input ∈ s.inputs, input.body.Unbroken

def Item.Sound : Item → Prop
  | .method m => m.signature.Sound
  | .other _ => True

namespace Grammar

/-- All answers of a reader have a property. -/
def Yields {α : Type} (reader : Reader α) (P : α → Prop) : Prop :=
  ∀ c x c', reader.run c = .ok (x, c') → P x

namespace Yields

variable {α β : Type} {reader : Reader α} {P : α → Prop}

theorem trivial (reader : Reader α) : Yields reader fun _ => True := fun _ _ _ _ => True.intro

theorem pure {x : α} (h : P x) : Yields (Pure.pure x) P := by
  rintro c _ _ ⟨⟩
  exact h

theorem throw (e : SyntaxError) : Yields (MonadExcept.throw e : Reader α) P := nofun

theorem bind {next : α → Reader β} {Q : β → Prop} (h : Yields reader P)
    (h' : ∀ x, P x → Yields (next x) Q) : Yields (reader >>= next) Q := by
  intro c y c' run
  rw [StateT.run_bind] at run
  cases first : reader.run c with
  | error e =>
      rw [first] at run
      cases run
  | ok found =>
      obtain ⟨x, c₁⟩ := found
      rw [first] at run
      exact h' x (h c x c₁ first) c₁ y c' run

/-- Whatever the first reader answers. -/
theorem behind {next : α → Reader β} {Q : β → Prop} (h : ∀ x, Yields (next x) Q) :
    Yields (reader >>= next) Q :=
  (trivial reader).bind fun x _ => h x

theorem captured (h : Yields reader P) : Yields (Grammar.captured reader) fun found => P found.1 :=
  behind fun _ => behind fun _ => h.bind fun _ known => behind fun _ => behind fun _ => pure known

theorem lift {found : Except SyntaxError α} (h : ∀ x, found = .ok x → P x) :
    Yields (liftM found) P := by
  intro c x c' run
  cases found with
  | error e => cases run
  | ok y =>
      cases run
      exact h x rfl

theorem missing (what : Expectation) : Yields (Grammar.missing what) P := by
  unfold Grammar.missing
  exact behind fun done => by split <;> exact throw _

theorem within (d : Delimiter) (h : Yields reader P) : Yields (Grammar.within d reader) P := by
  unfold Grammar.within
  refine behind fun outer => ?_
  split
  · split
    · refine (lift (P := fun found => P found.1) fun found read => ?_).bind fun _ known => ?_
      · exact h _ found.1 found.2 read
      · exact behind fun _ => pure known
    · exact missing _
  · exact missing _

theorem ite {c : Prop} [Decidable c] {other : Reader α} (h : Yields reader P)
    (h' : Yields other P) : Yields (if c then reader else other) P := by
  split
  · exact h
  · exact h'

/-- A reader that keeps to where it starts captures no semicolon. -/
theorem captured_unbroken (h : Steady reader) :
    Yields (Grammar.captured reader) fun found => Unbroken found.2 :=
  fun c x c' run =>
    have kept : Keeps c (Grammar.captured reader) fun found => True ∧ Unbroken found.2 :=
      .captured h
    (kept c x c' (.refl c) run).2.2

end Yields

variable {g : Nested} (plain : g.Plain)

section
include plain

/-! Inputs. -/

/-- The type of an input has no semicolon in it. -/
theorem inputKind_unbroken :
    Yields (inputKind g) fun kind => ∀ body, kind = .usual body → body.Unbroken := by
  have type : Yields (captured (g.type true)) fun found => Unbroken found.2 :=
    .captured_unbroken (plain.type true)
  unfold inputKind
  refine .behind fun _ => .ite (.behind fun _ => .pure nofun) (.behind fun received => ?_)
  cases received with
  | some found => exact .pure (by rintro _ ⟨⟩; trivial)
  | none =>
      refine .behind fun _ => .behind fun _ => .ite ?_ ?_
      · exact type.bind fun _ unbroken => .pure (by rintro _ ⟨⟩; exact unbroken)
      · refine .behind fun _ => .behind fun _ => .behind fun _ => .ite ?_ ?_
        · exact .behind fun _ => .pure nofun
        · exact type.bind fun _ unbroken => .pure (by rintro _ ⟨⟩; exact unbroken)

omit plain in
/-- A receiver behind the first input is refused, and so is a second one. -/
theorem checkPlace_late (received : Bool) (body : InputBody) :
    Yields (checkPlace false received body) fun _ => body.isReceiver = false := by
  cases body with
  | receiver tokens =>
      cases received with
      | true => exact .throw _
      | false => exact .throw _
  | typed pattern type => exact .pure rfl

theorem inputsFrom_typed (received : Bool) (rounds : Nat) :
    Yields (inputsFrom g false received rounds) fun found =>
      ∀ input ∈ found.inputs, input.body.isReceiver = false ∧ input.body.Unbroken := by
  induction rounds generalizing received with
  | zero => exact .pure nofun
  | succ rounds ih =>
      unfold inputsFrom
      refine .behind fun _ => .ite (.pure nofun) (.behind fun (attrs, _) => ?_)
      refine (inputKind_unbroken plain).bind fun kind unbroken => ?_
      cases kind with
      | further tokens => exact .pure nofun
      | usual body =>
          refine (checkPlace_late received body).bind fun _ typed => .behind fun _ => .ite ?_ ?_
          · exact .pure (List.forall_mem_singleton.mpr ⟨typed, unbroken body rfl⟩)
          · refine .behind fun _ => (ih _).bind fun more others => .pure ?_
            exact List.forall_mem_cons.mpr ⟨⟨typed, unbroken body rfl⟩, others⟩

theorem inputsFrom_sound (received : Bool) (rounds : Nat) :
    Yields (inputsFrom g true received rounds) fun found =>
      (∀ input ∈ found.inputs.drop 1, input.body.isReceiver = false) ∧
        ∀ input ∈ found.inputs, input.body.Unbroken := by
  cases rounds with
  | zero => exact .pure ⟨nofun, nofun⟩
  | succ rounds =>
      unfold inputsFrom
      refine .behind fun _ => .ite (.pure ⟨nofun, nofun⟩) (.behind fun (attrs, _) => ?_)
      refine (inputKind_unbroken plain).bind fun kind unbroken => ?_
      cases kind with
      | further tokens => exact .pure ⟨nofun, nofun⟩
      | usual body =>
          refine .behind fun _ => .behind fun _ => .ite ?_ ?_
          · exact .pure ⟨nofun, List.forall_mem_singleton.mpr (unbroken body rfl)⟩
          · refine .behind fun _ => (inputsFrom_typed plain _ _).bind fun more others => ?_
            refine .pure ⟨?_, ?_⟩
            · exact fun input mem => (others input mem).1
            · exact List.forall_mem_cons.mpr
                ⟨unbroken body rfl, fun input mem => (others input mem).2⟩

theorem signature_sound (safe : Bool) : Yields (signature g safe) Signature.Sound := by
  unfold signature
  refine .behind fun (_, qualifiers) => .behind fun _ => .behind fun (name, _) =>
    .behind fun parameters => ?_
  have sound : Yields (inputs g) fun found =>
      (∀ input ∈ found.inputs.drop 1, input.body.isReceiver = false) ∧
        ∀ input ∈ found.inputs, input.body.Unbroken :=
    .behind fun _ => inputsFrom_sound plain _ _
  refine ((sound.within .paren).captured).bind fun (found, _) sound => ?_
  exact .behind fun (_, tail) => .pure ⟨sound.1, sound.2⟩

/-! Items. -/

theorem method?_sound (attrs : List Attr) (marks : List Token) :
    Yields (method? g attrs marks) fun found => ∀ m, found = some m → m.signature.Sound := by
  unfold method?
  refine (signature_sound plain false).bind fun s sound => .behind fun bodiless => .ite ?_ ?_
  · exact .behind fun _ => .pure nofun
  · exact .behind fun (inner, statements) => .pure (by rintro _ ⟨⟩; exact sound)

omit plain in
theorem memberTokens_sound (attrs : List Attr) (marks : List Token) (reader : Reader Bool) :
    Yields (memberTokens attrs marks reader) fun found => ∀ item, found = some item →
      item.Sound := by
  unfold memberTokens
  refine .behind fun (usual, tokens) => .pure ?_
  intro item found
  split at found
  · cases found
    exact True.intro
  · cases found

theorem memberForm_sound :
    Yields (memberForm g) fun found => ∀ item, found = some item → item.Sound := by
  unfold memberForm
  refine .behind fun (attrs, _) => .behind fun ((visible, isDefault), marks) =>
    .behind fun signed => .ite ?_ (.behind fun isConst => .ite (memberTokens_sound _ _ _) ?_)
  · refine (method?_sound plain attrs marks).bind fun found sound => .pure ?_
    intro item present
    obtain ⟨m, rfl, rfl⟩ := Option.map_eq_some_iff.mp present
    exact sound m rfl
  · refine .behind fun isType => .ite (memberTokens_sound _ _ _) ?_
    refine .behind fun invokes => .ite (memberTokens_sound _ _ _) ?_
    exact .behind fun rest => .missing _

theorem member_sound : Yields (member g) Item.Sound := by
  unfold member
  refine .behind fun start => (memberForm_sound plain).bind fun found sound => ?_
  cases found with
  | some item => exact .pure (sound item rfl)
  | none => exact .behind fun tokens => .pure True.intro

theorem membersUpTo_sound (rounds : Nat) :
    Yields (membersUpTo g rounds) fun items => ∀ item ∈ items, item.Sound := by
  induction rounds with
  | zero => exact .pure nofun
  | succ rounds ih =>
      unfold membersUpTo
      refine .behind fun done => .ite (.pure nofun) ?_
      refine (member_sound plain).bind fun first sound => ih.bind fun more others => .pure ?_
      exact List.forall_mem_cons.mpr ⟨sound, others⟩

theorem blockBehind_sound (lenient : Bool) (attrs : List Attr) (qualifiers : List Token)
    (parameters : List Parameter) :
    Yields (blockBehind g lenient attrs qualifiers parameters) fun found =>
      ∀ item ∈ found.1.items, item.Sound := by
  have sound : Yields (members g) fun found => ∀ item ∈ found.2, item.Sound :=
    .behind fun _ => .behind fun _ => (membersUpTo_sound plain _).bind fun _ sound => .pure sound
  unfold blockBehind
  refine .behind fun _ => .behind fun _ => .behind fun _ => ?_
  exact ((sound.within .brace).captured).bind fun _ sound => .pure sound

theorem blockOfMethods_sound (lenient : Bool) :
    Yields (blockOfMethods g lenient) fun found => ∀ item ∈ found.1.items, item.Sound := by
  have block (attrs : List Attr) (qualifiers : List Token) (parameters : List Parameter) :=
    blockBehind_sound plain lenient attrs qualifiers parameters
  unfold blockOfMethods
  refine .behind fun _ => .behind fun _ => .behind fun _ => .behind fun _ => .behind fun _ => ?_
  refine .ite ?_ ?_
  · exact .behind fun _ => (block _ _ _).bind fun _ sound => .pure sound
  · exact .behind fun _ => (block _ _ _).bind fun _ sound => .pure sound

end

end Grammar

theorem ImplBlock.ofTokens_sound {tokens : List Token} {b : ImplBlock}
    (h : ImplBlock.ofTokens tokens = .ok b) {m : Method} (mem : .method m ∈ b.items) :
    m.signature.Sound := by
  unfold ofTokens at h
  dsimp only at h
  cases read : (Grammar.blockOfMethods (Grammar.ofDepth (Grammar.depthOf tokens)) false).run
      { rest := tokens } with
  | error e =>
      rw [read] at h
      cases h
  | ok found =>
      obtain ⟨⟨b', usual⟩, left⟩ := found
      have sound := Grammar.blockOfMethods_sound (Grammar.ofDepth_plain _) _ _ _ _ read
      simp only [read, bind, Except.bind] at h
      split at h
      · cases h
      · cases h
      · cases h
        exact sound _ mem

end MqttRouting.Attribute
