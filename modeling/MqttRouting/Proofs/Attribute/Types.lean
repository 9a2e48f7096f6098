import MqttRouting.Proofs.Attribute.Unbroken

/-!
All readers that a type is made of are steady: what they take and write has no semicolon outside
of groups. One lemma for each reader; from there by induction on how deep types may be nested.
-/

namespace MqttRouting.Attribute

/-! Lists between angle brackets. -/

theorem Entry.all_unbroken {e : Entry} (h : Unbroken e.tokens) : Unbroken e.all := by
  unfold Entry.all
  split
  · exact h.append (.cons rfl .nil)
  · exact h.append .nil

theorem lifetimesFirst_unbroken {entries : List Entry} (h : ∀ e ∈ entries, Unbroken e.tokens) :
    Unbroken (lifetimesFirst entries) := by
  have all (keep : Entry → Bool) : Unbroken ((entries.filter keep).flatMap Entry.all) := by
    intro token mem
    obtain ⟨e, present, inside⟩ := List.mem_flatMap.mp mem
    exact Entry.all_unbroken (h e (List.mem_filter.mp present).1) token inside
  unfold lifetimesFirst
  refine .append (.append (all _) ?_) (all _)
  split
  · split
    · exact .nil
    · exact .cons rfl .nil
  · exact .nil

namespace Grammar

/-- The readers of what can stand inside of a type are steady. -/
structure Nested.Plain (g : Nested) : Prop where
  type : ∀ plus, Steady (g.type plus)
  bound : ∀ captures constant, Steady (g.bound captures constant)
  parameter : Steady g.parameter

variable {g : Nested}

/-! Attributes and constants. -/

theorem outerAttrs_steady : Steady (outerAttrs g) := by
  have rounds (n : Nat) : Steady (outerAttrsUpTo g n) := by
    induction n with
    | zero => exact .pure _
    | succ n ih =>
        refine (Steady.sees _).bind fun _ => .ite (.pure _) ?_
        refine (Steady.read rfl).bind fun _ => (Steady.within _ _).bind fun _ => ?_
        exact ih.bind fun _ => .pure _
  exact .here fun _ => rounds _

theorem constArgument_steady : Steady (constArgument g) := by
  refine (Steady.sees _).bind fun _ => .ite (.read rfl) ?_
  refine (Steady.sees _).bind fun _ => .ite (.read rfl) ?_
  refine (Steady.sees _).bind fun _ => .ite (.within _ _) ?_
  exact Steady.atEnd.bind fun _ => .throw _

section Plain

variable (plain : g.Plain)
include plain

/-! Paths. -/

theorem boundsUpTo_steady {ends : Reader Bool} (h : Steady ends) : Steady (boundsUpTo g ends) := by
  refine .loop (h.bind fun _ => .ite (.pure _) ?_)
  exact (plain.bound _ _).bind fun _ => .readIf rfl

theorem argument_steady : Steady (argument g) := by
  have const : Steady (constArgument g) := constArgument_steady
  refine (Steady.sees _).bind fun _ => (Steady.seesSecond _).bind fun _ => .ite ?_ ?_
  · exact (Steady.read rfl).bind fun _ => .pure _
  refine (Steady.seesAny _).bind fun _ => .ite (const.bind fun _ => .pure _) ?_
  refine (plain.type _).bind fun kind => .ite ?_ (.pure _)
  refine (Steady.readIf rfl).bind fun _ => .ite ?_ ?_
  · refine (Steady.seesAny _).bind fun _ => .ite (const.bind fun _ => .pure _) ?_
    exact (plain.type _).bind fun _ => .pure _
  · refine (Steady.readIf rfl).bind fun _ => .ite ?_ (.pure _)
    exact (boundsUpTo_steady plain (.seesAny _)).bind fun _ => .pure _

theorem angleArguments_steady : Steady (angleArguments g) := by
  have entries (start : Cursor) (n : Nat) (done : List Entry) (h : ∀ e ∈ done, Unbroken e.tokens) :
      Keeps start (entriesUpTo (argument g) n done) fun found =>
        ∀ e ∈ found, Unbroken e.tokens := by
    induction n generalizing done with
    | zero => exact .pure h
    | succ n ih =>
        refine .behind (.sees _) fun _ => .ite (.pure h) ?_
        refine (Keeps.captured (argument_steady plain)).bind fun (isLifetime, tokens) read => ?_
        refine .behind (.sees _) fun _ => .ite (.pure ?_) (.behind (.pass rfl) fun _ => ih _ ?_)
        · exact List.forall_mem_cons.mpr ⟨read.2, h⟩
        · exact List.forall_mem_cons.mpr ⟨read.2, h⟩
  have listed (start : Cursor) : Keeps start (angleEntries (argument g)) fun found =>
      ∀ e ∈ found, Unbroken e.tokens :=
    .here fun now => (entries now _ [] nofun).bind fun done read =>
      .pure fun e mem => read e (List.mem_reverse.mp mem)
  refine (Steady.readIf rfl).bind fun _ => (Steady.read rfl).bind fun _ start => ?_
  refine (listed start).bind fun entries read => ?_
  exact .behind (.write (lifetimesFirst_unbroken read)) fun _ => Steady.read rfl start

theorem segment_steady (inExpr : Bool) : Steady (segment g inExpr) := by
  have arguments : Steady (angleArguments g) := angleArguments_steady plain
  refine (Steady.seesAny _).bind fun _ => .ite ?_ ?_
  · exact Steady.readWord.bind fun _ => .pure _
  refine (Steady.sees _).bind fun _ => .ite ?_ ?_
  all_goals
    refine (Steady.read rfl).bind fun _ => ?_
    refine (Steady.seesOnly _ _).bind fun _ => (Steady.sees _).bind fun _ => ?_
    refine (Steady.seesThird _).bind fun _ => .ite ?_ (.pure _)
    exact arguments.bind fun _ => .pure _

theorem moreSegments_steady (inExpr : Bool) (n : Nat) (shape : PathShape) :
    Steady (moreSegments g inExpr n shape) := by
  induction n generalizing shape with
  | zero => exact .pure _
  | succ n ih =>
      refine (Steady.sees _).bind fun _ => (Steady.seesThird _).bind fun _ => .ite ?_ (.pure _)
      exact (Steady.read rfl).bind fun _ => (segment_steady plain _).bind fun _ => ih _

theorem path_steady (inExpr : Bool) : Steady (path g inExpr) := by
  refine (Steady.readIf rfl).bind fun _ => (segment_steady plain _).bind fun _ => .here fun _ => ?_
  exact moreSegments_steady plain _ _ _

theorem qualifiedSegments_steady (inExpr : Bool) (n : Nat) (shape : PathShape) :
    Steady (qualifiedSegments g inExpr n shape) := by
  induction n generalizing shape with
  | zero => exact .pure _
  | succ n ih =>
      refine (segment_steady plain _).bind fun _ => (Steady.readIf rfl).bind fun _ => ?_
      exact .ite (ih _) (.pure _)

theorem qualifiedPath_steady (inExpr : Bool) : Steady (qualifiedPath g inExpr) := by
  refine (Steady.sees _).bind fun _ => .ite ?_ (path_steady plain _)
  refine (Steady.read rfl).bind fun _ => (plain.type _).bind fun _ => ?_
  have behind (shape : PathShape) : Steady (read (.mark ">") >>= fun _ => read (.mark "::") >>=
      fun _ => get >>= fun c => qualifiedSegments g inExpr (c.rest.length + 1) shape) := by
    refine (Steady.read rfl).bind fun _ => (Steady.read rfl).bind fun _ => .here fun _ => ?_
    exact qualifiedSegments_steady plain _ _ _
  refine (Steady.readIf rfl).bind fun _ => .ite ?_ (behind _)
  exact (path_steady plain _).bind fun _ => behind _

theorem result_steady (plus : Bool) : Steady (result g plus) := by
  refine (Steady.sees _).bind fun _ => .ite ?_ (.pure _)
  exact (Steady.read rfl).bind fun _ => (plain.type _).bind fun _ => .pure _

theorem callArguments_steady : Steady (callArguments g) :=
  (Steady.within _ _).bind fun _ => result_steady plain _

omit plain in
theorem seesCall_steady : Steady seesCall :=
  (Steady.sees _).bind fun _ => (Steady.sees _).bind fun _ => (Steady.seesThird _).bind fun _ =>
    .pure _

theorem callsBehind_steady (n : Nat) (shape : PathShape) : Steady (callsBehind g n shape) := by
  induction n generalizing shape with
  | zero => exact .pure _
  | succ n ih =>
      refine seesCall_steady.bind fun _ => .ite ?_ (.pure _)
      refine Steady.dropColons.bind fun _ => (callArguments_steady plain).bind fun _ => ?_
      refine .ite (.here fun _ => ?_) (.pure _)
      exact (moreSegments_steady plain _ _ _).bind fun shape => ih shape

theorem typePath_steady : Steady (typePath g) :=
  (qualifiedPath_steady plain _).bind fun shape => .here fun _ => callsBehind_steady plain _ shape

omit plain in
theorem invocation_steady : Steady invocation :=
  (Steady.read rfl).bind fun _ => .anyGroup

/-! Bounds. -/

theorem binder_steady : Steady (binder g) := by
  refine (Steady.read rfl).bind fun _ => (Steady.read rfl).bind fun _ => ?_
  refine (Steady.loop ?_).bind fun _ => .read rfl
  refine (Steady.sees _).bind fun _ => .ite (.pure _) ?_
  refine plain.parameter.bind fun _ => (Steady.sees _).bind fun _ => .ite (.pure _) ?_
  exact (Steady.read rfl).bind fun _ => .pure _

theorem binderIf_steady : Steady (binderIf g) := by
  refine (Steady.sees _).bind fun _ => .ite ?_ (.pure _)
  exact (binder_steady plain).bind fun _ => .pure _

omit plain in
theorem constMark_steady (constant : Bool) : Steady (constMark constant) := by
  refine (Steady.sees _).bind fun _ => .ite ?_ ?_
  · exact (Steady.within _ _).bind fun _ => .ite (.pure _) (.refuse _)
  · refine (Steady.sees _).bind fun _ => .ite ?_ (.pure _)
    exact (Steady.read rfl).bind fun _ => .ite (.pure _) (.refuse _)

theorem traitBound_steady (constant : Bool) : Steady (traitBound g constant) := by
  have binder : Steady (binderIf g) := binderIf_steady plain
  refine binder.bind fun _ => (constMark_steady _).bind fun _ => ?_
  refine (Steady.readIf rfl).bind fun _ => ?_
  refine .ite (binder.bind fun _ => ?_) (.bind (.pure _) fun _ => ?_)
  all_goals
    refine (path_steady plain _).bind fun shape => seesCall_steady.bind fun _ => .ite ?_ ?_
    · refine Steady.dropColons.bind fun _ => (callArguments_steady plain).bind fun _ => ?_
      exact .ite (.refuse _) (.pure _)
    · exact .ite (.refuse _) (.pure _)

omit plain in
theorem captureList_steady : Steady captureList := by
  have parameter : Steady capturedParameter := by
    refine (Steady.sees _).bind fun _ => .ite ?_ (Steady.readWord.bind fun _ => .pure _)
    exact (Steady.read rfl).bind fun _ => .pure _
  have entries (start : Cursor) (n : Nat) (done : List Entry) (h : ∀ e ∈ done, Unbroken e.tokens) :
      Keeps start (captureEntries n done) fun found => ∀ e ∈ found, Unbroken e.tokens := by
    induction n generalizing done with
    | zero => exact .pure h
    | succ n ih =>
        refine .behind (.seesAny _) fun _ => .ite ?_ (.behind (.sees _) fun _ => .ite (.pure h) ?_)
        · refine (Keeps.captured parameter).bind fun (isLifetime, tokens) read => ?_
          refine .behind (.sees _) fun _ => .ite (.behind (.pass rfl) fun _ => ih _ ?_) ?_
          · exact List.forall_mem_cons.mpr ⟨read.2, h⟩
          · refine .behind (.sees _) fun _ => .ite (.pure ?_) (.missingAny _)
            exact List.forall_mem_cons.mpr ⟨read.2, h⟩
        · exact .missingAny _
  refine (Steady.read rfl).bind fun _ => (Steady.read rfl).bind fun _ => .here fun _ start => ?_
  refine (entries start _ [] nofun).bind fun found read => ?_
  have plain : Unbroken (lifetimesFirst found.reverse) :=
    lifetimesFirst_unbroken fun e mem => read e (List.mem_reverse.mp mem)
  exact .behind (.write plain) fun _ => Steady.read rfl start

/-- A bound of an unusual form is written as it was taken. -/
theorem bound_steady (captures constant : Bool) : Steady (bound g captures constant) := by
  have inner : Steady (traitBound g constant) := traitBound_steady plain _
  refine (Steady.sees _).bind fun _ => .ite ((Steady.read rfl).bind fun _ => .pure _) ?_
  refine (Steady.sees _).bind fun _ => .ite ?_ fun _ => .here fun start => ?_
  · exact captureList_steady.bind fun _ => .ite (.pure _) (.refuse _)
  · refine .behind (.sees _) fun _ => .ite ?_ ?_
    · refine .behind (.within _ _) fun _ => .ite ?_ (.pure trivial)
      exact Keeps.takeSince.bind fun _ _ => .pure trivial
    · refine .behind inner fun _ => .ite ?_ (.pure trivial)
      exact Keeps.takeSince.bind fun _ _ => .pure trivial

omit plain in
theorem seesBoundStart_steady : Steady seesBoundStart :=
  Steady.seesWord.bind fun _ => (Steady.seesAny _).bind fun _ => .pure _

theorem bounds_steady (plus captures constant : Bool) :
    Steady (bounds g plus captures constant) := by
  have rounds (n : Nat) : Steady (boundsFrom g plus captures constant n) := by
    induction n with
    | zero => exact .pure _
    | succ n ih =>
        refine (plain.bound _ _).bind fun first => (Steady.readIf rfl).bind fun _ => ?_
        refine .ite (.pure _) (seesBoundStart_steady.bind fun _ => ?_)
        refine (Steady.seesAny _).bind fun _ => ?_
        exact .ite (ih.bind fun _ => .pure _) ((Steady.pure _).bind fun _ => .pure _)
  exact .here fun _ => rounds _

/-! Parameters of binders. -/

omit plain in
theorem lifetimesUpTo_steady {ends : Reader Bool} (h : Steady ends) :
    Steady (lifetimesUpTo ends) := by
  refine .loop (h.bind fun _ => .ite (.pure _) ?_)
  exact (Steady.read rfl).bind fun _ => .readIf rfl

omit plain in
theorem boundsAfterColon_steady {inner : Reader Unit} (h : Steady inner) :
    Steady (boundsAfterColon inner) := by
  refine (Steady.sees _).bind fun _ => .ite (.captured ?_ fun _ tokens unbroken => ?_) (.pure _)
  · exact (Steady.read rfl).bind fun _ => h
  · exact .ite (.write unbroken) (.pure _)

omit plain in
theorem lifetimeParameter_steady : Steady (lifetimeParameter g) := by
  refine outerAttrs_steady.bind fun _ => (Steady.read rfl).bind fun _ => ?_
  refine boundsAfterColon_steady (lifetimesUpTo_steady ?_)
  exact Steady.atEnd.bind fun _ => (Steady.seesAny _).bind fun _ => .pure _

theorem typeParameter_steady : Steady (typeParameter g) := by
  refine outerAttrs_steady.bind fun _ => Steady.readName.bind fun _ => ?_
  refine boundsAfterColon_steady (boundsUpTo_steady plain ?_)
  exact Steady.atEnd.bind fun _ => (Steady.seesAny _).bind fun _ => .pure _

theorem typeDefault_steady : Steady (typeDefault g) := by
  refine (Steady.readIf rfl).bind fun _ => .ite ?_ (.pure _)
  exact (plain.type _).bind fun _ => .pure _

theorem constParameter_steady : Steady (constParameter g) := by
  refine outerAttrs_steady.bind fun _ => (Steady.read rfl).bind fun _ => ?_
  refine Steady.readName.bind fun _ => (Steady.read rfl).bind fun _ => ?_
  exact (plain.type _).bind fun _ => .pure _

omit plain in
theorem constDefault_steady : Steady (constDefault g) := by
  exact (Steady.readIf rfl).bind fun _ => .ite constArgument_steady (.pure _)

theorem binderParameter_steady : Steady (binderParameter g) := by
  refine outerAttrs_steady.bind fun _ => (Steady.sees _).bind fun _ => .ite ?_ ?_
  · exact (typeParameter_steady plain).bind fun _ => typeDefault_steady plain
  refine (Steady.sees _).bind fun _ => .ite lifetimeParameter_steady ?_
  refine (Steady.sees _).bind fun _ => .ite ?_ (.missingAny _)
  exact (constParameter_steady plain).bind fun _ => constDefault_steady

/-! Types. -/

theorem objectBounds_steady (plus : Bool) : Steady (objectBounds g plus) :=
  (bounds_steady plain _ _ _).bind fun _ => .ite (.refuse _) (.pure _)

theorem plusBounds_steady : Steady (plusBounds g) := by
  refine .loop ((Steady.readIf rfl).bind fun _ => .ite (.pure _) ?_)
  exact (plain.bound _ _).bind fun _ => .pure _

theorem parenType_steady (plus : Bool) : Steady (parenType g plus) := by
  have more : Steady (plusBounds g) := plusBounds_steady plain
  refine (Steady.within _ _).bind fun contents => ?_
  cases contents with
  | finished kind => exact .pure _
  | bound => exact (Steady.sees _).bind fun _ => more.bind fun _ => .pure _
  | inner kind =>
      exact (Steady.sees _).bind fun _ => .ite (more.bind fun _ => .pure _) (.pure _)

theorem namedType_steady (plus bound : Bool) : Steady (namedType g plus bound) := by
  have bounds : Steady (pathBounds g plus) := by
    refine (Steady.sees _).bind fun _ => .ite ((Steady.loop ?_).bind fun _ => .pure _) (.pure _)
    refine (Steady.readIf rfl).bind fun _ => .ite (.pure _) ?_
    refine seesBoundStart_steady.bind fun _ => .ite (.pure _) ?_
    exact (plain.bound _ _).bind fun _ => .pure _
  refine (typePath_steady plain).bind fun shape => .ite (.pure _) ?_
  refine (Steady.seesOnly _ _).bind fun _ => .ite (invocation_steady.bind fun _ => .pure _) ?_
  exact (Steady.sees _).bind fun _ => .ite (bounds.bind fun _ => .pure _) (.pure _)

omit plain in
theorem abi_steady : Steady abi := by
  refine (Steady.readIf rfl).bind fun _ => .ite ?_ (.pure _)
  exact (Steady.readIf rfl).bind fun _ => .pure _

theorem functionType_steady : Steady (functionType g) := by
  refine (binderIf_steady plain).bind fun _ => (Steady.readIf rfl).bind fun _ => ?_
  refine abi_steady.bind fun _ => (Steady.read rfl).bind fun _ => ?_
  refine (Steady.within _ _).bind fun _ => ?_
  exact (result_steady plain _).bind fun _ => .pure _

theorem pointerType_steady : Steady (pointerType g) := by
  refine (Steady.read rfl).bind fun _ => ?_
  have pointee : Steady (g.type false >>= fun _ => pure ()) := (plain.type _).bind fun _ => .pure _
  refine (Steady.sees _).bind fun _ => .ite ((Steady.read rfl).bind fun _ => pointee) ?_
  refine (Steady.sees _).bind fun _ => .ite ((Steady.read rfl).bind fun _ => pointee) ?_
  exact (Steady.missingAny _).bind fun _ => pointee

theorem referenceType_steady : Steady (referenceType g) := by
  refine (Steady.read rfl).bind fun _ => (Steady.readIf rfl).bind fun _ => ?_
  exact (Steady.readIf rfl).bind fun _ => (plain.type _).bind fun _ => .pure _

theorem opaqueType_steady (plus : Bool) : Steady (opaqueType g plus) := by
  refine (Steady.read rfl).bind fun _ => (bounds_steady plain _ _ _).bind fun _ => ?_
  exact .ite (.refuse _) (.pure _)

/-- A type with a star behind `dyn` is written as it was taken. -/
theorem dynType_steady (plus : Bool) : Steady (dynType g plus) := by
  have bounds : Steady (objectBounds g plus) := objectBounds_steady plain _
  intro start
  refine Keeps.here fun start => .behind (.read rfl) fun _ => .behind (.readIf rfl) fun _ => ?_
  exact .behind bounds fun _ => .ite .takeSince (.pure trivial)

theorem typeOf_steady (plus : Bool) : Steady (typeOf g plus) := by
  have other {reader : Reader Unit} (h : Steady reader) (kind : TypeKind) :
      Steady (reader >>= fun _ => pure kind) := h.bind fun _ => .pure _
  refine (binderIf_steady plain).bind fun bound => ?_
  refine (Steady.seesAny _).bind fun _ => .ite (.missingAny _) ?_
  refine (Steady.sees _).bind fun _ => .ite (parenType_steady plain _) ?_
  refine (Steady.seesAny _).bind fun _ => .ite (other (functionType_steady plain) _) ?_
  refine (Steady.seesAny _).bind fun _ => .ite (namedType_steady plain _ _) ?_
  refine (Steady.sees _).bind fun _ => .ite (other (dynType_steady plain _) _) ?_
  refine (Steady.sees _).bind fun _ => .ite (other (.within _ _) _) ?_
  refine (Steady.sees _).bind fun _ => .ite (other (pointerType_steady plain) _) ?_
  refine (Steady.sees _).bind fun _ => .ite (other (referenceType_steady plain) _) ?_
  refine (Steady.sees _).bind fun _ => .ite (other (.read rfl) _) ?_
  refine (Steady.sees _).bind fun _ => .ite (other (opaqueType_steady plain _) _) ?_
  refine (Steady.sees _).bind fun _ => .ite (other (.read rfl) _) ?_
  exact (Steady.sees _).bind fun _ => .ite (other (objectBounds_steady plain _) _) (.missingAny _)

end Plain

/-- Types are steady however deep they are nested. -/
theorem ofDepth_plain (depth : Nat) : (ofDepth depth).Plain := by
  induction depth with
  | zero =>
      have none {α : Type} : Steady (tooDeep : Reader α) := Steady.atEnd.bind fun _ => .throw _
      exact ⟨fun _ => none, fun _ _ => none, none⟩
  | succ depth ih =>
      exact ⟨typeOf_steady ih, bound_steady ih, binderParameter_steady ih⟩

end Grammar
end MqttRouting.Attribute
