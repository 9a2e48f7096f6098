import MqttRouting.Attribute.Grammar.Depth

/-!
Types as they are read have no semicolon in them, but for one inside of a group: readers of types
and of all that types are made of take none, and write none.
-/

namespace MqttRouting.Attribute

/-- Nothing in it ends a statement. -/
def Unbroken (tokens : List Token) : Prop := ∀ token ∈ tokens, token.isPunct ';' = false

namespace Unbroken

variable {tokens more : List Token}

theorem nil : Unbroken [] := nofun

theorem append (h : Unbroken tokens) (h' : Unbroken more) : Unbroken (tokens ++ more) :=
  List.forall_mem_append.mpr ⟨h, h'⟩

theorem cons {token : Token} (h : token.isPunct ';' = false) (h' : Unbroken tokens) :
    Unbroken (token :: tokens) :=
  List.forall_mem_cons.mpr ⟨h, h'⟩

theorem reverse (h : Unbroken tokens) : Unbroken tokens.reverse :=
  fun token mem => h token (List.mem_reverse.mp mem)

end Unbroken

namespace Grammar

/-! Pieces. -/

namespace Piece

/-- Whether no semicolon belongs to a piece. -/
def plain : Piece → Bool
  | .mark marks => !marks.toList.contains ';'
  | _ => true

theorem startsMark_unbroken {chars : List Char} {tokens : List Token} (plain : ';' ∉ chars)
    (starts : startsMark chars tokens = true) : Unbroken (tokens.take chars.length) := by
  induction chars generalizing tokens with
  | nil => exact Unbroken.nil
  | cons c more ih =>
      rw [List.mem_cons, not_or] at plain
      have other (c' : Char) (joint : Bool) (same : c = c') :
          (Token.punct c' joint).isPunct ';' = false :=
        same ▸ beq_eq_false_iff_ne.mpr plain.1
      cases tokens with
      | nil => cases more <;> cases starts
      | cons token rest =>
          cases token with
          | punct c' joint =>
              cases more with
              | nil => exact .cons (other c' joint (beq_iff_eq.mp starts)) .nil
              | cons =>
                  simp only [startsMark, Bool.and_eq_true, beq_iff_eq] at starts
                  exact .cons (other c' joint starts.1.1) (ih plain.2 starts.2)
          | ident | literal | group => cases more <;> cases starts

theorem starts_unbroken {p : Piece} {tokens : List Token} (plain : p.plain = true)
    (starts : p.starts tokens = true) : Unbroken (tokens.take (p.width tokens)) := by
  unfold Piece.starts at starts
  split at starts
  · exact .cons rfl .nil
  · refine startsMark_unbroken ?_ starts
    simpa [Piece.plain] using plain
  · exact .cons rfl .nil
  · exact .cons rfl (.cons rfl .nil)
  · exact .cons rfl .nil
  · exact .cons rfl .nil
  · exact .cons rfl (.cons rfl .nil)
  · exact .cons rfl .nil
  · exact .cons rfl .nil
  · cases starts

end Piece

/-! Cursors. -/

/-- No semicolon has been taken or written since a cursor. -/
structure Since (start now : Cursor) : Prop where
  taken : ∃ taken, start.rest = taken ++ now.rest ∧ Unbroken taken
  written : Unbroken start.written → Unbroken now.written

namespace Since

theorem refl (now : Cursor) : Since now now := ⟨⟨[], rfl, .nil⟩, id⟩

theorem trans {start mid now : Cursor} (h : Since start mid) (h' : Since mid now) :
    Since start now := by
  obtain ⟨⟨first, front, plain⟩, written⟩ := h
  obtain ⟨⟨second, back, plain'⟩, written'⟩ := h'
  exact ⟨⟨first ++ second, by rw [front, back, List.append_assoc], plain.append plain'⟩,
    written' ∘ written⟩

theorem drop {now : Cursor} {n : Nat} (h : Unbroken (now.rest.take n)) :
    Since now { now with rest := now.rest.drop n } :=
  ⟨⟨now.rest.take n, (List.take_append_drop n now.rest).symm, h⟩, id⟩

theorem take {now : Cursor} {n : Nat} (h : Unbroken (now.rest.take n)) :
    Since now { now with
      rest := now.rest.drop n
      written := (now.rest.take n).reverse ++ now.written } :=
  ⟨⟨now.rest.take n, (List.take_append_drop n now.rest).symm, h⟩, h.reverse.append⟩

end Since

/-! What some combinators do with a cursor. -/

section Run

variable {α : Type} (reader : Reader α) (c : Cursor)

theorem run_captured : (captured reader).run c =
    (fun found => ((found.1, found.2.written.reverse), { found.2 with written := c.written })) <$>
      reader.run { c with written := [] } := by
  simp [captured]

theorem run_takeSince (start : Cursor) : (takeSince start).run c =
    .ok ((), { c with written :=
      (start.rest.take (start.rest.length - c.rest.length)).reverse ++ start.written }) :=
  rfl

theorem run_within {d : Delimiter} {tokens rest : List Token}
    (front : c.rest = .group d tokens :: rest) :
    (within d reader).run c = (fun found => (found.1, { c with
      rest
      leftOver := found.2.leftOver <|> if found.2.rest.isEmpty then none else some d
      written := .group d found.2.written.reverse :: c.written })) <$>
        reader.run { rest := tokens, inside := some d, leftOver := c.leftOver } := by
  simp [within, front]

end Run

/-- From a cursor on a reader takes and writes no semicolon, and its answer has a property. -/
def Keeps {α : Type} (start : Cursor) (reader : Reader α) (P : α → Prop) : Prop :=
  ∀ c x c', Since start c → reader.run c = .ok (x, c') → Since start c' ∧ P x

/-- A reader takes and writes no semicolon, wherever it starts. -/
def Steady {α : Type} (reader : Reader α) : Prop := ∀ start, Keeps start reader fun _ => True

namespace Keeps

variable {α β : Type} {start : Cursor} {reader : Reader α} {P : α → Prop} {Q : β → Prop}

theorem pure {x : α} (h : P x) : Keeps start (Pure.pure x) P := by
  rintro c _ _ since ⟨⟩
  exact ⟨since, h⟩

theorem bind {next : α → Reader β} (h : Keeps start reader P)
    (h' : ∀ x, P x → Keeps start (next x) Q) : Keeps start (reader >>= next) Q := by
  intro c y c' since run
  rw [StateT.run_bind] at run
  cases first : reader.run c with
  | error e =>
      rw [first] at run
      cases run
  | ok found =>
      obtain ⟨x, c₁⟩ := found
      rw [first] at run
      obtain ⟨since, known⟩ := h c x c₁ since first
      exact h' x known c₁ y c' since run

/-- Whatever the first reader answers. -/
theorem behind {next : α → Reader β} (h : Steady reader) (h' : ∀ x, Keeps start (next x) Q) :
    Keeps start (reader >>= next) Q :=
  (h start).bind fun x _ => h' x

theorem ite {c : Prop} [Decidable c] {other : Reader α} (h : Keeps start reader P)
    (h' : Keeps start other P) : Keeps start (if c then reader else other) P := by
  split
  · exact h
  · exact h'

/-- Goes on with the present cursor as the one to start from. -/
theorem here {next : Cursor → Reader β} (h : ∀ now, Keeps now (next now) Q) :
    Keeps start (get >>= next) Q := by
  intro c y c' since run
  obtain ⟨since', known⟩ := h c c y c' (.refl c) run
  exact ⟨since.trans since', known⟩

theorem throw (e : SyntaxError) : Keeps start (MonadExcept.throw e) P := nofun

theorem missing (what : Expectation) : Keeps start (Grammar.missing what) P :=
  behind (fun _ => here fun _ => pure trivial) fun _ => throw _

theorem missingAny (pieces : List Piece) : Keeps start (Grammar.missingAny pieces) P :=
  here fun _ => missing _

/-- What is captured has no semicolon in it. -/
theorem captured (h : ∀ now, Keeps now reader P) :
    Keeps start (Grammar.captured reader) fun found => P found.1 ∧ Unbroken found.2 := by
  intro c x c' since run
  cases found : reader.run { c with written := [] } with
  | error e =>
      rw [run_captured, found] at run
      cases run
  | ok y =>
      obtain ⟨since', known⟩ := h _ _ _ _ (.refl _) found
      rw [run_captured, found] at run
      cases run
      exact ⟨since.trans ⟨since'.taken, id⟩, known, (since'.written .nil).reverse⟩

/-- What has been taken since the start is written as it is. -/
theorem takeSince : Keeps start (Grammar.takeSince start) fun _ => True := by
  intro c _ c' since run
  obtain ⟨⟨taken, front, plain⟩, _⟩ := since
  rw [run_takeSince] at run
  cases run
  have again : start.rest.take (start.rest.length - c.rest.length) = taken := by simp [front]
  refine ⟨⟨⟨taken, front, plain⟩, ?_⟩, trivial⟩
  simp only [again]
  exact plain.reverse.append

end Keeps

namespace Steady

variable {α β : Type} {reader : Reader α}

theorem pure (x : α) : Steady (Pure.pure x) := fun _ => .pure trivial

theorem throw (e : SyntaxError) : Steady (MonadExcept.throw e : Reader α) := fun _ => .throw e

theorem bind {next : α → Reader β} (h : Steady reader) (h' : ∀ x, Steady (next x)) :
    Steady (reader >>= next) :=
  fun start => .behind h fun x => h' x start

theorem here {next : Cursor → Reader β} (h : ∀ now, Steady (next now)) :
    Steady (get >>= next) :=
  fun _ => .here fun now => h now now

theorem ite {c : Prop} [Decidable c] {other : Reader α} (h : Steady reader) (h' : Steady other) :
    Steady (if c then reader else other) :=
  fun start => .ite (h start) (h' start)

/-- Goes on with what is captured, and knows that it has no semicolon in it. -/
theorem captured {next : α × List Token → Reader β} (h : Steady reader)
    (h' : ∀ x tokens, Unbroken tokens → Steady (next (x, tokens))) :
    Steady (Grammar.captured reader >>= next) :=
  fun start => (Keeps.captured h).bind fun found known => h' found.1 found.2 known.2 start

/-! Looking ahead. -/

theorem sees (p : Piece) : Steady (Grammar.sees p) := here fun _ => pure _

theorem seesAny (pieces : List Piece) : Steady (Grammar.seesAny pieces) := here fun _ => pure _

theorem seesSecond (p : Piece) : Steady (Grammar.seesSecond p) := here fun _ => pure _

theorem seesThird (p : Piece) : Steady (Grammar.seesThird p) := here fun _ => pure _

theorem seesWord : Steady Grammar.seesWord := here fun _ => pure _

theorem seesOnly (mark : String) (longer : List String) : Steady (Grammar.seesOnly mark longer) :=
  here fun _ => pure _

theorem atEnd : Steady Grammar.atEnd := here fun _ => pure _

/-! Faults. -/

theorem missingAny (pieces : List Piece) : Steady (Grammar.missingAny pieces : Reader α) :=
  fun _ => .missingAny pieces

theorem refuse (cause : Refusal) : Steady (Grammar.refuse cause : Reader α) := throw _

/-! Taking and writing. -/

theorem write {tokens : List Token} (h : Unbroken tokens) : Steady (Grammar.write tokens) := by
  rintro start c _ _ ⟨taken, written⟩ ⟨⟩
  exact ⟨⟨taken, fun plain => h.reverse.append (written plain)⟩, trivial⟩

theorem read {p : Piece} (plain : p.plain = true) : Steady (Grammar.read p) := by
  intro start c _ c' since run
  change StateT.run (if p.starts c.rest = true then take (p.width c.rest)
    else MonadExcept.throw (p.fault c.rest)) c = _ at run
  split at run
  · rename_i starts
    cases run
    exact ⟨since.trans (.take (Piece.starts_unbroken plain starts)), trivial⟩
  · cases run

theorem readIf {p : Piece} (plain : p.plain = true) : Steady (Grammar.readIf p) := by
  refine (sees p).bind fun _ => .ite ?_ (pure _)
  exact (read plain).bind fun _ => pure _

theorem readWord : Steady Grammar.readWord := by
  intro start c _ c' since run
  obtain ⟨rest, inside, written, leftOver⟩ := c
  cases rest with
  | nil => cases run
  | cons token rest =>
      cases token with
      | ident name =>
          cases run
          exact ⟨since.trans (.take (n := 1) (.cons rfl .nil)), trivial⟩
      | punct | literal | group => cases run

theorem readName : Steady Grammar.readName := by
  refine (read rfl).bind fun _ => here fun now => ?_
  split
  · exact pure _
  · exact pure _

theorem anyGroup : Steady Grammar.anyGroup := by
  intro start c _ c' since run
  obtain ⟨rest, inside, written, leftOver⟩ := c
  cases rest with
  | nil => cases run
  | cons token rest =>
      cases token with
      | group d inner =>
          cases run
          exact ⟨since.trans (.take (n := 1) (.cons rfl .nil)), trivial⟩
      | punct | literal | ident => cases run

theorem dropColons : Steady Grammar.dropColons := by
  intro start c _ c' since run
  change StateT.run (if (Piece.mark "::").starts c.rest = true then drop 2 else Pure.pure ()) c = _
    at run
  split at run
  · rename_i starts
    cases run
    exact ⟨since.trans (.drop (Piece.starts_unbroken (p := .mark "::") rfl starts)), trivial⟩
  · cases run
    exact ⟨since, trivial⟩

/-! Combinators. -/

/-- A group is taken and written, whatever is in it. -/
theorem within (d : Delimiter) (inner : Reader α) : Steady (Grammar.within d inner) := by
  intro start c _ c' since run
  obtain ⟨rest, inside, written, leftOver⟩ := c
  cases rest with
  | nil => cases run
  | cons token rest =>
      cases token with
      | group d' tokens =>
          by_cases same : d = d'
          · subst same
            rw [run_within inner _ rfl] at run
            cases found : inner.run { rest := tokens, inside := some d, leftOver } with
            | error e =>
                rw [found] at run
                cases run
            | ok y =>
                rw [found] at run
                cases run
                have taken : Unbroken [.group d tokens] := .cons rfl .nil
                exact ⟨since.trans ⟨⟨_, rfl, taken⟩, .cons rfl⟩, trivial⟩
          · simp [Grammar.within, same] at run
            cases run
      | punct | literal | ident => cases run

/-- What is passed is taken and not written. -/
theorem pass {p : Piece} (plain : p.plain = true) : Steady (Grammar.pass p) :=
  captured (read plain) fun _ _ _ => pure _

theorem loop {step : Reader Bool} (h : Steady step) : Steady (Grammar.loop step) := by
  have rounds (n : Nat) : Steady (repeatUpTo step n) := by
    induction n with
    | zero => exact pure _
    | succ n ih => exact h.bind fun _ => .ite ih (pure _)
  exact here fun _ => rounds _

end Steady
end Grammar
end MqttRouting.Attribute
