import Mathlib.Data.List.Forall2
import MqttRouting.Json.Shape
import MqttRouting.Proofs.Json.Skipping

/-!
Reading a shape straight from text against reading a value first and imposing the shape on
it. Without records the two accept the same texts and give the same data. A record skips
what it has no field for and refuses a key that comes twice, so either way may fail where
the other succeeds; where both succeed they give the same data.
-/

namespace MqttRouting.Json

theorem Begins.of_list {depth rest b v unread} (begins : Begins depth rest b v unread)
    (bracket : b = asciiByte '[') :
    ∃ vs here, depth ≠ 0 ∧ vs.length ≤ rest.length ∧ Items (readValue depth) .true rest vs here ∧
      v = .list vs ∧ unread = here.tail := by
  cases begins with
  | list deep short items => exact ⟨_, _, deep, short, items, rfl, rfl⟩
  | number starts _ =>
    subst bracket
    exact absurd starts (by decide)
  | null _ | true _ | false _ | text _ | object _ _ _ => exact absurd bracket (by decide)

theorem Begins.of_object {depth rest b v unread} (begins : Begins depth rest b v unread)
    (brace : b = asciiByte '\x7b') :
    ∃ entries here, Members (readValue depth) .true rest entries here ∧
      v = .object (Dictionary.overlay [] entries) ∧ unread = here.tail := by
  cases begins with
  | object _ _ members => exact ⟨_, _, members, rfl, rfl⟩
  | number starts _ =>
    subst brace
    exact absurd starts (by decide)
  | null _ | true _ | false _ | text _ | list _ _ _ => exact absurd brace (by decide)

theorem closeList_ok {input rest : List UInt8} (h : closeList input = .ok rest) :
    skipBlank input = asciiByte ']' :: rest := by
  simp only [closeList] at h
  split at h
  · cases h
  · next b behind ahead =>
    split_ifs at h with close
    · rw [ahead, close, Except.ok.inj h]
    · split at h <;> cases h
    · cases h

theorem readWhole_ok_iff {α : Type} {reading : List UInt8 → Reading α} {text : List UInt8}
    {x : α} :
    readWhole reading text = .ok x ↔ ∃ rest, reading text = .ok (x, rest) ∧ skipBlank rest = [] := by
  simp only [readWhole]
  constructor
  · intro h
    split at h
    · cases h
    · next y rest read =>
      split at h
      · next ended =>
        obtain rfl := Except.ok.inj h
        exact ⟨rest, read, ended⟩
      · cases h
  · rintro ⟨rest, read, ended⟩
    simp only [read, ended]

namespace Shape

/-- Whether no record occurs in a shape. -/
def RecordFree : Shape → Prop
  | .struct _ _ => False
  | .list item => item.RecordFree
  | _ => True

/-! What a shape is read from, and what it can be imposed on. -/

theorem refuse_ne_ok {expected : String} {b : UInt8} {rest : List UInt8}
    {found : Value × List UInt8} : refuse expected b rest ≠ .ok found := by
  intro h
  simp only [refuse] at h
  split at h
  case h_7 =>
    split at h
    · obtain ⟨_, _, h⟩ := bind_ok_iff.mp h
      cases h
    · cases h
  case h_5 | h_6 => cases h
  all_goals
    obtain ⟨_, _, h⟩ := bind_ok_iff.mp h
    cases h

theorem castItems_ok_iff {cast : Value → Except Cause Value} {vs xs : List Value} :
    castItems cast vs = .ok xs ↔ List.Forall₂ (fun v x => cast v = .ok x) vs xs := by
  induction vs generalizing xs with
  | nil => simp [castItems, eq_comm]
  | cons v vs ih =>
    simp only [castItems, bind_ok_iff, Except.ok.injEq, ih, List.forall₂_cons_left_iff]
    constructor
    · rintro ⟨x, here, more, rest, rfl⟩
      exact ⟨x, more, here, rest, rfl⟩
    · rintro ⟨x, more, here, rest, rfl⟩
      exact ⟨x, here, more, rest, rfl⟩

theorem cast_flag_ok {v x : Value} (h : cast .flag v = .ok x) : ∃ b, v = .bool b ∧ x = .bool b := by
  cases v with
  | bool b => exact ⟨b, rfl, (Except.ok.inj h).symm⟩
  | null | number _ | text _ | list _ | object _ => cases h

theorem cast_text_ok {v x : Value} (h : cast .text v = .ok x) : ∃ s, v = .text s ∧ x = .text s := by
  cases v with
  | text s => exact ⟨s, rfl, (Except.ok.inj h).symm⟩
  | null | bool _ | number _ | list _ | object _ => cases h

theorem cast_list_ok {item : Shape} {v x : Value} (h : cast (.list item) v = .ok x) :
    ∃ vs xs, v = .list vs ∧ castItems item.cast vs = .ok xs ∧ x = .list xs := by
  cases v with
  | list vs =>
    obtain ⟨xs, items, rfl⟩ := map_ok_iff.mp h
    exact ⟨vs, xs, rfl, items, rfl⟩
  | null | bool _ | number _ | text _ | object _ => cases h

theorem settle_ok_iff {outcome : Except Cause Value} {rest unread : List UInt8} {x : Value} :
    settle outcome rest = .ok (x, unread) ↔ outcome = .ok x ∧ unread = rest := by
  cases outcome with
  | error cause => exact ⟨nofun, nofun⟩
  | ok y => simp [settle, eq_comm]

theorem readNumberAs_ok_iff {shape : Shape} {b : UInt8} {rest unread : List UInt8} {x : Value} :
    readNumberAs shape b rest = .ok (x, unread) ↔
      startsNumber b ∧ ∃ n, readSignedNumber (b :: rest) = .ok (n, unread) ∧
        castNumber shape n = .ok x := by
  simp only [readNumberAs]
  constructor
  · intro h
    split_ifs at h with starts
    · split at h
      · next n behind read =>
        obtain ⟨imposed, rfl⟩ := settle_ok_iff.mp h
        exact ⟨starts, n, read, imposed⟩
      · cases h
    · exact absurd h refuse_ne_ok
  · rintro ⟨starts, n, read, imposed⟩
    rw [if_pos starts, read]
    exact settle_ok_iff.mpr ⟨imposed, rfl⟩

theorem read_list_iff {item : Shape} {depth : Nat} {input unread : List UInt8} {x : Value} :
    (Shape.list item).read (depth + 1) input = .ok (x, unread) ↔
      ∃ rest xs here, skipBlank input = asciiByte '[' :: rest ∧ depth ≠ 0 ∧
        xs.length ≤ rest.length ∧ Items (item.read depth) true rest xs here ∧
        x = .list xs ∧ unread = here.tail := by
  simp only [read]
  constructor
  · intro h
    split at h
    · cases h
    · next b rest ahead =>
      split_ifs at h with bracket flat
      · cases h
      · split at h
        · next xs here items =>
          obtain ⟨rfl, rfl⟩ := Prod.mk.inj (Except.ok.inj h)
          obtain ⟨xs, short, rfl, items⟩ := readItems_ok_iff.mp items
          exact ⟨rest, xs, here, bracket ▸ ahead, by omega, Nat.lt_succ_iff.mp short, items,
            rfl, rfl⟩
        · cases h
      · exact absurd h refuse_ne_ok
  · rintro ⟨rest, xs, here, ahead, deep, short, items, rfl, rfl⟩
    have read : readItems (item.read depth) (rest.length + 1) true [] rest = .ok (xs, here) :=
      readItems_ok_iff.mpr ⟨xs, Nat.lt_succ_iff.mpr short, rfl, items⟩
    simp only [ahead, if_true, if_neg (show ¬ depth + 1 ≤ 1 by omega), Nat.add_sub_cancel, read]

/-! Shapes without records. -/

/-- Reading with `item` is reading with `value` and casting what was read. -/
def Exact (item value : List UInt8 → Reading Value) (cast : Value → Except Cause Value) : Prop :=
  ∀ input x unread, item input = .ok (x, unread) ↔
    ∃ v, value input = .ok (v, unread) ∧ cast v = .ok x

theorem exact_any (depth : Nat) : Exact (read .any depth) (readValue depth) (cast .any) := by
  intro input x unread
  exact ⟨fun h => ⟨x, h, rfl⟩, fun ⟨v, h, same⟩ => Except.ok.inj same ▸ h⟩

theorem readFlag_ok_iff {depth b rest x unread} :
    readFlag b rest = .ok (x, unread) ↔
      ∃ v, Begins depth rest b v unread ∧ cast .flag v = .ok x := by
  simp only [readFlag]
  constructor
  · intro h
    split at h
    · next c =>
      obtain rfl := eq_asciiByte c
      obtain ⟨_, word, same⟩ := map_ok_iff.mp h
      obtain ⟨rfl, rfl⟩ := same
      exact ⟨_, .true word, rfl⟩
    · next c =>
      obtain rfl := eq_asciiByte c
      obtain ⟨_, word, same⟩ := map_ok_iff.mp h
      obtain ⟨rfl, rfl⟩ := same
      exact ⟨_, .false word, rfl⟩
    · exact absurd h refuse_ne_ok
  · rintro ⟨v, begins, imposed⟩
    obtain ⟨flag, rfl, rfl⟩ := cast_flag_ok imposed
    cases begins with
    | true word | false word => exact map_ok_iff.mpr ⟨_, word, rfl⟩

theorem readText_ok_iff {depth b rest x unread} :
    readText b rest = .ok (x, unread) ↔
      ∃ v, Begins depth rest b v unread ∧ cast .text v = .ok x := by
  simp only [readText]
  constructor
  · intro h
    split_ifs at h with quote
    · subst quote
      obtain ⟨_, quoted, same⟩ := map_ok_iff.mp h
      obtain ⟨rfl, rfl⟩ := same
      exact ⟨_, .text quoted, rfl⟩
    · exact absurd h refuse_ne_ok
  · rintro ⟨v, begins, imposed⟩
    obtain ⟨s, rfl, rfl⟩ := cast_text_ok imposed
    cases begins with
    | text quoted => exact map_ok_iff.mpr ⟨_, quoted, rfl⟩

/-- What is true of a shape without brackets once its first byte is known. -/
theorem exact_scalar {shape : Shape} {depth : Nat}
    (reads : ∀ input, shape.read (depth + 1) input = match skipBlank input with
      | [] => stopAt .eofInValue []
      | b :: rest => readScalar shape b rest)
    (same : ∀ {b rest x unread}, readScalar shape b rest = .ok (x, unread) ↔
      ∃ v, Begins depth rest b v unread ∧ shape.cast v = .ok x) :
    Exact (shape.read (depth + 1)) (readValue (depth + 1)) shape.cast := by
  intro input x unread
  rw [reads]
  constructor
  · intro h
    split at h
    · cases h
    · next b rest ahead =>
      obtain ⟨v, begins, imposed⟩ := same.mp h
      exact ⟨v, readValue_succ_iff.mpr ⟨b, rest, ahead, begins⟩, imposed⟩
  · rintro ⟨v, h, imposed⟩
    obtain ⟨b, rest, ahead, begins⟩ := readValue_succ_iff.mp h
    rw [ahead]
    exact same.mpr ⟨v, begins, imposed⟩

/-- The shapes that take a number and nothing else. -/
theorem exact_number {shape : Shape} {depth : Nat}
    (reads : ∀ input, shape.read (depth + 1) input = match skipBlank input with
      | [] => stopAt .eofInValue []
      | b :: rest => readScalar shape b rest)
    (numeric : readScalar shape = readNumberAs shape)
    (casts : ∀ v x, shape.cast v = .ok x ↔ ∃ n, v = .number n ∧ castNumber shape n = .ok x) :
    Exact (shape.read (depth + 1)) (readValue (depth + 1)) shape.cast := by
  refine exact_scalar reads fun {b rest x unread} => ?_
  rw [numeric, readNumberAs_ok_iff]
  constructor
  · rintro ⟨starts, n, read, imposed⟩
    exact ⟨_, .number starts read, (casts _ _).mpr ⟨n, rfl, imposed⟩⟩
  · rintro ⟨v, begins, imposed⟩
    obtain ⟨n, rfl, fits⟩ := (casts _ _).mp imposed
    cases begins with
    | number starts read => exact ⟨starts, n, read, fits⟩

theorem Exact.items {item value : List UInt8 → Reading Value} {cast : Value → Except Cause Value}
    (exact : Exact item value cast) {first : Bool} {input unread : List UInt8} {xs : List Value} :
    Items item first input xs unread ↔
      ∃ vs, Items value first input vs unread ∧ castItems cast vs = .ok xs := by
  simp only [castItems_ok_iff]
  constructor
  · intro items
    induction items with
    | done next => exact ⟨[], .done next, .nil⟩
    | more next read _ ih =>
      obtain ⟨v, read, imposed⟩ := (exact _ _ _).mp read
      obtain ⟨vs, items, all⟩ := ih
      exact ⟨v :: vs, .more next read items, .cons imposed all⟩
  · rintro ⟨vs, items, all⟩
    induction items generalizing xs with
    | done next =>
      cases all
      exact .done next
    | more next read _ ih =>
      cases all with
      | cons imposed all => exact .more next ((exact _ _ _).mpr ⟨_, read, imposed⟩) (ih all)

theorem exact_list {item : Shape} {depth : Nat}
    (exact : depth ≠ 0 → Exact (item.read depth) (readValue depth) item.cast) :
    Exact (read (.list item) (depth + 1)) (readValue (depth + 1)) (cast (.list item)) := by
  intro input x unread
  rw [read_list_iff]
  constructor
  · rintro ⟨rest, xs, here, ahead, deep, short, items, rfl, rfl⟩
    obtain ⟨vs, items, all⟩ := (exact deep).items.mp items
    have short : vs.length ≤ rest.length := (castItems_ok_iff.mp all).length_eq ▸ short
    exact ⟨.list vs, readValue_succ_iff.mpr ⟨_, rest, ahead, .list deep short items⟩,
      map_ok_iff.mpr ⟨xs, all, rfl⟩⟩
  · rintro ⟨v, h, imposed⟩
    obtain ⟨vs, xs, rfl, all, rfl⟩ := cast_list_ok imposed
    obtain ⟨b, rest, ahead, begins⟩ := readValue_succ_iff.mp h
    cases begins with
    | list deep short items =>
      have short : xs.length ≤ rest.length := (castItems_ok_iff.mp all).length_eq ▸ short
      exact ⟨rest, xs, _, ahead, deep, short, (exact deep).items.mpr ⟨vs, items, all⟩, rfl, rfl⟩

/-- Without records, a shape is read wherever a value is read that the shape can be imposed
on, with the same data. -/
theorem exact_read : (shape : Shape) → shape.RecordFree → (depth : Nat) →
    Exact (shape.read (depth + 1)) (readValue (depth + 1)) shape.cast
  | .any, _, depth => exact_any (depth + 1)
  | .flag, _, _ => exact_scalar (fun _ => rfl) readFlag_ok_iff
  | .text, _, _ => exact_scalar (fun _ => rfl) readText_ok_iff
  | .int64, _, _ => exact_number (fun _ => rfl) rfl fun v x => by cases v <;> simp [cast]
  | .byte, _, _ => exact_number (fun _ => rfl) rfl fun v x => by cases v <;> simp [cast]
  | .float64, _, _ => exact_number (fun _ => rfl) rfl fun v x => by cases v <;> simp [cast]
  | .list item, plain, 0 => exact_list fun none => absurd rfl none
  | .list item, plain, depth + 1 => exact_list fun _ => exact_read item plain depth
  | .struct _ _, plain, _ => plain.elim

/-! All shapes. -/

/-- Where reading with `item` and reading with `value` both succeed, they stop at the same
byte, and casting what `value` has read gives nothing else than `item`. -/
def Agrees (item value : List UInt8 → Reading Value) (cast : Value → Except Cause Value) : Prop :=
  ∀ input x unread v unread', item input = .ok (x, unread) → value input = .ok (v, unread') →
    unread = unread' ∧ ∀ x', cast v = .ok x' → x' = x

theorem Exact.agrees {item value : List UInt8 → Reading Value} {cast : Value → Except Cause Value}
    (exact : Exact item value cast) : Agrees item value cast := by
  intro input x unread v unread' read found
  obtain ⟨w, found', imposed⟩ := (exact _ _ _).mp read
  obtain ⟨rfl, rfl⟩ := Prod.mk.inj (Except.ok.inj (found'.symm.trans found))
  exact ⟨rfl, fun x' imposed' => Except.ok.inj (imposed'.symm.trans imposed)⟩

theorem Agrees.items {item value : List UInt8 → Reading Value} {cast : Value → Except Cause Value}
    (agrees : Agrees item value cast) {first : Bool} {input unread unread' : List UInt8}
    {xs vs : List Value} (items : Items item first input xs unread)
    (values : Items value first input vs unread') :
    unread = unread' ∧ ∀ xs', castItems cast vs = .ok xs' → xs' = xs := by
  induction items generalizing vs with
  | done next =>
    cases values with
    | done next' =>
      obtain ⟨-, rfl⟩ := Prod.mk.inj (Except.ok.inj (next.symm.trans next'))
      exact ⟨rfl, fun xs' all => (Except.ok.inj all).symm⟩
    | more next' => cases next.symm.trans next'
  | more next read _ ih =>
    cases values with
    | done next' => cases next.symm.trans next'
    | more next' read' values =>
      obtain ⟨-, rfl⟩ := Prod.mk.inj (Except.ok.inj (next.symm.trans next'))
      obtain ⟨rfl, same⟩ := agrees _ _ _ _ _ read read'
      obtain ⟨rfl, sames⟩ := ih values
      refine ⟨rfl, fun xs' all => ?_⟩
      cases castItems_ok_iff.mp all with
      | cons imposed others => rw [same _ imposed, sames _ (castItems_ok_iff.mpr others)]

theorem agrees_list {item : Shape} {depth : Nat}
    (agrees : Agrees (item.read depth) (readValue depth) item.cast) :
    Agrees (read (.list item) (depth + 1)) (readValue (depth + 1)) (cast (.list item)) := by
  intro input x unread v unread' read found
  obtain ⟨rest, xs, here, ahead, -, -, items, rfl, rfl⟩ := read_list_iff.mp read
  obtain ⟨b, _, ahead', begins⟩ := readValue_succ_iff.mp found
  obtain ⟨rfl, rfl⟩ := List.cons.inj (ahead.symm.trans ahead')
  obtain ⟨vs, here', -, -, values, rfl, rfl⟩ := begins.of_list rfl
  obtain ⟨rfl, same⟩ := agrees.items items values
  refine ⟨rfl, fun x' imposed => ?_⟩
  obtain ⟨_, xs', ⟨⟩, all, rfl⟩ := cast_list_ok imposed
  rw [same _ all]

/-! Records. -/

theorem find?_casts (fields : List (String × Shape)) (key : String) :
    Dictionary.find? key (casts fields) = (Dictionary.find? key fields).map cast := by
  induction fields with
  | nil => rfl
  | cons f fields ih =>
    simp only [casts, Dictionary.find?, ih]
    split <;> rfl

theorem find?_readers (fields : List (String × Shape)) (depth : Nat) (key : String) :
    Dictionary.find? key (readers fields depth) =
      (Dictionary.find? key fields).map fun item => item.read depth := by
  induction fields with
  | nil => rfl
  | cons f fields ih =>
    simp only [readers, Dictionary.find?, ih]
    split <;> rfl

/-- A record written as a list. -/
theorem readTuple_agrees {fields : List (String × Shape)} {depth : Nat}
    {value : List UInt8 → Reading Value}
    (agrees : ∀ f ∈ fields, Agrees (f.2.read depth) value f.2.cast)
    {expected : String} {position : Nat} {input unread unread' : List UInt8}
    {entries : List (String × Value)} {vs : List Value}
    (read : readTuple expected position (readers fields depth) input = .ok (entries, unread))
    (values : Items value (position = 0) input vs unread') :
    unread = unread'.tail ∧ ∀ entries' left,
      castTuple expected position (casts fields) vs = .ok (entries', left) →
        entries' = entries := by
  induction fields generalizing position input entries vs with
  | nil =>
    obtain ⟨_, closed, same⟩ := map_ok_iff.mp read
    obtain ⟨rfl, rfl⟩ := same
    have ahead := closeList_ok closed
    cases values with
    | done next =>
      obtain ⟨_, ahead', rfl⟩ := nextItem_false next
      obtain ⟨-, rfl⟩ := List.cons.inj (ahead.symm.trans ahead')
      exact ⟨rfl, fun _ _ imposed => (congrArg Prod.fst (Except.ok.inj imposed)).symm⟩
    | more next =>
      have next := nextItem_true next
      split_ifs at next
      · obtain ⟨b, _, ahead', opened, -⟩ := next
        exact absurd (List.cons.inj (ahead'.symm.trans ahead)).1 opened
      · obtain ⟨_, ahead', -⟩ := next
        exact absurd (List.cons.inj (ahead'.symm.trans ahead)).1 (by decide)
  | cons f fields ih =>
    simp only [readers, Shape.readTuple, bind_ok_iff, Prod.exists] at read
    obtain ⟨more, here, next, read⟩ := read
    cases more with
    | false => cases read
    | true =>
      simp only [if_true, bind_ok_iff, Prod.exists, Except.ok.injEq, Prod.mk.injEq] at read
      obtain ⟨x, behind, item, entries, _, rest, rfl, rfl⟩ := read
      cases values with
      | done next' => cases next.symm.trans next'
      | @more _ _ _ v _ vs _ next' item' values =>
        obtain ⟨-, rfl⟩ := Prod.mk.inj (Except.ok.inj (next.symm.trans next'))
        obtain ⟨rfl, same⟩ := agrees f List.mem_cons_self _ _ _ _ _ item item'
        obtain ⟨rfl, sames⟩ :=
          ih (fun g later => agrees g (List.mem_cons_of_mem _ later)) rest (by simpa using values)
        refine ⟨rfl, fun entries' left imposed => ?_⟩
        simp only [casts, castTuple, bind_ok_iff, Prod.exists, Except.ok.injEq,
          Prod.mk.injEq] at imposed
        obtain ⟨x', fits, others, _, all, rfl, rfl⟩ := imposed
        rw [same _ fits, sames _ _ all]

/-- Every member that has a field was read for it, and casting its value gives nothing else. -/
def Served (fields : List (String × Shape)) (done : Dictionary Value)
    (entries : List (String × Value)) : Prop :=
  ∀ key v item, (key, v) ∈ entries → Dictionary.find? key fields = some item →
    ∃ x, done.find? key = some x ∧ ∀ x', item.cast v = .ok x' → x' = x

theorem Served.cons {fields : List (String × Shape)} {done : Dictionary Value}
    {entries : List (String × Value)} {key : String} {v : Value}
    (others : Served fields done entries)
    (member : ∀ item, Dictionary.find? key fields = some item →
      ∃ x, done.find? key = some x ∧ ∀ x', item.cast v = .ok x' → x' = x) :
    Served fields done ((key, v) :: entries) := by
  intro name w item mem known
  cases mem with
  | head => exact member item known
  | tail _ mem => exact others name w item mem known

/-- A record written as an object. What was read for a field is not read again; `done` holds
what was read before. -/
theorem readFields_agrees {fields : List (String × Shape)} {depth : Nat}
    (agrees : ∀ f ∈ fields, Agrees (f.2.read depth) (readValue depth) f.2.cast)
    {rounds : Nat} {first : Bool} {done done' : Dictionary Value}
    {input unread unread' : List UInt8} {entries : List (String × Value)}
    (read : readFields (readers fields depth) rounds first done input = .ok (done', unread))
    (members : Members (readValue depth) first input entries unread') :
    unread = unread' ∧ (∀ key x, done.find? key = some x → done'.find? key = some x) ∧
      Served fields done' entries := by
  induction rounds generalizing first done input entries with
  | zero => cases read
  | succ rounds ih =>
    simp only [readFields, bind_ok_iff, Prod.exists, find?_readers] at read
    obtain ⟨more, quoted, next, read⟩ := read
    cases members with
    | done next' =>
      obtain ⟨rfl, rfl⟩ := Prod.mk.inj (Except.ok.inj (next.symm.trans next'))
      obtain ⟨rfl, rfl⟩ := Prod.mk.inj (Except.ok.inj read)
      exact ⟨rfl, fun _ _ h => h, nofun⟩
    | @more _ _ _ name colon here v behind entries _ next' named separated value members =>
      obtain ⟨rfl, rfl⟩ := Prod.mk.inj (Except.ok.inj (next.symm.trans next'))
      simp only [if_true, bind_ok_iff, Prod.exists] at read
      obtain ⟨_, _, named', read⟩ := read
      obtain ⟨rfl, rfl⟩ := Prod.mk.inj (Except.ok.inj (named.symm.trans named'))
      cases field : Dictionary.find? name fields with
      | none =>
        simp only [field, Option.map_none, bind_ok_iff] at read
        obtain ⟨_, separated', _, skipped, read⟩ := read
        obtain rfl := Except.ok.inj (separated'.symm.trans separated)
        obtain rfl := skipValue_of_readValue value skipped
        obtain ⟨rfl, kept, served⟩ := ih read members
        exact ⟨rfl, kept, served.cons fun item known => by cases field.symm.trans known⟩
      | some item =>
        simp only [field, Option.map_some] at read
        split_ifs at read with twice
        · cases read
        · simp only [bind_ok_iff, Prod.exists] at read
          obtain ⟨_, separated', x, _, value', read⟩ := read
          obtain rfl := Except.ok.inj (separated'.symm.trans separated)
          obtain ⟨rfl, same⟩ := agrees _ (Dictionary.mem_of_find? field) _ _ _ _ _ value' value
          obtain ⟨rfl, kept, served⟩ := ih read members
          simp only [Dictionary.find?_insert] at kept
          refine ⟨rfl, fun key y h => ?_, served.cons fun other known => ?_⟩
          · refine kept key y ?_
            rw [if_neg, h]
            rintro rfl
            simp [h] at twice
          · obtain rfl := Option.some.inj (field.symm.trans known)
            exact ⟨x, kept _ _ (if_pos rfl), same⟩

theorem castEntries_ok {fields : List (String × Shape)} {done done' : Dictionary Value}
    {entries : List (String × Value)}
    (h : castEntries (casts fields) done entries = .ok done') {key : String} {x : Value}
    (held : done'.find? key = some x) :
    done.find? key = some x ∨ ∃ v item, (key, v) ∈ entries ∧
      Dictionary.find? key fields = some item ∧ item.cast v = .ok x := by
  induction entries generalizing done with
  | nil => exact .inl (Except.ok.inj h ▸ held)
  | cons e entries ih =>
    simp only [castEntries, find?_casts] at h
    cases field : Dictionary.find? e.1 fields with
    | none =>
      rw [field] at h
      refine (ih h).imp_right ?_
      rintro ⟨v, item, mem, rest⟩
      exact ⟨v, item, List.mem_cons_of_mem _ mem, rest⟩
    | some item =>
      simp only [field, Option.map_some, bind_ok_iff] at h
      obtain ⟨y, imposed, h⟩ := h
      cases ih h with
      | inl held =>
        rw [Dictionary.find?_insert] at held
        split at held
        · next same =>
          obtain rfl := Option.some.inj held
          exact .inr ⟨e.2, item, same ▸ List.mem_cons_self, same ▸ field, imposed⟩
        · exact .inl held
      | inr rest =>
        obtain ⟨v, item, mem, rest⟩ := rest
        exact .inr ⟨v, item, List.mem_cons_of_mem _ mem, rest⟩

theorem gather_eq {done done' : Dictionary Value} {fields : List String}
    {entries entries' : List (String × Value)}
    (kept : ∀ key x, done'.find? key = some x → done.find? key = some x)
    (h : gather done fields = .ok entries) (h' : gather done' fields = .ok entries') :
    entries' = entries := by
  induction fields generalizing entries entries' with
  | nil => exact (Except.ok.inj h').symm.trans (Except.ok.inj h)
  | cons field fields ih =>
    simp only [gather] at h h'
    split at h'
    · cases h'
    · next x held =>
      rw [kept _ _ held] at h
      obtain ⟨others, all, rfl⟩ := map_ok_iff.mp h
      obtain ⟨others', all', rfl⟩ := map_ok_iff.mp h'
      rw [ih all all']

theorem cast_object_eq {name : String} {fields : List (String × Shape)} {done : Dictionary Value}
    {entries own : List (String × Value)} (served : Served fields done entries)
    (gathered : gather done (fields.map Prod.fst) = .ok own) {x : Value}
    (imposed : cast (.struct name fields) (.object (Dictionary.overlay [] entries)) = .ok x) :
    x = .object own := by
  simp only [cast, bind_ok_iff] at imposed
  obtain ⟨done', all, imposed⟩ := imposed
  obtain ⟨own', gathered', rfl⟩ := map_ok_iff.mp imposed
  refine congrArg Value.object (gather_eq (fun key y known => ?_) gathered gathered')
  obtain none | ⟨w, item, mem, field, fits⟩ := castEntries_ok all known
  · cases none
  · have mem := (Dictionary.mem_overlay mem).resolve_left nofun
    obtain ⟨z, read, same⟩ := served key w item mem field
    rw [read, same _ fits]

theorem agrees_struct {name : String} {fields : List (String × Shape)} {depth : Nat}
    (agrees : ∀ f ∈ fields, Agrees (f.2.read depth) (readValue depth) f.2.cast) :
    Agrees (read (.struct name fields) (depth + 1)) (readValue (depth + 1))
      (cast (.struct name fields)) := by
  intro input x unread v unread' h found
  obtain ⟨b, rest, ahead, begins⟩ := readValue_succ_iff.mp found
  simp only [read, ahead, Nat.add_sub_cancel] at h
  split_ifs at h with bracket flat brace flat
  · cases h
  · obtain ⟨⟨entries, here⟩, tuple, same⟩ := map_ok_iff.mp h
    obtain ⟨rfl, rfl⟩ := Prod.mk.inj same
    obtain ⟨vs, here', -, -, values, rfl, rfl⟩ := begins.of_list bracket
    obtain ⟨rfl, sames⟩ := readTuple_agrees agrees tuple (by simpa using values)
    refine ⟨rfl, fun x' imposed => ?_⟩
    simp only [cast, bind_ok_iff, Prod.exists] at imposed
    obtain ⟨entries', left, all, imposed⟩ := imposed
    split_ifs at imposed
    rw [← Except.ok.inj imposed, sames _ _ all]
  · cases h
  · split at h
    · next done here members =>
      obtain ⟨entries, here', values, rfl, rfl⟩ := begins.of_object brace
      obtain ⟨rfl, -, served⟩ := readFields_agrees agrees members values
      obtain ⟨gathered, rfl⟩ := settle_ok_iff.mp h
      obtain ⟨own, all, rfl⟩ := map_ok_iff.mp gathered
      exact ⟨rfl, fun x' imposed => cast_object_eq served all imposed⟩
    · cases h
  · exact absurd h refuse_ne_ok

mutual

/-- Reading a shape and imposing it on a value that was read never disagree. -/
theorem agrees_read : (shape : Shape) → (depth : Nat) →
    Agrees (shape.read depth) (readValue depth) shape.cast
  | _, 0 => fun _ _ _ _ _ _ found => by cases found
  | .list item, depth + 1 => agrees_list (agrees_read item depth)
  | .struct _ fields, depth + 1 => agrees_struct (agrees_readers fields depth)
  | .any, depth + 1 => (exact_read .any trivial depth).agrees
  | .flag, depth + 1 => (exact_read .flag trivial depth).agrees
  | .text, depth + 1 => (exact_read .text trivial depth).agrees
  | .int64, depth + 1 => (exact_read .int64 trivial depth).agrees
  | .byte, depth + 1 => (exact_read .byte trivial depth).agrees
  | .float64, depth + 1 => (exact_read .float64 trivial depth).agrees

theorem agrees_readers : (fields : List (String × Shape)) → (depth : Nat) →
    ∀ f ∈ fields, Agrees (f.2.read depth) (readValue depth) f.2.cast
  | [], _ => nofun
  | (_, item) :: fields, depth =>
    List.forall_mem_cons.mpr ⟨agrees_read item depth, agrees_readers fields depth⟩

end

/-! Whole texts. -/

theorem ofValue_ok_iff {shape : Shape} {v x : Value} :
    shape.ofValue v = .ok x ↔ shape.cast v = .ok x :=
  mapError_ok_iff

/-- Without records it makes no difference whether a text is read as a shape or as a value
that the shape is imposed on. -/
theorem ofBytes_ok_iff {shape : Shape} (plain : shape.RecordFree) {text : List UInt8} {x : Value} :
    shape.ofBytes text = .ok x ↔ ∃ v, Value.ofBytes text = .ok v ∧ shape.ofValue v = .ok x := by
  simp only [ofBytes, Value.ofBytes, readWhole_ok_iff, ofValue_ok_iff]
  have exact := fun rest => exact_read shape plain 127 text x rest
  constructor
  · rintro ⟨rest, read, ended⟩
    obtain ⟨v, read, imposed⟩ := (exact rest).mp read
    exact ⟨v, ⟨rest, read, ended⟩, imposed⟩
  · rintro ⟨v, ⟨rest, read, ended⟩, imposed⟩
    exact ⟨rest, (exact rest).mpr ⟨v, read, imposed⟩, ended⟩

/-- Whatever the shape, the two ways never give different data. -/
theorem ofBytes_unique {shape : Shape} {text : List UInt8} {v x y : Value}
    (read : shape.ofBytes text = .ok x) (found : Value.ofBytes text = .ok v)
    (imposed : shape.ofValue v = .ok y) : y = x := by
  obtain ⟨rest, read, -⟩ := readWhole_ok_iff.mp read
  obtain ⟨rest', found, -⟩ := readWhole_ok_iff.mp found
  exact (agrees_read shape maxDepth _ _ _ _ _ read found).2 y (ofValue_ok_iff.mp imposed)

/-- Where a key comes twice, a record can be imposed on the value but not read. -/
example :
    let text := ['\x7b', '"', 'a', '"', ':', '1', ',', '"', 'a', '"', ':', '2', '\x7d'].map asciiByte
    let shape : Shape := .record "Reading" "a" .int64
    (shape.ofBytes text).toOption.isSome = false ∧
      ((Value.ofBytes text).bind shape.ofValue).toOption.isSome = true := by
  decide +kernel

end Shape
end MqttRouting.Json
