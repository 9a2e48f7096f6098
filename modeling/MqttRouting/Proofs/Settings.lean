import Mathlib
import MqttRouting.Proofs.Json.Objects
import MqttRouting.Settings

/-!
Settings overlaid by the members of an object. Each field is read on its own from the value that
it is written as, so an overlay goes through exactly if the last member of every known key is the
value of some setting; the fields that have a member are set to it, and the others stay.
-/

namespace MqttRouting.Settings

open Json (Value Cause Shape ObjectText Merges lastMember?)

/-! What a field is written as, and read from. -/

def shareValue : Option String → Value
  | some group => .text group
  | none => .null

def bindingsValue (bindings : Topic.Bindings) : Value :=
  .object (bindings.map fun (key, value) => (key, .text value))

def qosValue (q : Qos) : Value := .number (.whole q.level)

/-- The members that the fields of settings are written as. -/
def written (settings : Settings) : List (String × Value) :=
  [("queue", .bool settings.queue), ("share", shareValue settings.share),
    ("variables", bindingsValue settings.bindings), ("default_qos", qosValue settings.defaultQos),
    ("resubscribe_on_session_loss", .bool settings.resubscribeOnSessionLoss)]

theorem toValue_eq (settings : Settings) :
    settings.toValue = .object (Dictionary.ofList settings.written) := rfl

/-- Reading takes what writing makes and nothing else. -/
def Reads {α : Type} (read : Value → Except Cause α) (write : α → Value) : Prop :=
  ∀ v x, read v = .ok x ↔ v = write x

theorem reads_flag : Reads flagOf Value.bool := by
  intro v b
  cases v <;> simp [flagOf]

theorem reads_text : Reads textOf Value.text := by
  intro v s
  cases v <;> simp [textOf]

theorem reads_share : Reads shareOf shareValue := by
  intro v share
  cases v <;> cases share <;> simp [shareOf, shareValue, textOf, Except.map]

theorem bindingTexts_ok_iff {entries : List (String × Value)} {bindings : Topic.Bindings} :
    bindingTexts entries = .ok bindings ↔
      entries = bindings.map fun (key, value) => (key, .text value) := by
  induction entries generalizing bindings with
  | nil => cases bindings <;> simp [bindingTexts]
  | cons e entries ih =>
      obtain ⟨key, v⟩ := e
      simp only [bindingTexts, bind_ok_iff, reads_text v, ih, Except.ok.injEq]
      constructor
      · rintro ⟨value, rfl, rest, rfl, rfl⟩
        rfl
      · intro whole
        cases bindings with
        | nil => cases whole
        | cons binding rest =>
            cases whole
            exact ⟨_, rfl, rest, rfl, rfl⟩

theorem reads_bindings : Reads bindingsOf bindingsValue := by
  intro v bindings
  cases v with
  | object entries => simp [bindingsOf, bindingsValue, bindingTexts_ok_iff]
  | null | bool _ | number _ | text _ | list _ => simp [bindingsOf, bindingsValue]

theorem byte_of_cast {v x : Value} (h : Shape.cast .byte v = .ok x) :
    ∃ n : Nat, v = .number (.whole n) ∧ x = v := by
  cases v with
  | number n =>
      cases n with
      | float _ => simp [Shape.cast, Shape.castNumber] at h
      | whole z =>
          simp only [Shape.cast, Shape.castNumber] at h
          split_ifs at h with range
          obtain ⟨n, rfl⟩ := Int.eq_ofNat_of_zero_le range.1
          exact ⟨n, rfl, (Except.ok.inj h).symm⟩
  | null | bool _ | text _ | list _ | object _ => simp [Shape.cast] at h

/-- Of all numbers only the whole ones count, and so minus zero is no level. -/
theorem reads_qos : Reads qosOf qosValue := by
  intro v q
  constructor
  · intro h
    simp only [qosOf] at h
    split at h
    · cases h
    · next x found =>
      obtain ⟨n, rfl, rfl⟩ := byte_of_cast found
      simp only [Int.toNat_natCast] at h
      split at h
      · next q level =>
        cases h
        rw [Qos.ofLevel?_eq_some_iff.mp level]
        rfl
      · cases h
  · rintro rfl
    cases q <;> rfl

/-! A field and its member. -/

/-- The member of a field, if there is one, is what the new value is written as; without one the
old value stays. -/
def Given {α : Type} (write : α → Value) (member : Option Value) (old new : α) : Prop :=
  match member with
  | some v => v = write new
  | none => new = old

section
variable {α : Type} {read : Value → Except Cause α} {write : α → Value}

theorem Reads.read_write (reads : Reads read write) (x : α) : read (write x) = .ok x :=
  (reads _ x).mpr rfl

/-- The value of a field without a member is written and then read back. -/
theorem Reads.fieldOr_iff (reads : Reads read write) {default old new : α}
    {member : Option Value} :
    fieldOr read default (member.or (some (write old))) = .ok new ↔
      Given write member old new := by
  cases member with
  | some v => exact reads v new
  | none => simp [fieldOr, Given, reads.read_write, eq_comm]

theorem exists_given_iff {member : Option Value} {old : α} :
    (∃ new, Given write member old new) ↔ ∀ v, member = some v → ∃ x, v = write x := by
  cases member with
  | some v => simp [Given]
  | none => simp [Given]

theorem Given.trans {front back : Option Value} {old middle new : α}
    (first : Given write front old middle) (second : Given write back middle new) :
    Given write (back.or front) old new := by
  cases back with
  | some v => exact second
  | none =>
      cases (second : new = middle)
      exact first

end

/-- Settings with the fields that have a member replaced. -/
structure Overlaid (settings : Settings) (members : List (String × Value))
    (result : Settings) : Prop where
  queue : Given .bool (lastMember? "queue" members) settings.queue result.queue
  share : Given shareValue (lastMember? "share" members) settings.share result.share
  bindings : Given bindingsValue (lastMember? "variables" members) settings.bindings result.bindings
  defaultQos :
    Given qosValue (lastMember? "default_qos" members) settings.defaultQos result.defaultQos
  resubscribe :
    Given .bool (lastMember? "resubscribe_on_session_loss" members)
      settings.resubscribeOnSessionLoss result.resubscribeOnSessionLoss

/-- The members that settings know are of the right kind; what the others hold makes no
difference. -/
structure Fitting (members : List (String × Value)) : Prop where
  queue : ∀ v, lastMember? "queue" members = some v → ∃ b, v = .bool b
  share : ∀ v, lastMember? "share" members = some v → v = .null ∨ ∃ group, v = .text group
  bindings : ∀ v, lastMember? "variables" members = some v →
    ∃ entries, v = .object entries ∧ ∀ entry ∈ entries, ∃ s, entry.2 = .text s
  defaultQos : ∀ v, lastMember? "default_qos" members = some v →
    ∃ n : Nat, n ≤ 2 ∧ v = .number (.whole n)
  resubscribe : ∀ v, lastMember? "resubscribe_on_session_loss" members = some v →
    ∃ b, v = .bool b

theorem share_written_iff {v : Value} :
    (∃ share, v = shareValue share) ↔ v = .null ∨ ∃ group, v = .text group := by
  simp [Option.exists, shareValue]

theorem bindings_written_iff {v : Value} :
    (∃ bindings, v = bindingsValue bindings) ↔
      ∃ entries, v = .object entries ∧ ∀ entry ∈ entries, ∃ s, entry.2 = .text s := by
  constructor
  · rintro ⟨bindings, rfl⟩
    refine ⟨_, rfl, fun entry mem => ?_⟩
    obtain ⟨binding, _, rfl⟩ := List.mem_map.mp mem
    exact ⟨_, rfl⟩
  · rintro ⟨entries, rfl, texts⟩
    induction entries with
    | nil => exact ⟨[], rfl⟩
    | cons e entries ih =>
        obtain ⟨⟨s, text⟩, texts⟩ := List.forall_mem_cons.mp texts
        obtain ⟨bindings, rest⟩ := ih texts
        refine ⟨(e.1, s) :: bindings, ?_⟩
        rw [Value.object.inj rest]
        simp [bindingsValue, ← text]

theorem qos_written_iff {v : Value} :
    (∃ q, v = qosValue q) ↔ ∃ n : Nat, n ≤ 2 ∧ v = .number (.whole n) := by
  constructor
  · rintro ⟨q, rfl⟩
    exact ⟨q.level, by cases q <;> decide, rfl⟩
  · rintro ⟨n, range, rfl⟩
    match n with
    | 0 => exact ⟨.atMostOnce, rfl⟩
    | 1 => exact ⟨.atLeastOnce, rfl⟩
    | 2 => exact ⟨.exactlyOnce, rfl⟩

section
variable {settings result : Settings} {members others : List (String × Value)}

theorem exists_overlaid_iff :
    (∃ result, Overlaid settings members result) ↔ Fitting members := by
  constructor
  · rintro ⟨result, overlaid⟩
    have share := exists_given_iff.mp ⟨_, overlaid.share⟩
    have bindings := exists_given_iff.mp ⟨_, overlaid.bindings⟩
    have defaultQos := exists_given_iff.mp ⟨_, overlaid.defaultQos⟩
    exact
      { queue := exists_given_iff.mp ⟨_, overlaid.queue⟩
        share := fun v last => share_written_iff.mp (share v last)
        bindings := fun v last => bindings_written_iff.mp (bindings v last)
        defaultQos := fun v last => qos_written_iff.mp (defaultQos v last)
        resubscribe := exists_given_iff.mp ⟨_, overlaid.resubscribe⟩ }
  · intro fitting
    obtain ⟨queue, givenQueue⟩ := exists_given_iff.mpr fitting.queue
    obtain ⟨share, givenShare⟩ := exists_given_iff.mpr fun v last =>
      share_written_iff.mpr (fitting.share v last)
    obtain ⟨bindings, givenBindings⟩ := exists_given_iff.mpr fun v last =>
      bindings_written_iff.mpr (fitting.bindings v last)
    obtain ⟨qos, givenQos⟩ := exists_given_iff.mpr fun v last =>
      qos_written_iff.mpr (fitting.defaultQos v last)
    obtain ⟨resubscribe, givenResubscribe⟩ := exists_given_iff.mpr fitting.resubscribe
    exact ⟨⟨queue, share, bindings, qos, resubscribe⟩,
      givenQueue, givenShare, givenBindings, givenQos, givenResubscribe⟩

/-- Only the members that count make a difference. -/
theorem Overlaid.congr (overlaid : Overlaid settings members result)
    (same : ∀ key, lastMember? key others = lastMember? key members) :
    Overlaid settings others result := by
  obtain ⟨queue, share, bindings, defaultQos, resubscribe⟩ := overlaid
  rw [← same] at queue share bindings defaultQos resubscribe
  exact ⟨queue, share, bindings, defaultQos, resubscribe⟩

theorem overlaid_nil (settings : Settings) : Overlaid settings [] settings :=
  ⟨rfl, rfl, rfl, rfl, rfl⟩

/-- One overlay after another is the overlay of what their members merge to. -/
theorem Overlaid.trans {middle : Settings} {merged : List (String × Value)}
    (merges : Merges members others merged) (first : Overlaid settings members middle)
    (second : Overlaid middle others result) : Overlaid settings merged result := by
  constructor <;> rw [merges]
  · exact first.queue.trans second.queue
  · exact first.share.trans second.share
  · exact first.bindings.trans second.bindings
  · exact first.defaultQos.trans second.defaultQos
  · exact first.resubscribe.trans second.resubscribe

/-! Overlays. -/

theorem ofEntries_ok_iff :
    ofEntries members = .ok result ↔
      fieldOr flagOf false (Dictionary.find? "queue" members) = .ok result.queue ∧
      fieldOr shareOf none (Dictionary.find? "share" members) = .ok result.share ∧
      fieldOr bindingsOf [] (Dictionary.find? "variables" members) = .ok result.bindings ∧
      fieldOr qosOf .atLeastOnce (Dictionary.find? "default_qos" members) =
        .ok result.defaultQos ∧
      fieldOr flagOf false (Dictionary.find? "resubscribe_on_session_loss" members) =
        .ok result.resubscribeOnSessionLoss := by
  simp only [ofEntries, bind_ok_iff, Except.ok.injEq]
  constructor
  · rintro ⟨qos, readQos, queue, readQueue, resubscribe, readResubscribe, share, readShare,
      bindings, readBindings, rfl⟩
    exact ⟨readQueue, readShare, readBindings, readQos, readResubscribe⟩
  · rintro ⟨readQueue, readShare, readBindings, readQos, readResubscribe⟩
    exact ⟨_, readQos, _, readQueue, _, readResubscribe, _, readShare, _, readBindings, rfl⟩

/-- A field is found among the members, or else as it is written. -/
theorem find?_overlay_written (key : String) :
    Dictionary.find? key (Dictionary.overlay (.ofList settings.written) members) =
      (lastMember? key members).or (lastMember? key settings.written) := by
  rw [Dictionary.find?_overlay, Dictionary.find?_ofList]
  rfl

theorem overlayValue_object_iff :
    settings.overlayValue (.object members) = .ok result ↔ Overlaid settings members result := by
  unfold overlayValue
  rw [toValue_eq]
  -- Every field has been written, so that no default of the reader counts.
  simp only [ofValue, mapError_ok_iff, ofEntries_ok_iff, find?_overlay_written]
  constructor
  · rintro ⟨queue, share, bindings, defaultQos, resubscribe⟩
    exact ⟨reads_flag.fieldOr_iff.mp queue, reads_share.fieldOr_iff.mp share,
      reads_bindings.fieldOr_iff.mp bindings, reads_qos.fieldOr_iff.mp defaultQos,
      reads_flag.fieldOr_iff.mp resubscribe⟩
  · rintro ⟨queue, share, bindings, defaultQos, resubscribe⟩
    exact ⟨reads_flag.fieldOr_iff.mpr queue, reads_share.fieldOr_iff.mpr share,
      reads_bindings.fieldOr_iff.mpr bindings, reads_qos.fieldOr_iff.mpr defaultQos,
      reads_flag.fieldOr_iff.mpr resubscribe⟩

theorem overlayValue_ok_iff {patch : Value} :
    settings.overlayValue patch = .ok result ↔
      ∃ fields, patch = .object fields ∧ Overlaid settings fields result := by
  constructor
  · intro done
    cases patch with
    | object fields => exact ⟨fields, rfl, overlayValue_object_iff.mp done⟩
    | null | bool _ | number _ | text _ | list _ => cases done
  · rintro ⟨fields, rfl, overlaid⟩
    exact overlayValue_object_iff.mpr overlaid

theorem overlay_iff_of_object {text : String} (object : ObjectText text members) :
    settings.overlay text = .ok result ↔ Overlaid settings members result := by
  have read := Json.ofText_object_iff.mpr ⟨members, object, rfl⟩
  rw [overlay, read]
  refine overlayValue_object_iff.trans ⟨fun overlaid => ?_, fun overlaid => ?_⟩
  · exact overlaid.congr fun key => (Json.lastMember?_ofList key members).symm
  · exact overlaid.congr fun key => Json.lastMember?_ofList key members

theorem overlay_ok_iff {text : String} :
    settings.overlay text = .ok result ↔
      ∃ members, ObjectText text members ∧ Overlaid settings members result := by
  refine ⟨fun done => ?_, fun ⟨members, object, overlaid⟩ =>
    (overlay_iff_of_object object).mpr overlaid⟩
  have whole := done
  rw [overlay] at done
  split at done
  · next v read =>
    obtain ⟨fields, rfl, _⟩ := overlayValue_ok_iff.mp done
    obtain ⟨members, object, rfl⟩ := Json.ofText_object_iff.mp read
    exact ⟨members, object, (overlay_iff_of_object object).mp whole⟩
  · cases done

end

/-- Overlaying goes through exactly for a text with an object whose last members fit the fields;
it replaces the fields that have one. No members change nothing, and one overlay after another is
the overlay of both objects merged. -/
theorem overlay_by_fields (settings : Settings) (text : String) :
    ((∃ result, settings.overlay text = .ok result) ↔
      ∃ members, ObjectText text members ∧ Fitting members) ∧
    (∀ members result, ObjectText text members → settings.overlay text = .ok result →
      Overlaid settings members result) ∧
    (ObjectText text [] → settings.overlay text = .ok settings) ∧
    ∀ members middle later more result,
      ObjectText text members → settings.overlay text = .ok middle →
      ObjectText later more → middle.overlay later = .ok result →
        settings.overlayValue
            (.object (Dictionary.overlay (.ofList members) (.ofList more))) = .ok result ∧
        ∀ both merged, ObjectText both merged → Merges members more merged →
          settings.overlay both = .ok result := by
  refine ⟨?_, ?_, ?_, ?_⟩
  · constructor
    · rintro ⟨result, done⟩
      obtain ⟨members, object, overlaid⟩ := overlay_ok_iff.mp done
      exact ⟨members, object, exists_overlaid_iff.mp ⟨result, overlaid⟩⟩
    · rintro ⟨members, object, fitting⟩
      obtain ⟨result, overlaid⟩ := exists_overlaid_iff.mpr fitting
      exact ⟨result, overlay_ok_iff.mpr ⟨members, object, overlaid⟩⟩
  · intro members result object done
    exact (overlay_iff_of_object object).mp done
  · intro object
    exact (overlay_iff_of_object object).mpr (overlaid_nil settings)
  · intro members middle later more result object done object' done'
    have first := (overlay_iff_of_object object).mp done
    have second := (overlay_iff_of_object object').mp done'
    refine ⟨overlayValue_object_iff.mpr (first.trans (Json.merges_overlay members more) second), ?_⟩
    intro both merged whole merges
    exact (overlay_iff_of_object whole).mpr (first.trans merges second)

/-! Texts with one field or two, read part by part. -/

theorem queue_text :
    ObjectText "\x7b\"queue\":true\x7d" [("queue", .bool true)] := by
  refine ⟨"\"queue\":true\x7d".toUTF8.toList, "\x7d".toUTF8.toList, by cbv, ?_, by cbv⟩
  refine .more (show Json.nextKey _ _ = .ok (_, "queue\":true\x7d".toUTF8.toList) by cbv)
    (show Json.readString _ = .ok (_, ":true\x7d".toUTF8.toList) by cbv)
    (show Json.readColon _ = .ok "true\x7d".toUTF8.toList by cbv)
    (show Json.readValue _ _ = .ok (_, "\x7d".toUTF8.toList) by cbv) ?_
  exact .done (by cbv)

theorem share_text :
    ObjectText "\x7b\"share\":\"hall\"\x7d" [("share", .text "hall")] := by
  refine ⟨"\"share\":\"hall\"\x7d".toUTF8.toList, "\x7d".toUTF8.toList, by cbv, ?_, by cbv⟩
  refine .more (show Json.nextKey _ _ = .ok (_, "share\":\"hall\"\x7d".toUTF8.toList) by cbv)
    (show Json.readString _ = .ok (_, ":\"hall\"\x7d".toUTF8.toList) by cbv)
    (show Json.readColon _ = .ok "\"hall\"\x7d".toUTF8.toList by cbv)
    (show Json.readValue _ _ = .ok (_, "\x7d".toUTF8.toList) by cbv) ?_
  exact .done (by cbv)

theorem queue_and_share_text :
    ObjectText "\x7b\"queue\":true,\"share\":\"hall\"\x7d"
      [("queue", .bool true), ("share", .text "hall")] := by
  refine ⟨"\"queue\":true,\"share\":\"hall\"\x7d".toUTF8.toList, "\x7d".toUTF8.toList,
    by cbv, ?_, by cbv⟩
  refine .more
    (show Json.nextKey _ _ = .ok (_, "queue\":true,\"share\":\"hall\"\x7d".toUTF8.toList) by cbv)
    (show Json.readString _ = .ok (_, ":true,\"share\":\"hall\"\x7d".toUTF8.toList) by cbv)
    (show Json.readColon _ = .ok "true,\"share\":\"hall\"\x7d".toUTF8.toList by cbv)
    (show Json.readValue _ _ = .ok (_, ",\"share\":\"hall\"\x7d".toUTF8.toList) by cbv) ?_
  refine .more (show Json.nextKey _ _ = .ok (_, "share\":\"hall\"\x7d".toUTF8.toList) by cbv)
    (show Json.readString _ = .ok (_, ":\"hall\"\x7d".toUTF8.toList) by cbv)
    (show Json.readColon _ = .ok "\"hall\"\x7d".toUTF8.toList by cbv)
    (show Json.readValue _ _ = .ok (_, "\x7d".toUTF8.toList) by cbv) ?_
  exact .done (by cbv)

/-- A text for the queue and one for the share, overlaid one after the other and as one. -/
theorem hall_shares_the_queue :
    overlay {} "\x7b\"queue\":true\x7d" = .ok { queue := true } ∧
      overlay { queue := true } "\x7b\"share\":\"hall\"\x7d" =
        .ok { queue := true, share := some "hall" } ∧
      overlay {} "\x7b\"queue\":true,\"share\":\"hall\"\x7d" =
        .ok { queue := true, share := some "hall" } := by
  have first : overlay {} "\x7b\"queue\":true\x7d" = .ok { queue := true } :=
    (overlay_iff_of_object queue_text).mpr ⟨rfl, rfl, rfl, rfl, rfl⟩
  have second : overlay { queue := true } "\x7b\"share\":\"hall\"\x7d" =
      .ok { queue := true, share := some "hall" } :=
    (overlay_iff_of_object share_text).mpr ⟨rfl, rfl, rfl, rfl, rfl⟩
  obtain ⟨_, _, _, composes⟩ := overlay_by_fields {} "\x7b\"queue\":true\x7d"
  exact ⟨first, second, (composes _ _ _ _ _ queue_text first share_text second).2 _ _
    queue_and_share_text (Json.merges_append _ _)⟩

end MqttRouting.Settings
