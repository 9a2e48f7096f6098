import Mathlib.Data.List.Basic
import Mathlib.Data.List.Induction
import MqttRouting.Transport.Tracker

/-!
What becomes of every request. A tracker is told of requests and of packet ids in whatever
order they come. Beside it a record is kept of each request that was ever queued: it waits, is
in flight, or has ended, and what happens to the tracker moves some records on. A record that
has ended stays as it is, so no request has two ends. The tracker always has what the records
say, and gives back at each end what they lose there.

There is one end too many: a packet id that comes round again takes the place of the older
request, of which nobody hears any more.
-/

namespace MqttRouting

/-- How a request ends. -/
inductive End where
  /-- Taken back. -/
  | cancelled
  | answered
  /-- Lost with a session, and counted. -/
  | givenUp
  /-- Another request has left under the same packet id. -/
  | displaced
  deriving DecidableEq

inductive Fate where
  | waiting
  | inFlight (packetId : Nat)
  /-- With the place of what brought the end about. -/
  | ended (how : End) (place : Nat)
  deriving DecidableEq

structure Record where
  wireTopic : String
  fate : Fate := .waiting

namespace Record

def waiting? (r : Record) : Option String :=
  match r.fate with
  | .waiting => some r.wireTopic
  | .inFlight _ | .ended _ _ => none

def inFlight? (r : Record) : Option (Nat × String) :=
  match r.fate with
  | .inFlight packetId => some (packetId, r.wireTopic)
  | .waiting | .ended _ _ => none

def endedAt? (how : End) (place : Nat) (r : Record) : Option String :=
  if r.fate = .ended how place then some r.wireTopic else none

/-! Moving records on. -/

/-- The request that has waited longest. -/
def moveOldest (fate : Fate) : List Record → List Record
  | [] => []
  | r :: rest => if r.fate = .waiting then { r with fate } :: rest else r :: moveOldest fate rest

/-- The request that has come last of those that wait. -/
def moveLatest (fate : Fate) (records : List Record) : List Record :=
  (moveOldest fate records.reverse).reverse

def land (fate : Fate) (lands : Nat → Bool) (r : Record) : Record :=
  match r.fate with
  | .inFlight packetId => if lands packetId then { r with fate } else r
  | .waiting | .ended _ _ => r

end Record

namespace Tracker

/-- What may happen to a tracker. -/
inductive Operation where
  | queue (wireTopic : String)
  | cancelLast
  | outgoing (packetId : Nat)
  | acknowledge (ack : SubAck)
  | reset

def apply (t : Tracker) : Operation → Tracker
  | .queue wireTopic => t.queue wireTopic
  | .cancelLast => t.cancelLast
  | .outgoing packetId => (t.outgoing packetId).2
  | .acknowledge ack => (t.acknowledge ack).2.2
  | .reset => t.reset.2

/-- The tracker behind a history. -/
def after (history : List Operation) : Tracker := history.foldl apply {}

namespace Operation

def queued? : Operation → Option String
  | .queue wireTopic => some wireTopic
  | .cancelLast | .outgoing _ | .acknowledge _ | .reset => none

/-- The end that requests come to by it. -/
def end? : Operation → Option End
  | .queue _ => none
  | .cancelLast => some .cancelled
  | .outgoing _ => some .displaced
  | .acknowledge _ => some .answered
  | .reset => some .givenUp

/-- What it does to the records, at its place in the history. -/
def record (place : Nat) (records : List Record) : Operation → List Record
  | .queue wireTopic => records ++ [⟨wireTopic, .waiting⟩]
  | .cancelLast => Record.moveLatest (.ended .cancelled place) records
  | .outgoing packetId =>
    if records.filterMap Record.waiting? = [] then records
    else Record.moveOldest (.inFlight packetId)
      (records.map (Record.land (.ended .displaced place) (· = packetId)))
  | .acknowledge ack => records.map (Record.land (.ended .answered place) (· = ack.packetId))
  | .reset => records.map (Record.land (.ended .givenUp place) fun _ => true)

/-- What a tracker gives up by it, oldest first: the request that is taken back, the one that is
reported, those that are counted, and without a word the one whose packet id is needed. -/
def releases (t : Tracker) : Operation → List String
  | .queue _ => []
  | .cancelLast => t.queued.getLast?.toList
  | .outgoing packetId =>
    if t.queued = [] then [] else (t.inFlight.lookup packetId).toList
  | .acknowledge ack => ((t.acknowledge ack).1.map Prod.fst).toList
  | .reset => t.inFlight.reverse.map Prod.snd

end Operation

/-- How many requests a tracker gives up in one way while things happen to it. -/
def given (how : End) (t : Tracker) : List Operation → Nat
  | [] => 0
  | op :: rest =>
    (if op.end? = some how then (op.releases t).length else 0) + given how (t.apply op) rest

/-- The records of all requests in a history. -/
def recordsOf (history : List Operation) : List Record :=
  history.zipIdx.foldl (fun records entry => entry.1.record entry.2 records) []

theorem after_concat (history : List Operation) (op : Operation) :
    after (history ++ [op]) = (after history).apply op := by
  simp [after]

theorem recordsOf_concat (history : List Operation) (op : Operation) :
    recordsOf (history ++ [op]) = op.record history.length (recordsOf history) := by
  simp [recordsOf, List.zipIdx_append]

end Tracker

/-! Lists of records. -/

namespace Record

variable {β : Type} {records : List Record} {fate : Fate}

/-- The oldest request that waits stands behind others that do not. -/
theorem moveOldest_eq (fate : Fate) (records : List Record) :
    records.filterMap waiting? = [] ∧ moveOldest fate records = records ∨
      ∃ front r back, records = front ++ r :: back ∧ front.filterMap waiting? = [] ∧
        r.fate = .waiting ∧ moveOldest fate records = front ++ { r with fate } :: back := by
  induction records with
  | nil => exact .inl ⟨rfl, rfl⟩
  | cons r rest ih =>
      by_cases waits : r.fate = .waiting
      · exact .inr ⟨[], r, rest, rfl, rfl, waits, by simp [moveOldest, waits]⟩
      · have moved : r.waiting? = none := by
          unfold waiting?
          cases fate : r.fate with
          | waiting => exact absurd fate waits
          | inFlight _ => rfl
          | ended _ _ => rfl
        obtain ⟨none, same⟩ | ⟨front, r', back, rfl, none, waits', there⟩ := ih
        · exact .inl ⟨by simp [moved, none], by simp [moveOldest, waits, same]⟩
        · exact .inr ⟨r :: front, r', back, rfl, by simp [moved, none], waits',
            by simp [moveOldest, waits, there]⟩

theorem moveLatest_eq (fate : Fate) (records : List Record) :
    records.filterMap waiting? = [] ∧ moveLatest fate records = records ∨
      ∃ front r back, records = front ++ r :: back ∧ back.filterMap waiting? = [] ∧
        r.fate = .waiting ∧ moveLatest fate records = front ++ { r with fate } :: back := by
  obtain ⟨none, same⟩ | ⟨front, r, back, found, none, waits, there⟩ :=
    moveOldest_eq fate records.reverse
  · exact .inl ⟨by simpa using none, by simp [moveLatest, same]⟩
  · refine .inr ⟨back.reverse, r, front.reverse, ?_, by simp [none], waits, ?_⟩
    · simpa using congrArg List.reverse found
    · simp [moveLatest, there]

/-! What is left of the lists. -/

theorem wireTopic_moveOldest (fate : Fate) (records : List Record) :
    (moveOldest fate records).map wireTopic = records.map wireTopic := by
  obtain ⟨_, same⟩ | ⟨front, r, back, rfl, _, _, there⟩ := moveOldest_eq fate records
  · rw [same]
  · simp [there]

theorem wireTopic_land (fate : Fate) (lands : Nat → Bool) (r : Record) :
    (r.land fate lands).wireTopic = r.wireTopic := by
  unfold land
  split
  · split <;> rfl
  · rfl
  · rfl

section Land

variable (how : End) (place : Nat) (lands : Nat → Bool)

theorem waiting?_land (r : Record) : (r.land (.ended how place) lands).waiting? = r.waiting? := by
  obtain ⟨wireTopic, fate⟩ := r
  cases fate with
  | waiting => rfl
  | inFlight packetId => cases landed : lands packetId <;> simp [land, waiting?, landed]
  | ended _ _ => rfl

theorem filterMap_inFlight?_land (records : List Record) :
    (records.map (land (.ended how place) lands)).filterMap inFlight? =
      (records.filterMap inFlight?).filter fun e => !lands e.1 := by
  induction records with
  | nil => rfl
  | cons r rest ih =>
      obtain ⟨wireTopic, fate⟩ := r
      cases fate with
      | waiting => simpa only [List.map_cons, List.filterMap_cons, land, inFlight?] using ih
      | inFlight packetId =>
          cases landed : lands packetId <;>
            simp [List.filterMap_cons, land, inFlight?, landed, ih]
      | ended _ _ => simpa only [List.map_cons, List.filterMap_cons, land, inFlight?] using ih

theorem endedAt?_land {how' : End} {place' : Nat}
    (other : Fate.ended how place ≠ .ended how' place') (r : Record) :
    (r.land (.ended how place) lands).endedAt? how' place' = r.endedAt? how' place' := by
  obtain ⟨wireTopic, fate⟩ := r
  cases fate with
  | waiting => rfl
  | inFlight packetId => cases landed : lands packetId <;> simp [land, endedAt?, landed, other]
  | ended _ _ => rfl

/-- If nothing has ended at a place before, what lands there is what was in flight. -/
theorem filterMap_endedAt?_land {records : List Record}
    (new : records.filterMap (endedAt? how place) = []) :
    (records.map (land (.ended how place) lands)).filterMap (endedAt? how place) =
      ((records.filterMap inFlight?).filter fun e => lands e.1).map Prod.snd := by
  induction records with
  | nil => rfl
  | cons r rest ih =>
      obtain ⟨wireTopic, fate⟩ := r
      rw [List.filterMap_eq_nil_iff, List.forall_mem_cons] at new
      have more := ih (List.filterMap_eq_nil_iff.mpr new.2)
      cases fate with
      | waiting => simpa [List.filterMap_cons, land, endedAt?, inFlight?] using more
      | inFlight packetId =>
          cases landed : lands packetId <;>
            simp [land, endedAt?, inFlight?, landed, more]
      | ended how' place' =>
          have other := new.1
          simp only [List.map_cons, List.filterMap_cons, land, inFlight?, other]
          exact more

/-- What lands ends at its place, and nothing ends or goes on anywhere else. -/
theorem filterMap_endedAt?_lands {records : List Record}
    (new : ∀ how, records.filterMap (endedAt? how place) = []) (how' : End) (place' : Nat) :
    (records.map (land (.ended how place) lands)).filterMap (endedAt? how' place') =
      if place' = place ∧ some how = some how' then
        ((records.filterMap inFlight?).filter fun e => lands e.1).map Prod.snd
      else records.filterMap (endedAt? how' place') := by
  split
  · rename_i same
    obtain ⟨rfl, ⟨⟩⟩ := same
    exact filterMap_endedAt?_land how place' lands (new how)
  · rename_i other
    rw [List.filterMap_map]
    refine congrArg (List.filterMap · records) (funext fun r => endedAt?_land how place lands ?_ r)
    rintro ⟨⟩
    exact other ⟨rfl, rfl⟩

end Land

theorem filterMap_endedAt?_moveOldest (packetId : Nat) (records : List Record) (how : End)
    (place : Nat) :
    (moveOldest (.inFlight packetId) records).filterMap (endedAt? how place) =
      records.filterMap (endedAt? how place) := by
  obtain ⟨_, same⟩ | ⟨front, r, back, rfl, _, waits, there⟩ :=
    moveOldest_eq (.inFlight packetId) records
  · rw [same]
  · simp [there, endedAt?, waits]

/-- The latest request that waits ends, and nothing ends or goes on anywhere else. -/
theorem filterMap_endedAt?_moveLatest {records : List Record} {place : Nat} (how : End)
    (new : ∀ how, records.filterMap (endedAt? how place) = []) (how' : End) (place' : Nat) :
    (moveLatest (.ended how place) records).filterMap (endedAt? how' place') =
      if place' = place ∧ some how = some how' then
        (records.filterMap waiting?).getLast?.toList
      else records.filterMap (endedAt? how' place') := by
  obtain ⟨none, same⟩ | ⟨front, r, back, rfl, none, waits, there⟩ :=
    moveLatest_eq (.ended how place) records
  · rw [same, none]
    split
    · rename_i here
      rw [here.1]
      exact new how'
    · rfl
  · have latest : ((front ++ r :: back).filterMap waiting?).getLast? = some r.wireTopic := by
      simp [waiting?, none, waits]
    rw [there, latest]
    split
    · rename_i here
      obtain ⟨rfl, ⟨⟩⟩ := here
      have before := new how
      simp only [List.filterMap_append, List.filterMap_cons, endedAt?, waits, reduceCtorEq,
        if_false, List.append_eq_nil_iff] at before
      simp [endedAt?, before]
    · rename_i elsewhere
      have other : Fate.ended how place ≠ .ended how' place' := by
        rintro ⟨⟩
        exact elsewhere ⟨rfl, rfl⟩
      simp [endedAt?, other, waits]

/-- One that waits, and no later one that has left already. -/
def InTurn (a b : Record) : Prop := a.fate = .waiting → ∀ packetId, b.fate ≠ .inFlight packetId

theorem InTurn.land {a b : Record} (h : InTurn a b) (how : End) (place : Nat)
    (lands : Nat → Bool) :
    InTurn (a.land (.ended how place) lands) (b.land (.ended how place) lands) := by
  obtain ⟨_, first⟩ := a
  obtain ⟨_, second⟩ := b
  intro waits packetId gone
  cases first with
  | waiting =>
      cases second with
      | waiting => cases gone
      | inFlight other => exact h rfl other rfl
      | ended _ _ => cases gone
  | inFlight other => cases landed : lands other <;> simp [Record.land, landed] at waits
  | ended _ _ => cases waits

end Record

namespace Tracker

/-! Keeping the records. -/

/-- A tracker has what the records say: what waits and what is in flight, both in the order of
the requests, and no packet id twice. -/
structure Keeps (records : List Record) (t : Tracker) : Prop where
  queued : t.queued = records.filterMap Record.waiting?
  inFlight : t.inFlight.reverse = records.filterMap Record.inFlight?
  order : records.Pairwise Record.InTurn
  distinct : (t.inFlight.map Prod.fst).Nodup

private theorem filter_lookup {entries : List (Nat × String)} (key : Nat)
    (distinct : (entries.map Prod.fst).Nodup) :
    (entries.filter (·.1 = key)).map Prod.snd = (entries.lookup key).toList := by
  induction entries with
  | nil => rfl
  | cons entry rest ih =>
      obtain ⟨key', value⟩ := entry
      rw [List.map_cons, List.nodup_cons] at distinct
      have others := ih distinct.2
      by_cases same : key' = key
      · subst same
        have none : rest.lookup key' = none := by
          rw [List.lookup_eq_none_iff]
          intro entry mem
          simp only [bne_iff_ne, ne_eq]
          intro again
          exact distinct.1 (List.mem_map.mpr ⟨entry, mem, again.symm⟩)
        rw [none] at others
        simpa using others
      · have other : (key == key') = false := beq_false_of_ne (Ne.symm same)
        simpa [List.lookup_cons, same, other] using others

namespace Keeps

variable {records : List Record} {t : Tracker}

/-- What is in flight under a packet id, found in the records. -/
theorem lookup (h : Keeps records t) (packetId : Nat) :
    ((records.filterMap Record.inFlight?).filter (·.1 = packetId)).map Prod.snd =
      (t.inFlight.lookup packetId).toList := by
  have found := congrArg List.reverse (filter_lookup packetId h.distinct)
  rw [← List.map_reverse, ← List.filter_reverse, h.inFlight] at found
  rw [found]
  cases t.inFlight.lookup packetId <;> rfl

theorem land (h : Keeps records t) (how : End) (place : Nat) (lands : Nat → Bool) :
    Keeps (records.map (Record.land (.ended how place) lands))
      { t with inFlight := t.inFlight.filter fun e => !lands e.1 } := by
  refine ⟨?_, ?_, ?_, ?_⟩
  · rw [List.filterMap_map, h.queued]
    exact congrArg (List.filterMap · records)
      (funext fun r => (Record.waiting?_land how place lands r).symm)
  · rw [Record.filterMap_inFlight?_land, ← List.filter_reverse, h.inFlight]
  · exact List.pairwise_map.mpr (h.order.imp fun inTurn => inTurn.land how place lands)
  · exact h.distinct.sublist (List.filter_sublist.map Prod.fst)

theorem queue (h : Keeps records t) (wireTopic : String) :
    Keeps (records ++ [⟨wireTopic, .waiting⟩]) (t.queue wireTopic) := by
  refine ⟨?_, ?_, ?_, h.distinct⟩
  · simp [Tracker.queue, h.queued, Record.waiting?]
  · simp [Tracker.queue, h.inFlight, Record.inFlight?]
  · refine List.pairwise_append.mpr ⟨h.order, List.pairwise_singleton .., ?_⟩
    intro a _ b mem
    rw [List.mem_singleton.mp mem]
    exact fun _ _ => nofun

theorem cancelLast (h : Keeps records t) (place : Nat) :
    Keeps (Record.moveLatest (.ended .cancelled place) records) t.cancelLast := by
  obtain ⟨none, same⟩ | ⟨front, r, back, rfl, none, waits, there⟩ :=
    Record.moveLatest_eq (.ended .cancelled place) records
  · rw [same]
    refine ⟨?_, h.inFlight, h.order, h.distinct⟩
    rw [Tracker.cancelLast, h.queued, none]
    rfl
  · rw [there]
    refine ⟨?_, ?_, ?_, h.distinct⟩
    · simp [Tracker.cancelLast, h.queued, List.filterMap_cons, Record.waiting?, none, waits]
    · simp [Tracker.cancelLast, h.inFlight, List.filterMap_cons, Record.inFlight?, waits]
    · obtain ⟨first, rest, between⟩ := List.pairwise_append.mp h.order
      rw [List.pairwise_cons] at rest
      refine List.pairwise_append.mpr ⟨first, List.pairwise_cons.mpr ⟨nofun, rest.2⟩, ?_⟩
      intro a mem
      refine List.forall_mem_cons.mpr ⟨fun _ _ => nofun, fun b mem' => ?_⟩
      exact between a mem b (List.mem_cons_of_mem r mem')

/-- The oldest request leaves, under a packet id that nothing is in flight under. -/
theorem outgoing (h : Keeps records t) {packetId : Nat} {wireTopic : String} {rest : List String}
    (oldest : t.queued = wireTopic :: rest)
    (free : ∀ entry ∈ t.inFlight, entry.1 ≠ packetId) :
    Keeps (Record.moveOldest (.inFlight packetId) records)
      ⟨rest, (packetId, wireTopic) :: t.inFlight⟩ := by
  have queued := h.queued
  obtain ⟨none, _⟩ | ⟨front, r, back, rfl, none, waits, there⟩ :=
    Record.moveOldest_eq (.inFlight packetId) records
  · rw [oldest, none] at queued
    cases queued
  · obtain ⟨first, behind, between⟩ := List.pairwise_append.mp h.order
    rw [List.pairwise_cons] at behind
    -- nothing behind a request that waits has left before it
    have after : back.filterMap Record.inFlight? = [] := by
      rw [List.filterMap_eq_nil_iff]
      intro b mem
      unfold Record.inFlight?
      split
      · rename_i gone
        exact absurd gone (behind.1 b mem waits _)
      · rfl
      · rfl
    have taken : wireTopic = r.wireTopic ∧ rest = back.filterMap Record.waiting? := by
      simpa [oldest, List.filterMap_cons, Record.waiting?, none, waits] using queued
    rw [there]
    refine ⟨?_, ?_, ?_, ?_⟩
    · simpa [List.filterMap_cons, Record.waiting?, none] using taken.2
    · simp [h.inFlight, Record.inFlight?, waits, after, taken.1]
    · refine List.pairwise_append.mpr ⟨first, List.pairwise_cons.mpr ⟨nofun, behind.2⟩, ?_⟩
      intro a mem
      refine List.forall_mem_cons.mpr ⟨fun waits' => ?_, fun b mem' => ?_⟩
      · have moved := List.filterMap_eq_nil_iff.mp none a mem
        simp [Record.waiting?, waits'] at moved
      · exact between a mem b (List.mem_cons_of_mem r mem')
    · refine List.nodup_cons.mpr ⟨fun mem => ?_, h.distinct⟩
      obtain ⟨entry, mem, same⟩ := List.mem_map.mp mem
      exact free entry mem same

/-- Whatever happens, a tracker has what the records say. -/
theorem apply (h : Keeps records t) (place : Nat) (op : Operation) :
    Keeps (op.record place records) (t.apply op) := by
  cases op with
  | queue wireTopic => exact h.queue wireTopic
  | cancelLast => exact h.cancelLast place
  | outgoing packetId =>
      rw [Tracker.apply, Tracker.outgoing, Operation.record, ← h.queued]
      cases oldest : t.queued with
      | nil => exact h
      | cons wireTopic rest =>
          have landed := h.land .displaced place fun other => other = packetId
          have free : ∀ entry ∈ t.inFlight.filter (fun e => !decide (e.1 = packetId)),
              entry.1 ≠ packetId := by simp
          simpa using landed.outgoing oldest free
  | acknowledge ack =>
      have landed := h.land .answered place fun other => other = ack.packetId
      rw [Tracker.apply, Tracker.acknowledge, Operation.record]
      split
      · rename_i unknown
        have same : (t.inFlight.filter fun e => !decide (e.1 = ack.packetId)) = t.inFlight := by
          rw [List.filter_eq_self]
          intro entry mem
          have other := List.lookup_eq_none_iff.mp unknown entry mem
          rw [bne_iff_ne] at other
          simp [Ne.symm other]
        rwa [same] at landed
      · simpa using landed
  | reset =>
      have landed := h.land .givenUp place fun _ => true
      rwa [List.filter_eq_nil_iff.mpr (by simp)] at landed

/-- Where nothing has ended before, requests end as the tracker gives them up; elsewhere all
ends stay. -/
theorem ends (h : Keeps records t) {place : Nat}
    (new : ∀ how, records.filterMap (Record.endedAt? how place) = []) (op : Operation)
    (how : End) (place' : Nat) :
    (op.record place records).filterMap (Record.endedAt? how place') =
      if place' = place ∧ op.end? = some how then op.releases t
      else records.filterMap (Record.endedAt? how place') := by
  cases op with
  | queue wireTopic => simp [Operation.record, Operation.end?, Record.endedAt?]
  | cancelLast =>
      rw [Operation.record, Operation.releases, Operation.end?, h.queued,
        Record.filterMap_endedAt?_moveLatest _ new]
  | outgoing packetId =>
      rw [Operation.record, Operation.releases, Operation.end?, ← h.queued]
      split
      · split
        · rename_i here
          rw [here.1]
          exact new how
        · rfl
      · rw [Record.filterMap_endedAt?_moveOldest, Record.filterMap_endedAt?_lands _ _ _ new,
          h.lookup]
  | acknowledge ack =>
      rw [Operation.record, Operation.releases, Operation.end?,
        Record.filterMap_endedAt?_lands _ _ _ new, h.lookup, Tracker.acknowledge]
      cases t.inFlight.lookup ack.packetId <;> rfl
  | reset =>
      rw [Operation.record, Operation.releases, Operation.end?,
        Record.filterMap_endedAt?_lands _ _ _ new, h.inFlight, List.filter_true]

/-- What is pending, and what is given up, has been pending or is new. -/
theorem pending (h : Keeps records t) (op : Operation) :
    (t.apply op).pending + (op.releases t).length = t.pending + op.queued?.toList.length := by
  have split (packetId : Nat) : t.inFlight.length =
      (t.inFlight.lookup packetId).toList.length +
        (t.inFlight.filter fun e => !decide (e.1 = packetId)).length := by
    rw [← filter_lookup packetId h.distinct, List.length_map]
    exact List.length_eq_length_filter_add _
  cases op with
  | queue wireTopic => simp [Tracker.apply, Tracker.queue, Tracker.pending, Operation.releases,
      Operation.queued?, Nat.add_right_comm]
  | cancelLast =>
      cases queued : t.queued using List.reverseRecOn with
      | nil => simp [Tracker.apply, Tracker.cancelLast, Tracker.pending, Operation.releases,
          Operation.queued?, queued]
      | append_singleton front latest => simp [Tracker.apply, Tracker.cancelLast, Tracker.pending,
          Operation.releases, Operation.queued?, queued, Nat.add_right_comm]
  | outgoing packetId =>
      have count := split packetId
      cases queued : t.queued with
      | nil => simp [Tracker.apply, Tracker.outgoing, Tracker.pending, Operation.releases,
          Operation.queued?, queued]
      | cons oldest rest =>
          simp [Tracker.apply, Tracker.outgoing, Tracker.pending, Operation.releases,
            Operation.queued?, queued] at count ⊢
          omega
  | acknowledge ack =>
      have count := split ack.packetId
      cases found : t.inFlight.lookup ack.packetId with
      | none => simp [Tracker.apply, Tracker.acknowledge, Tracker.pending, Operation.releases,
          Operation.queued?, found]
      | some wireTopic =>
          simp [Tracker.apply, Tracker.acknowledge, Tracker.pending, Operation.releases,
            Operation.queued?, found] at count ⊢
          omega
  | reset => simp [Tracker.apply, Tracker.reset, Tracker.pending, Operation.releases,
      Operation.queued?]

end Keeps

/-- All requests of a history have their records, and the tracker has what these say. What a
record has ended with is what the tracker has given up at that place, and it gives up nothing
besides. -/
structure Accounted (history : List Operation) : Prop where
  everyone : (recordsOf history).map Record.wireTopic = history.filterMap Operation.queued?
  keeps : Keeps (recordsOf history) (after history)
  ends : ∀ place op how, history[place]? = some op → op.end? = some how →
    (recordsOf history).filterMap (Record.endedAt? how place) =
      op.releases (after (history.take place))
  caused : ∀ place how, (∀ op, history[place]? = some op → op.end? ≠ some how) →
    (recordsOf history).filterMap (Record.endedAt? how place) = []

theorem wireTopic_record (place : Nat) (records : List Record) (op : Operation) :
    (op.record place records).map Record.wireTopic =
      records.map Record.wireTopic ++ op.queued?.toList := by
  have landed (fate : Fate) (lands : Nat → Bool) :
      (records.map (Record.land fate lands)).map Record.wireTopic =
        records.map Record.wireTopic := by
    simp [Function.comp_def, Record.wireTopic_land]
  cases op with
  | queue wireTopic => simp [Operation.record, Operation.queued?]
  | cancelLast =>
      simp [Operation.record, Operation.queued?, Record.moveLatest, Record.wireTopic_moveOldest]
  | outgoing packetId =>
      rw [Operation.record, Operation.queued?]
      split
      · simp
      · rw [Record.wireTopic_moveOldest, landed]
        simp
  | acknowledge ack => simpa [Operation.record, Operation.queued?] using landed _ _
  | reset => simpa [Operation.record, Operation.queued?] using landed _ _

theorem accounted (history : List Operation) : Accounted history := by
  induction history using List.reverseRecOn with
  | nil => exact ⟨rfl, ⟨rfl, rfl, .nil, .nil⟩, nofun, fun _ _ _ => rfl⟩
  | append_singleton history op ih =>
      have new (how : End) :
          (recordsOf history).filterMap (Record.endedAt? how history.length) = [] := by
        refine ih.caused history.length how fun op found => ?_
        simp at found
      have ends := ih.keeps.ends new op
      have kept (place : Nat) (how : End) (earlier : place ≠ history.length) :
          (recordsOf (history ++ [op])).filterMap (Record.endedAt? how place) =
            (recordsOf history).filterMap (Record.endedAt? how place) := by
        rw [recordsOf_concat, ends, if_neg fun here => earlier here.1]
      refine ⟨?_, ?_, ?_, ?_⟩
      · rw [recordsOf_concat, wireTopic_record, ih.everyone, List.filterMap_append]
        cases op <;> rfl
      · rw [recordsOf_concat, after_concat]
        exact ih.keeps.apply history.length op
      · intro place op' how found end_eq
        by_cases last : place = history.length
        · subst last
          rw [List.getElem?_concat_length, Option.some.injEq] at found
          subst found
          rw [recordsOf_concat, ends, if_pos ⟨rfl, end_eq⟩, List.take_left]
        · have less : place < history.length := by
            have bound := (List.getElem?_eq_some_iff.mp found).1
            rw [List.length_append, List.length_singleton] at bound
            omega
          rw [List.getElem?_append_left less] at found
          rw [kept place how last, List.take_append_of_le_length (Nat.le_of_lt less)]
          exact ih.ends place op' how found end_eq
      · intro place how causeless
        by_cases last : place = history.length
        · subst last
          have other := causeless op List.getElem?_concat_length
          rw [recordsOf_concat, ends, if_neg fun here => other here.2]
          exact new how
        · rw [kept place how last]
          refine ih.caused place how fun op' found => causeless op' ?_
          rw [List.getElem?_append_left (List.getElem?_eq_some_iff.mp found).1]
          exact found

/-! Counting. -/

theorem given_concat (how : End) (t : Tracker) (history : List Operation) (op : Operation) :
    given how t (history ++ [op]) = given how t history +
      if op.end? = some how then (op.releases (history.foldl apply t)).length else 0 := by
  induction history generalizing t with
  | nil => simp [given]
  | cons first rest ih => rw [List.cons_append, given, given, ih, List.foldl_cons, Nat.add_assoc]

/-- An operation gives up requests in one way only. -/
theorem given_apply (t : Tracker) (history : List Operation) (op : Operation) :
    given .cancelled t (history ++ [op]) + given .answered t (history ++ [op]) +
        given .givenUp t (history ++ [op]) + given .displaced t (history ++ [op]) =
      given .cancelled t history + given .answered t history + given .givenUp t history +
        given .displaced t history + (op.releases (history.foldl apply t)).length := by
  simp only [given_concat]
  cases op with
  | queue wireTopic => rfl
  | cancelLast | outgoing _ | acknowledge _ | reset =>
      simp only [Operation.end?, Option.some.injEq, reduceCtorEq, if_true, if_false]
      omega

theorem pending_history (history : List Operation) :
    (after history).pending + (given .cancelled {} history + given .answered {} history +
        given .givenUp {} history + given .displaced {} history) =
      (history.filterMap Operation.queued?).length := by
  induction history using List.reverseRecOn with
  | nil => rfl
  | append_singleton history op ih =>
      have step := (accounted history).keeps.pending op
      have added : ((history ++ [op]).filterMap Operation.queued?).length =
          (history.filterMap Operation.queued?).length + op.queued?.toList.length := by
        rw [List.filterMap_append, List.length_append]
        cases op <;> rfl
      rw [given_apply, after_concat, added]
      change ((after history).apply op).pending +
        (_ + (op.releases (after history)).length) = _
      omega

theorem given_eq_zero (how : End) (t : Tracker) (history : List Operation) :
    given how t history = 0 ↔ ∀ (place : Nat) (op : Operation),
      history[place]? = some op → op.end? = some how →
      op.releases ((history.take place).foldl apply t) = [] := by
  induction history generalizing t with
  | nil => simp [given]
  | cons first rest ih =>
      rw [given, Nat.add_eq_zero_iff, ih]
      constructor
      · rintro ⟨here, later⟩ place op found end_eq
        cases place with
        | zero =>
            cases found
            rw [if_pos end_eq] at here
            exact List.eq_nil_of_length_eq_zero here
        | succ place => exact later place op found end_eq
      · intro none
        refine ⟨?_, fun place op found => none (place + 1) op found⟩
        split
        · rename_i end_eq
          have nothing : first.releases t = [] := none 0 first rfl end_eq
          rw [nothing, List.length_nil]
        · rfl

/-- No request leaves under a packet id that another one is in flight under. -/
def Unshared (history : List Operation) : Prop :=
  ∀ place packetId, history[place]? = some (.outgoing packetId) →
    (after (history.take place)).queued ≠ [] →
    (after (history.take place)).inFlight.lookup packetId = none

theorem given_displaced_eq_zero (history : List Operation) :
    given .displaced {} history = 0 ↔ Unshared history := by
  rw [given_eq_zero]
  constructor
  · intro none place packetId found waits
    have nothing : Operation.releases (after (history.take place)) (.outgoing packetId) = [] :=
      none place _ found rfl
    rw [Operation.releases, if_neg waits] at nothing
    exact Option.toList_eq_nil_iff.mp nothing
  · intro unshared place op found end_eq
    cases op with
    | outgoing packetId =>
        change Operation.releases (after (history.take place)) (.outgoing packetId) = []
        rw [Operation.releases]
        split
        · rfl
        · rename_i waits
          exact Option.toList_eq_nil_iff.mpr (unshared place packetId found waits)
    | queue _ | cancelLast | acknowledge _ | reset => cases end_eq

/-- Whatever happens to a tracker, and under whatever packet ids requests leave: every request
that was ever queued waits, is in flight, or has ended in one way at one place, and the tracker
has and gives up exactly what this says. All that were queued are pending, cancelled, answered,
counted as lost, or displaced by a request with the same packet id; so pending is what is left
of the queued ones behind the other three exactly if no packet id comes round again while it is
in use. -/
theorem requests_accounted (history : List Operation) :
    Accounted history ∧
    (after history).pending + (given .cancelled {} history + given .answered {} history +
        given .givenUp {} history + given .displaced {} history) =
      (history.filterMap Operation.queued?).length ∧
    ((after history).pending + (given .cancelled {} history + given .answered {} history +
        given .givenUp {} history) = (history.filterMap Operation.queued?).length ↔
      Unshared history) := by
  have all := pending_history history
  refine ⟨accounted history, all, ?_⟩
  rw [← given_displaced_eq_zero]
  omega

/-- Two requests leave one after the other under the same packet id. The first one is pending
no more, and it has not been taken back, answered or counted. -/
theorem request_lost_to_its_successor :
    let history : List Operation := [.queue "a", .outgoing 1, .queue "b", .outgoing 1]
    (history.filterMap Operation.queued?).length = 2 ∧ (after history).pending = 1 ∧
      given .cancelled {} history = 0 ∧ given .answered {} history = 0 ∧
      given .givenUp {} history = 0 ∧
      (recordsOf history).map Record.fate = [.ended .displaced 3, .inFlight 1] := by
  decide

end Tracker
end MqttRouting
