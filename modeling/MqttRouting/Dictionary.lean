/-!
Dictionaries with text keys, as lists of entries in key order with no key twice.
Equal dictionaries are equal lists. The order is that of code points, which is
also the order of the UTF-8 bytes.
-/

namespace MqttRouting

abbrev Dictionary (α : Type) := List (String × α)

namespace Dictionary

variable {α : Type}

def insert (key : String) (value : α) : Dictionary α → Dictionary α
  | [] => [(key, value)]
  | (other, kept) :: rest =>
    if key < other then (key, value) :: (other, kept) :: rest
    else if key = other then (key, value) :: rest
    else (other, kept) :: insert key value rest

def find? (key : String) : Dictionary α → Option α
  | [] => none
  | (other, value) :: rest => if key = other then some value else find? key rest

def keys (d : Dictionary α) : List String := d.map Prod.fst

/-- The later of two entries with one key wins. -/
def ofList (entries : List (String × α)) : Dictionary α :=
  entries.foldl (fun d e => d.insert e.1 e.2) []

/-- The entries of `overlay` replace those of `base`. -/
def overlay (base patch : Dictionary α) : Dictionary α :=
  patch.foldl (fun d e => d.insert e.1 e.2) base

theorem find?_insert (key query : String) (value : α) (d : Dictionary α) :
    (d.insert key value).find? query = if query = key then some value else d.find? query := by
  induction d with
  | nil => simp [insert, find?]
  | cons e rest ih =>
    obtain ⟨other, kept⟩ := e
    simp only [insert]
    split
    · simp [find?]
    · split
      · rename_i h; subst h
        simp only [find?]
        split <;> simp_all
      · rename_i hne
        simp only [find?, ih]
        by_cases hq : query = other
        · have : query ≠ key := fun h => hne (h.symm.trans hq)
          rw [if_pos hq, if_neg this, if_pos hq]
        · rw [if_neg hq, if_neg hq]

theorem mem_insert {key : String} {value : α} {d : Dictionary α} {e : String × α}
    (h : e ∈ d.insert key value) : e = (key, value) ∨ e ∈ d := by
  induction d with
  | nil => exact .inl (List.mem_singleton.mp h)
  | cons f d ih =>
    simp only [insert] at h
    split at h
    · exact List.mem_cons.mp h
    · split at h
      · exact (List.mem_cons.mp h).imp_right (List.mem_cons_of_mem _)
      · cases List.mem_cons.mp h with
        | inl same => exact .inr (same ▸ List.mem_cons_self)
        | inr h => exact (ih h).imp_right (List.mem_cons_of_mem _)

theorem mem_of_find? {key : String} {value : α} {d : Dictionary α}
    (h : d.find? key = some value) : (key, value) ∈ d := by
  induction d with
  | nil => cases h
  | cons e d ih =>
    simp only [find?] at h
    split at h
    · next same =>
      obtain rfl := Option.some.inj h
      exact same ▸ List.mem_cons_self
    · exact List.mem_cons_of_mem _ (ih h)

theorem find?_eq_none_iff {key : String} {d : Dictionary α} :
    d.find? key = none ↔ key ∉ keys d := by
  induction d with
  | nil => simp [find?, keys]
  | cons e d ih =>
    obtain ⟨other, kept⟩ := e
    by_cases same : key = other
    · simp [find?, keys, same]
    · simpa [find?, keys, same] using ih

theorem mem_keys_of_find? {key : String} {value : α} {d : Dictionary α}
    (h : d.find? key = some value) : key ∈ keys d :=
  List.mem_map_of_mem (mem_of_find? h)

/-- A new key is one key more. -/
theorem keys_insert {key : String} (value : α) {d : Dictionary α} (new : d.find? key = none) :
    (keys (d.insert key value)).Perm (key :: keys d) := by
  induction d with
  | nil => exact .refl _
  | cons e d ih =>
    obtain ⟨other, kept⟩ := e
    rw [find?] at new
    split at new
    · cases new
    · next differs =>
      simp only [insert, if_neg differs]
      split
      · exact .refl _
      · exact ((ih new).cons other).trans (.swap key other (keys d))

theorem mem_overlay {base patch : Dictionary α} {e : String × α}
    (h : e ∈ base.overlay patch) : e ∈ base ∨ e ∈ patch := by
  induction patch generalizing base with
  | nil => exact .inl h
  | cons f patch ih =>
    cases ih h with
    | inl h =>
      cases mem_insert h with
      | inl same => exact .inr (same ▸ List.mem_cons_self)
      | inr h => exact .inl h
    | inr h => exact .inr (List.mem_cons_of_mem _ h)

theorem find?_append (key : String) (front back : Dictionary α) :
    find? key (front ++ back) = (find? key front).or (find? key back) := by
  induction front with
  | nil => rfl
  | cons e front ih =>
    rw [List.cons_append, find?, find?]
    split
    · rfl
    · exact ih

/-- The last entry of the patch with a key gives its value, or else the base does. -/
theorem find?_overlay (base patch : Dictionary α) (key : String) :
    (base.overlay patch).find? key = (find? key patch.reverse).or (base.find? key) := by
  unfold overlay
  induction patch generalizing base with
  | nil => rfl
  | cons e patch ih =>
    rw [List.foldl_cons, ih, find?_insert, List.reverse_cons, find?_append, Option.or_assoc]
    congr 1
    by_cases same : key = e.1 <;> simp [find?, same]

theorem find?_ofList (entries : List (String × α)) (key : String) :
    (ofList entries).find? key = find? key entries.reverse := by
  rw [ofList, ← overlay, find?_overlay, find?, Option.or_none]

/-! The order of the keys. -/

/-- The keys come in order, and so none comes twice. -/
def Ordered (d : Dictionary α) : Prop := (keys d).Pairwise (· < ·)

theorem ordered_nil : Ordered ([] : Dictionary α) := .nil

theorem Ordered.insert {d : Dictionary α} (h : Ordered d) (key : String) (value : α) :
    Ordered (d.insert key value) := by
  induction d with
  | nil => simp [Dictionary.insert, Ordered, keys]
  | cons e d ih =>
    obtain ⟨other, kept⟩ := e
    obtain ⟨first, rest⟩ := List.pairwise_cons.mp h
    simp only [Dictionary.insert]
    split
    · next less =>
      refine List.pairwise_cons.mpr ⟨fun k mem => ?_, h⟩
      rcases List.mem_cons.mp mem with rfl | mem
      · exact less
      · exact String.lt_trans less (first k mem)
    · next notLess =>
      split
      · next same => exact same ▸ h
      · next differs =>
        refine List.pairwise_cons.mpr ⟨fun k mem => ?_, ih rest⟩
        obtain ⟨e, among, rfl⟩ := List.mem_map.mp mem
        cases mem_insert among with
        | inl same =>
          rw [same]
          refine String.not_le.mp fun le => differs ?_
          exact String.le_antisymm le (String.not_lt.mp notLess)
        | inr among => exact first _ (List.mem_map_of_mem among)

theorem Ordered.overlay {base : Dictionary α} (h : Ordered base) (patch : Dictionary α) :
    Ordered (base.overlay patch) := by
  induction patch generalizing base with
  | nil => exact h
  | cons e patch ih => exact ih (h.insert e.1 e.2)

theorem ordered_ofList (entries : List (String × α)) : Ordered (ofList entries) :=
  ordered_nil.overlay entries

/-- Without a key that comes twice it makes no difference from which end one looks. -/
theorem Ordered.find?_reverse {d : Dictionary α} (h : Ordered d) (key : String) :
    find? key d.reverse = find? key d := by
  induction d with
  | nil => rfl
  | cons e d ih =>
    obtain ⟨first, rest⟩ := List.pairwise_cons.mp h
    rw [List.reverse_cons, find?_append, ih rest]
    simp only [find?]
    split
    · next same =>
      have absent : find? key d = none := by
        rw [find?_eq_none_iff, same]
        exact fun mem => String.lt_irrefl _ (first _ mem)
      rw [absent, Option.none_or]
    · rw [Option.or_none]

end Dictionary
end MqttRouting
