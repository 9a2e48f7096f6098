import Mathlib.Data.String.Basic
import MqttRouting.Text.Offset

/-!
Laws of byte offsets. A text can be cut exactly at its boundaries, and what is left behind
them gets shorter as they move on.
-/

namespace MqttRouting.Text

theorem foldl_byteLength (text : List Char) (n : Nat) :
    text.foldl (fun n c => n + c.utf8Size) n = n + byteLength text := by
  induction text generalizing n with
  | nil => rfl
  | cons c rest ih =>
      rw [byteLength, List.foldl_cons, List.foldl_cons, ih, ih (0 + c.utf8Size)]
      omega

@[simp] theorem byteLength_nil : byteLength [] = 0 := rfl

@[simp] theorem byteLength_cons (c : Char) (rest : List Char) :
    byteLength (c :: rest) = c.utf8Size + byteLength rest := by
  rw [byteLength, List.foldl_cons, foldl_byteLength, Nat.zero_add]

@[simp] theorem byteLength_append (before after : List Char) :
    byteLength (before ++ after) = byteLength before + byteLength after := by
  induction before with
  | nil => simp
  | cons c rest ih => simp [ih, Nat.add_assoc]

theorem utf8ByteSize_ofList (text : List Char) :
    (String.ofList text).utf8ByteSize = byteLength text := by
  rw [String.utf8ByteSize_ofList]
  induction text with
  | nil => rfl
  | cons c rest ih => rw [String.utf8Len, byteLength_cons, ih, Nat.add_comm]

theorem suffix?_append (before after : List Char) :
    suffix? (before ++ after) (byteLength before) = some after := by
  induction before with
  | nil => cases after <;> simp [suffix?]
  | cons c rest ih =>
      have := c.utf8Size_pos
      simp only [List.cons_append, byteLength_cons, suffix?]
      rw [if_neg (by omega), if_neg (by omega), Nat.add_sub_cancel_left, ih]

theorem suffix?_eq_some_iff {text after : List Char} {offset : Nat} :
    suffix? text offset = some after ↔
      ∃ before, text = before ++ after ∧ byteLength before = offset := by
  refine ⟨fun cut => ?_, ?_⟩
  · fun_induction suffix? text offset with
    | case1 => exact ⟨[], by simpa using cut⟩
    | case2 | case4 => cases cut
    | case3 c rest => exact ⟨[], by simpa using cut⟩
    | case5 c rest offset _ inside ih =>
        obtain ⟨before, rfl, rest_eq⟩ := ih cut
        refine ⟨c :: before, rfl, ?_⟩
        rw [byteLength_cons, rest_eq]
        omega
  · rintro ⟨before, rfl, rfl⟩
    exact suffix?_append before after

/-- A text can be cut exactly at its boundaries. -/
theorem suffix?_eq_none_iff {text : List Char} {offset : Nat} :
    suffix? text offset = none ↔ ¬ IsBoundary text offset := by
  have cut : (suffix? text offset).isSome ↔ IsBoundary text offset := by
    rw [Option.isSome_iff_exists]
    simp only [suffix?_eq_some_iff]
    exact exists_comm
  rw [← cut, Option.not_isSome_iff_eq_none]

theorem charAt?_eq (text : List Char) (offset : Nat) :
    charAt? text offset = (suffix? text offset).bind List.head? := by
  fun_induction charAt? text offset with
  | case1 offset => by_cases start : offset = 0 <;> simp [suffix?, start]
  | case2 | case3 => simp [suffix?, *]
  | case4 _ _ _ _ _ ih => simp [suffix?, *]

namespace IsBoundary

theorem zero (text : List Char) : IsBoundary text 0 := ⟨[], text, rfl, rfl⟩

variable {text : List Char} {offset : Nat}

theorem le (h : IsBoundary text offset) : offset ≤ byteLength text := by
  obtain ⟨before, after, rfl, rfl⟩ := h
  simp

end IsBoundary

/-- Of two boundaries the later one has less behind it. -/
theorem length_lt_of_byteLength_lt {before after before' after' : List Char}
    (same : before ++ after = before' ++ after') (lt : byteLength before < byteLength before') :
    after'.length < after.length := by
  obtain ⟨between, rfl, rfl⟩ | ⟨between, rfl, rfl⟩ := List.append_eq_append_iff.mp same
  · cases between with
    | nil => simp at lt
    | cons c rest =>
        rw [List.length_append, List.length_cons]
        omega
  · rw [byteLength_append] at lt
    omega

end MqttRouting.Text
