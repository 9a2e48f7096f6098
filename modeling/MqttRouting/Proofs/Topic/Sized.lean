import MqttRouting.Proofs.Text.Offset
import MqttRouting.Proofs.Topic.Regex

/-!
How large the program of a route becomes. Each piece of its expression adds a part of its own,
so the engine that bounds the size can be asked by counting bytes and wildcards.
-/

namespace MqttRouting.Topic

theorem Regex.total_cons (n : Nat) (sizes : List Nat) : total (n :: sizes) = n + total sizes := rfl

theorem Regex.total_append (sizes more : List Nat) :
    total (sizes ++ more) = total sizes + total more := by
  induction sizes with
  | nil => exact (Nat.zero_add _).symm
  | cons n rest ih => rw [List.cons_append, total_cons, total_cons, ih, Nat.add_assoc]

/-- What a piece adds to the size of a program. -/
def Piece.size : Piece → Nat
  | .char c => 32 * c.utf8Size
  | .level => 1040
  | .tail => 1108
  | .all => 1004

namespace Expression

def size (expression : Expression) : Nat := Regex.total (expression.map Piece.size)

theorem size_append (expression more : Expression) :
    size (expression ++ more) = expression.size + more.size := by
  rw [size, List.map_append, Regex.total_append]
  rfl

theorem size_chars (text : List Char) : size (text.map .char) = 32 * Text.byteLength text := by
  induction text with
  | nil => rfl
  | cons c rest ih =>
      rw [Text.byteLength_cons, Nat.mul_add, ← ih]
      rfl

/-- The levels of a route behind one of text. -/
theorem size_text_plus (text : Level) (n : Nat) :
    (ofSegments (.literal text :: List.replicate n .plus)).size =
      32 * Text.byteLength text + 1072 * n := by
  have levels : size (pieces false (List.replicate n .plus)) = 1072 * n := by
    induction n with
    | zero => rfl
    | succ n ih =>
        rw [List.replicate_succ, pieces, size_append, ih, Nat.mul_succ, Nat.add_comm]
        rfl
  rw [ofSegments_pieces, pieces, size_append, levels, ← size_chars]
  rfl

end Expression

theorem Regex.size_ofPieces (expression : Expression) :
    (ofPieces expression).size = expression.size + 128 := by
  have item (piece : Piece) : (ofPiece piece).size = piece.size := by
    cases piece <;> rfl
  have items : (expression.map ofPiece).map Item.size = expression.map Piece.size := by
    rw [List.map_map]
    exact List.map_congr_left fun piece _ => item piece
  simp only [ofPieces, Regex.size, List.map_cons, List.map_append, total_cons, total_append, items,
    Expression.size]
  change 32 + (_ + 32) + 64 = _
  omega

/-- The size of its program alone decides on the expression of a route. -/
theorem Engine.sized_refusal? (segments : List Segment) :
    Engine.sized.refusal? (written segments) =
      if 10485760 < (Expression.ofSegments segments).size + 128 then some sizeReason else none := by
  rw [← Regex.size_ofPieces]
  change Option.bind (Regex.read (written segments)) _ = _
  rw [Regex.read_written]
  rfl

end MqttRouting.Topic
