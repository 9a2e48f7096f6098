import MqttRouting.Handler.Args
import MqttRouting.Payload.Transform
import MqttRouting.Proofs.Json.Shapes
import MqttRouting.Proofs.Text.Utf8

/-!
Typed JSON arguments under the three built-in forms of a payload. Bytes and text are read
when the handler asks for the data; under the `json` transform they have been read before
and the shape is imposed on the outcome.
-/

namespace MqttRouting

open Json (Shape Value)

/-- What a handler gets as data of a shape: the payload is decoded by a transform and put
into a slot among others, and the handler extracts it from there. -/
def Transforms.shapedArgument (transforms : Transforms) (spec : TransformSpec) (shape : Shape)
    (before after : List (Option Arg)) (payload : List UInt8) : Option ArgValue :=
  match transforms.decode (some spec) payload with
  | .error _ => none
  | .ok value =>
    let args : Args := ⟨before ++ some (.payload value) :: after⟩
    (args.extract (.shaped shape) before.length).1.toOption

theorem Args.extract_between (before after : List (Option Arg)) (a : Arg) (type : ArgType) :
    ((Args.mk (before ++ some a :: after)).extract type before.length).1 =
      type.convert before.length (some a) := by
  simp [extract, take, get?]

namespace Transforms

variable (transforms : Transforms) (shape : Shape) (before after : List (Option Arg))
  {payload : List UInt8}

theorem shapedArgument_raw :
    transforms.shapedArgument .raw shape before after payload =
      (shape.ofBytes payload).toOption.map .json := by
  simp only [shapedArgument, decode, resolve, Decoder.raw, Args.extract_between, ArgType.convert,
    ArgType.accept?, ArgType.readShape, Option.map_some]
  cases shape.ofBytes payload <;> rfl

theorem shapedArgument_text {chars : List Char} (utf8 : Text.Utf8.decode payload = .ok chars) :
    transforms.shapedArgument .text shape before after payload =
      (shape.ofBytes payload).toOption.map .json := by
  simp only [shapedArgument, decode, resolve, Decoder.text, Decoder.readText, utf8, Except.map,
    Args.extract_between, ArgType.convert, ArgType.accept?, ArgType.readShape, Option.map_some,
    Text.Utf8.toUTF8_of_decode utf8]
  cases shape.ofBytes payload <;> rfl

theorem shapedArgument_json {chars : List Char} (utf8 : Text.Utf8.decode payload = .ok chars) :
    transforms.shapedArgument .json shape before after payload =
      ((Value.ofBytes payload).toOption.bind fun v => (shape.ofValue v).toOption).map .json := by
  simp only [shapedArgument, decode, resolve, Decoder.json, Decoder.readText, utf8]
  cases Value.ofBytes payload with
  | error fault => rfl
  | ok v =>
    simp only [Args.extract_between, ArgType.convert, ArgType.accept?, ArgType.readShape,
      Option.map_some]
    cases h : shape.ofValue v <;> simp [h, Except.toOption, Except.map]

/-- For every payload that is UTF-8, bytes and text give the same data or none at all.
Decoded as JSON it gives the same again if no record is asked for; for a record it gives no
other data, though a key that comes twice or a member that has no field and cannot be kept
may leave one of the two without any. -/
theorem shapedArgument_of_every_form {chars : List Char}
    (utf8 : Text.Utf8.decode payload = .ok chars) :
    transforms.shapedArgument .raw shape before after payload =
        transforms.shapedArgument .text shape before after payload ∧
      (shape.RecordFree →
        transforms.shapedArgument .json shape before after payload =
          transforms.shapedArgument .raw shape before after payload) ∧
      ∀ x y, transforms.shapedArgument .json shape before after payload = some x →
        transforms.shapedArgument .raw shape before after payload = some y → x = y := by
  rw [shapedArgument_raw, shapedArgument_text _ _ _ _ utf8, shapedArgument_json _ _ _ _ utf8]
  refine ⟨rfl, fun plain => congrArg (Option.map _) (Option.ext fun x => ?_), fun x y h h' => ?_⟩
  · simp only [Option.bind_eq_some_iff, toOption_eq_some_iff]
    exact (Shape.ofBytes_ok_iff plain).symm
  · simp only [Option.map_eq_some_iff, Option.bind_eq_some_iff, toOption_eq_some_iff] at h h'
    obtain ⟨v, ⟨w, found, imposed⟩, rfl⟩ := h
    obtain ⟨v', read, rfl⟩ := h'
    rw [Shape.ofBytes_unique read found imposed]

/-- The text `[7]` as a list of bytes, and as a record whose one field it gives. -/
theorem seven_of_every_form :
    ∃ chars, Text.Utf8.decode [91, 55, 93] = .ok chars ∧
      Transforms.shapedArgument ⟨[]⟩ .raw (.list .byte) [] [] [91, 55, 93] =
        some (.json (.list [.number (.whole 7)])) ∧
      Transforms.shapedArgument ⟨[]⟩ .json (.list .byte) [] [] [91, 55, 93] =
        Transforms.shapedArgument ⟨[]⟩ .raw (.list .byte) [] [] [91, 55, 93] ∧
      ∃ x y,
        Transforms.shapedArgument ⟨[]⟩ .json (.record "Reading" "a" .int64) [] [] [91, 55, 93] =
          some x ∧
        Transforms.shapedArgument ⟨[]⟩ .raw (.record "Reading" "a" .int64) [] [] [91, 55, 93] =
          some y ∧ x = y := by
  have utf8 : Text.Utf8.decode [91, 55, 93] = .ok ['[', '7', ']'] := by
    simp [Text.Utf8.decode, Text.Utf8.decodeFrom, Text.Utf8.step]
  have decoded :
      Transforms.shapedArgument ⟨[]⟩ .json (.record "Reading" "a" .int64) [] [] [91, 55, 93] =
        some (.json (.object [("a", .number (.whole 7))])) := by
    rw [shapedArgument_json _ _ _ _ utf8]
    rfl
  exact ⟨_, utf8, rfl, (shapedArgument_of_every_form ⟨[]⟩ (.list .byte) [] [] utf8).2.1 trivial,
    _, _, decoded, rfl, (shapedArgument_of_every_form ⟨[]⟩ (.record "Reading" "a" .int64) [] []
      utf8).2.2 _ _ decoded rfl⟩

end Transforms
end MqttRouting
