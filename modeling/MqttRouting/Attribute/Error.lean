import MqttRouting.Attribute.Token
import MqttRouting.Topic.PatternError

/-!
What can be wrong with attributes and the methods they stand on. Faults of syntax are
found while tokens are read, the others when what they say is looked at.
-/

namespace MqttRouting.Attribute

/-- What was looked for at a place among the tokens. -/
inductive Expectation where
  | comma
  | equals
  | identifier
  | text
  | flag
  | whole
  | squareBrackets
  /-- Some other piece of syntax. -/
  | piece (name : String)
  /-- Any of several pieces. -/
  | oneOf (names : List String)
  deriving DecidableEq

def Expectation.name : Expectation → String
  | .comma => "`,`"
  | .equals => "`=`"
  | .identifier => "identifier"
  | .text => "string literal"
  | .flag => "boolean literal"
  | .whole => "integer literal"
  | .squareBrackets => "square brackets"
  | .piece name => name
  | .oneOf [name] => name
  | .oneOf [first, second] => first ++ " or " ++ second
  | .oneOf names => "one of: " ++ ", ".intercalate names

/-- Why tokens are refused that could be read. -/
inductive Refusal where
  | attributeInAttribute
  -- Bounds
  | objectWithoutTrait
  | implWithoutTrait
  | captureList
  | constBound
  | conditionalBound
  | binderWithModifier
  | genericConditions
  -- Patterns
  | rangeInSlice
  -- Expressions and statements
  | chainedComparison
  | castFollowed (what : String)
  | attributesOnRange
  | labelNeedsParentheses
  | missingSemicolon
  -- Indices
  | suffixedIndex
  | indexTooLarge
  | negativeIndex
  -- Methods and blocks
  | secondReceiver
  | lateReceiver
  | traitPath
  | negativeBlock
  deriving DecidableEq

def Refusal.message : Refusal → String
  | .attributeInAttribute => "unexpected attribute inside of attribute"
  | .objectWithoutTrait => "at least one trait is required for an object type"
  | .implWithoutTrait => "at least one trait must be specified"
  | .captureList => "`use<...>` precise capturing syntax is not allowed here"
  | .constBound => "`const` is not allowed here"
  | .conditionalBound => "`[const]` is not allowed here"
  | .binderWithModifier => "`for<...>` binder not allowed with `?` trait polarity modifier"
  | .genericConditions =>
    "generic parameters on `where` clauses are reserved for future use"
  | .rangeInSlice => "range pattern is not allowed unparenthesized inside slice pattern"
  | .chainedComparison => "comparison operators cannot be chained"
  | .castFollowed what => "casts cannot be followed by " ++ what
  | .attributesOnRange =>
    "attributes are not allowed on range expressions starting with `..`"
  | .labelNeedsParentheses => "parentheses required"
  | .missingSemicolon => "unexpected token, expected `;`"
  | .suffixedIndex => "expected unsuffixed integer"
  | .indexTooLarge => "number too large to fit in target type"
  | .negativeIndex => "invalid digit found in string"
  | .secondReceiver => "unexpected second method receiver"
  | .lateReceiver => "unexpected method receiver"
  | .traitPath => "expected trait path"
  | .negativeBlock => "inherent impls cannot be negative"

inductive SyntaxError where
  /-- The text is not made of tokens. -/
  | notTokens
  | expected (what : Expectation)
  /-- There is nothing left to look at. -/
  | endOfInput (what : Expectation)
  | keyword (name : String)
  | refused (cause : Refusal)
  /-- Something stands where nothing can, or nothing where something has to. -/
  | unexpected (atEnd : Bool)
  /-- Tokens are left over, between delimiters if there are some. -/
  | leftOver (inside : Option Delimiter)
  deriving DecidableEq

def SyntaxError.message : SyntaxError → String
  | .notTokens => "cannot parse string into token stream"
  | .expected what => "expected " ++ what.name
  | .endOfInput what => "unexpected end of input, expected " ++ what.name
  | .keyword name => "expected identifier, found keyword `" ++ name ++ "`"
  | .refused cause => cause.message
  | .unexpected false | .leftOver none => "unexpected token"
  | .unexpected true => "unexpected end of input"
  | .leftOver (some d) => "unexpected token, expected `" ++ d.closing ++ "`"

inductive AttributeError where
  | malformed (e : SyntaxError)
  -- Options
  | unknownOption (name : String)
  | tooLarge
  | notANumber
  | qosRange
  | unknownNested
  | nestedLiteral
  | nestedToken
  -- Subscriptions
  | noArguments
  | notParenthesized
  | noTemplate
  | template (e : Topic.PatternError)
  | emptyShare
  -- Methods
  | traitImpl
  | noHandlers
  | notAsync
  | generic
  | receiver
  | noReceiver
  -- Arguments
  | twoSources
  | noSource
  | takesNoArguments (source : String)
  | borrowed
  | implTrait
  deriving DecidableEq

def AttributeError.message : AttributeError → String
  | .malformed e => e.message
  | .unknownOption name => "unknown #[subscribe] option `" ++ name ++ "`"
  | .tooLarge => "number too large to fit in target type"
  | .notANumber => "invalid digit found in string"
  | .qosRange => "qos must be 0, 1 or 2"
  | .unknownNested => "expected `transform = \"...\"`"
  | .nestedLiteral => "unexpected literal in nested attribute, expected ident"
  | .nestedToken => "unexpected token in nested attribute, expected ident"
  | .noArguments => "expected attribute arguments in parentheses: #[subscribe(...)]"
  | .notParenthesized => "expected parentheses: #[subscribe(...)]"
  | .noTemplate => "#[subscribe] needs a topic template, e.g. #[subscribe(\"a/+\")]"
  | .template e => "Topic pattern error: " ++ e.message
  | .emptyShare => "share group must not be empty, use `no_share` to disable sharing"
  | .traitImpl => "mqtt_subscriptions can only be applied to inherent impl blocks"
  | .noHandlers => "mqtt_subscriptions requires at least one #[subscribe(..)] method"
  | .notAsync => "subscription handlers must be `async fn`"
  | .generic => "subscription handlers cannot be generic"
  | .receiver => "subscription handlers must take `&self`"
  | .noReceiver => "subscription handlers must take `&self` as first argument"
  | .twoSources => "handler argument has more than one source attribute"
  | .noSource =>
    "handler argument needs one of #[payload], #[topic], #[packet] or #[params]"
  | .takesNoArguments source => "#[" ++ source ++ "] takes no arguments"
  | .borrowed => "handler arguments must be owned types"
  | .implTrait => "handler arguments cannot be `impl Trait`"

end MqttRouting.Attribute
