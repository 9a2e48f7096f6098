import MqttRouting.Dictionary
import MqttRouting.Url

/-!
Connection options, and how to read them from a URL. The query of the URL sets them by
name; of two entries with one name the later counts.
-/

namespace MqttRouting

structure Options where
  clientId : String
  host : String
  port : Nat
  /-- In seconds. -/
  keepAlive : Nat := 60
  cleanSession : Bool := true
  requestCapacity : Nat := 10
  requestBatch : Nat := 0
  /-- In microseconds. -/
  pendingThrottle : Nat := 0
  /-- How many packets may be unacknowledged, which is also the highest packet id. -/
  inflight : Nat := 100
  deriving DecidableEq

/-- An option whose value cannot be read. -/
inductive OptionName where
  | keepAlive
  | cleanSession
  | maxIncomingSize
  | maxOutgoingSize
  | requestCapacity
  | requestBatch
  | pendingThrottle
  | inflight
  deriving DecidableEq, Repr

namespace OptionName

/-- The name in a query. -/
def key : OptionName → String
  | .keepAlive => "keep_alive_secs"
  | .cleanSession => "clean_session"
  | .maxIncomingSize => "max_incoming_packet_size_bytes"
  | .maxOutgoingSize => "max_outgoing_packet_size_bytes"
  | .requestCapacity => "request_channel_capacity_num"
  | .requestBatch => "max_request_batch_num"
  | .pendingThrottle => "pending_throttle_usecs"
  | .inflight => "inflight_num"

/-- The name in messages. -/
def title : OptionName → String
  | .keepAlive => "keep-alive"
  | .cleanSession => "clean-session"
  | .maxIncomingSize => "max-incoming-packet-size"
  | .maxOutgoingSize => "max-outgoing-packet-size"
  | .requestCapacity => "request-channel-capacity"
  | .requestBatch => "max-request-batch"
  | .pendingThrottle => "pending-throttle"
  | .inflight => "inflight"

/-- In the order in which a query is read. -/
def all : List OptionName :=
  [.keepAlive, .cleanSession, .maxIncomingSize, .maxOutgoingSize, .requestCapacity, .requestBatch,
    .pendingThrottle, .inflight]

/-- How many bits a value may have. -/
def width : OptionName → Nat
  | .inflight => 16
  | _ => 64

end OptionName

inductive OptionError where
  | scheme
  | clientId
  | invalid (option : OptionName)
  | unknown (key : String)
  | url (e : UrlError)
  deriving DecidableEq

def OptionError.message : OptionError → String
  | .scheme => "Unsupported URL scheme."
  | .clientId => "Missing client ID."
  | .invalid option => "Invalid " ++ option.title ++ " value."
  | .unknown key => "Unknown option: " ++ key
  | .url e => "Couldn't parse option from url: " ++ e.message

namespace Options

def defaultPort : Nat := 1883

/-- A decimal number of some bits at most, with a plus sign or without. -/
def readNumber? (bits : Nat) (text : String) : Option Nat :=
  let digits := match text.toList with
    | '+' :: rest => rest
    | digits => digits
  if digits.isEmpty || !digits.all Char.isDigit then none
  else
    let n := Url.decimal digits
    if n < 1 <<< bits then some n else none

/-- These options with one set from a text. The sizes are checked and not kept. -/
def set? (o : Options) (option : OptionName) (text : String) : Option Options :=
  let number := readNumber? option.width text
  match option with
  | .cleanSession =>
    if text = "true" then some { o with cleanSession := true }
    else if text = "false" then some { o with cleanSession := false }
    else none
  | .keepAlive => number.map fun n => { o with keepAlive := n }
  | .maxIncomingSize | .maxOutgoingSize => number.map fun _ => o
  | .requestCapacity => number.map fun n => { o with requestCapacity := n }
  | .requestBatch => number.map fun n => { o with requestBatch := n }
  | .pendingThrottle => number.map fun n => { o with pendingThrottle := n }
  | .inflight => number.map fun n => { o with inflight := n }

/-- Sets all options that a query has, in their order. -/
def setAll (query : Dictionary String) (o : Options) :
    List OptionName → Except OptionError Options
  | [] => .ok o
  | option :: rest =>
    match query.find? option.key with
    | none => setAll query o rest
    | some text =>
      match o.set? option text with
      | some o => setAll query o rest
      | none => .error (.invalid option)

def clientIdKey : String := "client_id"

def isKnown (key : String) : Bool :=
  key == clientIdKey || OptionName.all.any (·.key == key)

/-- Only connections without encryption are supported. A bad value is reported before an
unknown name. -/
def ofUrl (text : String) : Except OptionError Options :=
  match Url.parse text with
  | .error e => .error (.url e)
  | .ok url =>
    if url.scheme ≠ "mqtt" ∧ url.scheme ≠ "tcp" then .error .scheme
    else
      let query : Dictionary String := Dictionary.ofList url.entries
      match query.find? clientIdKey with
      | none => .error .clientId
      | some clientId =>
        let base : Options := { clientId, host := url.host, port := url.port.getD defaultPort }
        match setAll query base OptionName.all with
        | .error e => .error e
        | .ok o =>
          match (query.map Prod.fst).find? (!isKnown ·) with
          | some key => .error (.unknown key)
          | none => .ok o

def localhost (clientId : String) : Options :=
  { clientId, host := "localhost", port := defaultPort }

end Options
end MqttRouting
