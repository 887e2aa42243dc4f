import ChainTx.Call.Context
import ChainTx.Call.Node

/-!
Contract: calls as functions from what they find to what they leave behind.

Owns:
- the records that calls leave: requests that reached the node, events, and measurements;
- the state that calls share: the node, the clock and the records;
- one exchange with a node under a context: who is asked, where the answers lead, when the last of
  them is there, and which limit strikes first.

Does not own: what the requests say.
-/

set_option autoImplicit false

namespace ChainTx

inductive Level where
  | debug
  | info
  | warn
deriving DecidableEq, Repr

def Level.name : Level → String
  | .debug => "DEBUG"
  | .info => "INFO"
  | .warn => "WARN"

structure Event where
  level : Level
  message : String
deriving DecidableEq, Repr

def Event.text (event : Event) : String :=
  event.level.name ++ " " ++ event.message

inductive Measurement where
  | built (framework : Framework) (txType : TxType)
  | broadcast (framework : Framework) (accepted : Bool)
  | exchanged (operation : String)
deriving DecidableEq, Repr

namespace Measurement

/-- The name of what is measured, with its labels in order of their names. -/
def name : Measurement → String
  | .built framework txType =>
      "txkit_builds_total\x7bframework=" ++ framework.name ++ ",tx_type=" ++ txType.token ++ "\x7d"
  | .broadcast framework accepted =>
      "txkit_broadcasts_total\x7bframework=" ++ framework.name ++ ",outcome="
        ++ (if accepted then "accepted" else "rejected") ++ "\x7d"
  | .exchanged operation => "txkit_rpc_duration_seconds\x7bmethod=" ++ operation ++ "\x7d"

/-- How often each name occurs, in order of the first occurrences. -/
def counts (measurements : List Measurement) : List (String × Nat) :=
  let names := measurements.map name
  names.eraseDups.map fun name => (name, names.count name)

end Measurement

structure CallState where
  /-- The node that can be reached, if there is one. -/
  node : Option Node
  clock : Nat
  /-- For every client of the EVM family how many requests it has made. -/
  requestCounts : List Nat
  requests : List Request
  events : List Event
  measurements : List Measurement
deriving Repr

namespace CallState

def initial (node : Option Node) : CallState :=
  ⟨node, 0, [], [], [], []⟩

end CallState

abbrev Call (α : Type) : Type := ExceptT TxError (StateM CallState) α

namespace Call

/-- What is checked without any call. -/
def ofExcept {α : Type} : Except TxError α → Call α
  | .ok value => pure value
  | .error error => throw error

def emit (level : Level) (message : String) : Call Unit :=
  modify fun state => { state with events := state.events ++ [⟨level, message⟩] }

def record (measurement : Measurement) : Call Unit :=
  modify fun state => { state with measurements := state.measurements ++ [measurement] }

/-- The outcome of a call as a value, so that the call goes on. -/
def outcome {α : Type} (call : Call α) : Call (Except TxError α) :=
  fun state =>
    match (call.run).run state with
    | (result, state) => (.ok result, state)

end Call

/-! ## Exchanges -/

/-- The time that a request and the reply to it take at least. -/
def shortestExchange : Nat := 1

/-- When the reaction to a request is there. -/
def reactionTime (sentAt delay : Nat) : Nat :=
  sentAt + shortestExchange + delay

/-- How often a client goes on to another place in one exchange. -/
def redirectLimit : Nat := 10

/-- A node, if there is one, and the requests that have reached it. -/
structure Wire where
  node : Option Node
  requests : List Request

namespace Wire

/-- A request on its way: what the client makes of the reaction, how long the node keeps it back, and
the wire behind it. A request that reaches no node leaves no record. -/
def put (wire : Wire) (url : Url) (request : Request) : Turn × Nat × Wire :=
  match wire.node with
  | none => (.broken, 0, wire)
  | some node =>
      if node.answersAt url then
        let (reply, node) := node.reply request
        (reply.reaction.turn request, reply.delay, ⟨some node, wire.requests ++ [request]⟩)
      else (.broken, 0, wire)

/-- What becomes of a request that is sent at some time of an exchange, by a client that goes on so
many times more: the ending of the exchange, and the wire behind it. A client whose patience has an
end sends nothing from then on. -/
def follow (patience : Option Nat) :
    Nat → Nat → Wire → Url → Request → Option (Ending (Except TxError HttpReply)) × Wire
  | hops, sentAt, wire, url, request =>
      let (turn, delay, wire) := wire.put url request
      match turn, hops with
      | .answered answer, _ => (some ⟨reactionTime sentAt delay, .ok answer⟩, wire)
      | .broken, _ =>
          (some ⟨reactionTime sentAt delay, .error (.transport .disconnected)⟩, wire)
      | .silent, _ => (none, wire)
      | .moved _ _, 0 =>
          (some ⟨reactionTime sentAt delay, .error (.transport .tooManyRedirects)⟩, wire)
      | .moved place next, hops + 1 =>
          if patience.all (reactionTime sentAt delay < ·) then
            follow patience hops (reactionTime sentAt delay) wire place next
          else (none, wire)

end Wire

namespace CallState

def wire (state : CallState) : Wire :=
  ⟨state.node, state.requests⟩

def withWire (state : CallState) (wire : Wire) : CallState :=
  { state with node := wire.node, requests := wire.requests }

/-- What becomes of a request that is sent with nobody waiting: its ending, and the state behind
it. -/
def deliver (state : CallState) (url : Url) (request : Request) :
    Option (Ending (Except TxError HttpReply)) × CallState :=
  let (ending, wire) := state.wire.follow none redirectLimit 0 url request
  (ending, state.withWire wire)

/-- The state behind a request that is sent by a client which waits for some time. -/
def deliverFor (state : CallState) (patience : Nat) (url : Url) (request : Request) : CallState :=
  state.withWire (state.wire.follow (some patience) redirectLimit 0 url request).2

end CallState

/-- A limit on single exchanges, and the error when it strikes. -/
structure ExchangeLimit where
  duration : Duration
  late : TxError
deriving DecidableEq, Repr

namespace Call

/-- Sends a request and waits for the answer under a context, also where other places are asked on the
way. Under a context that is cancelled beforehand nothing is sent, nor when a limit strikes at the
start. -/
def exchange (context : CallContext) (operation : String) (limit : ExchangeLimit) (url : Url)
    (request : Request) : Call HttpReply :=
  fun state =>
    let work := Ending.within limit.duration (.error limit.late) (state.deliver url request).1
    let ending := context.run operation state.clock work
    if ending.time = 0 then (ending.result, state)
    else
      (ending.result,
        { state.deliverFor ending.time url request with clock := state.clock + ending.time })

/-- Fails at once with an error, unless the context is cancelled beforehand. -/
def failAtOnce {α : Type} (context : CallContext) (operation : String) (error : TxError) :
    Call α :=
  fun state => ((context.run operation state.clock ⟨0, .error error⟩).result, state)

end Call

end ChainTx
