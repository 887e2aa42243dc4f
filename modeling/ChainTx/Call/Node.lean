import ChainTx.Json
import ChainTx.Url

/-!
Contract: the node at the other end.

Owns: requests as a node sees them, the replies that a node will give, what a client makes of a
reply, and nodes. A node has a list of replies for every key, a path or a method; each request takes
the next reply, and the last one is given over and over. A reply may send the client on to another
place.

Does not own: how long a caller waits, and how often a client goes on. Nor TLS: a node answers at its
port over either of the two schemes.
-/

set_option autoImplicit false

namespace ChainTx

/-- A request as it reaches a node. -/
inductive Request where
  | get (target : String)
  | post (target : String) (body : Json)
deriving Repr

/-- The key under which a node looks for its reply. -/
def Request.key : Request → String
  | .get target => "GET " ++ target
  | .post _ body => ((body.get? "method").bind Json.string?).getD ""

/-- The request by which a client goes on to the place that an answer names; none where the status
does not ask for it. Some statuses turn every request into a query, and some repeat the request as it
is. -/
def Request.movedTo? (request : Request) (status : Nat) (place : Url) : Option Request :=
  let target := String.ofList place.target
  if [301, 302, 303].contains status then some (.get target)
  else if [307, 308].contains status then
    match request with
    | .get _ => some (.get target)
    | .post _ body => some (.post target body)
  else none

/-- What a node does with a request. -/
inductive Reaction where
  | answer (status : Nat) (body : String)
  /-- An answer to a remote call, with the members given and the identity of the request. -/
  | envelope (members : List (String × Json))
  /-- An answer that names another place, the one to which its `Location` leads from the URL of the
  request. -/
  | redirect (status : Nat) (place : Url) (body : String)
  /-- The connection closes without an answer. -/
  | drop
  | hang
deriving Repr

structure HttpReply where
  status : Nat
  body : String
deriving DecidableEq, Repr

/-- True of the statuses that mean success. -/
def HttpReply.isSuccess (reply : HttpReply) : Bool :=
  200 ≤ reply.status && reply.status < 300

/-- The text of the answer to a remote call. -/
def Request.envelopeBody (request : Request) (members : List (String × Json)) : String :=
  let identity := match request with
    | .get _ => Json.null
    | .post _ body => (body.get? "id").getD .null
  (Json.object (members ++ [("jsonrpc", .string "2.0"), ("id", identity)])).canonical.compact

/-- What a client makes of a reaction to its request. -/
inductive Turn where
  | answered (answer : HttpReply)
  /-- It goes on to another place with another request. -/
  | moved (place : Url) (next : Request)
  | broken
  | silent
deriving Repr

def Reaction.turn (request : Request) : Reaction → Turn
  | .answer status body => .answered ⟨status, body⟩
  | .envelope members => .answered ⟨200, request.envelopeBody members⟩
  | .redirect status place body =>
      match request.movedTo? status place with
      | some next => .moved place next
      | none => .answered ⟨status, body⟩
  | .drop => .broken
  | .hang => .silent

/-- A reaction and how long, in nanoseconds, the node keeps it back. -/
structure Reply where
  delay : Nat
  reaction : Reaction
deriving Repr

/-- The answer to a request that a node has no reply for. -/
def Reply.notFound : Reply :=
  ⟨0, .answer 404 ""⟩

/-- The host and the port that a request for a URL goes to; none where the URL is not over HTTP. -/
def Url.server? (url : Url) : Option (Url.Host × Nat) := do
  let standard ←
    if url.scheme = ['h', 't', 't', 'p'] then some 80
    else if url.scheme = ['h', 't', 't', 'p', 's'] then some 443
    else none
  let authority ← url.authority
  some (authority.host, authority.port.getD standard)

structure Node where
  host : Url.Host
  /-- Without a port it is 80. -/
  port : Option Nat
  replies : List (String × List Reply)
deriving Repr

namespace Node

/-- True of the URLs that lead to a node. -/
def answersAt (node : Node) (url : Url) : Bool :=
  url.server? == some (node.host, node.port.getD 80)

/-- Takes the next reply of a list; the last one stays. -/
def nextReply : List Reply → Option (Reply × List Reply)
  | [] => none
  | [reply] => some (reply, [reply])
  | reply :: rest => some (reply, rest)

/-- Takes the next reply under a key. -/
def takeReply (key : String) :
    List (String × List Reply) → Option (Reply × List (String × List Reply))
  | [] => none
  | (other, replies) :: rest =>
      if other = key then
        (nextReply replies).map fun (reply, left) => (reply, (key, left) :: rest)
      else
        (takeReply key rest).map fun (reply, left) => (reply, (other, replies) :: left)

/-- The reply to a request, and the node after it. -/
def reply (node : Node) (request : Request) : Reply × Node :=
  match takeReply request.key node.replies with
  | some (reply, replies) => (reply, { node with replies })
  | none => (.notFound, node)

end Node

end ChainTx
