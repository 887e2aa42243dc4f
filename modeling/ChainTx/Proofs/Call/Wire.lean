import ChainTx.Call.State
import Mathlib.Data.List.Chain

/-!
Contract: the wire, that is, a node and the requests that have reached it.

Owns:
- the one step of the wire: a request is put on it;
- the requests of one exchange, those included by which the client goes on where the node sends it to
  another place, and what they make of the wire;
- answers to an exchange, at whatever place they are given;
- nodes that send nobody anywhere, with which an exchange is one request.

Does not own: how long an exchange takes beyond that it takes some time.
-/

set_option autoImplicit false

namespace ChainTx

/-! ## Requests by which a client goes on -/

/-- There is an answer upon which the client goes on from one request with another. -/
def Request.LeadsTo (request next : Request) : Prop :=
  ∃ status place, request.movedTo? status place = some next

namespace Wire

variable {wire before after : Wire} {url : Url} {request : Request} {answer : HttpReply}
  {hops : Nat} {made : List Request}

/-- There is a node, and it answers at this URL. -/
def reaches (wire : Wire) (url : Url) : Bool :=
  wire.node.any fun node => node.answersAt url

/-- A request that reaches no node leaves the wire as it is. -/
theorem put_of_not_reaches
    (unreached : wire.reaches url = false)
    (request : Request) :
    wire.put url request = (.broken, 0, wire) := by
  unfold put
  split
  · rfl
  · rename_i node present
    have elsewhere : ¬node.answersAt url = true := by
      rw [reaches, present, Option.any_some] at unreached
      rw [unreached]
      decide
    rw [if_neg elsewhere]

/-- A request that reaches the node is recorded, and the node takes its next reply. -/
theorem put_of_reaches
    (reached : wire.reaches url = true)
    (request : Request) :
    ∃ node,
      wire.node = some node
        ∧ wire.put url request
          = ((node.reply request).1.reaction.turn request, (node.reply request).1.delay,
            ⟨some (node.reply request).2, wire.requests ++ [request]⟩) := by
  obtain ⟨node, present, answers⟩ := (Option.any_eq_true _ _).mp reached
  refine ⟨node, present, ?_⟩
  unfold put
  simp only [present, if_pos answers]

private theorem requests_put
    (reached : wire.reaches url = true)
    (request : Request) :
    (wire.put url request).2.2.requests = wire.requests ++ [request] := by
  obtain ⟨node, -, put⟩ := put_of_reaches reached request
  rw [put]

/-- Nobody is sent on but by the node. -/
theorem reaches_of_moved
    {place : Url}
    {next : Request}
    {delay : Nat}
    (moved : wire.put url request = (.moved place next, delay, after)) :
    wire.reaches url = true := by
  rw [← Bool.not_eq_false]
  intro unreached
  rw [put_of_not_reaches unreached] at moved
  cases moved

private theorem leadsTo_of_moved
    {place : Url}
    {next : Request}
    {delay : Nat}
    (moved : wire.put url request = (.moved place next, delay, after)) :
    request.LeadsTo next := by
  obtain ⟨node, -, put⟩ := put_of_reaches (reaches_of_moved moved) request
  rw [put] at moved
  have turned := congrArg Prod.fst moved
  unfold Reaction.turn at turned
  split at turned
  · cases turned
  · cases turned
  · split at turned
    · rename_i movedTo
      cases turned
      exact ⟨_, _, movedTo⟩
    · cases turned
  · cases turned
  · cases turned

/-! ## The requests of one exchange -/

/-- A client asks at a URL and goes on to other places so many times at most. It puts these requests
on the wire, each the next one that the node's answer to the one before it sends the client on with.
It stops where no node is reached, upon any other answer, and when it may not go on or has lost
patience. -/
inductive Sent : Nat → Url → Request → Wire → List Request → Wire → Prop where
  | unreached
      {hops : Nat}
      {url : Url}
      {request : Request}
      {before : Wire}
      (unreached : before.reaches url = false) :
      Sent hops url request before [] before
  | last
      {hops : Nat}
      {url : Url}
      {request : Request}
      {before : Wire}
      (reached : before.reaches url = true) :
      Sent hops url request before [request] (before.put url request).2.2
  | moved
      {hops : Nat}
      {url place : Url}
      {request next : Request}
      {before middle after : Wire}
      {delay : Nat}
      {made : List Request}
      (put : before.put url request = (.moved place next, delay, middle))
      (rest : Sent hops place next middle made after) :
      Sent (hops + 1) url request before (request :: made) after

/-- The wire has recorded these requests and no others. -/
theorem Sent.requests_eq
    (sent : Sent hops url request before made after) :
    after.requests = before.requests ++ made := by
  induction sent with
  | unreached _ => exact (List.append_nil _).symm
  | last reached => exact requests_put reached _
  | @moved _ _ _ request _ _ _ _ _ _ put _ inductionHypothesis =>
      have recorded := requests_put (reaches_of_moved put) request
      rw [put] at recorded
      rw [inductionHypothesis, recorded, List.append_assoc, List.singleton_append]

theorem Sent.length_le
    (sent : Sent hops url request before made after) :
    made.length ≤ hops + 1 := by
  induction sent with
  | unreached _ => exact Nat.zero_le _
  | last _ => exact Nat.succ_le_succ (Nat.zero_le _)
  | moved _ _ inductionHypothesis => exact Nat.succ_le_succ inductionHypothesis

/-- Where the node is reached, the exchange begins with its own request. -/
theorem Sent.exists_eq_cons
    (sent : Sent hops url request before made after)
    (reached : before.reaches url = true) :
    ∃ followed, made = request :: followed := by
  cases sent with
  | unreached unreached => cases unreached.symm.trans reached
  | last _ => exact ⟨[], rfl⟩
  | moved _ _ => exact ⟨_, rfl⟩

/-- Behind the request itself there are only such as the node sends the client on with. -/
theorem Sent.isChain
    (sent : Sent hops url request before made after) :
    made.IsChain Request.LeadsTo := by
  induction sent with
  | unreached _ => exact .nil
  | last _ => exact .singleton _
  | moved put rest inductionHypothesis =>
      cases rest with
      | unreached _ => exact .singleton _
      | last _ => exact .cons_cons (leadsTo_of_moved put) inductionHypothesis
      | moved _ _ => exact .cons_cons (leadsTo_of_moved put) inductionHypothesis

/-! ## Answers -/

/-- A client that asks at a URL and goes on to other places so many times at most is answered. -/
inductive ServedWithin : Nat → Url → Request → Wire → HttpReply → Wire → Prop where
  | answered
      {hops : Nat}
      {url : Url}
      {request : Request}
      {before after : Wire}
      {delay : Nat}
      {answer : HttpReply}
      (put : before.put url request = (.answered answer, delay, after)) :
      ServedWithin hops url request before answer after
  | moved
      {hops : Nat}
      {url place : Url}
      {request next : Request}
      {before middle after : Wire}
      {delay : Nat}
      {answer : HttpReply}
      (put : before.put url request = (.moved place next, delay, middle))
      (rest : ServedWithin hops place next middle answer after) :
      ServedWithin (hops + 1) url request before answer after

/-- A request is answered: by the next reply that the node has for it or, where the node sends the
client on to another place, by the answer there. -/
def Served (url : Url) (request : Request) (before : Wire) (answer : HttpReply) (after : Wire) :
    Prop :=
  ServedWithin redirectLimit url request before answer after

/-- A node that is reached and answers at once. -/
theorem Served.of_reply
    {node : Node}
    (present : before.node = some node)
    (answers : node.answersAt url = true)
    (turned : (node.reply request).1.reaction.turn request = .answered answer) :
    Served url request before answer
      ⟨some (node.reply request).2, before.requests ++ [request]⟩ := by
  have put : before.put url request = (.answered answer, (node.reply request).1.delay,
      ⟨some (node.reply request).2, before.requests ++ [request]⟩) := by
    simp only [Wire.put, present, if_pos answers, turned]
  exact .answered put

private theorem ServedWithin.unique
    {other : Wire}
    {otherAnswer : HttpReply}
    (served : ServedWithin hops url request before answer after)
    (servedOther : ServedWithin hops url request before otherAnswer other) :
    answer = otherAnswer := by
  induction served with
  | answered put =>
      cases servedOther with
      | answered otherPut =>
          rw [put] at otherPut
          cases otherPut
          rfl
      | moved otherPut _ =>
          rw [put] at otherPut
          cases otherPut
  | moved put _ inductionHypothesis =>
      cases servedOther with
      | answered otherPut =>
          rw [put] at otherPut
          cases otherPut
      | moved otherPut otherRest =>
          rw [put] at otherPut
          cases otherPut
          exact inductionHypothesis otherRest

theorem Served.unique
    {other : Wire}
    {otherAnswer : HttpReply}
    (served : Served url request before answer after)
    (servedOther : Served url request before otherAnswer other) :
    answer = otherAnswer :=
  ServedWithin.unique served servedOther

theorem ServedWithin.reaches
    (served : ServedWithin hops url request before answer after) :
    before.reaches url = true := by
  cases served with
  | answered put =>
      rw [← Bool.not_eq_false]
      intro unreached
      rw [put_of_not_reaches unreached] at put
      cases put
  | moved put _ => exact reaches_of_moved put

theorem ServedWithin.exists_sent
    (served : ServedWithin hops url request before answer after) :
    ∃ made, Sent hops url request before made after := by
  induction served with
  | @answered hops url request before after delay answer put =>
      have served : ServedWithin hops url request before answer after := .answered put
      have sent : Sent hops url request before [request] (before.put url request).2.2 :=
        .last served.reaches
      rw [put] at sent
      exact ⟨_, sent⟩
  | moved put _ inductionHypothesis =>
      obtain ⟨made, sent⟩ := inductionHypothesis
      exact ⟨_, .moved put sent⟩

/-! ## What a client follows -/

private theorem lt_reactionTime (sentAt delay : Nat) :
    sentAt < reactionTime sentAt delay := by
  simp only [reactionTime, shortestExchange]
  omega

variable {patience : Option Nat} {sentAt : Nat}

/-- Every step takes some time, so that nothing ends at the start. -/
theorem lt_time_of_follow
    {ending : Ending (Except TxError HttpReply)}
    (ended : (wire.follow patience hops sentAt url request).1 = some ending) :
    sentAt < ending.time := by
  fun_induction follow with
  | case1 | case2 | case4 =>
      cases ended
      exact lt_reactionTime _ _
  | case3 | case6 => cases ended
  | case5 =>
      rename_i inductionHypothesis
      exact Nat.lt_trans (lt_reactionTime _ _) (inductionHypothesis ended)

/-- Failures are failures of the connection. -/
theorem isTransport_of_follow
    {ending : Ending (Except TxError HttpReply)}
    {error : TxError}
    (ended : (wire.follow patience hops sentAt url request).1 = some ending)
    (failed : ending.result = .error error) :
    error.isTransport = true := by
  fun_induction follow with
  | case1 =>
      cases ended
      cases failed
  | case2 | case4 =>
      cases ended
      cases failed
      rfl
  | case3 | case6 => cases ended
  | case5 =>
      rename_i inductionHypothesis
      exact inductionHypothesis ended

/-- What a client is answered is an answer on the wire, and the wire is left behind it. -/
theorem servedWithin_of_follow
    {time : Nat}
    (ended : (wire.follow patience hops sentAt url request).1 = some ⟨time, .ok answer⟩) :
    ServedWithin hops url request wire answer
      (wire.follow patience hops sentAt url request).2 := by
  fun_induction follow with
  | case1 =>
      rename_i put
      cases ended
      exact .answered put
  | case2 | case3 | case4 | case6 => cases ended
  | case5 =>
      rename_i put inductionHypothesis
      exact .moved put (inductionHypothesis ended)

/-- A client that waits for the end misses nothing. -/
theorem follow_of_time_le
    {cut : Nat}
    {ending : Ending (Except TxError HttpReply)}
    (ended : (wire.follow none hops sentAt url request).1 = some ending)
    (waits : ending.time ≤ cut) :
    wire.follow (some cut) hops sentAt url request
      = wire.follow none hops sentAt url request := by
  fun_induction follow none hops sentAt wire url request with
  | case1 | case2 | case3 | case4 =>
      rename_i put
      rw [follow, put]
  | case5 =>
      rename_i put inductionHypothesis
      have patient := Nat.lt_of_lt_of_le (lt_time_of_follow ended) waits
      rw [follow, put]
      simp only [Option.all_some, decide_eq_true patient, if_true]
      exact inductionHypothesis ended
  | case6 =>
      rename_i impatient _
      exact absurd rfl impatient

/-! ## Nodes that send nobody anywhere -/

end Wire

/-- True of answers that name another place. -/
def Reaction.isRedirect : Reaction → Bool
  | redirect _ _ _ => true
  | _ => false

private theorem Reaction.isRedirect_of_moved
    {reaction : Reaction}
    {request next : Request}
    {place : Url}
    (moved : reaction.turn request = .moved place next) :
    reaction.isRedirect = true := by
  cases reaction with
  | redirect _ _ _ => rfl
  | answer _ _ | envelope _ | drop | hang => cases moved

namespace Node

/-- No answer of the node names another place. -/
def IsDirect (node : Node) : Prop :=
  ∀ entry ∈ node.replies, ∀ reply ∈ entry.2, reply.reaction.isRedirect = false

instance (node : Node) : Decidable node.IsDirect :=
  inferInstanceAs (Decidable (∀ entry ∈ node.replies, ∀ reply ∈ entry.2, _ = false))

private theorem forall_of_nextReply
    {holds : Reply → Prop}
    {replies left : List Reply}
    {reply : Reply}
    (taken : nextReply replies = some (reply, left))
    (all : ∀ reply ∈ replies, holds reply) :
    holds reply ∧ ∀ reply ∈ left, holds reply := by
  unfold nextReply at taken
  split at taken
  · cases taken
  · cases taken
    exact ⟨all _ List.mem_cons_self, all⟩
  · cases taken
    exact List.forall_mem_cons.mp all

private theorem forall_of_takeReply
    {holds : Reply → Prop}
    {key : String}
    {entries left : List (String × List Reply)}
    {reply : Reply}
    (taken : takeReply key entries = some (reply, left))
    (all : ∀ entry ∈ entries, ∀ reply ∈ entry.2, holds reply) :
    holds reply ∧ ∀ entry ∈ left, ∀ reply ∈ entry.2, holds reply := by
  induction entries generalizing left with
  | nil => cases taken
  | cons entry rest inductionHypothesis =>
      obtain ⟨other, replies⟩ := entry
      obtain ⟨here, behind⟩ := List.forall_mem_cons.mp all
      rw [takeReply] at taken
      split at taken
      · obtain ⟨⟨_, left⟩, next, same⟩ := Option.map_eq_some_iff.mp taken
        cases same
        obtain ⟨holdsReply, holdsLeft⟩ := forall_of_nextReply next here
        exact ⟨holdsReply, List.forall_mem_cons.mpr ⟨holdsLeft, behind⟩⟩
      · obtain ⟨⟨_, left⟩, next, same⟩ := Option.map_eq_some_iff.mp taken
        cases same
        obtain ⟨holdsReply, holdsLeft⟩ := inductionHypothesis next behind
        exact ⟨holdsReply, List.forall_mem_cons.mpr ⟨here, holdsLeft⟩⟩

/-- The next answer names no other place either, nor does any one after it. -/
theorem IsDirect.reply
    {node : Node}
    (direct : node.IsDirect)
    (request : Request) :
    (node.reply request).1.reaction.isRedirect = false ∧ (node.reply request).2.IsDirect := by
  unfold Node.reply
  split
  · rename_i taken
    exact forall_of_takeReply taken direct
  · exact ⟨rfl, direct⟩

end Node

namespace Wire

variable {wire before after : Wire} {url : Url} {request : Request} {hops : Nat}
  {made : List Request}

/-- The node of the wire, if there is one, sends nobody anywhere. -/
def IsDirect (wire : Wire) : Prop :=
  ∀ node, wire.node = some node → node.IsDirect

private theorem IsDirect.put
    (direct : wire.IsDirect)
    (url : Url)
    (request : Request) :
    (∀ place next, (wire.put url request).1 ≠ .moved place next)
      ∧ (wire.put url request).2.2.IsDirect := by
  cases reached : wire.reaches url with
  | false =>
      rw [put_of_not_reaches reached]
      exact ⟨nofun, direct⟩
  | true =>
      obtain ⟨node, present, put⟩ := put_of_reaches reached request
      obtain ⟨notRedirect, stillDirect⟩ := (direct node present).reply request
      rw [put]
      constructor
      · intro place next turned
        rw [Reaction.isRedirect_of_moved turned] at notRedirect
        cases notRedirect
      · rintro _ ⟨⟩
        exact stillDirect

/-- With such a node an exchange is one request, if it reaches the node. -/
theorem Sent.of_isDirect
    (sent : Sent hops url request before made after)
    (direct : before.IsDirect) :
    made = (if before.reaches url then [request] else []) ∧ after.IsDirect := by
  cases sent with
  | unreached unreached => exact ⟨by rw [unreached]; rfl, direct⟩
  | last reached => exact ⟨by rw [reached]; rfl, (direct.put url request).2⟩
  | moved put _ =>
      have turned := congrArg Prod.fst put
      exact absurd turned ((direct.put url request).1 _ _)

end Wire

end ChainTx
