import SupplierGateway.Http.Message

/-!
# Transports that follow a script

A scripted transport answers requests from queues of replies, one queue for each method and
address.  A reply is taken from the front of its queue, except that the last one stays and answers
all further requests.  A request for which there is no queue is answered by a rule that may look at
all requests before it; by default it fails to connect.

Every request is logged when it is taken, before its reply is decided.
-/

namespace SupplierGateway
namespace Http

/-- A scripted reply. -/
inductive Reply where
  | respond (r : Response)
  | fail (e : TransportError)
  | delay (ms : Nat) (reply : Reply)
  | crash (text : String)
deriving DecidableEq, Repr

/-- The end of a request: an outcome, or a crash of the transport with its text. -/
inductive Delivery where
  | outcome (o : Outcome)
  | crash (text : String)
deriving DecidableEq, Repr

namespace Reply

/-- The delivery of a reply once its delays have passed. -/
def delivery : Reply → Delivery
  | respond r => .outcome (.ok r)
  | fail e => .outcome (.error e)
  | delay _ reply => reply.delivery
  | crash text => .crash text

/-- The sum of the delays of a reply, in milliseconds. -/
def latency : Reply → Nat
  | delay ms reply => ms + reply.latency
  | respond _ | fail _ | crash _ => 0

end Reply

/-- The queue of replies for a method and an address. -/
structure Route where
  method : Method
  url : String
  replies : List Reply
deriving DecidableEq, Repr

namespace Route

/-- The route answers a request. -/
def answers (route : Route) (r : Request) : Bool :=
  route.method == r.method && route.url == r.url

/-- The next reply, and the route without it unless it is the last. -/
def next? (route : Route) : Option (Reply × Route) :=
  match route.replies with
  | [] => none
  | [last] => some (last, route)
  | first :: rest => some (first, { route with replies := rest })

end Route

/-- The failure of a request for which there is no route. -/
def unreachable (r : Request) : Reply :=
  .fail
    { kind := .connect
      message := "no scripted route for " ++ r.method.word ++ " " ++ r.url }

/-- A transport that follows a script. -/
structure Transport where
  routes : List Route := []
  /-- Answers requests for which there is no route, given all requests before them. -/
  otherwise : List Request → Request → Reply := fun _ => unreachable
  /-- How a request is addressed on the wire. -/
  address : Request → Request := id
  /-- The requests so far. -/
  log : List Request := []

namespace Transport

/-- Adds a reply to the end of a queue. -/
def pushReply (method : Method) (url : String) (reply : Reply) : List Route → List Route
  | [] => [{ method, url, replies := [reply] }]
  | route :: rest =>
      if route.method == method && route.url == url then
        { route with replies := route.replies ++ [reply] } :: rest
      else route :: pushReply method url reply rest

/-- Adds a reply to the end of a queue. -/
def push (t : Transport) (method : Method) (url : String) (reply : Reply) : Transport :=
  { t with routes := pushReply method url reply t.routes }

/-- Takes the next reply to a request from the routes. -/
def takeReply (r : Request) : List Route → Option (Reply × List Route)
  | [] => none
  | route :: rest =>
      if route.answers r then
        route.next?.map fun (reply, left) => (reply, left :: rest)
      else (takeReply r rest).map fun (reply, left) => (reply, route :: left)

/-- Takes a request: logs it and decides its reply. -/
def send (t : Transport) (request : Request) : Transport × Reply :=
  let r := t.address request
  let logged := { t with log := t.log ++ [r] }
  match takeReply r t.routes with
  | some (reply, routes) => ({ logged with routes }, reply)
  | none => (logged, t.otherwise t.log r)

/-- The number of requests with a method and an address. -/
def countFor (t : Transport) (method : Method) (url : String) : Nat :=
  t.log.countP fun r => r.method == method && r.url == url

@[simp] theorem log_send (t : Transport) (r : Request) :
    (t.send r).1.log = t.log ++ [t.address r] := by
  simp only [send]
  split <;> rfl

end Transport
end Http
end SupplierGateway
