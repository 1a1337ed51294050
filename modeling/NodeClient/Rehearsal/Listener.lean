/-
  NodeClient.Rehearsal.Listener
  ─────────────────────────────
  A server for rehearsals of the HTTP transport.
-/
import NodeClient.Http.Transport
import NodeClient.Rehearsal.Actor

namespace NodeClient.Rehearsal

open Json

/-- What a server does when it has received a request. -/
inductive Response where
  | reply (r : Http.Reply)
  /-- Closes the connection. -/
  | close
  /-- Sends less than it has announced. -/
  | cutShort
  /-- Does not answer in time. -/
  | silence

/-- What comes of a request that a server has received. -/
def Response.exchange : Response → Http.Exchange
  | reply r => .ok r
  | close => .error .closed
  | cutShort => .error .cutShort
  | silence => .error .timedOut

/-- A server, if there is one, and a transport to it. -/
structure Listener where
  transport : Http.Transport
  /-- What the server does with the next requests; the last response is kept. -/
  responses : Option (List Response)

namespace Listener

/-- What comes of the next request, and which request the server has received. -/
def next (l : Listener) (m : Method) (params : Value) :
    Http.Exchange × Option Http.Request × Listener :=
  let after := { l with transport := l.transport.sent }
  let request := l.transport.request m params
  if !l.transport.canSend then (.error .unreachable, none, after)
  else
    match l.responses with
    | none => (.error .unreachable, none, after)
    | some [] => (.error .closed, some request, after)
    | some [r] => (r.exchange, some request, after)
    | some (r :: rest) => (r.exchange, some request, { after with responses := some rest })

/-- The carrier of requests to the server. -/
def carrier : Carrier Listener where
  carry m params l :=
    let (exchange, request, after) := l.next m params
    let received := match exchange with
      | .ok r => [.log (l.transport.receivedEntry r)]
      | .error _ => []
    let notes := .log (l.transport.sendingEntry m params) ::
      (request.toList.map .received ++ received)
    (notes, { outcome := Http.outcomeOf exchange }, after)

/-- A call of the transport alone: its outcome, what was noted, and the server and the metrics
afterwards. -/
def call (l : Listener) (m : Method) (params : Value) (metrics : Metrics) :
    Except TransportError Value × List Note × Listener × Metrics :=
  let (notes, cue, after) := carrier.carry m params l
  let (_, metrics) := ({ method := m.name } : Inquiry).poll (some cue.outcome) metrics
  (cue.outcome, notes, after, metrics)

end Listener

end NodeClient.Rehearsal
