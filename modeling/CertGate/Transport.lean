import CertGate.Http.Message
import CertGate.Outbound

/-!
# Sending requests

A transport sends one request and gives what is answered to it. A client sends over a transport; what
it does with an answer that leads elsewhere is up to its redirect policy.
-/

namespace CertGate

/-- Sends a request with its body and gives the answer, or says why there is none. What else a sending
does is up to `m`. Credentials in the URL are sent by the transport. -/
abbrev Transport (m : Type → Type) :=
  OutboundRequest → List UInt8 → m (Except String Http.Response)

/-- The request and the body that an answer to others leads to, if it leads to any. -/
abbrev Redirection :=
  OutboundRequest → List UInt8 → Http.Response → Option (OutboundRequest × List UInt8)

/-- What a client does with an answer that leads elsewhere. -/
inductive RedirectPolicy where
  /-- Gives it to the caller like any other answer. -/
  | none
  /-- Goes where it leads, up to `count` times. -/
  | limited (count : Nat) (next? : Redirection)

namespace RedirectPolicy

variable {m : Type → Type} [Monad m]

/-- Sends a request; if its answer leads elsewhere, goes on from there with `goOn`. -/
def sendOn (next? : Redirection) (transport goOn : Transport m) : Transport m := fun r body => do
  match ← transport r body with
  | .error message => return .error message
  | .ok answer =>
    match if answer.isRedirect then next? r body answer else Option.none with
    | Option.none => return .ok answer
    | some (next, body) => goOn next body

/-- Sends a request and what its answer leads to, as `next?` says. More answers that lead elsewhere
than the number says are an error. -/
def follow (next? : Redirection) (transport : Transport m) : Nat → Transport m
  | 0 => fun r body =>
    let stop : Transport m := fun _ _ =>
      return .error s!"error following redirect for url ({r.url.render})"
    sendOn next? transport stop r body
  | count + 1 => sendOn next? transport (follow next? transport count)

/-- How a client with this policy sends requests by `transport`. -/
def send (transport : Transport m) : RedirectPolicy → Transport m
  | none => transport
  | limited count next? => follow next? transport count

end RedirectPolicy

end CertGate
