import ClusterAccess.Request
import ClusterAccess.Trust

namespace ClusterAccess

structure Handshake where
  sendBuffer : Nat
  receiveBuffer : Nat
  keepAlive : Nat
  subprotocols : List String
  request : Request
  trust : Option TrustPolicy
  deriving DecidableEq, Repr

namespace Handshake

def default : Handshake := ⟨2048, 2048, 5000, [], .empty, none⟩

def addSubprotocol (h : Handshake) (p : String) : Handshake :=
  if h.subprotocols.contains p then h else { h with subprotocols := h.subprotocols ++ [p] }

def setHeader (h : Handshake) (name value : String) : Handshake :=
  { h with request := h.request.setHeader name value }

def addCertificate (h : Handshake) (c : ClientCertificate) : Handshake :=
  { h with request := h.request.addCertificate c }

instance : CredentialTarget Handshake := ⟨setHeader, addCertificate⟩

def present (h : Handshake) (c : Credential) : Handshake := c.applyTo h

def serverValidator (h : Handshake) (check : ChainCheck) : Option ServerValidator :=
  h.trust.map fun p => ⟨p, check⟩

def debugTrust (p : TrustPolicy) : String :=
  Text.record "ServerCertificateValidator" [("policy", p.debug)]

def debugInterval (millis : Nat) : String :=
  if millis % 1000 == 0 then Text.decimal (millis / 1000) ++ "s" else Text.decimal millis ++ "ms"

def debug (h : Handshake) : String :=
  Text.record "WebSocketOptions"
    [("send_buffer_size", Text.decimal h.sendBuffer),
      ("receive_buffer_size", Text.decimal h.receiveBuffer),
      ("keep_alive_interval", debugInterval h.keepAlive),
      ("requested_subprotocols", Text.quotedList h.subprotocols),
      ("request_headers", h.request.headers.debug),
      ("client_certificates", Text.listing (h.request.certificates.map ClientCertificate.debug)),
      ("server_certificate_validator", Text.optional (h.trust.map debugTrust))]

end Handshake

end ClusterAccess
