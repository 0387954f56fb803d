
namespace SensorLink

inductive TransportStatus where
  | ok
  | noConnection
  /-- An intermediary answered but refused the request. -/
  | connectorError
  /-- A request to stop, not a failure. -/
  | exitLoop
deriving DecidableEq, Repr

namespace TransportStatus

def code : TransportStatus → Int
  | .ok => 1
  | .noConnection => -1
  | .connectorError => -2
  | .exitLoop => -100

def ofCode? (n : Int) : Option TransportStatus :=
  [ok, noConnection, connectorError, exitLoop].find? (·.code == n)

def isOk (s : TransportStatus) : Bool := s == .ok

def name : TransportStatus → String
  | .ok => "OK"
  | .noConnection => "NO_CONNECTION"
  | .connectorError => "CONNECTOR_ERROR"
  | .exitLoop => "EXIT_LOOP"

def inspect : TransportStatus → String
  | .ok => "Ok"
  | .noConnection => "NoConnection"
  | .connectorError => "ConnectorError"
  | .exitLoop => "ExitLoop"

theorem ofCode?_code (s : TransportStatus) : ofCode? s.code = some s := by cases s <;> rfl

end TransportStatus

/-- Answer of the resolver; a transport may log it but does not interpret it. -/
inductive ProtocolStatus where
  | ok
  | unknownError
  | internalFault
  | nodeUnavailable
  | bridgeUnavailable
  | responseWithoutRequest
  | internalChannelError
deriving DecidableEq, Repr

namespace ProtocolStatus

def code : ProtocolStatus → Int
  | .ok => 1
  | .unknownError => -1
  | .internalFault => -2
  | .nodeUnavailable => -3
  | .bridgeUnavailable => -4
  | .responseWithoutRequest => -5
  | .internalChannelError => -6

def ofCode? (n : Int) : Option ProtocolStatus :=
  [ok, unknownError, internalFault, nodeUnavailable, bridgeUnavailable, responseWithoutRequest,
    internalChannelError].find? (·.code == n)

def ofHttpStatus (status : Nat) : ProtocolStatus :=
  if 200 ≤ status ∧ status ≤ 299 then .ok
  else if status = 503 then .bridgeUnavailable
  else if status = 502 ∨ status = 504 then .nodeUnavailable
  else if status = 500 then .internalFault
  else .unknownError

def isOk (s : ProtocolStatus) : Bool := s == .ok

def name : ProtocolStatus → String
  | .ok => "OK"
  | .unknownError => "UNKNOWN"
  | .internalFault => "INTERNAL_PANIC"
  | .nodeUnavailable => "NODE_NOT_AVAILABLE"
  | .bridgeUnavailable => "BRIDGE_NOT_AVAILABLE"
  | .responseWithoutRequest => "RESPONSE_RESOLVED_WITHOUT_REQUEST"
  | .internalChannelError => "RESPONSE_INTERNAL_CHANNEL_ERR"

def inspect : ProtocolStatus → String
  | .ok => "Ok"
  | .unknownError => "UnknownError"
  | .internalFault => "InternalFault"
  | .nodeUnavailable => "NodeUnavailable"
  | .bridgeUnavailable => "BridgeUnavailable"
  | .responseWithoutRequest => "ResponseWithoutRequest"
  | .internalChannelError => "InternalChannelError"

theorem ofCode?_code (s : ProtocolStatus) : ofCode? s.code = some s := by cases s <;> rfl

end ProtocolStatus

end SensorLink
