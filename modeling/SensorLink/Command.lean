import SensorLink.Bytes

namespace SensorLink

inductive Command where
  | noCommand
  | startSendingMessages
  | subscribeToAnnouncementLink
  | registerKeyloadMessage
  | printlnSubscriberStatus
  | clearClientState
deriving DecidableEq, Repr

inductive CommandError where
  | unknown (id : UInt8)
deriving DecidableEq, Repr

def CommandError.message : CommandError → String
  | .unknown id => "unknown command id " ++ toString id.toNat

namespace Command

def id : Command → UInt8
  | .noCommand => 0
  | .startSendingMessages => 1
  | .subscribeToAnnouncementLink => 2
  | .registerKeyloadMessage => 3
  | .printlnSubscriberStatus => 4
  | .clearClientState => 5

def ofId (n : UInt8) : Except CommandError Command :=
  if n = 0 then .ok .noCommand
  else if n = 1 then .ok .startSendingMessages
  else if n = 2 then .ok .subscribeToAnnouncementLink
  else if n = 3 then .ok .registerKeyloadMessage
  else if n = 4 then .ok .printlnSubscriberStatus
  else if n = 5 then .ok .clearClientState
  else .error (.unknown n)

/-- Splits a poll response; an empty one carries no command. -/
def decode : Bytes → Except CommandError (Command × Bytes)
  | [] => .ok (.noCommand, [])
  | n :: args => (ofId n).map (·, args)

def encode (c : Command) (args : Bytes) : Bytes := c.id :: args

def name : Command → String
  | .noCommand => "NO_COMMAND"
  | .startSendingMessages => "START_SENDING_MESSAGES"
  | .subscribeToAnnouncementLink => "SUBSCRIBE_TO_ANNOUNCEMENT_LINK"
  | .registerKeyloadMessage => "REGISTER_KEYLOAD_MESSAGE"
  | .printlnSubscriberStatus => "PRINTLN_SUBSCRIBER_STATUS"
  | .clearClientState => "CLEAR_CLIENT_STATE"

def inspect : Command → String
  | .noCommand => "NoCommand"
  | .startSendingMessages => "StartSendingMessages"
  | .subscribeToAnnouncementLink => "SubscribeToAnnouncementLink"
  | .registerKeyloadMessage => "RegisterKeyloadMessage"
  | .printlnSubscriberStatus => "PrintlnSubscriberStatus"
  | .clearClientState => "ClearClientState"

theorem ofId_id (c : Command) : ofId c.id = .ok c := by cases c <;> rfl

end Command

end SensorLink
