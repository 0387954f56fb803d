
namespace SensorLink

inductive IoError where
  | notFound
  | busy
  | alreadyExists
  | notADirectory
  | isADirectory
  | nameTooLong
  | addressInUse
  | addressNotAvailable
  /-- A path that holds the character with code zero. -/
  | zeroInName
  | unexpectedEnd
  | invalidText
  | interrupted
  | wouldBlock
  | timedOut
  | connectionReset
  | brokenPipe
  | invalidInput
  | noSuchPartition
  | deviceBusy
deriving DecidableEq, Repr

namespace IoError

def system (text : String) (number : Nat) : String :=
  text ++ " (os error " ++ toString number ++ ")"

def message : IoError → String
  | .notFound => system "No such file or directory" 2
  | .busy => system "Device or resource busy" 16
  | .alreadyExists => system "File exists" 17
  | .notADirectory => system "Not a directory" 20
  | .isADirectory => system "Is a directory" 21
  | .nameTooLong => system "File name too long" 36
  | .addressInUse => system "Address already in use" 98
  | .addressNotAvailable => system "Cannot assign requested address" 99
  | .zeroInName => "file name contained an unexpected NUL byte"
  | .unexpectedEnd => "failed to fill whole buffer"
  | .invalidText => "stream did not contain valid UTF-8"
  | .interrupted => "operation interrupted"
  | .wouldBlock => "operation would block"
  | .timedOut => "timed out"
  | .connectionReset => "connection reset"
  | .brokenPipe => system "Broken pipe" 32
  | .invalidInput => "cannot set a 0 duration timeout"
  | .noSuchPartition => "no such partition"
  | .deviceBusy => "device busy"

def ofNumber? : Nat → Option IoError
  | 2 => some .notFound
  | 16 => some .busy
  | 17 => some .alreadyExists
  | 20 => some .notADirectory
  | 21 => some .isADirectory
  | 32 => some .brokenPipe
  | 36 => some .nameTooLong
  | 98 => some .addressInUse
  | 99 => some .addressNotAvailable
  | _ => none

end IoError

end SensorLink
