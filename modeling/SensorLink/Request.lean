import SensorLink.DevEui

namespace SensorLink

structure Request where
  devEui : DevEui
  payload : Bytes
deriving DecidableEq, Repr

end SensorLink
