import Transceiver.Number.Digit

/-! Log records: the part of the program that speaks, how grave the matter is, and what
it says. Graver records have higher levels. -/
namespace Transceiver

namespace Level

def debug : Int := 10

def info : Int := 20

def warning : Int := 30

def error : Int := 40

def critical : Int := 50

def clamp (level : Int) : Int := max debug (min level critical)

def name (level : Int) : String :=
  if level = 0 then "NOTSET"
  else if level = debug then "DEBUG"
  else if level = info then "INFO"
  else if level = warning then "WARNING"
  else if level = error then "ERROR"
  else if level = critical then "CRITICAL"
  else "Level " ++ Number.showInt level

end Level

structure LogRecord where
  source : String
  level : Int
  message : String
  deriving DecidableEq, Repr

namespace Source

/-- The name under which the link logs; the other parts of the program have names of their own. -/
def link : String := "tmv71rig.drivers.kenwood_live"

def rig : String := "tmv71rig.drivers.tmv71"

def settings : String := "tmv71rig.config"

def logbook : String := "tmv71rig.logger"

def tool : String := "tmv71ctl"

end Source

end Transceiver
