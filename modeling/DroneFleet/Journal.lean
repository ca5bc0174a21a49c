import DroneFleet.Decimal.Layout
import DroneFleet.Text.Quoted

/-!
# The journal

What happens is remarked in a journal, each remark with a level, a source and a text.

* `Level`              how much a remark matters
* `Remark`             what can be remarked
* `durationText`       a time in the unit that suits it
* `Remark.level`, `Remark.source`, `Remark.text`
-/

namespace DroneFleet

inductive Level where
  | debug
  | info
  | warn
  | error
deriving DecidableEq, Repr

def Level.name : Level → String
  | .debug => "DEBUG"
  | .info => "INFO"
  | .warn => "WARN"
  | .error => "ERROR"

/-- the rank of a level: the more a remark matters, the higher -/
def Level.rank : Level → Nat
  | .debug => 1
  | .info => 2
  | .warn => 3
  | .error => 4

/-- what can be remarked; `id` is the drone that it concerns -/
inductive Remark where
  | noAngle (id : String)
  | recording (id : String) (zone : Option String) (seconds : Option Int)
  | tooFewOperands (id operator : String)
  | unknownOperator (id operator : String)
  | noScript (id zone : String)
  | enteringZone (id zone : String) (injected : Nat)
  | waiting (id : String) (millis : Nat)
  | flightComplete (id : String)
  | runEndedEarly (id : String)
  | seeded (count : Nat)
  | connected (id : String)
  | disconnected (id : String)
  | submitted (id : String) (commands zones : Nat)
  | superseded (id : String)
  | pathSent (id : String)
  | lagging (skipped : Nat)
  | lookupFailed (url reason : String)
  | starting
  | serving (address : String)
  | notServing (reason : String)
  | interrupted
  | alreadyStopped
  | stopping
  | stopped
  | finished
deriving DecidableEq, Repr

def integerString (n : Int) : String := String.ofList (Decimal.integerText n)

def naturalString (n : Nat) : String := String.ofList (Decimal.digitText n)

/-- the digits of thousandths without the zeros at their end -/
def thousandths (n : Nat) : String :=
  if n = 0 then ""
  else
    let ds := Decimal.digitText (1000 + n)
    "." ++ String.ofList ((ds.drop 1).reverse.dropWhile (· = '0')).reverse

/-- a number of milliseconds: in seconds if there is a whole one, else in milliseconds; no time at
all has a unit of its own -/
def durationText (millis : Nat) : String :=
  if millis = 0 then "0ns"
  else if millis < 1000 then naturalString millis ++ "ms"
  else naturalString (millis / 1000) ++ thousandths (millis % 1000) ++ "s"

def integerText? : Option Int → String
  | none => "None"
  | some n => "Some(" ++ integerString n ++ ")"

namespace Remark

def level : Remark → Level
  | .noAngle _ | .tooFewOperands .. | .runEndedEarly _ | .lagging _ => .warn
  | .recording .. | .unknownOperator .. | .noScript .. | .enteringZone .. | .waiting .. => .debug
  | .lookupFailed .. | .notServing _ | .alreadyStopped => .error
  | _ => .info

/-- the part of the program that a remark comes from: names with two colons between them, the
program itself first -/
def source : Remark → String
  | .noAngle _ | .recording .. | .tooFewOperands .. | .unknownOperator .. =>
    "tello_sim::flight::command"
  | .noScript .. | .enteringZone .. => "tello_sim::flight::zone"
  | .waiting .. | .flightComplete _ | .runEndedEarly _ => "tello_sim::flight::executor"
  | .seeded _ | .connected _ | .disconnected _ | .submitted .. | .superseded _ =>
    "tello_sim::fleet"
  | .lagging _ => "tello_sim::notify"
  | .pathSent _ | .lookupFailed .. => "tello_sim::web::routes"
  | .serving _ | .stopping | .stopped => "tello_sim::web::server"
  | .starting | .notServing _ | .interrupted | .alreadyStopped | .finished => "tello_sim"

def about (id text : String) : String := "[" ++ id ++ "] " ++ text

def text : Remark → String
  | .noAngle id => about id "Rotation without a readable angle, heading kept"
  | .recording id zone seconds =>
    about id ("Recording requested for zone " ++ Text.quote? zone ++ ", " ++ integerText? seconds
      ++ "s")
  | .tooFewOperands id operator => about id ("Too few operands for " ++ operator ++ ", skipped")
  | .unknownOperator id operator =>
    about id ("Ignoring unknown operator " ++ Text.quote operator)
  | .noScript id zone => about id ("No script registered for zone " ++ zone)
  | .enteringZone id zone n =>
    about id ("Entering zone " ++ zone ++ " with " ++ naturalString n ++ " injected commands")
  | .waiting id millis => about id ("Waiting " ++ durationText millis)
  | .flightComplete id => about id "Flight path complete"
  | .runEndedEarly id => about id "Flight run ended early, releasing vehicle"
  | .seeded count => "Seeded fleet with " ++ naturalString count ++ " vehicles"
  | .connected id => about id "Connected"
  | .disconnected id => about id "Disconnected"
  | .submitted id commands zones =>
    about id ("Flight path with " ++ naturalString commands ++ " commands and "
      ++ naturalString zones ++ " zones")
  | .superseded id => about id "Run already active, queue superseded"
  | .pathSent id => "Flight path sent to " ++ id
  | .lagging skipped =>
    "Observer lagging, skipped " ++ naturalString skipped ++ " notifications"
  | .lookupFailed url reason => "Location lookup via " ++ url ++ " failed: " ++ reason
  | .starting => "Application starting..."
  | .serving address => "Tello mock server running on http://" ++ address
  | .notServing reason => "Web server error: " ++ reason
  | .interrupted => "Shutdown signal received, stopping services..."
  | .alreadyStopped => "Web server already stopped"
  | .stopping => "Shutting down web server..."
  | .stopped => "Web server stopped"
  | .finished => "All services stopped, shutting down"

end Remark

end DroneFleet
