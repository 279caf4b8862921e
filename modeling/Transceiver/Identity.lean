import Transceiver.Link

/-! Asking a radio which model it is. Where its rate is not known, rates are tried in turn
until one of them brings an answer. -/
namespace Transceiver

def standardRates : List Int := [9600, 19200, 38400, 57600]

namespace Link

variable {σ : Type}

/-- The model in an answer: what follows the first space. -/
def modelOf (answer : String) : Except Fault String :=
  match Text.cut ' ' answer with
  | (_, some model) => .ok model
  | (_, none) => .error (.radio (.unexpectedId answer))

def identify (link : Link) (port : Port σ) (s : σ) : Outcome σ String :=
  let asked := link.exchange port "ID" s
  { asked with result := asked.result.bind modelOf }

def suggestsWrongRate : Fault → Bool
  | .undecodable => true
  | .radio why => why.kind = .timeout || why.kind = .rejected
  | _ => false

def rateNote (baud : String) : Event := .noted ⟨Source.link, Level.info, "Trying ID at baud " ++ baud⟩

/-- Asks at one rate. It is noted without its fraction, before the port is set to it. -/
def identifyAt (link : Link) (port : Port σ) (baud : Rate) (s : σ) : Outcome σ String :=
  match baud.value.wholeText with
  | .error why => ⟨.error why, [], s⟩
  | .ok whole => (link.identify port (port.setRate baud s)).after [rateNote whole, .rate baud]

/-- Tries the rates in turn. A fault that no wrong rate explains ends the search. -/
def probe (link : Link) (port : Port σ) : List Value → σ → Outcome σ String
  | [], s => ⟨.error (.radio .noResponse), [], s⟩
  | rate :: rest, s =>
    match Rate.ofValue? rate with
    | none => ⟨.error .mistyped, [], s⟩
    | some baud =>
      let trial := link.identifyAt port baud s
      match trial.result with
      | .ok _ => trial
      | .error why =>
        if suggestsWrongRate why then (link.probe port rest trial.port).after trial.history
        else trial

/-- The model of the radio; without rates the port is left at the one it has. -/
def model (link : Link) (port : Port σ) (rates : Value) (s : σ) : Outcome σ String :=
  if !rates.truth then link.identify port s
  else
    match rates.members? with
    | some rates => link.probe port rates s
    | none => ⟨.error .mistyped, [], s⟩

end Link

end Transceiver
