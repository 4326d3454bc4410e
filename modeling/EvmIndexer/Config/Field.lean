import EvmIndexer.Decimal.Reader
import EvmIndexer.Text.LowerCase

/-!
# Values of settings

A value comes as text from the surroundings of the program, or as a value of some
type from whoever calls it. Each kind of setting reads what has a meaning for it
and refuses everything else with a fault that names the reason.

Faults do not hide each other: reading several settings collects all of them, in
the order of the settings.
-/

namespace EvmIndexer

inductive Given where
  | text (content : String)
  | number (value : Rat)
  | flag (value : Bool)
  | nothing
  | other
deriving DecidableEq, Repr

inductive FieldFault where
  | missing
  | textExpected
  | badNumber
  | fraction
  | numberExpected
  | badDuration
  | durationExpected
  | badFlag
  | flagExpected
  | notPositive
  | badAddress
deriving DecidableEq, Repr

def FieldFault.name : FieldFault → String
  | .missing => "missing"
  | .textExpected => "string_type"
  | .badNumber => "int_parsing"
  | .fraction => "int_from_float"
  | .numberExpected => "int_type"
  | .badDuration => "float_parsing"
  | .durationExpected => "float_type"
  | .badFlag => "bool_parsing"
  | .flagExpected => "bool_type"
  | .notPositive => "greater_than"
  | .badAddress => "value_error"

namespace Given

def toText : Given → Except FieldFault String
  | .text content => .ok content
  | _ => .error .textExpected

/-- A text, or nothing. -/
def toText? : Given → Except FieldFault (Option String)
  | .nothing => .ok none
  | given => some <$> given.toText

def toInt : Given → Except FieldFault Int
  | .text content =>
    match Text.readWhole? content with
    | some n => .ok n
    | none => .error .badNumber
  | .number value => if value.den = 1 then .ok value.num else .error .fraction
  | .flag value => .ok (if value then 1 else 0)
  | .nothing | .other => .error .numberExpected

/-- A whole number above zero. -/
def toPositive (given : Given) : Except FieldFault Nat := do
  let n ← given.toInt
  if 0 < n then return n.toNat else throw .notPositive

/-- A duration that is not zero. -/
def toDuration (given : Given) : Except FieldFault Binary := do
  let value ← match given with
    | .text content =>
      match DecimalText.read? content with
      | some decimal => .ok decimal.positive?
      | none => .error .badDuration
    | .number value =>
      .ok (if 0 < value then some (.ofRatio value.num.natAbs value.den) else none)
    | .flag value => .ok (if value then some (.ofRatio 1 1) else none)
    | .nothing | .other => .error .durationExpected
  match value.filter Binary.isPositive with
  | some duration => return duration
  | none => throw .notPositive

def yes : List String := ["1", "true", "t", "yes", "y", "on"]

/-- The texts that mean no. -/
def no : List String := ["0", "false", "f", "no", "n", "off"]

/-- A flag. The case of a text does not matter. -/
def toFlag : Given → Except FieldFault Bool
  | .text content =>
    let word := String.ofList (content.toList.map Char.toLower)
    if yes.contains word then .ok true
    else if no.contains word then .ok false
    else .error .badFlag
  | .number value =>
    if value = 1 then .ok true
    else if value = 0 then .ok false
    else if value.den = 1 then .error .badFlag
    else .error .flagExpected
  | .flag value => .ok value
  | .nothing | .other => .error .flagExpected

end Given

/-- What was read, or all faults that were found, each with its setting. -/
abbrev Checked := Except (List (String × FieldFault))

namespace Checked

/-- Applies what was read to what else was read. -/
def app {α β : Type} (f : Checked (α → β)) (a : Checked α) : Checked β :=
  match f, a with
  | .ok f, .ok a => .ok (f a)
  | .ok _, .error faults => .error faults
  | .error faults, .ok _ => .error faults
  | .error faults, .error more => .error (faults ++ more)

end Checked

end EvmIndexer
