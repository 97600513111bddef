import LineBudget.Yaml.Cursor
import LineBudget.Yaml.Moment
import LineBudget.Number.Decimal

/-! Why a text gives no document. -/
namespace LineBudget.Yaml

inductive Error where
  | fault (fault : Fault)
  | notBool (text : String)
  /-- A number without a digit. -/
  | noDigits
  | notInt (error : Number.NumeralError)
  | notFloat (error : Number.NotANumber)
  | notMoment
  | noSuchMoment (fault : MomentFault)
  deriving DecidableEq, Repr

/-- The text was no well-formed document, or its tags did not fit. All other errors come from the
content of a scalar. -/
def Error.isMalformed : Error → Bool
  | .fault .malformed => true
  | _ => false

def Error.kind : Error → String
  | .fault .malformed => "YAMLError"
  | .fault .escapeOutOfRange | .notInt _ | .notFloat _ | .noSuchMoment _ => "ValueError"
  | .fault .escapeTooLarge => "OverflowError"
  | .notBool _ => "KeyError"
  | .noDigits => "IndexError"
  | .notMoment => "AttributeError"

def Error.message : Error → String
  | .fault .malformed => "<yaml error>"
  | .fault .escapeOutOfRange => "chr() arg not in range(0x110000)"
  | .fault .escapeTooLarge => "Python int too large to convert to C int"
  | .notBool word => Text.literal word
  | .noDigits => "string index out of range"
  | .notInt error => error.message
  | .notFloat error => error.message
  | .notMoment => "'NoneType' object has no attribute 'groupdict'"
  | .noSuchMoment f => f.message

end LineBudget.Yaml
