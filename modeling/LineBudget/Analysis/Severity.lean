/-! How a number of lines compares with its limit. -/
namespace LineBudget.Analysis

inductive Severity where
  | pass
  | warn
  | error
  deriving DecidableEq, Repr

def Severity.name : Severity → String
  | .pass => "pass"
  | .warn => "warn"
  | .error => "error"

def Severity.ofName? (name : String) : Option Severity :=
  [Severity.pass, .warn, .error].find? (·.name = name)

/-- The most lines that only warn: the limit and a percentage of it, rounded down. -/
def threshold (limit percentage : Int) : Int := limit + Int.fdiv (limit * percentage) 100

/-- Up to the limit passes, up to the threshold warns, and anything above is an error. -/
def judge (lines limit threshold : Int) : Severity :=
  if lines ≤ limit then .pass
  else if lines ≤ threshold then .warn
  else .error

end LineBudget.Analysis
