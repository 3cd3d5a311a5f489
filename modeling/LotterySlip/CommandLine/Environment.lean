/-! The variables that the program is given from outside. -/
namespace LotterySlip.CommandLine

/-- Variables with their values; of two with one name the first counts. -/
abbrev Environment := List (String × String)

namespace Environment

def get? (env : Environment) (name : String) : Option String :=
  (env.find? fun v => v.1 == name).map fun v => v.2

def declare (env : Environment) (name value : String) : Environment :=
  if (env.get? name).isSome then env else env ++ [(name, value)]

end Environment
end LotterySlip.CommandLine
