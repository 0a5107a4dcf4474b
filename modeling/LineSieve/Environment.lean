/-!
# Environments

The variables that a program is started with.
-/

namespace LineSieve

/-- Names of variables with their values. -/
abbrev Environment := List (String × String)

namespace Environment

def get? (env : Environment) (name : String) : Option String := env.lookup name

end Environment

end LineSieve
