/-!
# The name of the tool
-/

namespace NamingLint.Product

/-- The name under which the tool appears. -/
def name : String := "case-guardian"

/-- The version of the tool. -/
def version : String := "0.1.0"

end NamingLint.Product
