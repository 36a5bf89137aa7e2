/-! # Version -/

namespace Wireframe

/-- The name by which the program calls itself. -/
def programName : String := "textui"

/-- The version that exports name. -/
def version : String := "0.4.0"

/-- What exports name as their generator. -/
def generator : String := programName ++ " " ++ version

end Wireframe
