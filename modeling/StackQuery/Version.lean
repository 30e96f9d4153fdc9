/-!
# The version of the program
-/
namespace StackQuery

/-- The version that the program tells when asked, and that its log records carry. -/
def version : String := "0.1.0"

end StackQuery
