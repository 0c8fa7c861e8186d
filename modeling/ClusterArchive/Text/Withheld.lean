/-!
# Details that messages leave out

A message says what went wrong and where. What exactly is wrong with the text of an expression, a
document or a foreign reply is not part of it.
-/

namespace ClusterArchive.Text

/-- Stands in a message for a detail that is left out. -/
def withheld : String := "*"

end ClusterArchive.Text
