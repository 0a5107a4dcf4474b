/-!
# Texts in parts

A text cut at every mark. The parts are without the marks, and there may be nothing between two.
-/

namespace LineSieve.Text

/-- The parts of a text between marks. -/
def splitAt (mark : Char) (s : String) : List String :=
  (s.toList.splitOn mark).map String.ofList

end LineSieve.Text
