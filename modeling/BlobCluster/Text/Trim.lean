/-!
# Ends of texts

What does not count at the end of a text.
-/

namespace BlobCluster.Text

/-- A text without slashes at its end. -/
def dropSlashes (text : String) : String :=
  String.ofList (text.toList.reverse.dropWhile (· == '/')).reverse

end BlobCluster.Text
