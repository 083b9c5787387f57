import Bindery.Signature

/-! # Names and lines that targets share

How names are made of the declared name of a parameter, and how lines of generated code are put together. -/

namespace Bindery.Target
open Template (Naming)

/-- The name of the C variable of a parameter. -/
def cVariable (name : String) : String := "c_" ++ name

/-- Lines with two spaces in front of each. -/
def margined (lines : List String) : List String := Text.prefixed "  " lines

/-- Lines with two spaces in front of each, joined by line ends. -/
def marginedLines (lines : List String) : String := Text.joinWith "\n" (margined lines)

/-- The name of a function in the banner above it. -/
def bannerName (function : String) : String := Text.padEnd 42 function

/-- The name of a function without the prefix that the library gives all of its functions. -/
def shortName (function : String) : String := (Text.dropStart? "igraph_" function).getD function

/-- A text in which nothing ends a comment of C. -/
def insideComment (text : String) : String := Text.replace "*/" "* /" text

/-- A text in one line. -/
def oneLine (text : String) : String := Text.replaceChar '\n' ' ' text

end Bindery.Target
