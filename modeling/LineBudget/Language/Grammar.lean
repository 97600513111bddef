/-! The comment syntax of a programming language. -/
namespace LineBudget.Language

/-- Comment syntax of one language. An empty block delimiter means that the language has none. -/
structure Grammar where
  name : String
  /-- File extensions with their leading dot, in no particular order. -/
  extensions : List String := []
  /-- A trimmed line that starts with one of these is a comment. -/
  lineMarkers : List String := []
  blockStart : String := ""
  blockEnd : String := ""
  /-- Triple-quote delimiters. Where a grammar has some, they replace the block delimiters. -/
  docDelimiters : List String := []
  deriving DecidableEq, Repr, Inhabited

/-- A grammar has block comments if it has a block opener or a docstring delimiter. -/
def Grammar.hasBlocks (g : Grammar) : Bool := !g.blockStart.isEmpty || !g.docDelimiters.isEmpty

end LineBudget.Language
