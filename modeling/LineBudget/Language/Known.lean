import LineBudget.Language.Grammar

/-! The languages whose comments are recognised. -/
namespace LineBudget.Language

/-- Comments introduced by two slashes, and blocks between slash-star and star-slash. -/
def slashed (name : String) (extensions : List String) : Grammar :=
  { name, extensions, lineMarkers := ["//"], blockStart := "/*", blockEnd := "*/" }

/-- The known grammars. Every extension stands in exactly one of them. -/
def known : List Grammar := [
  slashed "Go" [".go"],
  slashed "Rust" [".rs"],
  slashed "JavaScript" [".js", ".jsx", ".mjs"],
  slashed "TypeScript" [".ts", ".tsx", ".mts"],
  { name := "Python", extensions := [".py"], lineMarkers := ["#"], blockStart := "\"\"\"",
    blockEnd := "\"\"\"", docDelimiters := ["\"\"\"", "'''"] },
  { name := "Ruby", extensions := [".rb"], lineMarkers := ["#"], blockStart := "=begin",
    blockEnd := "=end" },
  slashed "Java" [".java"],
  slashed "Kotlin" [".kt", ".kts"],
  slashed "C" [".c", ".h"],
  slashed "C++" [".cpp", ".cc", ".hpp", ".hh"],
  { name := "HTML", extensions := [".html", ".htm", ".xml", ".svg"], blockStart := "<!--",
    blockEnd := "-->" },
  slashed "CSS" [".css"],
  slashed "SCSS" [".scss", ".sass"],
  { name := "Shell", extensions := [".sh", ".bash", ".zsh"], lineMarkers := ["#"] }]

end LineBudget.Language
