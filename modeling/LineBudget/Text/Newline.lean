/-! Line ends of texts. -/
namespace LineBudget.Text

/-- A carriage return with or without a line feed becomes one line feed. -/
def unifyNewlines : List Char → List Char
  | '\r' :: '\n' :: rest => '\n' :: unifyNewlines rest
  | '\r' :: rest => '\n' :: unifyNewlines rest
  | c :: rest => c :: unifyNewlines rest
  | [] => []

end LineBudget.Text
