/-! Diagnostic output: error lines, and notes that are written only on demand. -/
namespace LineBudget.Command

structure Diagnostics where
  verbose : Bool := false
  written : String := ""
  deriving DecidableEq, Repr

namespace Diagnostics

/-- Writes values with a separator between them and an end behind the last, if notes are wanted. -/
def noteWith (d : Diagnostics) (values : List String) (separator ending : String) : Diagnostics :=
  if d.verbose then
    { d with written := d.written ++ "DEBUG: " ++ separator.intercalate values ++ ending }
  else d

def note (d : Diagnostics) (text : String) : Diagnostics := d.noteWith [text] " " "\n"

def notes (d : Diagnostics) (texts : List String) : Diagnostics := texts.foldl note d

end Diagnostics

/-- The rest of a text after a bracketed word that looks like markup: a bracket, a lower-case letter
or one of the signs `#`, `/` and `@`, and then no opening bracket up to a closing one. -/
def markupTail? : List Char → Option (List Char)
  | '[' :: c :: rest =>
    if ('a' ≤ c && c ≤ 'z') || c = '#' || c = '/' || c = '@' then
      let body := rest.takeWhile fun x => x ≠ ']' && x ≠ '['
      match rest.drop body.length with
      | ']' :: after => some after
      | _ => none
    else none
  | _ => none

/-- A message as it comes out of a console that reads markup, after what looks like markup was
escaped: a bracket that starts no markup loses one backslash before it. `held` counts the
backslashes read last. -/
def throughMarkup (fuel held : Nat) (text : List Char) : List Char :=
  match fuel, text with
  | 0, _ => List.replicate held '\\' ++ text
  | _, [] => List.replicate held '\\'
  | fuel + 1, '\\' :: rest => throughMarkup fuel (held + 1) rest
  | fuel + 1, '[' :: rest =>
    match markupTail? ('[' :: rest) with
    | some after =>
      List.replicate held '\\' ++ ('[' :: rest).take (rest.length + 1 - after.length) ++
        throughMarkup fuel 0 after
    | none => List.replicate (held - 1) '\\' ++ '[' :: throughMarkup fuel 0 rest
  | fuel + 1, c :: rest => List.replicate held '\\' ++ c :: throughMarkup fuel 0 rest

/-- A message on the console. A lone backslash at its end is doubled. -/
def onConsole (message : String) : String :=
  let text := message.toList
  let lone := text.getLast? = some '\\' && text.dropLast.getLast? ≠ some '\\'
  String.ofList (throughMarkup (text.length + 1) 0 text) ++ if lone then "\\" else ""

def Diagnostics.error (d : Diagnostics) (message : String) : Diagnostics :=
  { d with written := d.written ++ "Error: " ++ onConsole message ++ "\n" }

end LineBudget.Command
