import LineBudget.Text.Blank
import LineBudget.Text.Width

/-! How a console shows a line of text. Codes between colons become signs, some control characters
are left out, and tabs become spaces. -/
namespace LineBudget

/-- What a console knows of the texts that it is given. -/
structure Console where
  /-- The sign for a code, as in `:smile:`, where there is one. -/
  sign : List Char → Option (List Char)
  /-- How many places of a line a text takes up. -/
  width : List Char → Nat
  sign_plain {code found : List Char} : sign code = some found → ':' ∉ found

namespace Console

/-- A console without signs. -/
def standard : Console where
  sign _ := none
  width := Text.width
  sign_plain := nofun

/-- Bell, backspace, vertical tab, form feed and carriage return. -/
def isHidden (c : Char) : Bool :=
  c = '\x07' || c = '\x08' || c = '\x0b' || c = '\x0c' || c = '\x0d'

/-- Reads on behind a colon, if one is open; `held` was read since. A blank closes nothing. -/
def withSigns (console : Console) : Option (List Char) → List Char → List Char
  | none, [] => []
  | some held, [] => ':' :: held
  | none, c :: rest =>
    if c = ':' then console.withSigns (some []) rest else c :: console.withSigns none rest
  | some held, c :: rest =>
    if c = ':' then (console.sign held).getD (':' :: held ++ [':']) ++ console.withSigns none rest
    else if Text.isBlank c then ':' :: held ++ c :: console.withSigns none rest
    else console.withSigns (some (held ++ [c])) rest

/-- The places between two tab stops. -/
def tabStop : Nat := 8

/-- Reads on at a place of a line; `held` was read since. A tab is at least one space. -/
def withoutTabs (console : Console) (place : Nat) (held : List Char) : List Char → List Char
  | [] => held
  | c :: rest =>
    if c = '\t' then
      let behind := place + console.width (held ++ [' '])
      let missing := (tabStop - behind % tabStop) % tabStop
      held ++ ' ' :: List.replicate missing ' ' ++ console.withoutTabs (behind + missing) [] rest
    else if c = '\n' then held ++ '\n' :: console.withoutTabs 0 [] rest
    else console.withoutTabs place (held ++ [c]) rest

/-- A text as it is shown, where nothing in it is taken for markup. -/
def shown (console : Console) (text : List Char) : List Char :=
  console.withoutTabs 0 [] ((console.withSigns none text).filter fun c => !isHidden c)

end Console
end LineBudget
