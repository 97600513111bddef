import LineBudget.Text.Blank

/-! Markup in a text for a console: words in brackets open and close styles. A closing word that
matches no open one makes the text unreadable. -/
namespace LineBudget.Console

/-- The characters with which a word in brackets may start. -/
def startsWord (c : Char) : Bool := ('a' ≤ c && c ≤ 'z') || c = '#' || c = '/' || c = '@'

/-- The word behind an opening bracket, if a closing bracket ends it before the next opening one. -/
def word? : List Char → Option (List Char)
  | [] => none
  | c :: rest =>
    if startsWord c then
      let body := rest.takeWhile fun x => x ≠ ']' && x ≠ '['
      if (rest.drop body.length).head? = some ']' then some (c :: body) else none
    else none

/-- The name of a style in a word, without what is set behind it. -/
def styleName (word : List Char) : List Char :=
  (Text.trim (word.takeWhile (· ≠ '='))).map Char.toLower

/-- Removes the style of this name that was opened last. -/
def close (name : List Char) : List (List Char) → Option (List (List Char))
  | [] => none
  | style :: styles => if style = name then some styles else (close name styles).map (style :: ·)

/-- The styles that are open behind a word, innermost first, or what is wrong with the word. -/
def style (place : Nat) (word : List Char) (styles : List (List Char)) :
    Except String (List (List Char)) :=
  match word with
  | '/' :: rest =>
    match styleName rest, styles with
    | [], [] => .error s!"closing tag '[/]' at position {place} has nothing to close"
    | [], _ :: outer => .ok outer
    | name, styles => match close name styles with
      | some remaining => .ok remaining
      | none => .error s!"closing tag '[{String.ofList word}]' at position {place} doesn't match any open tag"
  | _ => .ok (styleName word :: styles)

/-- Reads on at a place: `skipped` characters belong to the word before, and `held` counts the
backslashes read last. An odd number of them takes a word for text. -/
def complaintFrom (place skipped held : Nat) (styles : List (List Char)) :
    List Char → Option String
  | [] => none
  | c :: rest =>
    if 0 < skipped then complaintFrom (place + 1) (skipped - 1) 0 styles rest
    else if c = '\\' then complaintFrom (place + 1) 0 (held + 1) styles rest
    else if c = '[' then
      match word? rest with
      | none => complaintFrom (place + 1) 0 0 styles rest
      | some word =>
        if held % 2 = 1 then complaintFrom (place + 1) (word.length + 1) 0 styles rest
        else match style place word styles with
          | .ok styles => complaintFrom (place + 1) (word.length + 1) 0 styles rest
          | .error complaint => some complaint
    else complaintFrom (place + 1) 0 0 styles rest

/-- Only a closing word is ever wrong. -/
theorem style_error {place : Nat} {word : List Char} {styles : List (List Char)} {e : String}
    (wrong : style place word styles = .error e) : ∃ rest, word = '/' :: rest := by
  unfold style at wrong
  split at wrong
  case h_1 rest => exact ⟨rest, rfl⟩
  case h_2 => cases wrong

theorem word?_cons {rest word : List Char} {c : Char} (found : word? rest = some (c :: word)) :
    ∃ more, rest = c :: more := by
  cases rest with
  | nil => cases found
  | cons first more =>
    simp only [word?] at found
    split at found
    · split at found
      · cases found
        exact ⟨more, rfl⟩
      · cases found
    · cases found

/-- A text without a bracket before a slash can be read. -/
theorem closes_of_complaintFrom {place skipped held : Nat} {styles : List (List Char)}
    {text : List Char} {e : String}
    (wrong : complaintFrom place skipped held styles text = some e) : ['[', '/'] <:+: text := by
  induction text generalizing place skipped held styles with
  | nil => cases wrong
  | cons c rest ih =>
    have later {place skipped held styles}
        (found : complaintFrom place skipped held styles rest = some e) :
        ['[', '/'] <:+: c :: rest := (ih found).trans (List.suffix_cons c rest).isInfix
    rw [complaintFrom] at wrong
    split at wrong
    · exact later wrong
    · split at wrong
      · exact later wrong
      · split at wrong
        case isTrue bracket =>
          subst bracket
          split at wrong
          case h_1 => exact later wrong
          case h_2 word found =>
            split at wrong
            · exact later wrong
            · split at wrong
              case h_1 => exact later wrong
              case h_2 complaint failed =>
                obtain ⟨name, rfl⟩ := style_error failed
                obtain ⟨more, rfl⟩ := word?_cons found
                exact ⟨[], more, rfl⟩
        case isFalse => exact later wrong

end LineBudget.Console
