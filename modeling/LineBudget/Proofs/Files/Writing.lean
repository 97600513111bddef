import LineBudget.Files.Writer
import LineBudget.Proofs.Files.Canonical

/-! What writing a file does to a disk. The path leads to a file with the new content afterwards,
through the same links as before, and everything that stands elsewhere is as it was. -/
namespace LineBudget.Files
open Node

/-- A node without what stands below it. -/
def Node.alone : Node → Node
  | .directory _ access => .directory [] access
  | other => other

/-- The same stands in two trees at every place but one. -/
def SameElsewhere (before after : Node) (names : List String) : Prop :=
  ∀ other, other ≠ names → (after.find? other).map alone = (before.find? other).map alone

/-- A file, or a name that is free in a directory. -/
inductive Writable (root : Node) : List String → Prop
  | file {names : List String} {content : List UInt8} {readable : Bool}
    (found : root.find? names = some (.file content readable)) : Writable root names
  | free {above : List String} {name : String} {entries : List (String × Node)} {access : Access}
    (found : root.find? above = some (.directory entries access))
    (free : entries.lookup name = none) : Writable root (above ++ [name])

variable {root before after node : Node} {entries : List (String × Node)} {access : Access}
  {readable : Bool} {content octets : List UInt8} {name : String}
  {names here steps rest : List String}
  {links : Nat} {d : Disk} {p : Path}

section Insert

theorem find?_insert (root new : Node) (names : List String) :
    (root.insert new names).find? names = some new := by
  induction names generalizing root with
  | nil => rfl
  | cons name rest ih =>
    simp only [Node.insert, find?_cons, Node.entries, lookup_setEntry, if_true, Option.bind_some,
      ih]

theorem Writable.find? (writable : Writable root names) :
    root.find? names = none ∨
      ∃ content readable, root.find? names = some (.file content readable) := by
  cases writable with
  | file found => exact .inr ⟨_, _, found⟩
  | free found free => exact .inl ((find?_child found _).trans free)

/-- A directory or a link is not where a write goes. -/
theorem Writable.ne (writable : Writable root names) (found : root.find? here = some node)
    (other : ∀ content readable, node ≠ .file content readable) : here ≠ names := by
  rintro rfl
  rcases writable.find? with none | ⟨content, readable, file⟩
  · cases none.symm.trans found
  · exact other content readable (Option.some.inj (found.symm.trans file))

/-- What can be written below a directory is its entry, or can be written below its entry. -/
theorem Writable.below (writable : Writable root (name :: rest)) :
    ∃ entries access, root = .directory entries access ∧
      (entries.lookup name = none ∧ rest = [] ∨
        ∃ next, entries.lookup name = some next ∧ Writable next rest) := by
  generalize whole : name :: rest = names at writable
  cases writable with
  | file found =>
    subst whole
    rw [find?_cons] at found
    obtain ⟨next, entry, below⟩ := Option.bind_eq_some_iff.mp found
    cases root with
    | file | link => cases entry
    | directory entries access => exact ⟨entries, access, rfl, .inr ⟨next, entry, .file below⟩⟩
  | @free above last inner _ found free =>
    cases above with
    | nil =>
      cases whole
      cases found
      exact ⟨_, _, rfl, .inl ⟨free, rfl⟩⟩
    | cons first above =>
      cases whole
      rw [find?_cons] at found
      obtain ⟨next, entry, below⟩ := Option.bind_eq_some_iff.mp found
      cases root with
      | file | link => cases entry
      | directory entries access =>
        exact ⟨entries, access, rfl, .inr ⟨next, entry, .free below free⟩⟩

theorem find?_file (content : List UInt8) (readable : Bool) (other : names ≠ []) :
    (Node.file content readable).find? names = none := by
  obtain ⟨name, rest, rfl⟩ := List.exists_cons_of_ne_nil other
  rfl

/-- Nothing stands below a file, and so nothing is lost with an old one or comes with a new one. -/
theorem Writable.sameElsewhere (writable : Writable root names) (content : List UInt8)
    (readable : Bool) : SameElsewhere root (root.insert (.file content readable) names) names := by
  induction names generalizing root with
  | nil =>
    intro other differs
    rcases writable.find? with none | ⟨_, _, found⟩
    · cases none
    · cases found
      rw [Node.insert, find?_file _ _ differs, find?_file _ _ differs]
  | cons name rest ih =>
    obtain ⟨entries, mode, rfl, below⟩ := writable.below
    intro other differs
    cases other with
    | nil => rfl
    | cons first others =>
      rw [Node.insert, find?_cons, find?_cons, Node.entries, lookup_setEntry]
      by_cases same : first = name
      · subst same
        have apart : others ≠ rest := fun same => differs (congrArg _ same)
        rw [if_pos rfl, Option.bind_some, Node.entries]
        rcases below with ⟨free, rfl⟩ | ⟨next, entry, writable⟩
        · rw [free, Node.insert, find?_file _ _ apart]
          rfl
        · rw [entry]
          exact ih writable others apart
      · rw [if_neg same, Node.entries]

end Insert

section Follow

theorem SameElsewhere.directory (same : SameElsewhere before after names) (differs : here ≠ names)
    (found : before.find? here = some (.directory entries access)) :
    ∃ entries', after.find? here = some (.directory entries' access) := by
  have there := same here differs
  rw [found, Option.map_some] at there
  obtain ⟨node, found', alone⟩ := Option.map_eq_some_iff.mp there
  cases node with
  | file | link => cases alone
  | directory entries' =>
    cases alone
    exact ⟨entries', found'⟩

/-- After a write, names lead through the same links to where the write was. -/
theorem follow_written (same : SameElsewhere before after names)
    (written : after.find? names = some (.file content readable)) (writable : Writable before names)
    (reached : follow before true links here steps = .ok (.taken names) ∨
      follow before true links here steps = .ok (.vacant names)) :
    follow after true links here steps = .ok (.taken names) := by
  fun_induction follow before true links here steps with
  | case1 links here =>
    rcases reached with taken | vacant
    · cases taken
      rw [follow]
    · cases vacant
  | case2 links here rest entries access found ih =>
    obtain ⟨_, found'⟩ := same.directory (writable.ne found (by simp)) found
    rw [follow_slash found']
    exact ih reached
  | case4 links here rest entries access found searchable _ ih =>
    obtain ⟨_, found'⟩ := same.directory (writable.ne found (by simp)) found
    rw [follow_dot found' (by simpa using searchable)]
    exact ih reached
  | case5 links here rest entries access found searchable _ _ ih =>
    obtain ⟨_, found'⟩ := same.directory (writable.ne found (by simp)) found
    rw [follow_up found' (by simpa using searchable)]
    exact ih reached
  | case3 | case6 | case8 | case10 | case13 => simp at reached
  | case7 links here name rest entries access found given searchable notDot notUp short free last =>
    obtain ⟨entries', found'⟩ := same.directory (writable.ne found (by simp)) found
    obtain rfl := List.isEmpty_iff.mp last
    obtain rfl : here ++ [name] = names := by simpa using reached
    rw [find?_child found'] at written
    rw [follow_name found' (by simpa using searchable) given notDot notUp (Nat.not_lt.mp short)
      written (by simp), follow]
  | case9 _ _ _ rest _ _ _ _ _ _ _ _ _ _ unfollowed => simp at unfollowed
  | case11 here name rest entries access found given searchable notDot notUp short target entry _
      links ih =>
    obtain ⟨entries', found'⟩ := same.directory (writable.ne found (by simp)) found
    have link : before.find? (here ++ [name]) = some (.link target) := by
      rw [find?_child found, entry]
    have link' := same _ (writable.ne link (by simp))
    rw [link, find?_child found', Option.map_some] at link'
    obtain ⟨node, entry', alone⟩ := Option.map_eq_some_iff.mp link'
    cases node with
    | file | directory => cases alone
    | link =>
      cases alone
      rw [follow_link found' (by simpa using searchable) given notDot notUp (Nat.not_lt.mp short)
        entry']
      exact ih reached
  | case12 links here name rest entries access found given searchable notDot notUp short node plain
      entry ih =>
    obtain ⟨entries', found'⟩ := same.directory (writable.ne found (by simp)) found
    obtain ⟨node', entry', plain'⟩ : ∃ node', entries'.lookup name = some node' ∧
        ∀ target, node' ≠ .link target := by
      rw [← find?_child found']
      by_cases here_written : here ++ [name] = names
      · exact ⟨.file content readable, here_written ▸ written, by simp⟩
      · have there := same _ here_written
        rw [find?_child found, entry, Option.map_some] at there
        obtain ⟨node', entry', alone⟩ := Option.map_eq_some_iff.mp there
        refine ⟨node', entry', ?_⟩
        rintro target rfl
        cases node with
        | file | directory => cases alone
        | link target => exact plain target rfl
    rw [follow_name found' (by simpa using searchable) given notDot notUp (Nat.not_lt.mp short)
      entry' plain']
    exact ih reached

/-- A look-up that ends at a node ends at one that is there. -/
theorem follow_taken {there : List String} (present : (root.find? here).isSome = true)
    (arrived : follow root true links here steps = .ok (.taken there)) :
    (root.find? there).isSome = true := by
  fun_induction follow root true links here steps with
  | case1 =>
    cases arrived
    exact present
  | case2 | case4 => rename_i ih; exact ih present arrived
  | case5 links here rest _ _ found _ _ _ ih =>
    refine ih ?_ arrived
    rcases List.eq_nil_or_concat' here with rfl | ⟨above, name, rfl⟩
    · exact present
    · rw [List.dropLast_concat]
      rw [find?_append] at present
      exact Option.isSome_of_isSome_bind present
  | case3 | case6 | case7 | case8 | case10 | case13 => cases arrived
  | case9 _ _ _ rest _ _ _ _ _ _ _ _ _ _ unfollowed => simp at unfollowed
  | case11 here name rest _ _ found _ _ _ _ _ target _ _ links ih =>
    refine ih ?_ arrived
    split
    · rfl
    · exact present
  | case12 _ here name _ _ _ found _ _ _ _ _ _ _ entry ih =>
    refine ih ?_ arrived
    rw [find?_child found, entry]
    rfl

theorem follow_vacant {there : List String}
    (free : follow root true links here steps = .ok (.vacant there)) :
    Writable root there ∧ root.find? there = none := by
  fun_induction follow root true links here steps with
  | case1 | case3 | case6 | case8 | case10 | case13 => cases free
  | case2 | case4 | case5 | case11 | case12 => rename_i ih; exact ih free
  | case7 _ _ _ _ _ _ found _ _ _ _ _ none =>
    cases free
    exact ⟨.free found none, (find?_child found _).trans none⟩
  | case9 _ _ _ rest _ _ _ _ _ _ _ _ _ _ unfollowed => simp at unfollowed

end Follow

section Place

/-- A write reaches this place: a file, or a name that is free. Links are followed. -/
inductive Disk.Reaches (d : Disk) (p : Path) : List String → Prop
  | file {names : List String} {content : List UInt8} {readable : Bool}
    (place : d.place p true = .ok (.taken names))
    (found : d.root.find? names = some (.file content readable)) : Reaches d p names
  | free {names : List String} (place : d.place p true = .ok (.vacant names)) : Reaches d p names

/-- The file at a path, or a new one in its place, has these octets for its whole content. The path
leads there as before, and nothing else differs. -/
structure Disk.Replaced (before : Disk) (p : Path) (octets : List UInt8) (after : Disk)
    (names : List String) : Prop where
  reached : before.Reaches p names
  place : after.place p true = .ok (.taken names)
  content : ∃ readable, after.root.find? names = some (.file octets readable)
  current : after.current = before.current
  elsewhere : SameElsewhere before.root after.root names

theorem Disk.place_eq_ok {last : Bool} {place : Place} (found : d.place p last = .ok place) :
    p.text.utf8ByteSize < pathLimit ∧
      follow d.root last linkLimit (d.start p) p.parts = .ok place := by
  unfold Disk.place at found
  split at found
  case isTrue => cases found
  case isFalse short => exact ⟨Nat.not_le.mp short, found⟩

theorem Disk.pathExists_taken (clean : hasNul p = false)
    (place : d.place p true = .ok (.taken names)) (found : d.root.find? names = some node) :
    d.pathExists p = .ok true := by
  rw [pathExists, test, clean, Disk.node, place]
  simp [found]

theorem Disk.pathExists_vacant (clean : hasNul p = false)
    (place : d.place p true = .ok (.vacant names)) : d.pathExists p = .ok false := by
  rw [pathExists, test, clean, Disk.node, place]
  rfl

theorem Disk.Reaches.writable (reached : d.Reaches p names) : Writable d.root names := by
  cases reached with
  | file _ found => exact .file found
  | free place => exact (follow_vacant (place_eq_ok place).2).1

theorem Disk.not_reaches_error {reason : Reason} (place : d.place p true = .error reason)
    (names : List String) : ¬ d.Reaches p names := by
  rintro (⟨other, _⟩ | other)
  · cases place.symm.trans other
  · cases place.symm.trans other

theorem Disk.not_reaches_taken {there : List String} (place : d.place p true = .ok (.taken there))
    (plain : ∀ content readable, d.root.find? there ≠ some (.file content readable))
    (names : List String) : ¬ d.Reaches p names := by
  rintro (⟨other, found⟩ | other)
  · cases place.symm.trans other
    exact plain _ _ found
  · cases place.symm.trans other

theorem Disk.putFile_replaced (reached : d.Reaches p names) (octets : List UInt8)
    (readable : Bool) : d.Replaced p octets (d.putFile names octets readable) names := by
  have elsewhere := reached.writable.sameElsewhere octets readable
  have content := find?_insert d.root (.file octets readable) names
  refine ⟨reached, ?_, ⟨readable, content⟩, rfl, elsewhere⟩
  obtain ⟨short, followed⟩ : p.text.utf8ByteSize < pathLimit ∧
      (follow d.root true linkLimit (d.start p) p.parts = .ok (.taken names) ∨
        follow d.root true linkLimit (d.start p) p.parts = .ok (.vacant names)) := by
    cases reached with
    | file place => exact (place_eq_ok place).imp_right .inl
    | free place => exact (place_eq_ok place).imp_right .inr
  rw [Disk.place, if_neg (Nat.not_le.mpr short)]
  exact follow_written elsewhere content reached.writable followed

/-- What was a file before is the same file, or it is the one that was replaced. -/
theorem Disk.Replaced.file {after : Disk} (replaced : d.Replaced p octets after names)
    {other : List String} (found : d.root.find? other = some (.file content readable)) :
    after.root.find? other = some (.file content readable) ∨ other = names := by
  by_cases same : other = names
  · exact .inr same
  · have there := replaced.elsewhere other same
    rw [found, Option.map_some] at there
    obtain ⟨node, found', alone⟩ := Option.map_eq_some_iff.mp there
    cases node with
    | file =>
      cases alone
      exact .inl found'
    | link | directory => cases alone

end Place

section Write

theorem truncating : Mode.ofText "w" = .ok ⟨.truncate, false⟩ := by cbv

theorem appending : Mode.ofText "a" = .ok ⟨.append, false⟩ := by cbv

/-- Writing anew and writing on both make a file that is not there. -/
theorem Disk.write_making {mode : String} {opening : Opening}
    (opened : Mode.ofText mode = .ok ⟨opening, false⟩)
    (makes : opening = .truncate ∨ opening = .append) (clean : hasNul p = false) (data : String) :
    d.write p data mode =
      match d.place p true with
      | .error reason => .error (.refused p.text ⟨reason, p.text⟩)
      | .ok (.vacant names) => .ok (d.putFile names (Text.Utf8.encode data) true)
      | .ok (.taken names) => match d.root.find? names with
        | some (.file old readable) => .ok (d.putFile names
            (Mode.apply ⟨opening, false⟩ old (Text.Utf8.encode data)) readable)
        | _ => .error (.refused p.text ⟨.isDirectory, p.text⟩) := by
  have follows : (decide (opening ≠ .create)) = true := by
    rcases makes with rfl | rfl <;> rfl
  rw [Disk.write, opened]
  simp only [Except.mapError, bind, Except.bind, clean, follows]
  rw [if_neg Bool.false_ne_true]
  cases d.place p true with
  | error => rfl
  | ok place =>
    cases place with
    | vacant => rcases makes with rfl | rfl <;> rfl
    | taken names =>
      cases d.root.find? names with
      | none => rcases makes with rfl | rfl <;> rfl
      | some node => rcases makes with rfl | rfl <;> cases node <;> rfl

theorem Disk.write_reaching (clean : hasNul p = false) (reached : d.Reaches p names)
    (data : String) : ∃ after, d.write p data "w" = .ok after ∧
      d.Replaced p (Text.Utf8.encode data) after names := by
  rw [write_making truncating (.inl rfl) clean]
  cases reached with
  | file place found =>
    rw [place]
    simp only [found]
    exact ⟨_, rfl, putFile_replaced (.file place found) _ _⟩
  | free place =>
    rw [place]
    exact ⟨_, rfl, putFile_replaced (.free place) _ _⟩

theorem Disk.write_refused (clean : hasNul p = false) (unreached : ∀ names, ¬ d.Reaches p names)
    (data : String) : ∃ refusal, d.write p data "w" = .error (.refused p.text refusal) := by
  rw [write_making truncating (.inl rfl) clean]
  split
  · exact ⟨_, rfl⟩
  case h_2 names place => exact absurd (.free place) (unreached names)
  case h_3 names place =>
    split
    case h_1 found => exact absurd (.file place found) (unreached names)
    case h_2 => exact ⟨_, rfl⟩

end Write
end LineBudget.Files
