import AgendaLinks.Listing.Line

/-!
A listing falls into sections: a line with a bullet and the lines up to the next one. What stands
before the first bullet belongs to no entry.
-/

namespace AgendaLinks.Listing

/-- The lines of one entry, without line ends. -/
structure Section where
  /-- The text after the bullet. -/
  heading : Text
  body : List Text
  /-- The number of lines of the listing up to the line that ends the section: the next one with a
  bullet, or the last line. -/
  reach : Nat
  deriving DecidableEq, Repr

/-- The lines of a listing up to the first one with a bullet, and the sections after them; so many lines
were read before. -/
def splitFrom (read : Nat) : List Text → List Text × List Section
  | [] => ([], [])
  | raw :: rest =>
    let line := chomp raw
    let (body, sections) := splitFrom (read + 1) rest
    match afterBullet? line with
    | some heading =>
      let reach := read + 1 + body.length + (if sections.isEmpty then 0 else 1)
      ([], ⟨heading, body, reach⟩ :: sections)
    | none => (line :: body, sections)

/-- The sections of a listing. -/
def sections (lines : List Text) : List Section := (splitFrom 0 lines).2

end AgendaLinks.Listing
