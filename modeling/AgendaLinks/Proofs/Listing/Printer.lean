import AgendaLinks.Listing.Events
import AgendaLinks.Proofs.Listing.Lines
import AgendaLinks.Proofs.Text.Cuts

/-!
Events as a listing prints them: a heading, then properties in some order. A value begins on the line
with the name of its property and goes on over lines that are indented below its beginning. Each kind of
line is told apart from the others by how it begins.
-/

namespace AgendaLinks.Listing

open Text

/-- The line with the name of a property and the beginning of its value. -/
def headerLine (p : Property) (value : Text) : Text :=
  spaces propertyIndent ++ (p.name ++ ':' :: ' ' :: value)

/-- A further line of the value of a property; an empty one stays empty. -/
def furtherLine (p : Property) (line : Text) : Text :=
  if line = [] then [] else spaces (propertyIndent + p.name.length + 2) ++ line

/-- A property with the lines of its value. -/
def propertyLines (p : Property) : List Text → List Text
  | [] => [headerLine p []]
  | first :: rest => headerLine p first :: rest.map (furtherLine p)

/-- How names go on after the comma behind one of them: on the same line, or on the next one. Spaces
may stand before and after the line end. -/
inductive Joint where
  | space
  | wrap (before after : Nat)
  deriving DecidableEq, Repr

/-- The first line of some names and the further ones; joints that are not given are spaces. -/
def wrapNames : List Joint → List Text → Text × List Text
  | _, [] => ([], [])
  | _, [name] => (name, [])
  | joints, name :: next :: names =>
    let (line, lines) := wrapNames joints.tail (next :: names)
    match joints.headD .space with
    | .space => (name ++ ',' :: ' ' :: line, lines)
    | .wrap before after => (name ++ ',' :: spaces before, (spaces after ++ line) :: lines)

/-- How an event is printed: the properties in their order, and the joints of the attendees. -/
structure Layout where
  order : List Property
  joints : List Joint := []
  deriving DecidableEq, Repr

/-- The lines of the value of a property. -/
def valueLines (joints : List Joint) (e : Event) : Property → List Text
  | .location => pieces '\n' (e.location.getD [])
  | .notes => pieces '\n' (e.notes.getD [])
  | .url => [e.url.getD []]
  | .attendees => (wrapNames joints (e.attendees.getD [])).1 ::
      (wrapNames joints (e.attendees.getD [])).2

def headingOf (e : Event) : Text := e.title ++ " (".toList ++ e.calendar ++ [')']

/-- The lines of an event, without line ends. -/
def printed (l : Layout) (e : Event) : List Text :=
  (bullet ++ headingOf e) :: l.order.flatMap fun p => propertyLines p (valueLines l.joints e p)

/-- The properties that an event has. -/
def has (e : Event) : Property → Prop
  | .location => e.location.isSome
  | .notes => e.notes.isSome
  | .url => e.url.isSome
  | .attendees => e.attendees.isSome

/-- An event without its dates and its chosen links, which a listing of properties does not tell. -/
def undated (e : Event) : Event :=
  { e with startAt := none, startOn := none, endAt := none, endOn := none, urls := [] }

/-- Texts without the end of a line. -/
def OneLine (t : Text) : Prop := ∀ c ∈ t, isLineEnd c = false

instance (t : Text) : Decidable (OneLine t) :=
  inferInstanceAs (Decidable (∀ c ∈ t, isLineEnd c = false))

/-- Lines that begin with spaces and then with another character that is not blank. -/
def Shown (line : Text) : Prop := ∃ n c rest, line = spaces n ++ c :: rest ∧ isBlank c = false

/-- Texts whose further lines are empty or shown, the last one not empty. -/
structure PrintableText (value : Text) : Prop where
  no_return : '\r' ∉ value
  further : ∀ line ∈ (pieces '\n' value).tail, line ≠ [] → Shown line
  last : (pieces '\n' value).tail.getLast? ≠ some []

/-- Names without a comma that nothing but themselves is left of when they are trimmed. -/
structure PrintableName (name : Text) : Prop where
  ne_nil : name ≠ []
  trimmed : trim name = name
  no_comma : ',' ∉ name
  one_line : OneLine name

/-- Events of a known calendar that can be told from the others in the heading, with printable
values. -/
structure Printable (titles : List Text) (e : Event) : Prop where
  title : OneLine e.title
  calendar : OneLine e.calendar
  known : e.calendar ∈ titles
  unambiguous : ∀ s ∈ titles, ¬" (".toList ++ s <:+ e.calendar
  location : ∀ value, e.location = some value → PrintableText value
  notes : ∀ value, e.notes = some value → PrintableText value
  url : ∀ value, e.url = some value → OneLine value
  attendees : ∀ names, e.attendees = some names → ∀ name ∈ names, PrintableName name

/-- A line as it may stand in a listing, with or without a line end. -/
def EndsAs (line raw : Text) : Prop := raw = line ∨ raw = line ++ ['\n'] ∨ raw = line ++ ['\r', '\n']

theorem OneLine.append {left right : Text} (hleft : OneLine left) (hright : OneLine right) :
    OneLine (left ++ right) := by
  intro c hc
  rcases List.mem_append.1 hc with hc | hc
  · exact hleft c hc
  · exact hright c hc

theorem OneLine.cons {c : Char} {t : Text} (hc : isLineEnd c = false) (ht : OneLine t) :
    OneLine (c :: t) := by
  intro d hd
  rcases List.mem_cons.1 hd with rfl | hd
  · exact hc
  · exact ht d hd

theorem oneLine_spaces (n : Nat) : OneLine (spaces n) := by
  intro c hc
  rw [List.eq_of_mem_replicate hc]
  rfl

theorem oneLine_nil : OneLine [] := by
  intro c hc
  cases hc

theorem OneLine.no_newline {t : Text} (h : OneLine t) : '\n' ∉ t := fun hmem =>
  absurd (h _ hmem) (by decide)

theorem oneLine_pieces {value : Text} (h : '\r' ∉ value) : ∀ line ∈ pieces '\n' value, OneLine line := by
  intro line hline c hc
  obtain ⟨hmem, hne⟩ := mem_of_mem_pieces hline hc
  have hreturn : c ≠ '\r' := fun heq => h (heq ▸ hmem)
  simp [isLineEnd, hne, hreturn]

theorem wrapNames_cons_cons (joints : List Joint) (name next : Text) (names : List Text) :
    wrapNames joints (name :: next :: names) =
      match joints.headD .space with
      | .space => (name ++ ',' :: ' ' :: (wrapNames joints.tail (next :: names)).1,
          (wrapNames joints.tail (next :: names)).2)
      | .wrap before after => (name ++ ',' :: spaces before,
          (spaces after ++ (wrapNames joints.tail (next :: names)).1) ::
            (wrapNames joints.tail (next :: names)).2) := rfl

theorem PrintableName.shown {name : Text} (h : PrintableName name) :
    ∃ c rest, name = c :: rest ∧ isBlank c = false := by
  obtain ⟨c, rest, rfl⟩ := List.exists_cons_of_ne_nil h.ne_nil
  exact ⟨c, rest, rfl, not_isBlank_of_trim_eq h.trimmed⟩

/-- The lines of names begin with names. -/
theorem exists_cons_wrapNames (joints : List Joint) {name : Text} (h : PrintableName name)
    (names : List Text) :
    ∃ c rest, (wrapNames joints (name :: names)).1 = c :: rest ∧ isBlank c = false := by
  obtain ⟨c, rest, rfl, hc⟩ := h.shown
  cases names with
  | nil => exact ⟨c, rest, rfl, hc⟩
  | cons next names =>
      rw [wrapNames_cons_cons]
      cases joints.headD .space with
      | space => exact ⟨c, _, rfl, hc⟩
      | wrap before after => exact ⟨c, _, rfl, hc⟩

theorem shown_wrapNames (joints : List Joint) {names : List Text}
    (h : ∀ name ∈ names, PrintableName name) : ∀ line ∈ (wrapNames joints names).2, Shown line := by
  induction names generalizing joints with
  | nil =>
      intro line hline
      cases hline
  | cons name names ih =>
      cases names with
      | nil =>
          intro line hline
          cases hline
      | cons next names =>
          have hrest := ih joints.tail fun n hn => h n (List.mem_cons_of_mem _ hn)
          rw [wrapNames_cons_cons]
          cases joints.headD .space with
          | space => exact hrest
          | wrap before after =>
              intro line hline
              rcases List.mem_cons.1 hline with rfl | hline
              · obtain ⟨c, rest, hline, hc⟩ := exists_cons_wrapNames joints.tail
                  (h next (by simp)) names
                exact ⟨after, c, rest, by rw [hline], hc⟩
              · exact hrest line hline

theorem oneLine_wrapNames (joints : List Joint) {names : List Text}
    (h : ∀ name ∈ names, OneLine name) :
    OneLine (wrapNames joints names).1 ∧ ∀ line ∈ (wrapNames joints names).2, OneLine line := by
  induction names generalizing joints with
  | nil => exact ⟨oneLine_nil, fun line hline => by cases hline⟩
  | cons name names ih =>
      have hname := h name List.mem_cons_self
      cases names with
      | nil => exact ⟨hname, fun line hline => by cases hline⟩
      | cons next names =>
          obtain ⟨hfirst, hrest⟩ := ih joints.tail fun n hn => h n (List.mem_cons_of_mem _ hn)
          rw [wrapNames_cons_cons]
          cases joints.headD .space with
          | space => exact ⟨hname.append (.cons rfl (.cons rfl hfirst)), hrest⟩
          | wrap before after =>
              refine ⟨hname.append (.cons rfl (oneLine_spaces before)), fun line hline => ?_⟩
              rcases List.mem_cons.1 hline with rfl | hline
              · exact (oneLine_spaces after).append hfirst
              · exact hrest line hline

theorem oneLine_headerLine (p : Property) {value : Text} (h : OneLine value) :
    OneLine (headerLine p value) := by
  have hname : OneLine p.name := by
    cases p <;> decide
  exact (oneLine_spaces _).append (hname.append (.cons rfl (.cons rfl h)))

theorem oneLine_furtherLine (p : Property) {line : Text} (h : OneLine line) :
    OneLine (furtherLine p line) := by
  rw [furtherLine]
  split_ifs
  · exact oneLine_nil
  · exact (oneLine_spaces _).append h

theorem oneLine_propertyLines (p : Property) {lines : List Text} (h : ∀ line ∈ lines, OneLine line) :
    ∀ line ∈ propertyLines p lines, OneLine line := by
  cases lines with
  | nil =>
      intro line hline
      rw [propertyLines, List.mem_singleton] at hline
      rw [hline]
      exact oneLine_headerLine p oneLine_nil
  | cons first rest =>
      intro line hline
      rw [propertyLines, List.mem_cons, List.mem_map] at hline
      rcases hline with rfl | ⟨further, hfurther, rfl⟩
      · exact oneLine_headerLine p (h first List.mem_cons_self)
      · exact oneLine_furtherLine p (h further (List.mem_cons_of_mem _ hfurther))

theorem oneLine_valueLines {titles : List Text} {e : Event} (he : Printable titles e)
    (joints : List Joint) {p : Property} (hp : has e p) :
    ∀ line ∈ valueLines joints e p, OneLine line := by
  cases p with
  | location =>
      obtain ⟨value, hvalue⟩ := Option.isSome_iff_exists.1 hp
      rw [valueLines, hvalue]
      exact oneLine_pieces (he.location value hvalue).no_return
  | notes =>
      obtain ⟨value, hvalue⟩ := Option.isSome_iff_exists.1 hp
      rw [valueLines, hvalue]
      exact oneLine_pieces (he.notes value hvalue).no_return
  | url =>
      obtain ⟨value, hvalue⟩ := Option.isSome_iff_exists.1 hp
      rw [valueLines, hvalue]
      exact List.forall_mem_singleton.2 (he.url value hvalue)
  | attendees =>
      obtain ⟨names, hnames⟩ := Option.isSome_iff_exists.1 hp
      rw [valueLines, hnames, List.forall_mem_cons]
      exact oneLine_wrapNames joints fun name hname => (he.attendees names hnames name hname).one_line

theorem oneLine_printed {titles : List Text} {e : Event} (he : Printable titles e) {l : Layout}
    (hl : ∀ p ∈ l.order, has e p) : ∀ line ∈ printed l e, OneLine line := by
  intro line hline
  rw [printed, List.mem_cons, List.mem_flatMap] at hline
  rcases hline with rfl | ⟨p, hp, hline⟩
  · have hbullet : OneLine bullet := by
      decide
    have hopen : OneLine " (".toList := by
      decide
    exact hbullet.append (((he.title.append hopen).append he.calendar).append (.cons rfl oneLine_nil))
  · exact oneLine_propertyLines p (oneLine_valueLines he l.joints (hl p hp)) line hline

theorem not_isBullet_propertyLines (p : Property) (lines : List Text) :
    ∀ line ∈ propertyLines p lines, isBullet line = false := by
  cases lines with
  | nil =>
      intro line hline
      rw [propertyLines, List.mem_singleton] at hline
      rw [hline]
      rfl
  | cons first rest =>
      intro line hline
      rw [propertyLines, List.mem_cons, List.mem_map] at hline
      rcases hline with rfl | ⟨further, -, rfl⟩
      · rfl
      · rw [furtherLine]
        split_ifs <;> rfl

end AgendaLinks.Listing
