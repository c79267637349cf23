import AgendaLinks.Proofs.Listing.Dates
import AgendaLinks.Proofs.Listing.RoundTrip
import AgendaLinks.Proofs.Time.Printed
import AgendaLinks.Report.Json

/-!
Lines of dates are read as the boundaries whose texts they show. The texts are those of a report: a point
in time has its own, and a bare day the one of the day. In the line the word "at" may stand before the time,
an end on the day of the start may be shown by its time alone, and a start alone is the end too.
-/

namespace AgendaLinks

namespace Json

/-- The text of a field, if the report has one there. -/
def textAt? (field : String) : Json → Option Text
  | object fields =>
    match fields.lookup field with
    | some (text t) => some t
    | _ => none
  | _ => none

/-- The text that the report of an event has for the start: the point in time, or else the day. -/
def startText? (report : Json) : Option Text :=
  (report.textAt? "start_at").or (report.textAt? "start_on")

/-- The text that the report of an event has for the end: the point in time, or else the day. -/
def endText? (report : Json) : Option Text :=
  (report.textAt? "end_at").or (report.textAt? "end_on")

end Json

namespace Listing

open Text

/-- A point in time in whole seconds with its day, or a bare day, in a year of four digits. -/
structure Boundary.Showable (b : Boundary) : Prop where
  agrees : PairAgrees b.pair
  year : 1000 ≤ b.on.year

/-- The text of the point in time, or of the day if there is none. -/
def Boundary.text (b : Boundary) : Text := b.at?.elim b.on.text Stamp.text

/-- What the text has after the day. -/
def Boundary.timeText (b : Boundary) : Text :=
  b.at?.elim [] fun stamp => 'T' :: (stamp.clock.text ++ stamp.offset.textWith [])

theorem startText?_ofEvent {e : Event} {b : Boundary} (h : startPair e = b.pair) :
    (Json.ofEvent e).startText? = some b.text := by
  obtain ⟨title, calendar, startAt, startOn⟩ := e
  obtain ⟨stamp, day⟩ := b
  cases h
  cases startAt <;> rfl

theorem endText?_ofEvent {e : Event} {b : Boundary} (h : endPair e = b.pair) :
    (Json.ofEvent e).endText? = some b.text := by
  obtain ⟨title, calendar, startAt, startOn, endAt, endOn⟩ := e
  obtain ⟨stamp, day⟩ := b
  cases h
  cases endAt <;> rfl

namespace Boundary

variable {b : Boundary}

theorem Showable.text_eq (hb : b.Showable) : b.text = b.on.text ++ b.timeText := by
  obtain ⟨stamp, day⟩ := b
  cases stamp with
  | none => exact (List.append_nil _).symm
  | some stamp =>
      obtain ⟨-, hday⟩ := hb.agrees stamp rfl
      cases hday
      show stamp.date.text ++ 'T' :: stamp.clock.text ++ stamp.offset.textWith [] = _
      rw [List.append_assoc]
      rfl

/-- A boundary is read back from its text. -/
theorem Showable.boundary?_text (hb : b.Showable) : boundary? b.text = some b := by
  obtain ⟨stamp, day⟩ := b
  cases stamp with
  | none =>
      show boundary? day.text = _
      rw [boundary?, Time.readStamp?_dateText hb.year, Time.readDate?_text hb.year]
      rfl
  | some stamp =>
      obtain ⟨hmicro, hday⟩ := hb.agrees stamp rfl
      cases hday
      show boundary? stamp.text = _
      rw [boundary?, Time.readStamp?_text hb.year hmicro]

end Boundary

/-- The characters of the texts of boundaries. -/
def InText (c : Char) : Prop := c.isDigit = true ∨ c ∈ "-T:+.".toList

theorem InText.not_isBlank {c : Char} (h : InText c) : isBlank c = false := by
  rcases h with hdigit | hmark
  · exact not_isBlank_of_isDigit hdigit
  · revert c
    decide

theorem InText.not_isLineEnd {c : Char} (h : InText c) : isLineEnd c = false := by
  rw [isLineEnd, Bool.or_eq_false_iff, decide_eq_false_iff_not, decide_eq_false_iff_not]
  constructor
  all_goals
    rintro rfl
    exact absurd h.not_isBlank (by decide)

theorem InText.ne_a {c : Char} (h : InText c) : c ≠ 'a' := by
  rintro rfl
  revert h
  unfold InText
  decide

theorem inText_of_mem_text {b : Boundary} {c : Char} (hc : c ∈ b.text) : InText c := by
  obtain ⟨stamp, day⟩ := b
  have hdate (d : Date) (hd : c ∈ d.text) : InText c :=
    (Date.mem_text hd).imp id fun hmark => by simp [hmark]
  cases stamp with
  | none => exact hdate day hc
  | some stamp =>
      rcases List.mem_append.1 (show c ∈ _ ++ _ from hc) with hlocal | hoffset
      · rcases List.mem_append.1 hlocal with hday | htime
        · exact hdate stamp.date hday
        · rcases List.mem_cons.1 htime with hmark | hclock
          · exact Or.inr (by simp [hmark])
          · exact (Clock.mem_text hclock).imp id fun hmark => by simp [hmark]
      · have hmarks : ∀ c ∈ ['+', '-', '.'], c ∈ "-T:+.".toList := by decide
        exact (UtcOffset.mem_textWith hoffset).imp id (hmarks c)

theorem Boundary.Showable.startsWithDate_append {b : Boundary} (hb : b.Showable) (rest : Text) :
    startsWithDate (b.on.text ++ rest) = true ∧ (b.on.text ++ rest).take 10 = b.on.text ∧
      (b.on.text ++ rest).drop 10 = rest := by
  have hdecimal {d : Nat} (hd : d < 10) : isDecimal d.digitChar = true :=
    isDecimal_of_isDigit (isDigit_digitChar hd)
  have hyear := b.on.year_mem.2
  have hmonth := b.on.month_lt
  have hday := b.on.day_lt
  rw [Date.text_eq hb.year]
  refine ⟨?_, rfl, rfl⟩
  simp [startsWithDate, hdecimal (Nat.mod_lt _ (by decide)),
    hdecimal (by omega : b.on.year / 10 / 10 / 10 < 10), hdecimal (by omega : b.on.month / 10 < 10),
    hdecimal (by omega : b.on.day / 10 < 10)]

theorem Boundary.timeText_cases (b : Boundary) :
    b.timeText = [] ∨ ∃ c rest, b.timeText = 'T' :: c :: rest := by
  obtain ⟨stamp, day⟩ := b
  cases stamp with
  | none => exact Or.inl rfl
  | some stamp =>
      right
      have hhour : stamp.clock.hour < 100 := stamp.clock.hour_lt.trans (by decide)
      show ∃ c rest, 'T' :: (stamp.clock.text ++ _) = _
      rw [Clock.text, padded_two hhour]
      exact ⟨_, _, rfl⟩

/-- The text of a boundary begins with a digit. -/
theorem Boundary.Showable.exists_cons {b : Boundary} (hb : b.Showable) :
    ∃ c rest, b.text = c :: rest ∧ c.isDigit = true := by
  have hyear := b.on.year_mem.2
  rw [hb.text_eq, Date.text_eq hb.year]
  exact ⟨_, _, rfl, isDigit_digitChar (by omega)⟩

/-- The text of a point in time is cut behind the day. -/
theorem Boundary.Showable.eq_of_cut_text {b : Boundary} (hb : b.Showable) {left right : Text}
    (h : cut 'T' b.text = (left, some right)) :
    left = b.on.text ∧ b.text = b.on.text ++ 'T' :: right := by
  have hday : 'T' ∉ b.on.text := fun hmem => by
    rcases Date.mem_text hmem with hdigit | hmark
    · exact absurd hdigit (by decide)
    · exact absurd hmark (by decide)
  have hform := hb.text_eq
  rcases b.timeText_cases with hnone | ⟨c, rest, htime⟩
  · rw [hnone, List.append_nil] at hform
    rw [hform, cut_of_not_mem hday] at h
    cases h
  · rw [htime] at hform
    rw [hform, cut_append hday] at h
    cases h
    exact ⟨rfl, hform⟩

/-- A text as it is, or with the word "at" before the time. -/
inductive Written (t : Text) : Text → Prop
  | plain : Written t t
  | spaced {left right : Text} (h : cut 'T' t = (left, some right)) :
      Written t (left ++ " at ".toList ++ 'T' :: right)

/-- What follows the start in a line of dates: nothing if it is the end too, or the end, of which the day is
left out only if the start has it. -/
inductive Ending (S E : Boundary) : Text → Prop
  | none (h : E = S) : Ending S E []
  | whole {v : Text} (hv : Written E.text v) : Ending S E (" - ".toList ++ v)
  | time {left right v : Text} (hday : E.on = S.on) (hcut : cut 'T' E.text = (left, some right))
      (hv : Written ('T' :: right) v) : Ending S E (" - ".toList ++ v)

/-- The lines of dates that show a start and an end. -/
def DateLine (S E : Boundary) (line : Text) : Prop :=
  ∃ u ending, Written S.text u ∧ Ending S E ending ∧ line = spaces propertyIndent ++ (u ++ ending)

namespace Written

variable {t u : Text}

theorem mem (h : Written t u) {c : Char} (hc : c ∈ u) : c ∈ t ∨ c ∈ " at ".toList := by
  cases h with
  | plain => exact Or.inl hc
  | spaced hcut =>
      rw [eq_append_of_cut hcut]
      rw [List.mem_append, List.mem_append] at hc
      rcases hc with (hleft | hword) | hright
      · exact Or.inl (List.mem_append_left _ hleft)
      · exact Or.inr hword
      · exact Or.inl (List.mem_append_right _ hright)

theorem getLast?_eq (h : Written t u) : u.getLast? = t.getLast? := by
  cases h with
  | plain => rfl
  | spaced hcut =>
      rw [eq_append_of_cut hcut, List.getLast?_append_of_ne_nil _ (List.cons_ne_nil _ _),
        List.getLast?_append_of_ne_nil _ (List.cons_ne_nil _ _)]

theorem head?_ne_a (h : Written t u) (ht : ∀ c ∈ t, InText c) : ∀ c ∈ u.head?, c ≠ 'a' := by
  intro c hc
  cases h with
  | plain => exact (ht c (List.mem_of_mem_head? hc)).ne_a
  | @spaced left right hcut =>
      cases left with
      | nil =>
          cases hc
          decide
      | cons d left =>
          cases hc
          apply (ht c _).ne_a
          rw [eq_append_of_cut hcut]
          exact List.mem_cons_self

theorem oneLine (h : Written t u) (ht : ∀ c ∈ t, InText c) : OneLine u := by
  have hword : OneLine " at ".toList := by decide
  intro c hc
  rcases h.mem hc with htext | hat
  · exact (ht c htext).not_isLineEnd
  · exact hword c hat

/-- The word "at" is passed over, wherever it stands in the line. -/
theorem replace_append (h : Written t u) (ht : ∀ c ∈ t, InText c) (rest : Text) :
    replace " at ".toList [] (u ++ rest) = t ++ replace " at ".toList [] rest := by
  have hspace {s : Text} (hs : ∀ c ∈ s, InText c) : ' ' ∉ s := fun hmem =>
    absurd (hs _ hmem).not_isBlank (by decide)
  have hkeep {s : Text} (hs : ∀ c ∈ s, InText c) (rest : Text) :
      replace " at ".toList [] (s ++ rest) = s ++ replace " at ".toList [] rest :=
    Text.replace_append [] (by decide) (cutAt_append_of_not_mem (hspace hs) rest)
  cases h with
  | plain => exact hkeep ht rest
  | @spaced left right hcut =>
      rw [eq_append_of_cut hcut, List.forall_mem_append] at ht
      rw [eq_append_of_cut hcut, List.append_assoc, List.append_assoc, List.append_assoc,
        hkeep ht.1, replace_append_self [] (by decide), List.nil_append, hkeep ht.2]

theorem replace_eq (h : Written t u) (ht : ∀ c ∈ t, InText c) :
    replace " at ".toList [] u = t := by
  rw [← List.append_nil u, h.replace_append ht, replace_nil [] (by decide), List.append_nil]

theorem exists_append {b : Boundary} (hb : b.Showable) (h : Written b.text u) :
    ∃ rest, u = b.on.text ++ rest := by
  cases h with
  | plain => exact ⟨_, hb.text_eq⟩
  | spaced hcut =>
      obtain ⟨rfl, -⟩ := hb.eq_of_cut_text hcut
      exact ⟨_, List.append_assoc _ _ _⟩

end Written

/-- The hyphen between start and end is no part of the word "at". -/
theorem replace_hyphen {v : Text} (hv : ∀ c ∈ v.head?, c ≠ 'a') :
    replace " at ".toList [] (" - ".toList ++ v) = " - ".toList ++ replace " at ".toList [] v := by
  have hlast : after? " at ".toList (' ' :: v) = none := by
    cases v with
    | nil => rfl
    | cons c v =>
        show (if 'a' = c then _ else none) = none
        exact if_neg (hv c rfl).symm
  show replace " at ".toList [] (' ' :: '-' :: ' ' :: v) =
    ' ' :: '-' :: ' ' :: replace " at ".toList [] v
  rw [replace_cons [] (by decide) rfl, replace_cons [] (by decide) rfl,
    replace_cons [] (by decide) hlast]

/-- The start reaches up to the first blank, so it is told apart from what follows it. -/
theorem rangeTexts?_of_replace {S : Boundary} (hS : S.Showable) {t rest : Text}
    (ht : replace " at ".toList [] t = S.text ++ rest) (hrest : ∀ c ∈ rest.head?, c = ' ') :
    rangeTexts? t = if rest.isEmpty then some (S.text, none) else do
      let finish ← after? " - ".toList rest
      guard (finish ≠ [] ∧ finish.all (!isBlank ·))
      return (S.text, some (if finish.head? = some 'T' then S.on.text ++ finish else finish)) := by
  have hform : S.text ++ rest = S.on.text ++ (S.timeText ++ rest) := by
    rw [hS.text_eq, List.append_assoc]
  obtain ⟨hdate, htake, hdrop⟩ := hS.startsWithDate_append (S.timeText ++ rest)
  rw [rangeTexts?, ht, hform]
  simp only [hdate, htake, hdrop, hS.text_eq]
  rcases S.timeText_cases with hnone | ⟨c, time, htime⟩
  · rw [hnone]
    cases rest with
    | nil => rfl
    | cons d rest =>
        cases hrest d rfl
        rfl
  · -- the time has no blank, and if something follows it is one
    have hshown : ∀ d ∈ 'T' :: c :: time, isBlank d = false := by
      intro d hd
      apply (inText_of_mem_text (b := S) _).not_isBlank
      rw [hS.text_eq, htime]
      exact List.mem_append_right _ hd
    have hspan : (('T' :: c :: time) ++ rest).span (!isBlank ·) = ('T' :: c :: time, rest) := by
      apply span_append
      · exact fun d hd => by rw [hshown d hd, Bool.not_false]
      · intro d hd
        rw [hrest d hd]
        decide
    have hc : isBlank c = false := hshown c (List.mem_cons_of_mem _ List.mem_cons_self)
    rw [htime, List.cons_append, List.cons_append] at *
    simp only [hc, hspan]
    rfl

/-- What follows the start once the word "at" is passed over: nothing, or a text that names the end. -/
theorem Ending.replace_cases {S E : Boundary} (hE : E.Showable) {ending : Text}
    (h : Ending S E ending) :
    (E = S ∧ replace " at ".toList [] ending = []) ∨
      ∃ finish, replace " at ".toList [] ending = " - ".toList ++ finish ∧ finish ≠ [] ∧
        (∀ c ∈ finish, InText c) ∧
        (if finish.head? = some 'T' then S.on.text ++ finish else finish) = E.text := by
  cases h with
  | none heq => exact Or.inl ⟨heq, replace_nil [] (by decide)⟩
  | whole hv =>
      have htext : ∀ c ∈ E.text, InText c := fun c hc => inText_of_mem_text hc
      obtain ⟨c, rest, hform, hc⟩ := hE.exists_cons
      refine Or.inr ⟨E.text, ?_, hform ▸ List.cons_ne_nil c rest, htext, if_neg ?_⟩
      · rw [replace_hyphen (hv.head?_ne_a htext), hv.replace_eq htext]
      · rw [hform, List.head?_cons, Option.some.injEq]
        rintro rfl
        exact absurd hc (by decide)
  | @time left right v hday hcut hv =>
      obtain ⟨-, hform⟩ := hE.eq_of_cut_text hcut
      have htext : ∀ c ∈ 'T' :: right, InText c := fun c hc =>
        inText_of_mem_text (b := E) (hform ▸ List.mem_append_right _ hc)
      refine Or.inr ⟨'T' :: right, ?_, List.cons_ne_nil _ _, htext, ?_⟩
      · rw [replace_hyphen (hv.head?_ne_a htext), hv.replace_eq htext]
      · rw [List.head?_cons, if_pos rfl, hform, hday]

/-- A line of dates ends as the text of the end does. -/
theorem Ending.getLast?_append {S E : Boundary} (hE : E.Showable) {u ending : Text}
    (hu : Written S.text u) (h : Ending S E ending) : (u ++ ending).getLast? = E.text.getLast? := by
  obtain ⟨last, hlast⟩ : ∃ last, E.text.getLast? = some last := by
    obtain ⟨c, rest, hform, -⟩ := hE.exists_cons
    rw [hform]
    exact ⟨_, List.getLast?_eq_some_getLast (List.cons_ne_nil c rest)⟩
  cases h with
  | none heq => rw [List.append_nil, hu.getLast?_eq, heq]
  | whole hv =>
      rw [← List.append_assoc, List.getLast?_append, hv.getLast?_eq, hlast, Option.some_or]
  | @time left right v hday hcut hv =>
      have hend : v.getLast? = some last := by
        rw [hv.getLast?_eq, ← hlast, eq_append_of_cut hcut,
          List.getLast?_append_of_ne_nil _ (List.cons_ne_nil _ _)]
      rw [← List.append_assoc, List.getLast?_append, hend, Option.some_or, hlast]

namespace DateLine

variable {S E : Boundary} {line : Text}

theorem oneLine (h : DateLine S E line) : OneLine line := by
  obtain ⟨u, ending, hu, hending, rfl⟩ := h
  have htext (b : Boundary) : ∀ c ∈ b.text, InText c := fun c hc => inText_of_mem_text hc
  refine (oneLine_spaces _).append ((hu.oneLine (htext S)).append ?_)
  cases hending with
  | none => exact oneLine_nil
  | whole hv => exact OneLine.append (by decide) (hv.oneLine (htext E))
  | @time left right v hday hcut hv =>
      refine OneLine.append (by decide) (hv.oneLine fun c hc => htext E c ?_)
      rw [eq_append_of_cut hcut]
      exact List.mem_append_right _ hc

theorem isDateLine (hS : S.Showable) (h : DateLine S E line) : isDateLine line = true := by
  obtain ⟨u, ending, hu, -, rfl⟩ := h
  obtain ⟨rest, rfl⟩ := hu.exists_append hS
  have hafter : after? (List.replicate propertyIndent ' ')
      (spaces propertyIndent ++ (S.on.text ++ rest ++ ending)) =
        some (S.on.text ++ rest ++ ending) := after?_eq_some_iff.2 rfl
  rw [Listing.isDateLine, hafter, List.append_assoc]
  exact (hS.startsWithDate_append _).1

theorem trim_eq (hS : S.Showable) (hE : E.Showable) {u ending : Text} (hu : Written S.text u)
    (hending : Ending S E ending) : trim (spaces propertyIndent ++ (u ++ ending)) = u ++ ending := by
  have hspaces : trim (spaces propertyIndent ++ (u ++ ending)) = trim (u ++ ending) := by
    show trim (' ' :: ' ' :: ' ' :: ' ' :: (u ++ ending)) = _
    rw [trim_cons_of_isBlank rfl, trim_cons_of_isBlank rfl, trim_cons_of_isBlank rfl,
      trim_cons_of_isBlank rfl]
  rw [hspaces]
  apply trim_eq_self
  · obtain ⟨rest, rfl⟩ := hu.exists_append hS
    rw [Date.text_eq hS.year]
    rintro c ⟨⟩
    have hyear := S.on.year_mem.2
    exact not_isBlank_of_isDigit (isDigit_digitChar (by omega))
  · rw [Ending.getLast?_append hE hu hending]
    exact fun c hc => (inText_of_mem_text (List.mem_of_getLast? hc)).not_isBlank

theorem named (hS : S.Showable) (hE : E.Showable) (h : DateLine S E line) :
    namedStart? line = some S ∧ namedEnd? line = some E := by
  obtain ⟨u, ending, hu, hending, rfl⟩ := h
  have hreplace := hu.replace_append (fun c hc => inText_of_mem_text hc) ending
  rw [namedStart?, namedEnd?, trim_eq hS hE hu hending]
  rcases hending.replace_cases hE with ⟨rfl, hnone⟩ | ⟨finish, hfinish, hne, htext, hnamed⟩
  · rw [hnone] at hreplace
    rw [rangeTexts?_of_replace hS hreplace (by simp)]
    exact ⟨hS.boundary?_text, hS.boundary?_text⟩
  · have hblanks : finish.all (!isBlank ·) = true :=
      List.all_eq_true.2 fun c hc => by rw [(htext c hc).not_isBlank, Bool.not_false]
    have hhyphen : ∀ c ∈ (" - ".toList ++ finish).head?, c = ' ' := by
      rintro c ⟨⟩
      rfl
    have hrange : rangeTexts? (u ++ ending) = some (S.text, some E.text) := by
      rw [hfinish] at hreplace
      rw [rangeTexts?_of_replace hS hreplace hhyphen, if_neg (by simp), after?_eq_some_iff.2 rfl,
        Option.bind_eq_bind, Option.bind_some, guard_eq_some ⟨hne, hblanks⟩, hnamed]
      rfl
    rw [hrange]
    exact ⟨hS.boundary?_text, hE.boundary?_text⟩

end DateLine

theorem Draft.event_readLine_dateLine {S E : Boundary} (hS : S.Showable) (hE : E.Showable)
    {line : Text} (h : DateLine S E line) (d : Draft) :
    (d.readLine line).value.event = withPairs d.event S.pair E.pair := by
  obtain ⟨hstart, hend⟩ := h.named hS hE
  rw [d.value_readLine_dates (h.isDateLine hS), d.event_setDates, hstart, hend]
  rfl

/-- Lines of dates are read as the boundaries whose texts they show, to the last digit of an offset. The
texts are those that the report of an event with these boundaries has for them, and whatever was read
before, the line sets both boundaries and nothing else; so below a heading it gives the event of the
heading its dates. -/
theorem readEvents_dateLine {ε : Type} {S E : Boundary} (hS : S.Showable) (hE : E.Showable) :
    (∀ e, startPair e = S.pair → (Json.ofEvent e).startText? = some S.text) ∧
    (∀ e, endPair e = E.pair → (Json.ofEvent e).endText? = some E.text) ∧
    ∀ line, DateLine S E line →
      (∀ d : Draft, (d.readLine line).value.event = withPairs d.event S.pair E.pair) ∧
      ∀ (known : List Calendar) (first heading raw : Text) (e : Event),
        afterBullet? (chomp first) = some heading →
        startEvent (known.map (·.title)) heading = some e → EndsAs line raw →
        (readEvents known (acceptAll : Filter ε) [first, raw]).value =
          .ok [withPairs e S.pair E.pair] := by
  refine ⟨fun e => startText?_ofEvent, fun e => endText?_ofEvent, fun line hline => ?_⟩
  have hread := Draft.event_readLine_dateLine hS hE hline
  refine ⟨hread, fun known first heading raw e hfirst hstart hends => ?_⟩
  have hchomp : chomp raw = line := hends.chomp_eq hline.oneLine
  have hbullet : isBullet raw = false := by
    obtain ⟨u, ending, -, -, rfl⟩ := hline
    rw [← isBullet_chomp, hchomp, ← afterBullet?_eq_none_iff]
    rfl
  have hsection : unplacedSections [first, raw] = [⟨heading, [line], 0⟩] := by
    rw [unplacedSections_entry hfirst (List.forall_mem_singleton.2 hbullet), List.map_singleton, hchomp]
  rw [value_readEvents_acceptAll, hsection, eventsIn_cons, Section.event, hstart]
  simp only [Logged.value_bind, Logged.value_pure, Draft.readLines, hread]
  rfl

/-- A call that starts a millionth of a second behind universal time and ends at another offset. -/
theorem readEvents_dateLine_call :
    (∃ S E : Boundary, S.Showable ∧ E.Showable ∧
      DateLine S E "    2024-05-01 at T09:30:00-000000.000001 - T10:00:00+053015.500000".toList) ∧
    (readEvents [⟨"Work".toList, none, none⟩] (acceptAll : Filter Empty)
      ["• Call (Work)\n".toList,
        "    2024-05-01 at T09:30:00-000000.000001 - T10:00:00+053015.500000".toList ++
          ['\r', '\n']]).value =
      .ok [{ title := "Call".toList, calendar := "Work".toList
             startAt := some ⟨{ year := 2024, month := 5, day := 1 },
               { hour := 9, minute := 30, second := 0, micro := 0 }, ⟨-1, by decide⟩⟩
             startOn := some { year := 2024, month := 5, day := 1 }
             endAt := some ⟨{ year := 2024, month := 5, day := 1 },
               { hour := 10, minute := 0, second := 0, micro := 0 }, ⟨19815500000, by decide⟩⟩
             endOn := some { year := 2024, month := 5, day := 1 } }] := by
  let day : Date := { year := 2024, month := 5, day := 1 }
  let start : Stamp := ⟨day, { hour := 9, minute := 30, second := 0, micro := 0 }, ⟨-1, by decide⟩⟩
  let finish : Stamp :=
    ⟨day, { hour := 10, minute := 0, second := 0, micro := 0 }, ⟨19815500000, by decide⟩⟩
  have hS : Boundary.Showable ⟨some start, day⟩ := ⟨by rintro _ ⟨⟩; exact ⟨rfl, rfl⟩, by decide⟩
  have hE : Boundary.Showable ⟨some finish, day⟩ := ⟨by rintro _ ⟨⟩; exact ⟨rfl, rfl⟩, by decide⟩
  have hstart : cut 'T' (Boundary.text ⟨some start, day⟩) =
      ("2024-05-01".toList, some "09:30:00-000000.000001".toList) := by decide
  have hfinish : cut 'T' (Boundary.text ⟨some finish, day⟩) =
      ("2024-05-01".toList, some "10:00:00+053015.500000".toList) := by decide
  have hline : DateLine ⟨some start, day⟩ ⟨some finish, day⟩
      "    2024-05-01 at T09:30:00-000000.000001 - T10:00:00+053015.500000".toList :=
    ⟨_, _, .spaced hstart, .time rfl hfinish .plain, rfl⟩
  refine ⟨⟨_, _, hS, hE, hline⟩, ?_⟩
  exact ((readEvents_dateLine hS hE).2.2 _ hline).2 [⟨"Work".toList, none, none⟩]
    "• Call (Work)\n".toList "Call (Work)".toList _
    { title := "Call".toList, calendar := "Work".toList } rfl rfl (Or.inr (Or.inr rfl))

end Listing

end AgendaLinks
