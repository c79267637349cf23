import AgendaLinks.Listing.Request
import AgendaLinks.Proofs.Text.Cuts

/-!
What a request for events asks for. It names calendars in one word, with a comma between two of them, and the
names are read back from that word. They are the identifiers of the calendars unless one of these holds a
comma itself; then its parts are asked for instead.
-/

namespace AgendaLinks

namespace Text

theorem pieces_joinWith (d : Char) {ts : List Text} (h : ts ≠ []) :
    pieces d (joinWith [d] ts) = ts.flatMap (pieces d) := by
  induction ts with
  | nil => exact absurd rfl h
  | cons t ts ih =>
      cases ts with
      | nil => rw [joinWith, List.flatMap_cons, List.flatMap_nil, List.append_nil]
      | cons u ts =>
          rw [joinWith, List.append_assoc, List.singleton_append, pieces_append_cons,
            ih (List.cons_ne_nil u ts)]
          exact List.flatMap_cons.symm

/-- Texts are their own pieces exactly if they are not cut. -/
theorem flatMap_pieces_eq_iff {d : Char} {ts : List Text} :
    ts.flatMap (pieces d) = ts ↔ ∀ t ∈ ts, d ∉ t := by
  constructor
  · intro h t ht hd
    rw [← h] at ht
    obtain ⟨u, -, hpiece⟩ := List.mem_flatMap.1 ht
    exact (mem_of_mem_pieces hpiece hd).2 rfl
  · intro h
    induction ts with
    | nil => rfl
    | cons t ts ih =>
        obtain ⟨ht, hts⟩ := List.forall_mem_cons.1 h
        rw [List.flatMap_cons, pieces_of_not_mem ht, ih hts, List.singleton_append]

end Text

namespace Listing

/-- The word that follows an option. -/
def valueOf? (option : Text) : List Text → Option Text
  | word :: value :: rest =>
    if word = option then some value else valueOf? option (value :: rest)
  | _ => none

/-- The names of the calendars of which a request asks for events, if it names some. -/
def namedIn (request : List Text) : Option (List Text) :=
  (valueOf? "--includeCals".toList request).map (Text.pieces ',')

/-- A request asks for the events of calendars in a window of time. -/
structure AsksFor (request : List Text) (known : List Calendar) (w : Window) : Prop where
  /-- The last words are the identifiers of the calendars, joined by commas, and the ends of the window. -/
  words : ∃ options, request = options ++
    ["--includeCals".toList, Text.joinWith [','] (known.map Calendar.identifier),
      "eventsFrom:".toList ++ w.start.spacedText, "to:".toList ++ w.finish.spacedText]
  named : namedIn request = some (known.flatMap fun k => Text.pieces ',' k.identifier)
  /-- No other calendar is named exactly if no identifier holds a comma. -/
  faithful : namedIn request = some (known.map Calendar.identifier) ↔ ∀ k ∈ known, ',' ∉ k.identifier

theorem namedIn_eventsRequest {known : List Calendar} (h : known ≠ []) (w : Window) :
    namedIn (eventsRequest known w) = some (known.flatMap fun k => Text.pieces ',' k.identifier) := by
  have hvalue : valueOf? "--includeCals".toList (eventsRequest known w) =
      some (Text.joinWith [','] (known.map Calendar.identifier)) := by
    rw [eventsRequest, if_neg (mt List.isEmpty_iff.1 h)]
    rfl
  rw [namedIn, hvalue, Option.map_some, Text.pieces_joinWith ',' (mt List.map_eq_nil_iff.1 h),
    List.flatMap_map]

theorem asksFor_eventsRequest {known : List Calendar} (h : known ≠ []) (w : Window) :
    AsksFor (eventsRequest known w) known w := by
  refine ⟨?_, namedIn_eventsRequest h w, ?_⟩
  · rw [eventsRequest, if_neg (mt List.isEmpty_iff.1 h), List.append_assoc]
    exact ⟨_, rfl⟩
  · rw [namedIn_eventsRequest h w, Option.some.injEq, ← List.flatMap_map, Text.flatMap_pieces_eq_iff,
      List.forall_mem_map]

/-- Requests without a comma in an identifier are equal only if they ask for the same identifiers. -/
theorem AsksFor.identifiers_eq {request : List Text} {known known' : List Calendar} {w w' : Window}
    (h : AsksFor request known w) (h' : AsksFor request known' w')
    (hcomma : ∀ k ∈ known, ',' ∉ k.identifier) (hcomma' : ∀ k ∈ known', ',' ∉ k.identifier) :
    known.map Calendar.identifier = known'.map Calendar.identifier := by
  rw [← Option.some.injEq, ← h.faithful.2 hcomma, h'.faithful.2 hcomma']

/-- One calendar with a comma in its title is asked for like two calendars. -/
example (w : Window) :
    eventsRequest [{ title := "A,B".toList }] w =
      eventsRequest [{ title := "A".toList }, { title := "B".toList }] w := rfl

end Listing

end AgendaLinks
