import AgendaLinks.Proofs.Link.Words
import AgendaLinks.Proofs.Uri.Parts

/-!
Links that are found in a text. Each one has its parts written one after the other, so if what stands
there up to the next delimiter is plain, it is a written link.
-/

namespace AgendaLinks.Link

open Text Uri

/-- What stands in a link between the two slashes and the next slash, question mark or number sign. -/
def writtenAuthority (t : Text) : Text := ((afterStart? t).getD []).takeWhile (!endsAuthority ·)

theorem isPassedOver_of_isLinkChar {c : Char} (h : isLinkChar c = true) :
    Uri.isPassedOver c = false := isPassedOver_eq_false (by decide) h

/-- A link is written with its parts one after the other. -/
theorem exists_spelling {t : Text} (h : IsLink t) :
    ∃ u, ∃ s : Spelling u, s.text = t ∧ u.authority = writtenAuthority t := by
  obtain ⟨hbegins, hchars⟩ := h
  obtain ⟨rest, -, hstart⟩ := beginsLink_iff.1 hbegins
  rw [writtenAuthority, hstart, Option.getD_some]
  obtain ⟨start, hmem, rfl⟩ := afterStart?_eq_some_iff.1 hstart
  have hlinks : ∀ start ∈ linkStarts, ∃ scheme ∈ schemes, start = scheme ++ "://".toList := by
    decide
  obtain ⟨scheme, hscheme, rfl⟩ := hlinks start hmem
  have hundelimited : ∀ c ∈ rest.takeWhile (!endsAuthority ·), endsAuthority c = false :=
    fun c hc => by simpa using List.mem_takeWhile_imp hc
  have hdelimited : ∀ c ∈ (rest.dropWhile (!endsAuthority ·)).head?, endsAuthority c = true := by
    intro c hc
    have hhead := List.head?_dropWhile_not (!endsAuthority ·) rest
    rw [Option.mem_def.1 hc] at hhead
    simpa using hhead
  have hclean : ∀ c ∈ rest.takeWhile (!endsAuthority ·) ++ rest.dropWhile (!endsAuthority ·),
      Uri.isPassedOver c = false := by
    intro c hc
    rw [List.takeWhile_append_dropWhile] at hc
    exact isPassedOver_of_isLinkChar (hchars c (List.mem_append_right _ hc))
  refine ⟨_, Spelling.ofTail hscheme hundelimited hdelimited hclean, ?_, rfl⟩
  rw [Spelling.text_ofTail, List.takeWhile_append_dropWhile, List.append_assoc]
  rfl

/-- A link that is found and has a plain authority is a written link. -/
theorem exists_written {t link : Text} (h : link ∈ find t)
    (hplain : IsPlainAuthority (writtenAuthority link)) : ∃ w : Written, w.text = link := by
  obtain ⟨u, s, rfl, hauthority⟩ := exists_spelling (exists_mem_find_iff.1 ⟨t, h⟩)
  rw [← hauthority] at hplain
  obtain ⟨w, htext, -⟩ := s.exists_written hplain
  exact ⟨w, htext⟩

/-- The links of an event, none if its texts cannot be read. -/
def extracted (e : Event) : List Text := (ofEvent e).toOption.getD []

theorem exists_of_mem_findIn {t link : Text} {links : List Text} (h : findIn t = .ok links)
    (hlink : link ∈ links) : ∃ shown, link ∈ find shown := by
  rw [findIn] at h
  split_ifs at h
  · obtain ⟨shown, -, rfl⟩ := exists_of_map_eq_ok h
    exact ⟨shown, hlink⟩
  · cases h
    exact ⟨t, hlink⟩

theorem exists_of_mem_extracted {e : Event} {link : Text} (h : link ∈ extracted e) :
    ∃ shown, link ∈ find shown := by
  rw [extracted] at h
  cases hfound : ofEvent e with
  | error fault =>
      rw [hfound] at h
      cases h
  | ok found =>
      rw [hfound] at h
      obtain ⟨parts, hparts, rfl⟩ := exists_of_map_eq_ok hfound
      obtain ⟨links, hlinks, hlink⟩ := List.mem_flatten.1 h
      obtain ⟨t, -, hfind⟩ := exists_of_mem_of_forall₂ (forall₂_of_mapM_eq_ok hparts) hlinks
      exact exists_of_mem_findIn hfind hlink

end AgendaLinks.Link
