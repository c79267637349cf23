import AgendaLinks.Proofs.Link.Augmentation

/-!
Hosts and the kinds of links. A host counts for a domain if it is the domain or ends with it behind a
point, so it cannot count for two domains unless one of them lies below the other. The kind of a link is
told by its host, and for one service by its path too; what else is written in the link says nothing.
-/

namespace AgendaLinks.Link

open Text Uri

/-- A host that is a domain, or has the domain behind a point. -/
def IsOf (domain host : Text) : Prop := host = domain ∨ ∃ name, host = name ++ '.' :: domain

theorem isWithin_iff {domain host : Text} : isWithin domain host = true ↔ IsOf domain host := by
  rw [isWithin, Bool.or_eq_true, beq_iff_eq, endsWith, List.isSuffixOf_iff_suffix, IsOf]
  exact or_congr_right ⟨fun ⟨name, h⟩ => ⟨name, h.symm⟩, fun ⟨name, h⟩ => ⟨name, h.symm⟩⟩

instance (domain host : Text) : Decidable (IsOf domain host) := decidable_of_iff _ isWithin_iff

/-- With a point before each of them, the host ends with the domain. -/
theorem IsOf.suffix {domain host : Text} (h : IsOf domain host) : '.' :: domain <:+ '.' :: host := by
  rcases h with rfl | ⟨name, rfl⟩
  · exact List.suffix_rfl
  · exact ⟨'.' :: name, rfl⟩

/-- Of two domains of one host one lies below the other. -/
theorem IsOf.nested {domain domain' host : Text} (h : IsOf domain host) (h' : IsOf domain' host) :
    '.' :: domain <:+ '.' :: domain' ∨ '.' :: domain' <:+ '.' :: domain :=
  List.suffix_or_suffix_of_suffix h.suffix h'.suffix

/-- Hosts of a service whose links lead to meetings. -/
def IsMeetingHost (host : Text) : Prop :=
  (IsOf "zoom.us".toList host ∨ IsOf "zoom.com".toList host) ∨ host = "meet.google.com".toList ∨
    host = "whereby.com".toList

instance (host : Text) : Decidable (IsMeetingHost host) := inferInstanceAs (Decidable (_ ∨ _))

/-- Hosts whose links are passed over: those of one service for some of its paths, and two others. -/
def IsSkipped (host path : Text) : Prop :=
  (IsOf "slack.com".toList host ∧ "/team/".toList <+: path) ∨ host = "tel.meet".toList ∨
    host = "www.getclockwise.com".toList

instance (host path : Text) : Decidable (IsSkipped host path) :=
  inferInstanceAs (Decidable (_ ∨ _))

theorem isZoomHost_iff {host : Text} :
    isZoomHost host = true ↔ IsOf "zoom.us".toList host ∨ IsOf "zoom.com".toList host := by
  rw [isZoomHost, Bool.or_eq_true, isWithin_iff, isWithin_iff]

theorem isMeetingHost_iff {host : Text} : IsMeetingHost host ↔
    isZoomHost host = true ∨ isMeetHost host = true ∨ isWherebyHost host = true := by
  rw [IsMeetingHost, isZoomHost_iff, isMeetHost, isWherebyHost, beq_iff_eq, beq_iff_eq]

theorem isSkipped_iff {host path : Text} : IsSkipped host path ↔
    (isSlackHost host = true ∧ startsWith path "/team/".toList = true) ∨
      isDroppedHost host = true := by
  rw [IsSkipped, isSlackHost, isWithin_iff, startsWith, List.isPrefixOf_iff_prefix, isDroppedHost,
    Bool.or_eq_true, beq_iff_eq, beq_iff_eq]

/-- No host of a service for meetings is one of the hosts that are passed over. -/
theorem IsMeetingHost.not_isSkipped {host : Text} (h : IsMeetingHost host) (path : Text) :
    ¬IsSkipped host path := by
  rintro (⟨hslack, -⟩ | hdropped)
  · rcases h with (hzoom | hzoom) | rfl | rfl
    · exact absurd (hzoom.nested hslack) (by decide)
    · exact absurd (hzoom.nested hslack) (by decide)
    · exact absurd (isWithin_iff.2 hslack) (by decide)
    · exact absurd (isWithin_iff.2 hslack) (by decide)
  · have hnone : ∀ host ∈ ["tel.meet".toList, "www.getclockwise.com".toList],
        ¬(isZoomHost host = true ∨ isMeetHost host = true ∨ isWherebyHost host = true) := by
      decide
    exact hnone host (by simpa using hdropped) (isMeetingHost_iff.1 h)

section

variable {host path : Text}

theorem kindOf_eq_none_iff : kindOf host path = none ↔ IsSkipped host path := by
  rw [isSkipped_iff, kindOf]
  split_ifs with hteam hdropped hmeeting <;> simp_all

theorem kindOf_eq_meeting_iff : kindOf host path = some .meeting ↔ IsMeetingHost host := by
  rw [kindOf_eq_meeting, ← isMeetingHost_iff]
  refine ⟨fun h => h.2.2, fun h => ?_⟩
  have hkept := h.not_isSkipped path
  rw [isSkipped_iff, not_or, Bool.not_eq_true (isDroppedHost host)] at hkept
  exact ⟨hkept.1, hkept.2, h⟩

theorem kindOf_eq_other_iff :
    kindOf host path = some .other ↔ ¬IsSkipped host path ∧ ¬IsMeetingHost host := by
  rw [← kindOf_eq_none_iff, ← @kindOf_eq_meeting_iff host path]
  cases kindOf host path with
  | none => simp
  | some kind => cases kind <;> simp

end

/-- Characters of a user, a host or a port. -/
def IsServerChar (c : Char) : Prop :=
  33 ≤ c.toNat ∧ c.toNat ≤ 126 ∧ c ∉ ['/', '?', '#', '[', ']']

instance (c : Char) : Decidable (IsServerChar c) := inferInstanceAs (Decidable (_ ∧ _))

theorem IsServerChar.not_isBlank {c : Char} (h : IsServerChar c) : isBlank c = false := by
  obtain ⟨hfirst, hlast, -⟩ := h
  simp only [isBlank]
  split_ifs <;> simp <;> omega

/-- What a link is composed of. The user is told from the host by the last at sign, and the port by the
first colon behind it. -/
structure WebLink where
  scheme : Text
  user : Option Text := none
  host : Text
  port : Option Text := none
  path : Text := []
  query : Option Text := none
  fragment : Option Text := none
  scheme_mem : scheme ∈ ["http".toList, "https".toList]
  server_chars : ∀ c ∈ user.getD [] ++ host ++ port.getD [], IsServerChar c
  host_chars : ∀ c ∈ host, c ≠ ':' ∧ c ≠ '@'
  port_chars : ∀ c ∈ port.getD [], c ≠ '@'
  path_rooted : ∀ c ∈ path.head?, c = '/'
  path_chars : ∀ c ∈ path, isBlank c = false ∧ c ≠ '?' ∧ c ≠ '#'
  query_chars : ∀ c ∈ query.getD [], isBlank c = false ∧ c ≠ '#'
  fragment_chars : ∀ c ∈ fragment.getD [], isBlank c = false

namespace WebLink

variable (l : WebLink)

/-- The user, the host and the port with the marks between them. -/
def server : Text := l.user.elim [] (· ++ ['@']) ++ l.host ++ marked ':' l.port

def text : Text :=
  l.scheme ++ "://".toList ++ l.server ++ l.path ++ marked '?' l.query ++ marked '#' l.fragment

def parts : Uri :=
  { scheme := l.scheme
    authority := l.server
    path := l.path
    query := l.query.getD []
    fragment := l.fragment.getD [] }

theorem mem_server {c : Char} (hc : c ∈ l.server) : IsServerChar c := by
  have hmarks : IsServerChar '@' ∧ IsServerChar ':' := by
    decide
  rw [server, List.mem_append, List.mem_append] at hc
  rcases hc with (hc | hc) | hc
  · cases huser : l.user with
    | none => simp [huser] at hc
    | some user =>
        rw [huser, Option.elim_some, List.mem_append, List.mem_singleton] at hc
        rcases hc with hc | rfl
        · exact l.server_chars c (by simp [huser, hc])
        · exact hmarks.1
  · exact l.server_chars c (by simp [hc])
  · rcases mem_marked hc with rfl | hc
    · exact hmarks.2
    · exact l.server_chars c (by simp [hc])

theorem isPlainAuthority_server : IsPlainAuthority l.server := by
  intro c hc
  obtain ⟨-, hlast, hmarks⟩ := l.mem_server hc
  simp only [List.mem_cons, not_or] at hmarks
  exact ⟨by omega, hmarks.2.2.2.1, hmarks.2.2.2.2.1⟩

/-- The parts of a link stand in it one after the other. -/
def spelling : Spelling l.parts where
  query := l.query
  fragment := l.fragment
  query_eq := rfl
  fragment_eq := rfl
  scheme_mem := by
    have hschemes : ∀ t ∈ ["http".toList, "https".toList], t ∈ schemes := by
      decide
    exact hschemes _ l.scheme_mem
  undelimited := by
    intro c hc
    obtain ⟨-, -, hmarks⟩ := l.mem_server hc
    simp only [List.mem_cons, not_or] at hmarks
    simp [endsAuthority, hmarks]
  rooted := l.path_rooted
  path_open := fun c hc => (l.path_chars c hc).2
  query_open := fun hmem => (l.query_chars _ hmem).2 rfl
  clean := by
    intro c hc
    apply isPassedOver_eq_false (p := (!isBlank ·)) (by decide)
    rw [Bool.not_eq_true']
    rw [List.mem_append, List.mem_append, List.mem_append] at hc
    rcases hc with ((hc | hc) | hc) | hc
    · exact (l.mem_server hc).not_isBlank
    · exact (l.path_chars c hc).1
    · exact (l.query_chars c hc).1
    · exact l.fragment_chars c hc

theorem text_spelling : l.spelling.text = l.text := by
  simp [Spelling.text, Spelling.tail, spelling, parts, text]

/-- No at sign stands behind the user, so the last one of the server is the one behind the user. -/
theorem hostAndPort_server : hostAndPort l.server = l.host ++ marked ':' l.port := by
  have hat : '@' ∉ l.host ++ marked ':' l.port := by
    intro hmem
    rcases List.mem_append.1 hmem with hhost | hport
    · exact (l.host_chars _ hhost).2 rfl
    · rcases mem_marked hport with hmark | hport
      · exact absurd hmark (by decide)
      · exact l.port_chars _ hport rfl
  rw [hostAndPort, server]
  cases l.user with
  | none => simp [cutLast_of_not_mem hat]
  | some user => simp [cutLast_append user hat]

theorem host_parts : l.parts.host = lower l.host := by
  have hcolon : ':' ∉ l.host := fun hmem => (l.host_chars _ hmem).1 rfl
  have hwritten : writtenHost l.server = l.host := by
    rw [writtenHost_of_plain l.isPlainAuthority_server, hostAndPort_server, cut_append_marked hcolon]
  rw [host_of_plain l.isPlainAuthority_server]
  exact congrArg lower hwritten

end WebLink

/-- The host in small letters and the path tell the kind of a link, whatever stands in it for the user,
the port, the query and the fragment. -/
theorem kind?_webLink (l : WebLink) :
    ∃ kind, kind? l.text = .ok kind ∧
      (kind = none ↔ IsSkipped (lower l.host) l.path) ∧
      (kind = some .meeting ↔ IsMeetingHost (lower l.host)) ∧
      (kind = some .other ↔ ¬IsSkipped (lower l.host) l.path ∧ ¬IsMeetingHost (lower l.host)) ∧
      ∀ l' : WebLink, lower l'.host = lower l.host → l'.path = l.path → kind? l'.text = .ok kind := by
  have hkind : ∀ l : WebLink, kind? l.text = .ok (kindOf (lower l.host) l.path) := by
    intro l
    rw [kind?, ← l.text_spelling, l.spelling.ofText_text_of_plain l.isPlainAuthority_server,
      ← l.host_parts]
    rfl
  refine ⟨_, hkind l, kindOf_eq_none_iff, kindOf_eq_meeting_iff, kindOf_eq_other_iff, ?_⟩
  intro l' hhost hpath
  rw [hkind, hhost, hpath]

/-- A link that has hosts of meetings everywhere but in the place of its host. -/
def disguised : WebLink where
  scheme := "https".toList
  user := some "meet.google.com@zoom.us".toList
  host := "Zoom.us.example.ORG".toList
  port := some "zoom.us".toList
  path := "/team/@zoom.us".toList
  query := some "//zoom.us/?j".toList
  fragment := some "@whereby.com#".toList
  scheme_mem := by decide
  server_chars := by decide
  host_chars := by decide
  port_chars := by decide
  path_rooted := by simp
  path_chars := by decide
  query_chars := by decide
  fragment_chars := by decide

theorem kind?_disguised : kind? ("https://meet.google.com@zoom.us@Zoom.us.example.ORG:zoom.us".toList ++
    "/team/@zoom.us?//zoom.us/?j#@whereby.com#".toList) = .ok (some .other) := by
  obtain ⟨kind, hkind, -, -, hother, -⟩ := kind?_webLink disguised
  have htext : disguised.text = "https://meet.google.com@zoom.us@Zoom.us.example.ORG:zoom.us".toList ++
      "/team/@zoom.us?//zoom.us/?j#@whereby.com#".toList := by
    decide +kernel
  rw [← htext, hkind, hother.2 (by decide +kernel)]

end AgendaLinks.Link
