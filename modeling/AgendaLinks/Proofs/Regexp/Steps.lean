import AgendaLinks.Regexp.Reader
import Mathlib.Data.List.Infix
import Mathlib.Tactic.SplitIfs

/-!
What the readers of a regular expression can come to. A reader that is sound goes on in the text or
stops at a flaw of it. The other ways to stop have their grounds in the text as well: a number of
repetitions that is too large stands in it, digit by digit, or letters that ask for two kinds of
characters at once stand behind the openings of groups.
-/

namespace AgendaLinks.Regexp

/-- Digits stand one after the other among the signs of a text. -/
def HasNumber (all : List Token) (digits : Text) : Prop :=
  ∃ before run after, all = before ++ run ++ after ∧ run.map Token.sign = digits.map .plain ∧
    ∀ c ∈ digits, c.isDigit = true

/-- Signs follow an opening bracket and a question mark, not necessarily at once. -/
def IsOptional (all rest : List Token) : Prop :=
  ∃ before opened asked between, all = before ++ opened :: asked :: (between ++ rest) ∧
    opened.sign = .plain '(' ∧ asked.sign = .plain '?'

/-- A letter stands behind an opening bracket and a question mark. -/
def HasOption (all : List Token) (c : Char) : Prop :=
  ∃ rest t, IsOptional all rest ∧ t ∈ rest ∧ t.sign = .plain c

/-- The grounds that a text has to have for a fault. -/
inductive Grounds (all : List Token) : Fault → Prop where
  | flawed (flaw : Flaw) (place : Option Nat) : Grounds all (.flawed flaw place)
  | repeatTooLarge {digits : Text} : HasNumber all digits → digits.length ≤ 4300 →
      4294967295 ≤ Reader.number 10 digits → Grounds all .repeatTooLarge
  | tooManyDigits {digits : Text} : HasNumber all digits → 4300 < digits.length →
      Grounds all (.tooManyDigits digits.length)
  | kindsClash : HasOption all 'a' → HasOption all 'u' → Grounds all .kindsClash

/-- A reading is at a place of the text, and its options have been asked for before. -/
structure Sound (all : List Token) (r : Reading) : Prop where
  rest : r.rest <:+ all
  ascii : r.options.ascii = true → HasOption all 'a'
  unicode : r.unicodeAsked = true → HasOption all 'u'

variable {all : List Token} {r r' : Reading}

theorem Sound.go (h : Sound all r) {rest : List Token} (hrest : rest <:+ r.rest) :
    Sound all { r with rest } :=
  ⟨hrest.trans h.rest, h.ascii, h.unicode⟩

/-- Digits that are taken from the front of what is left stand in the text. -/
theorem Sound.hasNumber (h : Sound all r) {run rest : List Token} {digits : Text}
    (hrest : r.rest = run ++ rest) (hsigns : run.map Token.sign = digits.map .plain)
    (hdigits : ∀ c ∈ digits, c.isDigit = true) : HasNumber all digits := by
  obtain ⟨before, hall⟩ := h.rest
  refine ⟨before, run, rest, ?_, hsigns, hdigits⟩
  rw [← hall, hrest, List.append_assoc]

theorem IsOptional.suffix {rest rest' : List Token} (h : IsOptional all rest) (hrest : rest' <:+ rest) :
    IsOptional all rest' := by
  obtain ⟨before, opened, asked, between, rfl, hopened, hasked⟩ := h
  obtain ⟨more, rfl⟩ := hrest
  exact ⟨before, opened, asked, between ++ more, by simp, hopened, hasked⟩

theorem IsOptional.hasOption {t : Token} {rest : List Token} {c : Char} (h : IsOptional all r.rest)
    (hrest : r.rest = t :: rest) (hsign : t.sign = .plain c) : HasOption all c := by
  refine ⟨r.rest, t, h, ?_, hsign⟩
  rw [hrest]
  exact List.mem_cons_self

namespace Reader

variable {α β : Type} {m : Reader α} {f : α → Reader β} {Post Mid : α → Reading → Prop}
  {Last : β → Reading → Prop}

/-- A reader comes to an answer and a place with a property, or to a fault that has its grounds. -/
def Leads (all : List Token) (m : Reader α) (r : Reading) (Post : α → Reading → Prop) : Prop :=
  (∃ a r', m.run r = .ok (a, r') ∧ Post a r') ∨ ∃ fault, m.run r = .error fault ∧ Grounds all fault

theorem Leads.imp (h : Leads all m r Mid) (hpost : ∀ a r', Mid a r' → Post a r') :
    Leads all m r Post := by
  rcases h with ⟨a, r', hrun, hmid⟩ | hfault
  · exact Or.inl ⟨a, r', hrun, hpost a r' hmid⟩
  · exact Or.inr hfault

theorem leads_pure {a : α} (h : Post a r) : Leads all (pure a) r Post := Or.inl ⟨a, r, rfl, h⟩

theorem leads_throw {fault : Fault} (h : Grounds all fault) : Leads all (throw fault : Reader α) r Post :=
  Or.inr ⟨fault, rfl, h⟩

theorem leads_bind (h : Leads all m r Mid) (hf : ∀ a r', Mid a r' → Leads all (f a) r' Last) :
    Leads all (m >>= f) r Last := by
  rcases h with ⟨a, r', hrun, hmid⟩ | ⟨fault, hrun, hgrounds⟩
  · have hnext : (m >>= f).run r = (f a).run r' := by
      rw [StateT.run_bind, hrun]
      rfl
    rw [Leads, hnext]
    exact hf a r' hmid
  · refine Or.inr ⟨fault, ?_, hgrounds⟩
    rw [StateT.run_bind, hrun]
    rfl

theorem leads_get_bind {f : Reading → Reader β} (h : Leads all (f r) r Last) :
    Leads all (get >>= f) r Last := h

theorem leads_modify {g : Reading → Reading} {Post : PUnit → Reading → Prop} (h : Post ⟨⟩ (g r)) :
    Leads all (modify g) r Post := Or.inl ⟨⟨⟩, g r, rfl, h⟩

theorem leads_ite {c : Prop} [Decidable c] {m' : Reader α} (hm : Leads all m r Mid)
    (hm' : Leads all m' r Mid) : Leads all (if c then m else m') r Mid := by
  split_ifs
  · exact hm
  · exact hm'

theorem leads_either {c : Prop} [Decidable c] {m' : Reader α} (hm : Leads all m r Mid)
    (hm' : Leads all m' r Mid) (hf : ∀ a r', Mid a r' → Leads all (f a) r' Last) :
    Leads all (if c then m >>= f else m' >>= f) r Last :=
  leads_ite (leads_bind hm hf) (leads_bind hm' hf)

/-- A place of the text that is sound, and not before another one. -/
structure Later (all : List Token) (r r' : Reading) : Prop where
  sound : Sound all r'
  rest : r'.rest <:+ r.rest

theorem Later.refl (hr : Sound all r) : Later all r r := ⟨hr, List.suffix_refl _⟩

theorem Later.trans {r'' : Reading} (h : Later all r r') (h' : Later all r' r'') : Later all r r'' :=
  ⟨h'.sound, h'.rest.trans h.rest⟩

theorem Later.length_le (h : Later all r r') : r'.rest.length ≤ r.rest.length :=
  h.rest.length_le

/-- From any place of the text with so many tokens left at most, a reader leads to a later one, or it
stops with grounds. -/
def Safe (all : List Token) (k : Nat) (m : Reader α) : Prop :=
  ∀ r, Sound all r → r.rest.length ≤ k → Leads all m r fun _ r' => Later all r r'

variable {k : Nat}

/-- A sound reader goes on from a later place. -/
theorem Safe.leads (h : Safe all k m) (hlater : Later all r r') (hlength : r'.rest.length ≤ k) :
    Leads all m r' fun _ r'' => Later all r r'' :=
  (h r' hlater.sound hlength).imp fun _ _ => hlater.trans

theorem safe_pure (a : α) : Safe all k (pure a : Reader α) :=
  fun _ hr _ => leads_pure (.refl hr)

theorem safe_throw {fault : Fault} (h : Grounds all fault) : Safe all k (throw fault : Reader α) :=
  fun _ _ _ => leads_throw h

theorem safe_bind (hm : Safe all k m) (hf : ∀ a, Safe all k (f a)) : Safe all k (m >>= f) := by
  intro r hr hlength
  apply leads_bind (hm r hr hlength)
  intro a r' hlater
  exact (hf a).leads hlater (hlater.length_le.trans hlength)

theorem safe_get_bind {f : Reading → Reader β} (hf : ∀ r, Safe all k (f r)) : Safe all k (get >>= f) :=
  fun r hr hlength => leads_get_bind (hf r r hr hlength)

/-- What is known of the text does not depend on groups, names and numbers. -/
theorem safe_modify {g : Reading → Reading} (hrest : ∀ r, (g r).rest = r.rest)
    (hoptions : ∀ r, (g r).options = r.options) (hasked : ∀ r, (g r).unicodeAsked = r.unicodeAsked) :
    Safe all k (modify g) := by
  intro r hr _
  apply leads_modify
  refine ⟨⟨?_, ?_, ?_⟩, ?_⟩
  · rw [hrest]
    exact hr.rest
  · rw [hoptions]
    exact hr.ascii
  · rw [hasked]
    exact hr.unicode
  · rw [hrest]

theorem safe_ite {c : Prop} [Decidable c] {m' : Reader α} (hm : Safe all k m) (hm' : Safe all k m') :
    Safe all k (if c then m else m') := by
  split_ifs
  · exact hm
  · exact hm'

/-- Something is done first under a condition, and the rest follows in any case. -/
theorem safe_when {c : Prop} [Decidable c] {m : Reader PUnit} {f : PUnit → Reader β}
    (hm : Safe all k m) (hf : Safe all k (f ⟨⟩)) : Safe all k (if c then m >>= f else f ⟨⟩) :=
  safe_ite (safe_bind hm fun _ => hf) hf

theorem safe_unless {c : Prop} [Decidable c] {m : Reader PUnit} {f : PUnit → Reader β}
    (hm : Safe all k m) (hf : Safe all k (f ⟨⟩)) : Safe all k (if c then f ⟨⟩ else m >>= f) :=
  safe_ite hf (safe_bind hm fun _ => hf)

/-- One of two is done first, and the rest follows in any case. -/
theorem safe_either {c : Prop} [Decidable c] {m' : Reader α} (hm : Safe all k m) (hm' : Safe all k m')
    (hf : ∀ a, Safe all k (f a)) : Safe all k (if c then m >>= f else m' >>= f) :=
  safe_ite (safe_bind hm hf) (safe_bind hm' hf)

theorem leads_peek_bind {f : Option Sign → Reader β}
    (h : Leads all (f (r.rest.head?.map Token.sign)) r Last) : Leads all (peek >>= f) r Last := h

theorem safe_peek : Safe all k peek := safe_get_bind fun _ => safe_pure _

theorem safe_place : Safe all k place := safe_get_bind fun _ => safe_pure _

theorem safe_failAt (flaw : Flaw) (place : Nat) : Safe all k (failAt flaw place : Reader α) :=
  safe_throw (.flawed flaw (some place))

theorem safe_fail (flaw : Flaw) (back : Nat) : Safe all k (fail flaw back : Reader α) :=
  safe_bind safe_place fun _ => safe_failAt _ _

theorem leads_goTo (rest : List Token) : Leads all (goTo rest) r fun _ r' => r' = { r with rest } := by
  unfold goTo
  split
  · exact leads_throw (.flawed _ _)
  · exact leads_modify rfl

theorem leads_next {Post : Option Sign → Reading → Prop} (hend : r.rest = [] → Post none r)
    (hsign : ∀ t rest, r.rest = t :: rest → Post (some t.sign) { r with rest }) :
    Leads all next r Post := by
  apply leads_get_bind
  cases hrest : r.rest with
  | nil => exact leads_pure (hend hrest)
  | cons t rest =>
      apply leads_bind (leads_goTo rest)
      rintro - r' rfl
      exact leads_pure (hsign t rest hrest)

theorem leads_accept {c : Char} {Post : Bool → Reading → Prop} (hother : Post false r)
    (hsame : ∀ t rest, r.rest = t :: rest → t.sign = .plain c → Post true { r with rest }) :
    Leads all (accept c) r Post := by
  apply leads_get_bind
  cases hrest : r.rest with
  | nil => exact leads_pure hother
  | cons t rest =>
      dsimp only
      split_ifs with hsign
      · apply leads_bind (leads_goTo rest)
        rintro - r' rfl
        exact leads_pure (hsame t rest hrest hsign)
      · exact leads_pure hother

/-- The place behind tokens. -/
theorem Later.skip (hr : Sound all r) {run : List Token} (hrun : r.rest = run ++ r'.rest)
    (hr' : r' = { r with rest := r'.rest }) : Later all r r' := by
  have hsuffix : r'.rest <:+ r.rest := ⟨run, hrun.symm⟩
  refine ⟨?_, hsuffix⟩
  rw [hr']
  exact hr.go hsuffix

theorem Later.step (hr : Sound all r) {t : Token} {rest : List Token} (hrest : r.rest = t :: rest) :
    Later all r { r with rest } := by
  have hrun : r.rest = [t] ++ rest := hrest
  exact .skip hr hrun rfl

theorem safe_next : Safe all k next :=
  fun _ hr _ => leads_next (fun _ => .refl hr) fun _ _ => .step hr

theorem safe_accept (c : Char) : Safe all k (accept c) :=
  fun _ hr _ => leads_accept (.refl hr) fun _ _ hrest _ => .step hr hrest

/-- What is taken stands in the text sign by sign, and each of its characters passes the test. -/
theorem leads_takeWhile (test : Char → Bool) (n : Nat) : ∀ r : Reading,
    Leads all (takeWhile test n) r fun taken r' => ∃ run, r.rest = run ++ r'.rest ∧
      run.map Token.sign = taken.map .plain ∧ (∀ c ∈ taken, test c = true) ∧
      r' = { r with rest := r'.rest } := by
  induction n with
  | zero => exact fun r => leads_pure ⟨[], rfl, rfl, nofun, rfl⟩
  | succ n ih =>
      intro r
      have hnone : Leads all (pure []) r fun taken r' => ∃ run, r.rest = run ++ r'.rest ∧
          run.map Token.sign = taken.map Sign.plain ∧ (∀ c ∈ taken, test c = true) ∧
          r' = { r with rest := r'.rest } := leads_pure ⟨[], rfl, rfl, nofun, rfl⟩
      rw [takeWhile]
      apply leads_peek_bind
      split
      · rename_i c hc
        split_ifs with htest
        · have hnext : Leads all next r fun _ r' =>
              ∃ t, r.rest = t :: r'.rest ∧ r' = { r with rest := r'.rest } := by
            apply leads_next
            · intro hend
              rw [hend] at hc
              cases hc
            · exact fun t rest hrest => ⟨t, hrest, rfl⟩
          apply leads_bind hnext
          rintro - r' ⟨t, hrest, hr'⟩
          rw [hrest, List.head?_cons, Option.map_some, Option.some.injEq] at hc
          apply leads_bind (ih r')
          rintro taken r'' ⟨run, hrun, hsigns, htaken, hr''⟩
          apply leads_pure
          refine ⟨t :: run, ?_, ?_, ?_, ?_⟩
          · rw [hrest, hrun, List.cons_append]
          · rw [List.map_cons, List.map_cons, hc, hsigns]
          · exact List.forall_mem_cons.2 ⟨htest, htaken⟩
          · rw [hr'', hr']
        · exact hnone
      · exact hnone

theorem safe_takeWhile (test : Char → Bool) (n : Nat) : Safe all k (takeWhile test n) := by
  intro r hr _
  apply (leads_takeWhile test n r).imp
  rintro taken r' ⟨run, hrun, -, -, hr'⟩
  exact .skip hr hrun hr'

theorem safe_takeUntil (terminator : Char) (what : String) (n : Nat) (done : Text) :
    Safe all k (takeUntil terminator what n done) := by
  induction n generalizing done with
  | zero => exact safe_fail _ _
  | succ n ih =>
      rw [takeUntil]
      apply safe_bind safe_next
      intro sign
      cases sign with
      | none => exact safe_ite (safe_fail _ _) (safe_fail _ _)
      | some sign => exact safe_ite (safe_ite (safe_fail _ _) (safe_pure _)) (ih _)

theorem safe_name (terminator : Char) (what : String) : Safe all k (name terminator what) :=
  safe_get_bind fun _ => safe_takeUntil _ _ _ _

theorem safe_checkName (name : Text) : Safe all k (checkName name) :=
  safe_ite (safe_pure _) (safe_fail _ _)

theorem safe_skipTo (stop : Char) (n : Nat) : Safe all k (skipTo stop n) := by
  induction n with
  | zero => exact safe_pure _
  | succ n ih =>
      rw [skipTo]
      apply safe_bind safe_next
      intro sign
      cases sign with
      | none => exact safe_pure _
      | some sign => exact safe_ite (safe_pure _) ih

theorem safe_commonEscape (c : Char) : Safe all k (commonEscape c) := by
  unfold commonEscape
  split
  · apply safe_bind (safe_takeWhile _ _)
    intro digits
    apply safe_when (safe_fail _ _)
    exact safe_when (safe_fail _ _) (safe_pure _)
  · apply safe_ite
    · apply safe_bind (safe_accept _)
      intro opened
      apply safe_unless (safe_fail _ _)
      apply safe_bind (safe_name _ _)
      intro name
      split
      · exact safe_pure _
      · exact safe_fail _ _
    · exact safe_ite (safe_fail _ _) (safe_pure _)

theorem safe_octal (digits : Text) : Safe all k (octal digits) := by
  unfold octal
  exact safe_when (safe_fail _ _) (safe_pure _)

theorem safe_memberEscape (c : Char) : Safe all k (memberEscape c) := by
  unfold memberEscape
  split
  · exact safe_pure _
  · exact safe_pure _
  · apply safe_ite
    · apply safe_bind (safe_takeWhile _ _)
      exact fun digits => safe_bind (safe_octal _) fun _ => safe_pure _
    · exact safe_bind (safe_commonEscape _) fun _ => safe_pure _

theorem safe_isClosed (group : Nat) : Safe all k (isClosed group) := by
  apply safe_get_bind
  intro r
  split <;> exact safe_pure _

theorem safe_checkBehind (group : Nat) : Safe all k (checkBehind group) := by
  apply safe_get_bind
  intro r
  cases r.behindFrom with
  | none => exact safe_pure _
  | some first =>
      apply safe_bind (safe_isClosed group)
      intro closed
      exact safe_unless (safe_fail _ _) (safe_ite (safe_fail _ _) (safe_pure _))

theorem safe_digitEscape (options : Options) (c : Char) : Safe all k (digitEscape options c) := by
  unfold digitEscape
  apply safe_bind (safe_takeWhile _ _)
  intro second
  apply safe_either (safe_takeWhile _ _) (safe_pure _)
  intro third
  apply safe_ite (safe_bind (safe_octal _) fun _ => safe_pure _)
  apply safe_get_bind
  intro r
  apply safe_when (safe_fail _ _)
  apply safe_bind (safe_isClosed _)
  intro closed
  apply safe_unless (safe_fail _ _)
  exact safe_bind (safe_checkBehind _) fun _ => safe_pure _

theorem safe_escape (options : Options) (c : Char) : Safe all k (escape options c) := by
  unfold escape
  split
  · exact safe_pure _
  · exact safe_pure _
  · exact safe_pure _
  · apply safe_ite
    · exact safe_bind (safe_takeWhile _ _) fun _ => safe_pure _
    · apply safe_ite
      · exact safe_digitEscape _ _
      · exact safe_bind (safe_commonEscape _) fun _ => safe_pure _

theorem safe_setSign (sign : Sign) : Safe all k (setSign sign) := by
  cases sign with
  | plain c => exact safe_pure _
  | escaped c => exact safe_memberEscape _
  | stray => exact safe_pure _

theorem safe_setMembers (opened n : Nat) (done : List Member) : Safe all k (setMembers opened n done) := by
  induction n generalizing done with
  | zero => exact safe_failAt _ _
  | succ n ih =>
      rw [setMembers]
      apply safe_bind safe_next
      intro sign
      cases sign with
      | none => exact safe_failAt _ _
      | some sign =>
          apply safe_ite (safe_pure _)
          apply safe_bind (safe_setSign _)
          intro first
          apply safe_bind (safe_accept _)
          intro span
          apply safe_ite _ (ih _)
          apply safe_bind safe_next
          intro sign'
          cases sign' with
          | none => exact safe_failAt _ _
          | some sign' =>
              apply safe_ite (safe_pure _)
              apply safe_bind (safe_setSign _)
              intro last
              dsimp only
              split
              · exact safe_ite (safe_fail _ _) (ih _)
              · exact safe_fail _ _

theorem safe_set (options : Options) (opened : Nat) : Safe all k (set options opened) := by
  unfold set
  apply safe_bind (safe_accept _)
  intro negated
  apply safe_get_bind
  intro r
  exact safe_bind (safe_setMembers _ _ _) fun _ => safe_pure _

/-- A number that stands in the text is refused on its own grounds. -/
theorem safe_repeatCount? {digits : Text} (hdigits : HasNumber all digits) :
    Safe all k (repeatCount? digits) := by
  unfold repeatCount?
  apply safe_ite (safe_pure _)
  split_ifs with hmany
  · exact safe_throw (.tooManyDigits hdigits hmany)
  · dsimp only
    split_ifs with hlarge
    · exact safe_throw (.repeatTooLarge hdigits (not_lt.1 hmany) hlarge)
    · exact safe_pure _

/-- Digits are taken from the text, and nothing is changed but the place. -/
theorem leads_digits (hr : Sound all r) (n : Nat) :
    Leads all (takeWhile Char.isDigit n) r fun digits r' =>
      HasNumber all digits ∧ Later all r r' ∧ r' = { r with rest := r'.rest } := by
  apply (leads_takeWhile Char.isDigit n r).imp
  rintro digits r' ⟨run, hrun, hsigns, hdigits, hr'⟩
  exact ⟨hr.hasNumber hrun hsigns hdigits, .skip hr hrun hr', hr'⟩

theorem safe_braces? (after : Nat) : Safe all k (braces? after) := by
  intro r hr hlength
  have hdigits {r' : Reading} (hlater : Later all r r') (hr' : r' = { r with rest := r'.rest }) (n : Nat) :
      Leads all (takeWhile Char.isDigit n) r' fun digits r'' =>
        HasNumber all digits ∧ Later all r r'' ∧ r'' = { r with rest := r''.rest } := by
    apply (leads_digits hlater.sound n).imp
    rintro digits r'' ⟨hnumber, hlater', hr''⟩
    exact ⟨hnumber, hlater.trans hlater', hr''.trans (by rw [hr'])⟩
  have haccept {r' : Reading} (hlater : Later all r r') (hr' : r' = { r with rest := r'.rest }) (c : Char) :
      Leads all (accept c) r' fun _ r'' => Later all r r'' ∧ r'' = { r with rest := r''.rest } := by
    apply leads_accept
    · exact ⟨hlater, hr'⟩
    · intro t rest hrest _
      exact ⟨hlater.trans (.step hlater.sound hrest), by rw [hr']⟩
  unfold braces?
  apply leads_peek_bind
  split_ifs
  · exact leads_pure (.refl hr)
  apply leads_get_bind
  apply leads_bind (hdigits (.refl hr) rfl _)
  rintro low r₁ ⟨hlow, hlater₁, hr₁⟩
  apply leads_bind (haccept hlater₁ hr₁ ',')
  rintro comma r₂ ⟨hlater₂, hr₂⟩
  apply leads_either (hdigits hlater₂ hr₂ _) (leads_pure ⟨hlow, hlater₂, hr₂⟩)
  rintro high r₃ ⟨hhigh, hlater₃, hr₃⟩
  apply leads_bind (haccept hlater₃ hr₃ '\x7d')
  rintro closed r₄ ⟨hlater₄, hr₄⟩
  split_ifs
  · apply Safe.leads _ hlater₄ le_rfl
    apply safe_bind (safe_repeatCount? hlow)
    intro least
    apply safe_bind (safe_repeatCount? hhigh)
    intro most
    exact safe_when (safe_failAt _ _) (safe_pure _)
  · apply leads_bind (leads_goTo r.rest)
    rintro - r' hr'
    have hback : r' = r := by rw [hr', hr₄]
    rw [hback]
    exact leads_pure (.refl hr)

theorem safe_repetition? (sign : Sign) (after : Nat) : Safe all k (repetition? sign after) := by
  unfold repetition?
  split
  · exact safe_pure _
  · exact safe_pure _
  · exact safe_pure _
  · exact safe_braces? _
  · exact safe_pure _

theorem safe_greed : Safe all k greed := by
  unfold greed
  apply safe_bind (safe_accept _)
  intro lazy
  apply safe_ite (safe_pure _)
  apply safe_bind (safe_accept _)
  intro possessive
  exact safe_ite (safe_pure _) (safe_pure _)

theorem safe_repeatLast (least : Nat) (most : Option Nat) (after : Nat) (done : List Part) :
    Safe all k (repeatLast least most after done) := by
  unfold repeatLast
  split
  · exact safe_failAt _ _
  · split
    · exact safe_failAt _ _
    · exact safe_failAt _ _
    · exact safe_bind safe_greed fun _ => safe_pure _

theorem safe_simplePart (options : Options) (sign : Sign) (place : Nat) :
    Safe all k (simplePart options sign place) := by
  unfold simplePart
  split
  · apply safe_bind (safe_escape _ _)
    intro tree
    exact safe_pure _
  · exact safe_bind (safe_set _ _) fun _ => safe_pure _
  · exact safe_pure _
  · exact safe_pure _
  · exact safe_pure _
  · exact safe_pure _
  · exact safe_pure _

end Reader

end AgendaLinks.Regexp
