import AgendaLinks.Proofs.Regexp.Openings

/-!
The faults of a regular expression. The fuel of the reader is enough for any text, and so a text that is
no regular expression has a flaw, or it writes a number of repetitions that is too large, or it asks for
two kinds of characters at once.
-/

namespace AgendaLinks.Regexp

namespace Reader

variable {α β : Type} {all : List Token} {r : Reading} {k fuel : Nat}

/-- So much fuel is enough to read all that can be left: three steps for each token. -/
structure Enough (all : List Token) (fuel : Nat) : Prop where
  alternatives : ∀ (k : Nat) (options : Options) (outermost : Bool), 3 * k + 2 ≤ fuel →
    Safe all k (alternatives fuel options outermost)
  after : ∀ (k : Nat) (options : Options) (outermost : Bool) (head : Tree), 3 * k + 1 ≤ fuel →
    Safe all k (alternativesAfter fuel options outermost head)
  parts : ∀ (k : Nat) (options : Options) (start outermost : Bool) (done : List Part),
    3 * k + 1 ≤ fuel → Safe all k (parts fuel options start outermost done)
  group : ∀ (k : Nat) (options : Options) (first : Bool) (place : Nat) (opened : Opening),
    3 * k + 3 ≤ fuel → Safe all k (group fuel options first place opened)

theorem enough_zero : Enough all 0 where
  alternatives _ _ _ hfuel := by omega
  after _ _ _ _ hfuel := by omega
  parts _ _ _ _ _ hfuel := by omega
  group _ _ _ _ _ hfuel := by omega

theorem Enough.safe_alternatives (h : Enough all fuel) (options : Options) (outermost : Bool)
    (hfuel : 3 * k + 2 ≤ fuel + 1) : Safe all k (Reader.alternatives (fuel + 1) options outermost) := by
  rw [Reader.alternatives]
  apply safe_bind
  · apply h.parts
    omega
  · intro head
    apply h.after
    omega

theorem Enough.safe_after (h : Enough all fuel) (options : Options) (outermost : Bool) (head : Tree)
    (hfuel : 3 * k + 1 ≤ fuel + 1) :
    Safe all k (alternativesAfter (fuel + 1) options outermost head) := by
  intro r hr hlength
  have hbar : Leads all (accept '|') r fun bar r' =>
      Later all r r' ∧ (bar = true → r'.rest.length < r.rest.length) := by
    apply leads_accept
    · exact ⟨.refl hr, nofun⟩
    · intro t rest hrest _
      refine ⟨.step hr hrest, fun _ => ?_⟩
      rw [hrest]
      exact Nat.lt_succ_self _
  rw [alternativesAfter]
  apply leads_bind hbar
  rintro bar r' ⟨hlater, hless⟩
  by_cases hbar : bar = true
  · have hless := hless hbar
    rw [if_pos hbar]
    apply Safe.leads _ hlater le_rfl
    apply safe_get_bind
    intro r''
    apply safe_bind
    · apply h.parts
      omega
    · intro second
      apply safe_bind
      · apply h.after
        omega
      · exact fun tree => safe_pure _
  · rw [if_neg hbar]
    exact leads_pure hlater

theorem leads_place_bind {f : Nat → Reader β} {Last : β → Reading → Prop}
    (hf : ∀ place, Leads all (f place) r Last) : Leads all (place >>= f) r Last := hf _

theorem Enough.safe_parts (h : Enough all fuel) (options : Options) (start outermost : Bool)
    (done : List Part) (hfuel : 3 * k + 1 ≤ fuel + 1) :
    Safe all k (Reader.parts (fuel + 1) options start outermost done) := by
  intro r hr hlength
  rw [Reader.parts]
  apply leads_peek_bind
  cases hrest : r.rest with
  | nil => exact leads_pure (.refl hr)
  | cons t rest =>
      rw [List.head?_cons, Option.map_some]
      split
      · exact leads_pure (.refl hr)
      · exact leads_pure (.refl hr)
      · exact leads_pure (.refl hr)
      · rename_i sign hbar hclosed hsign
        have hsign : t.sign = sign := Option.some.inj hsign
        obtain ⟨before, hall⟩ := hr.rest
        have hnext : Leads all next r fun _ r' => r' = { r with rest } := by
          apply leads_next
          · intro hend
            rw [hend] at hrest
            cases hrest
          · intro t' rest' hrest'
            rw [hrest, List.cons.injEq] at hrest'
            rw [hrest'.2]
        have hless : 3 * rest.length + 4 ≤ fuel + 1 := by
          rw [hrest, List.length_cons] at hlength
          omega
        have hparts (options : Options) (done : List Part) :
            Safe all rest.length (Reader.parts fuel options start outermost done) := by
          apply h.parts
          omega
        apply leads_place_bind
        intro place
        apply leads_bind hnext
        rintro - r' rfl
        have hlater : Later all r { r with rest } := .step hr hrest
        apply leads_ite
        · apply Safe.leads _ hlater le_rfl
          apply safe_get_bind
          intro r'
          exact safe_bind (safe_skipTo _ _) fun _ => hparts _ _
        apply leads_ite ((hparts _ _).leads hlater le_rfl)
        by_cases hopen : sign = .plain '('
        · rw [if_pos hopen]
          have hbracket : all = before ++ t :: rest := by rw [← hall, hrest]
          apply leads_bind (leads_opening hlater.sound hbracket (hsign.trans hopen) options place)
          intro opened r' hlater'
          apply Safe.leads _ (hlater.trans hlater') hlater'.length_le
          have hgroup (opened : Opening) : Safe all rest.length
              (Reader.group fuel options (start && done.isEmpty) place opened) := by
            apply h.group
            omega
          apply safe_bind (hgroup opened)
          rintro ⟨part?, options⟩
          exact hparts _ _
        · rw [if_neg hopen]
          apply Safe.leads _ hlater le_rfl
          apply safe_bind (safe_repetition? _ _)
          intro times
          cases times with
          | none => exact safe_bind (safe_simplePart _ _ _) fun _ => hparts _ _
          | some times => exact safe_bind (safe_repeatLast _ _ _ _) fun _ => hparts _ _

theorem Enough.safe_group (h : Enough all fuel) (options : Options) (first : Bool) (place : Nat)
    (opened : Opening) (hfuel : 3 * k + 3 ≤ fuel + 1) :
    Safe all k (Reader.group (fuel + 1) options first place opened) := by
  have hbody (options : Options) : Safe all k (Reader.alternatives fuel options false) := by
    apply h.alternatives
    omega
  have hbranch : Safe all k (Reader.parts fuel options false false []) := by
    apply h.parts
    omega
  rw [Reader.group.eq_def]
  dsimp only
  cases opened with
  | comment => exact safe_pure _
  | wholeOptions =>
      apply safe_unless (safe_failAt _ _)
      exact safe_get_bind fun _ => safe_pure _
  | part tree => exact safe_pure _
  | capture name =>
      apply safe_bind (safe_openGroup _)
      intro group
      apply safe_bind (hbody _)
      intro body
      apply safe_bind (safe_expectEnd _)
      intro _
      exact safe_bind (safe_closeGroup _ _) fun _ => safe_pure _
  | plain inner =>
      apply safe_bind (hbody _)
      intro body
      exact safe_bind (safe_expectEnd _) fun _ => safe_pure _
  | atomic =>
      apply safe_bind (hbody _)
      intro body
      exact safe_bind (safe_expectEnd _) fun _ => safe_pure _
  | look behind negated =>
      apply safe_get_bind
      intro r
      apply safe_when (safe_setBehind _)
      apply safe_bind (hbody _)
      intro body
      apply safe_when (safe_setBehind _)
      apply safe_bind (safe_expectEnd _)
      intro _
      exact safe_bind (safe_widthOf _) fun _ => safe_pure _
  | condition =>
      apply safe_bind safe_conditionGroup
      intro group
      apply safe_bind (safe_checkBehind _)
      intro _
      apply safe_bind hbranch
      intro yes
      apply safe_bind (safe_accept _)
      intro bar
      apply safe_either hbranch (safe_pure _)
      intro no
      apply safe_bind safe_peek
      intro sign
      apply safe_when (safe_fail _ _)
      exact safe_bind (safe_expectEnd _) fun _ => safe_pure _

/-- By induction on the fuel, with the readers that call each other taken together. -/
theorem enough (all : List Token) (fuel : Nat) : Enough all fuel := by
  induction fuel with
  | zero => exact enough_zero
  | succ fuel ih =>
      constructor
      · exact fun k options outermost => ih.safe_alternatives options outermost
      · exact fun k options outermost head => ih.safe_after options outermost head
      · exact fun k options start outermost done => ih.safe_parts options start outermost done
      · exact fun k options first place opened => ih.safe_group options first place opened

theorem safe_checkTree (template : Bool) (tree : Tree) :
    Safe all k (liftM (checkTree template tree) : Reader Unit) := by
  have hflaw (flaw : Flaw) : Safe all k (throw (.flawed flaw none) : Reader PUnit) :=
    safe_throw (.flawed _ _)
  induction tree with
  | empty | symbol | place | again => exact safe_pure _
  | seq a b iha ihb | either a b iha ihb | given group a b iha ihb =>
      rw [checkTree, liftM_bind]
      exact safe_bind iha fun _ => ihb
  | capture group a ih | ahead negated a ih | atomic a ih =>
      rw [checkTree]
      exact ih
  | behind negated width a ih =>
      unfold checkTree
      by_cases hlong : 4294967295 < width.least
      · rw [if_pos hlong]
        exact hflaw _
      · rw [if_neg hlong]
        dsimp only
        split_ifs
        · exact hflaw _
        · exact ih
  | repeated greed least most a ih =>
      unfold checkTree
      split_ifs
      · exact hflaw _
      · exact ih

theorem safe_forIn {f : α → PUnit → Reader (ForInStep PUnit)} (hf : ∀ a, Safe all k (f a ⟨⟩))
    (xs : List α) : Safe all k (forIn xs PUnit.unit f) := by
  induction xs with
  | nil => exact safe_pure _
  | cons x xs ih =>
      rw [List.forIn_cons]
      apply safe_bind (hf x)
      intro step
      cases step with
      | done => exact safe_pure _
      | yield => exact ih

/-- A text is read from its start with no options asked for. -/
theorem leads_whole (hrest : r.rest = all) (hoptions : r.options.ascii = false)
    (hasked : r.unicodeAsked = false) : Leads all whole r fun _ r' => Later all r r' := by
  have hr : Sound all r := by
    refine ⟨?_, ?_, ?_⟩
    · rw [hrest]
    · rw [hoptions]
      nofun
    · rw [hasked]
      nofun
  unfold whole
  apply leads_get_bind
  apply leads_bind (leads_goTo _)
  rintro - r' rfl
  apply leads_bind ((enough all _).alternatives r.rest.length {} true (by omega) _ hr le_rfl)
  intro tree r' hlater
  apply leads_get_bind
  by_cases hclash : (r'.options.ascii && r'.unicodeAsked) = true
  · rw [if_pos hclash]
    rw [Bool.and_eq_true] at hclash
    exact leads_throw (.kindsClash (hlater.sound.ascii hclash.1) (hlater.sound.unicode hclash.2))
  · rw [if_neg hclash]
    apply Safe.leads _ hlater le_rfl
    apply safe_unless (safe_fail _ _)
    apply safe_bind
    · apply safe_forIn
      rintro ⟨group, place⟩
      exact safe_when (safe_failAt _ _) (safe_pure _)
    · intro _
      exact safe_bind (safe_checkTree _ _) fun _ => safe_pure _

end Reader

/-- Digits stand one after the other in a text. -/
def Writes (source digits : Text) : Prop := digits <:+: source ∧ ∀ c ∈ digits, c.isDigit = true

/-- A character stands behind an opening bracket with a question mark. -/
def AsksFor (source : Text) (c : Char) : Prop :=
  ∃ before after, source = before ++ '(' :: '?' :: after ∧ c ∈ after

/-- A text in which every number can be a number of repetitions, and in which only one of two kinds of
characters can be asked for. -/
structure Modest (source : Text) : Prop where
  numbers : ∀ digits, Writes source digits →
    digits.length ≤ 4300 ∧ Reader.number 10 digits < 4294967295
  kinds : ¬(AsksFor source 'a' ∧ AsksFor source 'u')

/-- Whether a regular expression is refused for a flaw of its text. -/
def Fault.IsFlaw : Fault → Prop
  | .flawed _ _ => True
  | _ => False

/-- The text of tokens. -/
def textOf (tokens : List Token) : Text := tokens.flatMap fun t => t.sign.text

@[simp] theorem textOf_append (tokens tokens' : List Token) :
    textOf (tokens ++ tokens') = textOf tokens ++ textOf tokens' :=
  List.flatMap_append

@[simp] theorem textOf_cons (t : Token) (tokens : List Token) :
    textOf (t :: tokens) = t.sign.text ++ textOf tokens :=
  List.flatMap_cons

theorem textOf_tokensFrom (place : Nat) (source : Text) : textOf (tokensFrom place source) = source := by
  fun_induction tokensFrom place source with
  | case1 => rfl
  | case2 place c t ih => rw [textOf_cons, ih]; rfl
  | case3 => rfl
  | case4 place c t _ _ ih => rw [textOf_cons, ih]; rfl

theorem textOf_of_plain {tokens : List Token} {text : Text}
    (h : tokens.map Token.sign = text.map .plain) : textOf tokens = text := by
  have hsigns : textOf tokens = (tokens.map Token.sign).flatMap Sign.text := by
    rw [List.flatMap_map]
    rfl
  rw [hsigns, h, List.flatMap_map]
  simp [Sign.text]

theorem HasNumber.writes {all : List Token} {digits : Text} (h : HasNumber all digits) :
    Writes (textOf all) digits := by
  obtain ⟨before, run, after, rfl, hsigns, hdigits⟩ := h
  refine ⟨⟨textOf before, textOf after, ?_⟩, hdigits⟩
  rw [textOf_append, textOf_append, textOf_of_plain hsigns]

theorem HasOption.asksFor {all : List Token} {c : Char} (h : HasOption all c) :
    AsksFor (textOf all) c := by
  obtain ⟨rest, t, ⟨before, opened, asked, between, rfl, hopened, hasked⟩, ht, hsign⟩ := h
  refine ⟨textOf before, textOf (between ++ rest), ?_, ?_⟩
  · rw [textOf_append, textOf_cons, textOf_cons, hopened, hasked]
    rfl
  · rw [textOf_append]
    apply List.mem_append_right
    apply List.mem_flatMap.2
    refine ⟨t, ht, ?_⟩
    rw [hsign]
    exact List.mem_singleton_self c

theorem grounds_of_compile {source : Text} {fault : Fault} (h : compile source = .error fault) :
    Grounds (tokensFrom 0 source) fault := by
  let r : Reading := { rest := tokensFrom 0 source, size := source.length }
  have hwhole : Reader.Leads (tokensFrom 0 source) Reader.whole r fun _ r' => Reader.Later _ r r' :=
    Reader.leads_whole rfl rfl rfl
  rcases hwhole with ⟨tree, r', hrun, -⟩ | ⟨fault', hrun, hgrounds⟩
  · rw [compile, hrun] at h
    cases h
  · rw [compile, hrun] at h
    cases h
    exact hgrounds

/-- A modest text is a regular expression or has a flaw. -/
theorem isFlaw_of_compile {source : Text} {fault : Fault} (hmodest : Modest source)
    (h : compile source = .error fault) : fault.IsFlaw := by
  have hwrites {digits : Text} (hnumber : HasNumber (tokensFrom 0 source) digits) :
      Writes source digits := by
    have hwrites := hnumber.writes
    rwa [textOf_tokensFrom] at hwrites
  have hasks {c : Char} (hoption : HasOption (tokensFrom 0 source) c) : AsksFor source c := by
    have hasks := hoption.asksFor
    rwa [textOf_tokensFrom] at hasks
  cases grounds_of_compile h with
  | flawed => exact trivial
  | repeatTooLarge hnumber _ hlarge =>
      exact absurd hlarge (not_le.2 (hmodest.numbers _ (hwrites hnumber)).2)
  | tooManyDigits hnumber hmany =>
      exact absurd hmany (not_lt.2 (hmodest.numbers _ (hwrites hnumber)).1)
  | kindsClash hascii hunicode => exact absurd ⟨hasks hascii, hasks hunicode⟩ hmodest.kinds

end AgendaLinks.Regexp
