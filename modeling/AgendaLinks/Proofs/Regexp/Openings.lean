import AgendaLinks.Proofs.Regexp.Steps

/-!
The openings of groups. Letters of options that are kept for the whole expression stand behind the
question mark of a group; all else that can follow an opening bracket is sound as it is.
-/

namespace AgendaLinks.Regexp.Reader

variable {α β : Type} {all : List Token} {r : Reading} {k : Nat}

theorem leads_fail {flaw : Flaw} {back : Nat} {Post : α → Reading → Prop} :
    Leads all (fail flaw back) r Post :=
  leads_get_bind (leads_throw (.flawed _ _))

/-- What follows a test that ends in a flaw goes on without it. -/
theorem leads_unless_fail {c : Prop} [Decidable c] {flaw : Flaw} {back : Nat} {f : PUnit → Reader β}
    {Last : β → Reading → Prop} (hf : Leads all (f ⟨⟩) r Last) :
    Leads all (if c then fail flaw back >>= f else f ⟨⟩) r Last := by
  split_ifs
  · have hfail : Leads all (fail flaw back) r fun (_ : PUnit) _ => False := leads_fail
    exact leads_bind hfail nofun
  · exact hf

theorem leads_optionAfter (sign : Sign) (otherwise : Flaw) :
    Leads all (optionAfter sign otherwise) r fun c r' => r' = r ∧ sign = .plain c := by
  unfold optionAfter
  split
  · apply leads_ite (leads_pure ⟨rfl, rfl⟩) leads_fail
  · exact leads_fail

theorem safe_optionAfter (sign : Sign) (otherwise : Flaw) :
    Safe all k (optionAfter sign otherwise) := by
  intro r hr _
  apply (leads_optionAfter sign otherwise).imp
  rintro c r' ⟨rfl, -⟩
  exact .refl hr

/-- A letter that is read behind the question mark of a group stands there. -/
theorem leads_next_option (hr : Sound all r) (hoptional : IsOptional all r.rest) :
    Leads all next r fun sign r' =>
      Later all r r' ∧ ∀ c, sign = some (.plain c) → HasOption all c := by
  apply leads_next
  · exact fun _ => ⟨.refl hr, nofun⟩
  · intro t rest hrest
    exact ⟨.step hr hrest, fun c hc => hoptional.hasOption hrest (Option.some.inj hc)⟩

/-- All letters that are turned on stand behind the question mark of the group. -/
theorem leads_optionsOn (n : Nat) : ∀ (c : Char) (on : List Char) (r : Reading), Sound all r →
    IsOptional all r.rest → HasOption all c → (∀ d ∈ on, HasOption all d) →
    Leads all (optionsOn n c on) r fun answer r' => Later all r r' ∧ ∀ d ∈ answer.1, HasOption all d := by
  induction n with
  | zero => exact fun _ _ _ hr _ _ hon => leads_pure ⟨.refl hr, hon⟩
  | succ n ih =>
      intro c on r hr hoptional hc hon
      have hon' : ∀ d ∈ c :: on, HasOption all d := List.forall_mem_cons.2 ⟨hc, hon⟩
      rw [optionsOn]
      apply leads_unless_fail
      dsimp only
      apply leads_unless_fail
      apply leads_bind (leads_next_option hr hoptional)
      rintro sign r' ⟨hlater, hsign⟩
      split
      · exact leads_fail
      · split
        · exact leads_pure ⟨hlater, hon'⟩
        · exact leads_pure ⟨hlater, hon'⟩
        · exact leads_pure ⟨hlater, hon'⟩
        · apply leads_bind (leads_optionAfter _ _)
          rintro d r'' ⟨rfl, hd⟩
          apply (ih d (c :: on) r'' hlater.sound (hoptional.suffix hlater.rest)
            (hsign d (by rw [hd])) hon').imp
          rintro answer r''' ⟨hlater', hanswer⟩
          exact ⟨hlater.trans hlater', hanswer⟩

theorem safe_optionsOff (n : Nat) (c : Char) (off : List Char) :
    Safe all k (optionsOff n c off) := by
  induction n generalizing c off with
  | zero => exact safe_pure _
  | succ n ih =>
      rw [optionsOff]
      apply safe_when (safe_fail _ _)
      dsimp only
      apply safe_bind safe_next
      intro sign
      split
      · exact safe_fail _ _
      · apply safe_ite (safe_pure _)
        apply safe_bind (safe_optionAfter _ _)
        exact fun d => ih d _

theorem safe_optionsBehind (stop : Char) (n : Nat) : Safe all k (optionsBehind stop n) := by
  unfold optionsBehind
  apply safe_ite _ (safe_pure _)
  apply safe_bind safe_next
  intro sign
  split
  · exact safe_fail _ _
  · apply safe_bind (safe_optionAfter _ _)
    exact fun c => safe_optionsOff _ _ _

theorem leads_optionChange (hr : Sound all r) (hoptional : IsOptional all r.rest) {c : Char}
    (hc : HasOption all c) :
    Leads all (optionChange c) r fun answer r' =>
      Later all r r' ∧ ∀ d ∈ answer.1, HasOption all d := by
  have hnone : ∀ d ∈ ([] : List Char), HasOption all d := nofun
  unfold optionChange
  apply leads_get_bind
  apply leads_either (leads_pure ⟨.refl hr, hnone⟩) (leads_optionsOn _ c [] r hr hoptional hc nofun)
  rintro ⟨on, stop⟩ r' ⟨hlater, hon⟩
  apply leads_ite (leads_pure ⟨hlater, hon⟩)
  apply leads_unless_fail
  apply leads_bind ((safe_optionsBehind stop _).leads hlater le_rfl)
  intro off r'' hlater'
  apply leads_unless_fail
  apply leads_unless_fail
  exact leads_pure ⟨hlater', hon⟩

/-- Letters behind the question mark of a group may be kept for the whole expression. -/
theorem safe_setWhole {on : List Char} (hon : ∀ d ∈ on, HasOption all d) : Safe all k (setWhole on) := by
  intro r hr _
  apply leads_modify
  refine ⟨⟨hr.rest, ?_, ?_⟩, List.suffix_refl _⟩
  · intro hascii
    rcases Bool.or_eq_true_iff.1 hascii with hbefore | hnow
    · exact hr.ascii hbefore
    · exact hon 'a' (List.contains_iff_mem.1 hnow)
  · intro hunicode
    rcases Bool.or_eq_true_iff.1 hunicode with hbefore | hnow
    · exact hr.unicode hbefore
    · exact hon 'u' (List.contains_iff_mem.1 hnow)

theorem safe_widthOf (tree : Tree) : Safe all k (widthOf tree) := safe_get_bind fun _ => safe_pure _

theorem safe_openGroup (name : Option Text) : Safe all k (openGroup name) := by
  unfold openGroup
  apply safe_get_bind
  intro r
  dsimp only
  apply safe_bind
  · exact safe_modify (fun _ => rfl) (fun _ => rfl) fun _ => rfl
  · intro _
    cases name with
    | none => exact safe_pure _
    | some name =>
        apply safe_get_bind
        intro r
        split
        · exact safe_fail _ _
        · apply safe_bind
          · exact safe_modify (fun _ => rfl) (fun _ => rfl) fun _ => rfl
          · exact fun _ => safe_pure _

theorem safe_closeGroup (group : Nat) (body : Tree) : Safe all k (closeGroup group body) := by
  unfold closeGroup
  apply safe_bind (safe_widthOf _)
  exact fun width => safe_modify (fun _ => rfl) (fun _ => rfl) fun _ => rfl

theorem safe_expectEnd (opened : Nat) : Safe all k (expectEnd opened) := by
  unfold expectEnd
  apply safe_bind (safe_accept _)
  intro closed
  exact safe_ite (safe_pure _) (safe_failAt _ _)

theorem safe_setBehind (first : Option Nat) : Safe all k (setBehind first) :=
  safe_modify (fun _ => rfl) (fun _ => rfl) fun _ => rfl

theorem safe_conditionGroup : Safe all k conditionGroup := by
  unfold conditionGroup
  apply safe_bind (safe_name _ _)
  intro asked
  apply safe_ite
  · apply safe_get_bind
    intro r
    split
    · exact safe_pure _
    · exact safe_fail _ _
  · split
    · exact safe_fail _ _
    · apply safe_when (safe_fail _ _)
      apply safe_bind safe_place
      intro place
      apply safe_bind
      · apply safe_modify
        · intro r
          split <;> rfl
        · intro r
          split <;> rfl
        · intro r
          split <;> rfl
      · exact fun _ => safe_pure _
    · exact safe_fail _ _

theorem safe_namedAgain (options : Options) : Safe all k (namedAgain options) := by
  unfold namedAgain
  apply safe_bind (safe_name _ _)
  intro name
  apply safe_bind (safe_checkName _)
  intro _
  apply safe_get_bind
  intro r
  split
  · exact safe_fail _ _
  · apply safe_bind (safe_isClosed _)
    intro closed
    apply safe_unless (safe_fail _ _)
    exact safe_bind (safe_checkBehind _) fun _ => safe_pure _

theorem safe_groupSign : Safe all k groupSign := by
  unfold groupSign
  apply safe_bind safe_next
  intro sign
  split
  · exact safe_fail _ _
  · exact safe_pure _

theorem leads_groupSign (hr : Sound all r) (hoptional : IsOptional all r.rest) :
    Leads all groupSign r fun sign r' =>
      Later all r r' ∧ IsOptional all r'.rest ∧ ∀ c, sign = .plain c → HasOption all c := by
  unfold groupSign
  apply leads_bind (leads_next_option hr hoptional)
  rintro sign r' ⟨hlater, hsign⟩
  cases sign with
  | none => exact leads_fail
  | some sign => exact leads_pure ⟨hlater, hoptional.suffix hlater.rest, fun c hc => hsign c (by rw [hc])⟩

/-- An opening is read from behind its bracket. -/
theorem leads_opening (hr : Sound all r) {before : List Token} {bracket : Token}
    (hall : all = before ++ bracket :: r.rest) (hbracket : bracket.sign = .plain '(')
    (options : Options) (opened : Nat) :
    Leads all (opening options opened) r fun _ r' => Later all r r' := by
  have hasked : Leads all (accept '?') r fun asked r' =>
      Later all r r' ∧ (asked = true → IsOptional all r'.rest) := by
    apply leads_accept
    · exact ⟨.refl hr, nofun⟩
    · intro t rest hrest ht
      refine ⟨.step hr hrest, fun _ => ⟨before, bracket, t, [], ?_, hbracket, ht⟩⟩
      rw [hall, hrest, List.nil_append]
  unfold opening
  apply leads_bind hasked
  rintro asked r₁ ⟨hlater₁, hoptional⟩
  split_ifs with h
  · dsimp only
    apply leads_bind (leads_groupSign hlater₁.sound (hoptional h))
    rintro sign r₂ ⟨hlater₂, hoptional₂, hsign⟩
    replace hlater₂ := hlater₁.trans hlater₂
    -- One case for each sign that can follow, and only letters of options need what is known of it.
    split
    · apply Safe.leads _ hlater₂ le_rfl
      apply safe_bind (safe_accept _)
      intro named
      apply safe_ite
      · apply safe_bind (safe_name _ _)
        intro name
        exact safe_bind (safe_checkName _) fun _ => safe_pure _
      · apply safe_bind (safe_accept _)
        intro again
        apply safe_ite
        · exact safe_bind (safe_namedAgain _) fun _ => safe_pure _
        · exact safe_bind safe_groupSign fun _ => safe_fail _ _
    · exact leads_pure hlater₂
    · apply Safe.leads _ hlater₂ le_rfl
      apply safe_get_bind
      intro r
      apply safe_bind (safe_skipTo _ _)
      intro closed
      exact safe_unless (safe_failAt _ _) (safe_pure _)
    · exact leads_pure hlater₂
    · exact leads_pure hlater₂
    · apply Safe.leads _ hlater₂ le_rfl
      apply safe_bind safe_groupSign
      intro sign
      split
      · exact safe_pure _
      · exact safe_pure _
      · exact safe_fail _ _
    · exact leads_pure hlater₂
    · exact leads_pure hlater₂
    · apply leads_ite _ leads_fail
      apply leads_bind (leads_optionChange hlater₂.sound hoptional₂ (hsign _ rfl))
      rintro ⟨on, off⟩ r₃ ⟨hlater₃, hon⟩
      replace hlater₃ := hlater₂.trans hlater₃
      cases off with
      | none =>
          apply Safe.leads _ hlater₃ le_rfl
          exact safe_bind (safe_setWhole hon) fun _ => safe_pure _
      | some off => exact leads_pure hlater₃
    · exact leads_fail
  · exact leads_pure hlater₁

end AgendaLinks.Regexp.Reader
