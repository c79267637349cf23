import AgendaLinks.Log.Template
import AgendaLinks.Proofs.Fallible

/-!
Messages with a plain place for each value. The values are written in order, and the text between the places
is written as it is if every percent sign in it is doubled. A message with fewer or more values than places
is not written.
-/

namespace AgendaLinks.Template

/-- A body takes up its width, or more if it is longer. -/
theorem Body.length_filled (b : Body) (width : Nat) (left zeros : Bool) :
    (b.filled width left zeros).length = max width (b.sign ++ b.mark ++ b.rest).length := by
  rw [filled]
  split_ifs <;> simp only [List.length_append, List.length_replicate] <;> omega

theorem Body.filled_zero (b : Body) (left zeros : Bool) :
    b.filled 0 left zeros = b.sign ++ b.mark ++ b.rest := by
  rw [filled, Nat.zero_sub, List.replicate_zero, List.replicate_zero, List.append_nil, List.append_nil,
    List.nil_append]
  split_ifs <;> rfl

/-- A text with every percent sign doubled. -/
def escaped (t : Text) : Text := t.flatMap fun c => if c = '%' then ['%', '%'] else [c]

/-- What a message stands for from a place on, with values in its places. -/
def writtenFrom (index : Nat) (t : Text) (args : Arguments) : Except Fault Text :=
  writePieces (piecesFrom index .outside {} t) args

variable {index : Nat} {rest : Text} {args : Arguments}

theorem writtenFrom_char {c : Char} (hc : c ≠ '%') :
    writtenFrom index (c :: rest) args = (c :: ·) <$> writtenFrom (index + 1) rest args := by
  rw [writtenFrom, piecesFrom, onChar, if_neg hc]
  rfl

theorem writtenFrom_percent :
    writtenFrom index ('%' :: '%' :: rest) args = ('%' :: ·) <$> writtenFrom (index + 2) rest args := by
  have hpieces : piecesFrom index .outside {} ('%' :: '%' :: rest) =
      .place { index := index + 1 } :: piecesFrom (index + 2) .outside {} rest := rfl
  have hplace : writePlace { index := index + 1 } args = .ok (['%'], args) := rfl
  rw [writtenFrom, hpieces, writePieces, hplace, bind_of_eq_ok rfl]
  exact bind_pure_comp _ _

theorem writtenFrom_escaped (index : Nat) (t rest : Text) (args : Arguments) :
    writtenFrom index (escaped t ++ rest) args =
      (t ++ ·) <$> writtenFrom (index + (escaped t).length) rest args := by
  induction t generalizing index with
  | nil => exact (id_map _).symm
  | cons c t ih =>
      by_cases hc : c = '%'
      · have hstart : escaped (c :: t) = '%' :: '%' :: escaped t := by
          rw [escaped, List.flatMap_cons, if_pos hc]
          rfl
        rw [hstart, List.cons_append, List.cons_append, writtenFrom_percent, ih, hc, Functor.map_map,
          List.length_cons, List.length_cons, Nat.add_assoc, Nat.add_comm 2]
        rfl
      · have hstart : escaped (c :: t) = c :: escaped t := by
          rw [escaped, List.flatMap_cons, if_neg hc]
          rfl
        rw [hstart, List.cons_append, writtenFrom_char hc, ih, Functor.map_map, List.length_cons,
          Nat.add_assoc, Nat.add_comm 1]
        rfl

variable {v : Value} {values : List Value} {named : Option (List (Value × Value))}

theorem body_plain (index : Nat) (hv : v.writable = true) :
    body { kind := 's', index } none v = .ok ({ rest := v.plain }, false) := by
  show (if v.writable then _ else _ : Except Fault (Body × Bool)) = _
  rw [if_pos hv]
  rfl

theorem writtenFrom_place (hv : v.writable = true) :
    writtenFrom index ('%' :: 's' :: rest) ⟨v :: values, named⟩ =
      (v.plain ++ ·) <$> writtenFrom (index + 2) rest ⟨values, named⟩ := by
  have hpieces : piecesFrom index .outside {} ('%' :: 's' :: rest) =
      .place { kind := 's', index := index + 1 } :: piecesFrom (index + 2) .outside {} rest := rfl
  have hplace : writePlace { kind := 's', index := index + 1 } ⟨v :: values, named⟩ =
      .ok (v.plain, ⟨values, named⟩) := by
    show (body { kind := 's', index := index + 1 } none v >>= fun b => _) = _
    rw [body_plain _ hv, bind_of_eq_ok rfl]
    exact congrArg (fun t => Except.ok (t, _)) (Body.filled_zero _ _ _)
  rw [writtenFrom, hpieces, writePieces, hplace, bind_of_eq_ok rfl]
  exact bind_pure_comp _ _

/-- Some texts with a plain place before each of them. -/
def places (texts : List Text) : Text := texts.flatMap fun t => '%' :: 's' :: escaped t

theorem places_append (texts texts' : List Text) :
    places (texts ++ texts') = places texts ++ places texts' := List.flatMap_append

/-- Places are filled one by one, and what follows them is written with the values that are left. -/
theorem exists_writtenFrom_places (filled : List (Value × Text))
    (hwritable : ∀ p ∈ filled, p.1.writable = true) (index : Nat) :
    ∃ index', writtenFrom index (places (filled.map (·.2)) ++ rest) ⟨filled.map (·.1) ++ values, named⟩ =
      ((filled.flatMap fun p => p.1.plain ++ p.2) ++ ·) <$> writtenFrom index' rest ⟨values, named⟩ := by
  induction filled generalizing index with
  | nil => exact ⟨index, (id_map _).symm⟩
  | cons p filled ih =>
      obtain ⟨hp, hfilled⟩ := List.forall_mem_cons.1 hwritable
      obtain ⟨index', hrest⟩ := ih hfilled (index + 2 + (escaped p.2).length)
      have hstart : places ((p :: filled).map (·.2)) ++ rest =
          '%' :: 's' :: (escaped p.2 ++ (places (filled.map (·.2)) ++ rest)) := by
        rw [places, List.map_cons, List.flatMap_cons, places, List.append_assoc]
        rfl
      refine ⟨index', ?_⟩
      rw [hstart, List.map_cons, List.cons_append, writtenFrom_place hp, writtenFrom_escaped, hrest,
        Functor.map_map, Functor.map_map, List.flatMap_cons]
      simp only [List.append_assoc]

theorem Arguments.ofList_eq (values : List Value) :
    Arguments.ofList values = ⟨values, (Arguments.ofList values).named⟩ := by
  unfold Arguments.ofList
  split <;> rfl

/-- Two values or more have no names. -/
theorem Arguments.named_ofList (h : 2 ≤ values.length) : (Arguments.ofList values).named = none := by
  unfold Arguments.ofList
  split
  · rw [List.length_singleton] at h
    omega
  · rfl

theorem messageText_eq {t : Text} (hne : values ≠ []) :
    messageText t values = writtenFrom 0 t ⟨values, (Arguments.ofList values).named⟩ := by
  rw [messageText, if_neg (mt List.isEmpty_iff.1 hne), ← Arguments.ofList_eq]
  rfl

variable {filled : List (Value × Text)}

/-- A message with values in its first places is written up to these, and goes on with the other values. -/
theorem exists_messageText (start rest : Text) (values : List Value) (hne : filled ≠ [])
    (hwritable : ∀ p ∈ filled, p.1.writable = true) :
    ∃ index, messageText (escaped start ++ (places (filled.map (·.2)) ++ rest))
        (filled.map (·.1) ++ values) =
      ((start ++ filled.flatMap fun p => p.1.plain ++ p.2) ++ ·) <$>
        writtenFrom index rest ⟨values, (Arguments.ofList (filled.map (·.1) ++ values)).named⟩ := by
  have hvalues : filled.map (·.1) ++ values ≠ [] :=
    List.append_ne_nil_of_left_ne_nil (mt List.map_eq_nil_iff.1 hne) values
  obtain ⟨index, h⟩ := exists_writtenFrom_places filled hwritable (0 + (escaped start).length)
  refine ⟨index, ?_⟩
  rw [messageText_eq hvalues, writtenFrom_escaped, h, Functor.map_map]
  simp only [List.append_assoc]

/-- Values are written in their places in order, and the text around the places as it is. -/
theorem messageText_places (start : Text) (hne : filled ≠ [])
    (hwritable : ∀ p ∈ filled, p.1.writable = true) :
    messageText (escaped start ++ places (filled.map (·.2))) (filled.map (·.1)) =
      .ok (start ++ filled.flatMap fun p => p.1.plain ++ p.2) := by
  obtain ⟨index, h⟩ := exists_messageText start [] [] hne hwritable
  rw [List.append_nil, List.append_nil] at h
  rw [h]
  exact congrArg Except.ok (List.append_nil _)

theorem messageText_tooFew (start t : Text) (texts : List Text) (hne : filled ≠ [])
    (hwritable : ∀ p ∈ filled, p.1.writable = true) :
    messageText (escaped start ++ places (filled.map (·.2) ++ t :: texts)) (filled.map (·.1)) =
      .error .tooFew := by
  obtain ⟨index, h⟩ := exists_messageText start (places (t :: texts)) [] hne hwritable
  rw [List.append_nil] at h
  rw [places_append, h]
  rfl

theorem messageText_tooMany (start : Text) (v : Value) (values : List Value) (hne : filled ≠ [])
    (hwritable : ∀ p ∈ filled, p.1.writable = true) :
    messageText (escaped start ++ places (filled.map (·.2))) (filled.map (·.1) ++ v :: values) =
      .error .tooMany := by
  obtain ⟨index, h⟩ := exists_messageText start [] (v :: values) hne hwritable
  rw [List.append_nil] at h
  rw [h]
  have hlength : 2 ≤ (filled.map (·.1) ++ v :: values).length := by
    have hpos := List.length_pos_iff.2 hne
    rw [List.length_append, List.length_map, List.length_cons]
    omega
  rw [Arguments.named_ofList hlength]
  rfl

/-- A percent sign that is not doubled begins a place. -/
example : (messageText "100% of %s".toList [.text "it".toList]).toOption = none := by decide

end AgendaLinks.Template
