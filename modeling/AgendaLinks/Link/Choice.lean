import AgendaLinks.Link.Kind

/-!
The choice of links for an event: of several links to meetings the one with the highest score, the
first of those if there are more, and after it the other links, each once.
-/

namespace AgendaLinks.Link

/-- The better one of a link with a score and a later link. -/
def better (best : Option (Text × Nat)) (t : Text) (score : Nat) : Option (Text × Nat) :=
  match best with
  | none => some (t, score)
  | some (_, most) => if most < score then some (t, score) else best

/-- The link with the highest score among some links and the best one before them. -/
def bestFrom (best : Option (Text × Nat)) :
    List Text → Except UriFault (Option (Text × Nat))
  | [] => .ok best
  | t :: ts =>
    match score t with
    | .ok s => bestFrom (better best t s) ts
    | .error fault => .error fault

/-- The link with the highest score, the first one of several. -/
def best? (links : List Text) : Except UriFault (Option Text) :=
  (bestFrom none links).map fun best => best.map (·.1)

/-- Links without those that occur before. -/
def distinct : List Text → List Text
  | [] => []
  | t :: ts => t :: (distinct ts).filter (· ≠ t)

/-- The link to a meeting first, and each link once. -/
def combine (meeting : Option Text) (others : List Text) : List Text :=
  match meeting with
  | none | some [] => distinct others
  | some meeting => distinct (meeting :: others)

end AgendaLinks.Link
