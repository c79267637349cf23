import AgendaLinks.Text.Basic

/-!
Messages about what was done. An operation answers with its value and the messages written on the
way, so the order of messages is part of the answer.
-/

namespace AgendaLinks

/-- How important a message is. -/
inductive Level where
  | debug
  | info
  | warning
  | error
  | critical
  deriving DecidableEq, Repr

namespace Level

def name : Level → String
  | debug => "DEBUG"
  | info => "INFO"
  | warning => "WARNING"
  | error => "ERROR"
  | critical => "CRITICAL"

/-- The number by which levels are compared. -/
def rank : Level → Nat
  | debug => 10
  | info => 20
  | warning => 30
  | error => 40
  | critical => 50

end Level

/-- The part of the program that writes a message. -/
inductive Channel where
  | listing
  | client
  | links
  | accounts
  | events
  | opener
  | configuration
  | command
  deriving DecidableEq, Repr

/-- The name of a part in a message. -/
def Channel.name : Channel → String
  | listing => "listing.output_parser"
  | client => "listing.icalbuddy"
  | links => "processor.url_classifier"
  | accounts => "processor.accounts"
  | events => "processor.url_processor"
  | opener => "processor.opener"
  | configuration => "settings.config_loader"
  | command => "meeting_urls"

/-- A message. -/
structure Message where
  level : Level
  channel : Channel
  text : String
  deriving DecidableEq, Repr

/-- A value with the messages written while it was made. -/
structure Logged (α : Type) where
  value : α
  log : List Message := []

namespace Logged

/-- The same messages with another value. -/
def map {α β : Type} (f : α → β) (x : Logged α) : Logged β := ⟨f x.value, x.log⟩

/-- One operation after another; the messages of the second follow those of the first. -/
def bind {α β : Type} (x : Logged α) (f : α → Logged β) : Logged β :=
  ⟨(f x.value).value, x.log ++ (f x.value).log⟩

instance : Monad Logged where
  pure a := ⟨a, []⟩
  bind := bind

@[simp] theorem value_pure {α : Type} (a : α) : (pure a : Logged α).value = a := rfl

@[simp] theorem value_bind {α β : Type} (x : Logged α) (f : α → Logged β) :
    (x >>= f).value = (f x.value).value := rfl

theorem eq_of_value_of_log {α : Type} {x y : Logged α} (hvalue : x.value = y.value)
    (hlog : x.log = y.log) : x = y := by
  cases x
  cases y
  rw [Logged.mk.injEq]
  exact ⟨hvalue, hlog⟩

instance : LawfulMonad Logged :=
  LawfulMonad.mk' Logged
    (fun _ => eq_of_value_of_log rfl (List.append_nil _))
    (fun _ _ => eq_of_value_of_log rfl (List.nil_append _))
    (fun _ _ _ => eq_of_value_of_log rfl (List.append_assoc _ _ _))

/-- The values of an operation on every item of a list. -/
theorem value_mapM {α β : Type} (f : α → Logged β) (xs : List α) :
    (xs.mapM f).value = xs.map fun x => (f x).value := by
  induction xs with
  | nil => rfl
  | cons x xs ih =>
      rw [List.mapM_cons, value_bind, value_bind, value_pure, ih, List.map_cons]

/-- The operation that only writes a message. -/
def write (level : Level) (channel : Channel) (text : String) : Logged Unit :=
  ⟨(), [⟨level, channel, text⟩]⟩

end Logged

end AgendaLinks
