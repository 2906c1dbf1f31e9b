import HitListing.Fault
import HitListing.Text.Quoted

/-!
# Drafts

What a step of the work leaves behind: the text it has written, the notices it
has made, and how it ended.  One step after another writes and notes what both
do; once a step has failed, nothing follows, and what was written before
remains.
-/

namespace HitListing

/-- Something worth a note in the log. -/
inductive Notice where
  /-- A cached file could not be read. -/
  | unreadable (file : Text) (cause : Fault)
  /-- A stored date does not parse. -/
  | badDate (date path : Text)
  /-- A document without a path was left out. -/
  | noPath (id : Text)
  /-- The context of a file is made from the file itself. -/
  | reanalyzing (path reason : Text)
deriving DecidableEq, Repr

namespace Notice

/-- How grave a notice is. -/
def level : Notice → Text
  | .reanalyzing _ _ => "DEBUG"
  | _ => "WARNING"

/-- The words of a notice, given those for a fault. -/
def message (words : Fault → Text) : Notice → Text
  | .unreadable file cause => "An error reading tags from " ++ file ++ ": " ++ words cause
  | .badDate date path =>
    "An error parsing date information " ++ quoted date ++ " of " ++ path
  | .noPath id => "Document " ++ id ++ " has no path field, skipping it"
  | .reanalyzing path reason => "Re-analyzing " ++ path ++ ": " ++ reason

end Notice

/-- What a step has written and noted, and how it ended. -/
structure Draft (α : Type) where
  text : Text
  log : List Notice
  result : Except Fault α

namespace Draft

/-- A step after another, which is left out if the first one failed. -/
def andThen {α β : Type} (d : Draft α) (f : α → Draft β) : Draft β :=
  match d.result with
  | .ok a => ⟨d.text ++ (f a).text, d.log ++ (f a).log, (f a).result⟩
  | .error e => ⟨d.text, d.log, .error e⟩

instance : Monad Draft where
  pure a := ⟨[], [], .ok a⟩
  bind := andThen

/-- Write text. -/
def write (t : Text) : Draft Unit :=
  ⟨t, [], .ok ()⟩

/-- Make a notice. -/
def note (n : Notice) : Draft Unit :=
  ⟨[], [n], .ok ()⟩

/-- A step that writes and notes nothing. -/
def ofExcept {α : Type} (r : Except Fault α) : Draft α :=
  ⟨[], [], r⟩

/-- One step for each item, in order. -/
def forEach {α : Type} (f : α → Draft Unit) : List α → Draft Unit
  | [] => pure ()
  | a :: rest => (f a).andThen fun _ => forEach f rest

end Draft

end HitListing
