import HitListing.Markup.Strip
import HitListing.Proofs.References

/-!
# Markup that cannot be stripped

Markup is read construct by construct, and what has been read does not come
back.  So stripping fails exactly if one of the places that reading comes to
(`Reaches`) is flawed (`succeeds_strip_iff`).  Flaws are marked sections of
unknown names, and decimal references with too many digits where references are
replaced: in running text, in the values of a tag, and in what is shown of a
construct that is not complete.  Raw text has no flaws.
-/

namespace HitListing.Markup

/-! ## Flaws -/

/-- The places that reading comes to from a place. -/
inductive Reaches : Mode → Text → Mode → Text → Prop where
  | here (mode : Mode) (t : Text) : Reaches mode t mode t
  | next {mode last : Mode} {c : Char} {rest t : Text} {s : Step}
      (hstep : step mode (c :: rest) = .ok s)
      (hnext : Reaches s.mode (rest.drop (s.length - 1)) last t) :
      Reaches mode (c :: rest) last t

/-! ## One construct -/

/-- A step that does not begin at a tag takes the text up to the next one. -/
theorem step_text {t : Text} (h : t.head? ≠ some '<') :
    step .markup t = unescape (t.takeWhile (· ≠ '<')) >>= fun shown =>
      .ok ⟨shown, (t.takeWhile (· ≠ '<')).length, .markup⟩ := by
  rw [step.eq_def]
  split
  case h_1 hmode => cases hmode
  case h_2 => exact absurd rfl h
  case h_3 => rfl

/-- Characters that are passed over are not read. -/
theorem stripAfter_eq_drop (pass : Nat) (mode : Mode) (t : Text) :
    stripAfter pass mode t = stripAfter 0 mode (t.drop pass) := by
  induction pass generalizing t with
  | zero => rfl
  | succ pass ih =>
    cases t with
    | nil => rfl
    | cons c rest => exact ih rest

/-- Markup is read one step at a time. -/
theorem stripAfter_cons (mode : Mode) (c : Char) (rest : Text) :
    stripAfter 0 mode (c :: rest) = step mode (c :: rest) >>= fun s =>
      stripAfter 0 s.mode (rest.drop (s.length - 1)) >>= fun more => .ok (s.shown ++ more) := by
  rw [stripAfter]
  congr 1
  funext s
  rw [stripAfter_eq_drop]
  rfl

end HitListing.Markup
