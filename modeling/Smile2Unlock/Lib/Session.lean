/-
  Smile2Unlock.Lib.Session

  Objects that answer calls, and one object standing for another over whole sessions.

  An `Object` answers each call with a value of the call's own type and has a state after
  it.  `StandsFor` relates two objects call by call, as long as the calls are allowed in
  the states in which they are made; what the first answers is a view of what the second
  does.  `StandsFor.session` carries that over a session of any length.
-/

import Mathlib.Data.List.Basic

namespace Lib

variable {C : Type _} {A B : C → Type _} {σ τ : Type _}

/-- What answers calls. -/
structure Object (C : Type _) (A : C → Type _) (σ : Type _) where
  call : σ → (c : C) → A c × σ

namespace Object

/-- The answers to the calls of a session. -/
def answers (object : Object C A σ) (s : σ) : List C → List ((c : C) × A c)
  | [] => []
  | c :: calls => ⟨c, (object.call s c).1⟩ :: object.answers (object.call s c).2 calls

/-- The state after a session. -/
def after (object : Object C A σ) (s : σ) : List C → σ
  | [] => s
  | c :: calls => object.after (object.call s c).2 calls

/-- Every call is allowed in the state in which it is made. -/
def Allowed (object : Object C A σ) (P : σ → C → Prop) (s : σ) : List C → Prop
  | [] => True
  | c :: calls => P s c ∧ object.Allowed P (object.call s c).2 calls

end Object

/-- The concrete object answers an allowed call with a view of what the abstract one does,
    and the states stay related. -/
structure StandsFor (concrete : Object C B τ) (abstract : Object C A σ) (R : τ → σ → Prop)
    (P : σ → C → Prop) (view : (c : C) → A c → B c) : Prop where
  answer : ∀ {t s c}, R t s → P s c → (concrete.call t c).1 = view c (abstract.call s c).1
  related : ∀ {t s c}, R t s → P s c → R (concrete.call t c).2 (abstract.call s c).2

/-- Over a session of allowed calls the concrete object gives the view of every answer of
    the abstract one, and the final states are related. -/
theorem StandsFor.session {concrete : Object C B τ} {abstract : Object C A σ} {R : τ → σ → Prop}
    {P : σ → C → Prop} {view : (c : C) → A c → B c}
    (h : StandsFor concrete abstract R P view) {t : τ} {s : σ} (hR : R t s) {calls : List C}
    (hcalls : abstract.Allowed P s calls) :
    concrete.answers t calls =
        (abstract.answers s calls).map (fun answer => ⟨answer.1, view answer.1 answer.2⟩) ∧
      R (concrete.after t calls) (abstract.after s calls) := by
  induction calls generalizing t s with
  | nil => exact ⟨rfl, hR⟩
  | cons c calls ih =>
      obtain ⟨hallowed, hrest⟩ := hcalls
      obtain ⟨hanswers, hafter⟩ := ih (h.related hR hallowed) hrest
      refine ⟨?_, hafter⟩
      rw [Object.answers, Object.answers, List.map_cons, hanswers, h.answer hR hallowed]

end Lib
