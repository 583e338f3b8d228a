import AssetCatalog.Source.Reading
import Mathlib

/-! What steps over tokens give, whatever tokens they read. -/

set_option mvcgen.warning false

open Std.Do

namespace AssetCatalog.Source.Reading

variable {α : Type} {property : α → Prop}

/-- Whatever a step gives, if it gives anything, has a property. -/
abbrev Gives (step : Reading α) (property : α → Prop) : Prop :=
  ⦃⌜True⌝⦄ step ⦃⇓? found => ⌜property found⌝⦄

/-- A step gives what has a property exactly if every successful run of it does. -/
theorem gives_iff {step : Reading α} :
    Gives step property ↔ ∀ tokens found rest, step.run tokens = .ok (found, rest) → property found := by
  -- A refusal is no successful run, so the triple asks nothing of it.
  rw [Gives, Triple.iff]
  refine forall_congr' fun tokens => ?_
  simp only [wp, PredTrans.apply_pushArg]
  cases step.run tokens with
  | error refusal => exact ⟨fun _ _ _ ended => (nomatch ended), fun _ _ => trivial⟩
  | ok result =>
    constructor
    · intro holds found rest ended
      cases ended
      exact holds trivial
    · exact fun each _ => each result.1 result.2 rfl

/-- What a step gives is something. -/
theorem gives_true (step : Reading α) : Gives step fun _ => True :=
  gives_iff.mpr fun _ _ _ _ => trivial

/-- What is refused gives nothing. -/
@[spec] theorem gives_refuse : Gives (refuse : Reading α) fun _ => False :=
  gives_iff.mpr fun _ _ _ ended => (nomatch ended)

/-- Of the token at hand nothing is known. -/
@[spec] theorem gives_peek : Gives peek fun _ => True :=
  gives_true peek

/-- Of the token behind the one at hand nothing is known. -/
@[spec] theorem gives_peekNext : Gives peekNext fun _ => True :=
  gives_true peekNext

/-- A token that is passed gives nothing to know. -/
@[spec] theorem gives_advance : Gives advance fun _ => True :=
  gives_true advance

/-- Whether a token is the given one is not known. -/
@[spec] theorem gives_accept (lexeme : Lexeme) : Gives (accept lexeme) fun _ => True :=
  gives_true (accept lexeme)

/-- A token that has to be there gives nothing to know. -/
@[spec] theorem gives_expect (lexeme : Lexeme) : Gives (expect lexeme) fun _ => True :=
  gives_true (expect lexeme)

/-- Of a name nothing is known. -/
@[spec] theorem gives_name : Gives name fun _ => True :=
  gives_true name

/-- The first of two steps that is not refused gives what either of them gives. -/
theorem Gives.orElse {first second : Reading α} (either : Gives first property) (other : Gives second property) :
    Gives (orElse first second) property := by
  rw [gives_iff] at either other ⊢
  intro tokens found rest ended
  -- The other step reads the same tokens where the first one is refused.
  simp only [StateT.run, Reading.orElse] at ended
  split at ended
  · exact other tokens found rest ended
  · exact either tokens found rest ended

/-- Steps one after the other give what each of them gives. -/
theorem Gives.repeatSteps {step : Reading (Option α)} (each : Gives step fun found => ∀ one ∈ found, property one)
    (fuel : Nat) : Gives (repeatSteps step fuel) fun found => ∀ one ∈ found, property one := by
  -- Induction on the fuel, which bounds the number of steps.
  induction fuel with
  | zero => mvcgen [Reading.repeatSteps]; simp
  | succ fuel ih =>
    mvcgen [Reading.repeatSteps, each, ih]
    all_goals simp_all

/-- A step as often as it gives anything gives what it gives each time. -/
theorem Gives.many {step : Reading (Option α)} (each : Gives step fun found => ∀ one ∈ found, property one) :
    Gives (many step) fun found => ∀ one ∈ found, property one := by
  -- The number of tokens bounds the steps, and any bound will do.
  have steps := each.repeatSteps
  mvcgen [Reading.many, steps]

/-- A step that may be left out gives what it gives otherwise. -/
theorem Gives.whenever {step : Reading α} (gives : Gives step property) (starts : Lexeme → Bool) :
    Gives (whenever starts step) fun found => ∀ one ∈ found, property one := by
  mvcgen [Reading.whenever, gives]
  -- A step that is left out gives nothing to ask of.
  all_goals simp_all

/-- Items with commas between them are what each item is. -/
theorem Gives.itemsAfterComma {item : Reading α} (each : Gives item property) (starts : Lexeme → Bool) (fuel : Nat) :
    Gives (itemsAfterComma starts item fuel) fun found => ∀ one ∈ found, property one := by
  -- Induction on the fuel, which bounds the number of items.
  induction fuel with
  | zero => mvcgen [Reading.itemsAfterComma]; simp
  | succ fuel ih =>
    mvcgen [Reading.itemsAfterComma, each, ih]
    all_goals simp_all

/-- Any number of items are what each item is. -/
theorem Gives.items {item : Reading α} (each : Gives item property) (starts : Lexeme → Bool) :
    Gives (items starts item) fun found => ∀ one ∈ found, property one := by
  -- A list of items is what stands between commas, with a bound that does not matter.
  have steps := each.itemsAfterComma starts
  mvcgen [Reading.items, steps]

/-- What stands behind each of some tokens is what one step gives. -/
theorem Gives.behind {step : Reading α} (each : Gives step property) (lexeme : Lexeme) :
    Gives (behind lexeme step) fun found => ∀ one ∈ found, property one := by
  refine Gives.many ?_
  -- Behind its token the step gives one thing, and without the token nothing.
  mvcgen [each]
  all_goals simp_all

/-- At least one item with tokens between neighbours are what each item is. -/
theorem Gives.separated {item : Reading α} (each : Gives item property) (lexeme : Lexeme) :
    Gives (separated lexeme item) fun found => ∀ one ∈ found, property one := by
  have rest := each.behind lexeme
  mvcgen [Reading.separated, each, rest]
  -- The first item is in front of those behind the tokens.
  all_goals simp_all

end AssetCatalog.Source.Reading
