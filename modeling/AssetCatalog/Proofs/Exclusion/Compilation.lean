import AssetCatalog.Exclusion
import AssetCatalog.Proofs.Regex.Refusal

/-! Which texts are kept as exclusion patterns, and which of them keep all others from being compiled. -/

namespace AssetCatalog.Exclusion

open Regex (ParseError)

variable {overflow? : Text → Option Text} {text : Text} {texts : List Text} {fault : ParseError}

/-- The pattern that a text is, if the engine takes it. -/
def accepted? (overflow? : Text → Option Text) (text : Text) : Option Exclusion :=
  match read overflow? text with
  | .ok pattern => some ⟨text, pattern⟩
  | .error _ => none

/-- Why a text is refused otherwise than as malformed, if it is. -/
def limit? (overflow? : Text → Option Text) (text : Text) : Option ParseError :=
  match read overflow? text with
  | .ok _ | .error .malformed => none
  | .error fault => some fault

/-- The first text that is refused otherwise than as malformed ends the compilation; any other is kept or left out. -/
theorem compile_eq (overflow? : Text → Option Text) (texts : List Text) :
    compile overflow? texts =
      match texts.findSome? (limit? overflow?) with
      | some fault => .error fault
      | none => .ok (texts.filterMap (accepted? overflow?)) := by
  -- A text that is kept or left out passes on what becomes of the others.
  induction texts with
  | nil => rfl
  | cons text texts ih =>
    rw [compile, ih, List.findSome?_cons, List.filterMap_cons, limit?, accepted?]
    cases read overflow? text with
    | ok pattern => cases texts.findSome? (limit? overflow?) <;> rfl
    | error fault => cases fault <;> rfl

/-- A name matches if some text is a pattern that occurs in it. -/
theorem matchesAny_filterMap {name : Text} :
    matchesAny (texts.filterMap (accepted? overflow?)) name = true ↔
      ∃ text ∈ texts, ∃ pattern, read overflow? text = .ok pattern ∧
        pattern.regex.occursIn pattern.options name = true := by
  -- What is accepted comes from a text, with the pattern that the text is parsed to.
  rw [matchesAny, List.any_eq_true]
  constructor
  · rintro ⟨exclusion, member, occurs⟩
    obtain ⟨text, known, accepted⟩ := List.mem_filterMap.mp member
    rw [accepted?] at accepted
    split at accepted
    next pattern parsed =>
      cases accepted
      exact ⟨text, known, pattern, parsed, occurs⟩
    next => cases accepted
  · rintro ⟨text, known, pattern, parsed, occurs⟩
    -- A text that can be read is accepted with its pattern.
    have accepted : accepted? overflow? text = some ⟨text, pattern⟩ := by rw [accepted?, parsed]
    exact ⟨⟨text, pattern⟩, List.mem_filterMap.mpr ⟨text, known, accepted⟩, occurs⟩

/-- A text that is refused otherwise than as malformed shows the reason, unless the machine gives up on it. -/
theorem shows_of_limit? (limited : limit? overflow? text = some fault) :
    (∃ message, overflow? text = some message ∧ fault = .nestedTooDeeply message) ∨ Regex.Shows text fault := by
  -- Of the three outcomes of reading, only the last one is a limit.
  rw [limit?] at limited
  split at limited
  next => cases limited
  next => cases limited
  next found _ refused =>
    cases limited
    rw [read] at refused
    split at refused
    next message given =>
      cases refused
      -- The machine gave up on the text before it was parsed.
      exact .inl ⟨message, given, rfl⟩
    next => exact .inr (Regex.shows_of_parse refused)

end AssetCatalog.Exclusion
