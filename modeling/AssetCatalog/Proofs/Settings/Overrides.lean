import AssetCatalog.Glob
import AssetCatalog.Proofs.Settings.Again

/-! Flags under patterns with white space around them: which flag a path gets before and after a validation. -/

namespace AssetCatalog.Settings

open Glob (matchesPath resolveFlag)

section Putting

variable {flags found : List (Text × Bool)} {entry : Text × Bool} {pattern : Text} {flag : Bool}

/-- Flags that are put one after the other: each pattern keeps its first place and takes its last flag. -/
def putFlags (flags : List (Text × Bool)) : List (Text × Bool) :=
  flags.foldl (fun found entry => putFlag entry.1 entry.2 found) []

/-- The flag that a pattern is given last, where it is given any. -/
def lastFlagOf? (flags : List (Text × Bool)) (pattern : Text) : Option Bool :=
  ((flags.filter fun entry => entry.1 = pattern).getLast?).map Prod.snd

/-- Of all patterns, the one whose first entry comes last. -/
def newest? (flags : List (Text × Bool)) : Option Text :=
  (flags.map Prod.fst).eraseDups.getLast?

/-- The last of some flags is put behind the others. -/
theorem putFlags_concat (flags : List (Text × Bool)) (entry : Text × Bool) :
    putFlags (flags ++ [entry]) = putFlag entry.1 entry.2 (putFlags flags) := by
  -- A fold over a list with one more entry ends with that entry.
  rw [putFlags, List.foldl_append]
  rfl

/-- The patterns of flags that were put are those of all flags, each of them once. -/
theorem map_fst_putFlags (flags : List (Text × Bool)) :
    (putFlags flags).map Prod.fst = (flags.map Prod.fst).eraseDups := by
  induction flags using List.reverseRecOn with
  | nil => rfl
  | append_singleton flags entry ih =>
    rw [putFlags_concat, map_fst_putFlag, ih, List.map_append, List.eraseDups_append]
    -- A pattern is new exactly if none of the flags before is for it.
    generalize flags.map Prod.fst = patterns
    by_cases known : entry.1 ∈ patterns
    · simp [List.mem_eraseDups, List.removeAll, known]
    · simp [List.mem_eraseDups, List.removeAll, known, List.eraseDups_cons]

/-- No two flags that were put are for one pattern. -/
theorem nodup_putFlags (flags : List (Text × Bool)) : ((putFlags flags).map Prod.fst).Nodup := by
  -- Induction from the last entry, whose pattern is put only where it is not there yet.
  induction flags using List.reverseRecOn with
  | nil => exact List.nodup_nil
  | append_singleton flags entry ih =>
    rw [putFlags_concat]
    exact nodup_putFlag ih entry.1 entry.2

/-- What is there after a flag was put is that flag, or was there before for another pattern. -/
theorem mem_putFlag (distinct : (found.map Prod.fst).Nodup) (member : entry ∈ putFlag pattern flag found) :
    entry = (pattern, flag) ∨ entry ∈ found ∧ entry.1 ≠ pattern := by
  -- The cases are those of putting: none there yet, the first one replaced, or one behind it.
  induction found with
  | nil => exact .inl (List.mem_singleton.mp member)
  | cons first rest ih =>
    rw [List.map_cons, List.nodup_cons] at distinct
    rw [putFlag] at member
    split at member
    next same =>
      -- The first entry is replaced, and no other one is for its pattern.
      rcases List.mem_cons.mp member with here | later
      · exact .inl here
      · refine .inr ⟨List.mem_cons_of_mem _ later, fun again => distinct.1 ?_⟩
        rw [same, ← again]
        exact List.mem_map_of_mem later
    next differs =>
      rcases List.mem_cons.mp member with rfl | later
      · exact .inr ⟨List.mem_cons_self, differs⟩
      · exact (ih distinct.2 later).imp_right fun known => ⟨List.mem_cons_of_mem _ known.1, known.2⟩

/-- A pattern has the flag that it was given last. -/
theorem lastFlagOf?_of_mem_putFlags (member : entry ∈ putFlags flags) :
    lastFlagOf? flags entry.1 = some entry.2 := by
  -- The flag that was put last decides for its pattern, and those before it for all others.
  induction flags using List.reverseRecOn with
  | nil => cases member
  | append_singleton flags last ih =>
    rw [putFlags_concat] at member
    rw [lastFlagOf?, List.filter_append]
    rcases mem_putFlag (nodup_putFlags flags) member with rfl | ⟨known, differs⟩
    · simp
    · simpa [lastFlagOf?, Ne.symm differs] using ih known

/-- Of the flags that were put, the last one is for the newest pattern, and is the flag that it was given last. -/
theorem getLast?_putFlags (flags : List (Text × Bool)) :
    (putFlags flags).getLast?.map Prod.snd = (newest? flags).bind (lastFlagOf? flags) := by
  -- The patterns keep the order of their first entries, and the flags are those of the last ones.
  rw [newest?, ← map_fst_putFlags, List.getLast?_map]
  cases last : (putFlags flags).getLast? with
  | none => rfl
  | some entry => exact (lastFlagOf?_of_mem_putFlags (List.mem_of_getLast? last)).symm

/-- Flags that are put are none exactly if there are none. -/
theorem isSome_getLast?_putFlags (flags : List (Text × Bool)) :
    (putFlags flags).getLast?.isSome = flags.getLast?.isSome := by
  -- Putting a flag leaves a flag at least, the one that was put.
  cases flags using List.reverseRecOn with
  | nil => rfl
  | append_singleton flags entry =>
    have patterns := map_fst_putFlag entry.1 entry.2 (putFlags flags)
    rw [putFlags_concat]
    -- The patterns of the flags hold the one that was put, so there is some flag.
    cases none : putFlag entry.1 entry.2 (putFlags flags) with
    | nil =>
      rw [none] at patterns
      split at patterns
      next known => simp [← patterns] at known
      · simp at patterns
    | cons => simp

/-- Among the patterns that pass a test, a flag is put as it is among all of them. -/
theorem filter_putFlag (test : Text → Bool) (pattern : Text) (flag : Bool) (found : List (Text × Bool)) :
    ((putFlag pattern flag found).filter fun entry => test entry.1) =
      if test pattern then putFlag pattern flag (found.filter fun entry => test entry.1)
      else found.filter fun entry => test entry.1 := by
  -- The flag of a pattern that fails the test is put where nothing of it passes.
  induction found with
  | nil => cases passes : test pattern <;> simp [putFlag, passes]
  | cons first rest ih =>
    rw [putFlag]
    by_cases same : first.1 = pattern
    · cases passes : test pattern <;> simp [same, passes, putFlag]
    · rw [if_neg same, List.filter_cons, List.filter_cons, ih]
      cases passes : test first.1 <;> cases test pattern <;> simp [putFlag, same]

/-- Flags that were put for the patterns that pass a test are the flags for these patterns, put by themselves. -/
theorem filter_putFlags (test : Text → Bool) (flags : List (Text × Bool)) :
    ((putFlags flags).filter fun entry => test entry.1) =
      putFlags (flags.filter fun entry => test entry.1) := by
  -- Induction from the last entry, which passes the test or leaves the others as they are.
  induction flags using List.reverseRecOn with
  | nil => rfl
  | append_singleton flags entry ih =>
    rw [putFlags_concat, filter_putFlag, ih, List.filter_append]
    cases passes : test entry.1 <;> simp [passes, putFlags_concat]

/-- Flags for distinct patterns are put in their order. -/
theorem putFlags_of_nodup (distinct : (flags.map Prod.fst).Nodup) : putFlags flags = flags := by
  -- Each pattern is new when its flag is put, so the flag comes last.
  induction flags using List.reverseRecOn with
  | nil => rfl
  | append_singleton flags entry ih =>
    rw [List.map_append, List.nodup_append] at distinct
    obtain ⟨front, -, apart⟩ := distinct
    have new : entry.1 ∉ flags.map Prod.fst := fun known => apart _ known _ (by simp) rfl
    rw [putFlags_concat, ih front, putFlag_of_new new]

end Putting

section Resolving

variable {flags : List (Text × Bool)} {path : Text}

/-- A path gets the flag of the last pattern that it matches. -/
theorem resolveFlag_eq (default : Bool) (flags : List (Text × Bool)) (path : Text) :
    resolveFlag default flags path =
      (((flags.filter fun entry => matchesPath entry.1 path).getLast?).map Prod.snd).getD default := by
  -- The last flag is taken if its pattern matches, and else what the flags before it give.
  induction flags using List.reverseRecOn with
  | nil => rfl
  | append_singleton flags entry ih =>
    rw [resolveFlag] at ih
    rw [resolveFlag, List.foldl_append, ih, List.filter_append]
    cases hit : matchesPath entry.1 path <;> simp [hit]

/-- The flags under their patterns without white space, where these are not blank. -/
def stripped (raw : List (Text × Bool)) : List (Text × Bool) :=
  (raw.map fun entry => (entry.1.strip, entry.2)).filter fun entry => !entry.1.isEmpty

/-- Whether the pattern of an entry is not blank, and matches a path once it is without white space. -/
def fits (path : Text) (entry : Text × Bool) : Bool :=
  !entry.1.strip.isEmpty && matchesPath entry.1.strip path

/-- The flag of the last entry that fits a path. -/
def lastFit? (raw : List (Text × Bool)) (path : Text) : Option Bool :=
  ((raw.filter (fits path)).getLast?).map Prod.snd

/-- The flag that the newest of the patterns that fit a path is given last. -/
def newestFit? (raw : List (Text × Bool)) (path : Text) : Option Bool :=
  let fitting := (stripped raw).filter fun entry => matchesPath entry.1 path
  (newest? fitting).bind (lastFlagOf? fitting)

/-- The entries that fit a path are those whose patterns match it once they are without white space. -/
theorem filter_stripped (raw : List (Text × Bool)) (path : Text) :
    ((stripped raw).filter fun entry => matchesPath entry.1 path) =
      (raw.filter (fits path)).map fun entry => (entry.1.strip, entry.2) := by
  -- The test of the pattern may be made before or behind the stripping.
  rw [stripped, List.filter_filter, List.filter_map]
  congr 1
  refine List.filter_congr fun entry _ => ?_
  rw [fits, Bool.and_comm]
  rfl

/-- As they were given, flags give a path that of the last entry that fits it. -/
theorem resolveFlag_stripped (default : Bool) (raw : List (Text × Bool)) (path : Text) :
    resolveFlag default (stripped raw) path = (lastFit? raw path).getD default := by
  -- The last of the stripped entries that match comes from the last raw one that fits.
  rw [resolveFlag_eq, filter_stripped, List.getLast?_map, Option.map_map, lastFit?]
  rfl

/-- As they were put, flags give a path that of the newest of the patterns that fit it. -/
theorem resolveFlag_putFlags (default : Bool) (raw : List (Text × Bool)) (path : Text) :
    resolveFlag default (putFlags (stripped raw)) path = (newestFit? raw path).getD default := by
  -- Putting the flags first and filtering then is the same as the other way round.
  rw [resolveFlag_eq, filter_putFlags (matchesPath · path), getLast?_putFlags]
  rfl

/-- There is a newest of the patterns that fit a path exactly if some entry fits it. -/
theorem isSome_newestFit? (raw : List (Text × Bool)) (path : Text) :
    (newestFit? raw path).isSome = (lastFit? raw path).isSome := by
  -- Both say whether any entry fits, since putting flags drops no pattern altogether.
  rw [newestFit?, ← getLast?_putFlags, Option.isSome_map, isSome_getLast?_putFlags, filter_stripped,
    lastFit?, Option.isSome_map, List.getLast?_map, Option.isSome_map]

/-- Two results give the same flag for a default exactly if they are the same, being there or missing alike. -/
theorem getD_eq_getD_iff {one other : Option Bool} (alike : one.isSome = other.isSome) (default : Bool) :
    one.getD default = other.getD default ↔ one = other := by
  cases one <;> cases other <;> simp_all

end Resolving

section Validation

/-- Flags under patterns as a value of a configuration. -/
def flagsValue (flags : List (Text × Bool)) : Value :=
  .dict (flags.map fun entry => (.text entry.1, .bool entry.2))

/-- Flags under patterns pass their check without white space around the patterns. -/
theorem gives_checkOverrides_flags {mode : Mode} {field : Text} (raw : List (Text × Bool)) :
    ∀ found : List (Text × Bool),
      (checkOverrides mode field found (raw.map fun entry => (.text entry.1, .bool entry.2))).Gives fun flags =>
        flags = (stripped raw).foldl (fun found entry => putFlag entry.1 entry.2 found) found := by
  -- One entry after the other is put in, unless its pattern is blank.
  induction raw with
  | nil => exact fun found => Check.gives_pure rfl
  | cons entry rest ih =>
    intro found
    rw [List.map_cons, checkOverrides, stripped, List.map_cons, List.filter_cons]
    cases blank : entry.1.strip.isEmpty with
    | true => exact Check.gives_bind fun _ => ih found
    | false => exact ih (putFlag entry.1.strip entry.2 found)

/-- Where a configuration has flags under patterns, its settings have these flags, put one after the other. -/
theorem gives_flattenOverrides {mode : Mode} {defaults : Settings} {entries : Entries} {raw : List (Text × Bool)}
    (given : entries.get? "flatten_overrides" = some (flagsValue raw)) :
    (checkEntries mode defaults entries).Gives fun settings =>
      settings.flattenOverrides = putFlags (stripped raw) := by
  rw [checkEntries]
  -- Seven fields are checked before the flags, and the two names are judged behind them.
  iterate 7 refine Check.gives_bind fun _ => ?_
  have checked : (checkFlags mode "flatten_overrides" ((entries.get? "flatten_overrides").getD .null)).Gives
      fun flags => flags = putFlags (stripped raw) := by
    rw [given]
    exact gives_checkOverrides_flags raw []
  refine checked.bind fun flags same => ?_
  exact Check.gives_bind fun _ => Check.gives_bind fun _ => Check.gives_pure same

/-- The repaired flags of a configuration are those that it has, as they are put one after the other. -/
theorem flattenOverrides_repair {entries : Entries} {raw : List (Text × Bool)} (workingDirectory : Text)
    (given : entries.get? "flatten_overrides" = some (flagsValue raw)) :
    (repair workingDirectory (.dict entries)).1.flattenOverrides = putFlags (stripped raw) :=
  gives_flattenOverrides given _ _ _ (validate_lenient workingDirectory (.dict entries))

/--
After a lenient validation of flags under patterns, a path gets the flag that the newest fitting pattern was given last.

This is the flag of the last entry that fits the path exactly if that entry gives the same one.
It is so for every path where no two patterns are the same without white space.
-/
theorem resolveFlag_validate_iff (workingDirectory : Text) (raw : List (Text × Bool)) (path : Text) (default : Bool) :
    ∃ settings found,
      validate .lenient workingDirectory (.dict [entry "flatten_overrides" (flagsValue raw)]) =
        .ok (settings, found) ∧
      resolveFlag default settings.flattenOverrides path = (newestFit? raw path).getD default ∧
      (resolveFlag default settings.flattenOverrides path = (lastFit? raw path).getD default ↔
        newestFit? raw path = lastFit? raw path) ∧
      (((stripped raw).map Prod.fst).Nodup →
        resolveFlag default settings.flattenOverrides path = (lastFit? raw path).getD default) := by
  let config : Value := .dict [entry "flatten_overrides" (flagsValue raw)]
  have flags : (repair workingDirectory config).1.flattenOverrides = putFlags (stripped raw) :=
    flattenOverrides_repair workingDirectory rfl
  refine ⟨(repair workingDirectory config).1, _, validate_lenient workingDirectory config, ?_⟩
  rw [flags]
  refine ⟨resolveFlag_putFlags default raw path, ?_, fun distinct => ?_⟩
  · rw [resolveFlag_putFlags]
    -- A pattern fits where one of its entries does, so both flags are there or none.
    exact getD_eq_getD_iff (isSome_newestFit? raw path) default
  · rw [putFlags_of_nodup distinct]
    exact resolveFlag_stripped default raw path

/-- A pattern that comes again behind another one keeps its place in front, so that the last entry does not decide. -/
theorem not_resolveFlag_validate :
    let raw := [("a*".toList, false), ("*.css".toList, true), (" a* ".toList, false)]
    let config : Value := .dict [entry "flatten_overrides" (flagsValue raw)]
    ¬ ∀ settings found, validate .lenient ['/'] config = .ok (settings, found) →
      resolveFlag true settings.flattenOverrides "a.min.css" = (lastFit? raw "a.min.css").getD true := by
  -- The flag that is resolved and that of the last entry are evaluated and differ.
  intro raw config decided
  have same := decided _ _ (validate_lenient ['/'] config)
  have differs : resolveFlag true (repair ['/'] config).1.flattenOverrides "a.min.css" ≠
      (lastFit? raw "a.min.css").getD true := by decide
  exact differs same

end Validation

end AssetCatalog.Settings
