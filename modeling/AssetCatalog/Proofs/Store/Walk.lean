import AssetCatalog.Proofs.Store.Tree
import AssetCatalog.Store.Basic

/-! The ways that paths take through a tree, and that they end at the same places after the tree has grown. -/

namespace AssetCatalog.Store.Entry

/-- Whether an entry is a link. -/
def isLink : Entry → Bool
  | link _ _ => true
  | _ => false

/-- Whether an entry is a link is told by its kind. -/
@[simp] theorem isLink_kind (entry : Entry) : entry.kind.isLink = entry.isLink := by
  cases entry <;> rfl

/-- A directory is no link. -/
theorem isLink_of_isDirectory {entry : Entry} (directory : entry.isDirectory = true) :
    entry.isLink = false := by
  -- An entry is one of three things, and only one of them is a directory.
  cases entry with
  | directory => rfl
  | file | link => simp [isDirectory] at directory

/-- A step to something with a name of its own. -/
structure Named (step : Text) : Prop where
  /-- The step does not stay. -/
  leaves : (step.isEmpty || step = ['.']) = false
  /-- The step does not lead up. -/
  down : step ≠ ['.', '.']
  /-- The name is short enough. -/
  short : ¬ 255 < Text.utf8Size step

/-- The way of some steps from a place to a goal, with at most so many links on it. -/
inductive Walks (root : Entry) (followsLast : Bool) : Nat → Place → List Text → Place → Prop
  /-- Without steps the goal is reached. -/
  | arrived {links : Nat} {place : Place} : Walks root followsLast links place [] place
  /-- A step in place. -/
  | stay {links : Nat} {place goal : Place} {step : Text} {steps : List Text}
      (within : (root.at? place).any isDirectory = true) (stays : (step.isEmpty || step = ['.']) = true)
      (rest : Walks root followsLast links place steps goal) :
      Walks root followsLast links place (step :: steps) goal
  /-- A step up. -/
  | up {links : Nat} {place goal : Place} {steps : List Text}
      (within : (root.at? place).any isDirectory = true)
      (rest : Walks root followsLast links place.dropLast steps goal) :
      Walks root followsLast links place (['.', '.'] :: steps) goal
  /-- A last step, to where nothing is. -/
  | beyond {links : Nat} {place : Place} {step : Text} (within : (root.at? place).any isDirectory = true)
      (named : Named step) (free : root.at? (place ++ [step]) = none) :
      Walks root followsLast links place [step] (place ++ [step])
  /-- A last step, to a link that is not followed. -/
  | onto {links : Nat} {place : Place} {step name target : Text}
      (within : (root.at? place).any isDirectory = true) (named : Named step)
      (found : root.at? (place ++ [step]) = some (link name target)) (stops : followsLast = false) :
      Walks root followsLast links place [step] (place ++ [step])
  /-- A step to a link that is followed. -/
  | through {links : Nat} {place goal : Place} {step name target : Text} {steps : List Text}
      (within : (root.at? place).any isDirectory = true) (named : Named step)
      (found : root.at? (place ++ [step]) = some (link name target))
      (follows : (steps.isEmpty && !followsLast) = false)
      (rest : Walks root followsLast links (if Path.isAbsolute target then [] else place)
        (target.splitOn '/' ++ steps) goal) :
      Walks root followsLast (links + 1) place (step :: steps) goal
  /-- A step to anything else. -/
  | down {links : Nat} {place goal : Place} {step : Text} {steps : List Text} {entry : Entry}
      (within : (root.at? place).any isDirectory = true) (named : Named step)
      (found : root.at? (place ++ [step]) = some entry) (other : entry.isLink = false)
      (rest : Walks root followsLast links (place ++ [step]) steps goal) :
      Walks root followsLast links place (step :: steps) goal

section Following

variable {root : Entry} {followsLast : Bool}

/-- What is done with a link on the way, while there may still be so many. -/
def onLink (root : Entry) (followsLast : Bool) : Nat → Place → List Text → Except Cause Place
  | 0, _, _ => .error .tooManyLinks
  | links + 1, place, steps => follow root followsLast links place steps

/-- Going some steps is a walk that leaves each link to the steps behind it. -/
theorem follow_eq_walk (links : Nat) :
    follow root followsLast links = walk root followsLast (onLink root followsLast links) := by
  cases links <;> rfl

/-- Each case of a walk is a way of its own. -/
theorem walks_of_walk {links : Nat}
    (behind : ∀ {place steps goal}, onLink root followsLast links place steps = .ok goal →
      ∃ left, links = left + 1 ∧ Walks root followsLast left place steps goal) :
    ∀ (steps : List Text) {place goal : Place},
      walk root followsLast (onLink root followsLast links) place steps = .ok goal →
        Walks root followsLast links place steps goal := by
  -- The cases are those of the walk, in its order.
  intro steps
  induction steps with
  | nil =>
    intro place goal ended
    rw [walk, Except.ok.injEq] at ended
    exact ended ▸ .arrived
  | cons step steps ih =>
    intro place goal ended
    rw [walk] at ended
    -- A step that is taken stands in a directory, and it stays there, goes up or goes down by a name.
    split at ended
    · cases ended
    next within =>
    have within : (root.at? place).any isDirectory = true := by simpa using within
    split at ended
    next stays => exact .stay within stays (ih ended)
    next leaves =>
    split at ended
    next up => exact up ▸ .up within (ih ended)
    next down =>
    split at ended
    · cases ended
    next short =>
    have named : Named step := ⟨by simpa using leaves, down, short⟩
    -- What the name is that of decides: nothing, a link, or an entry to go on from.
    split at ended
    next free =>
      split at ended
      next last =>
        obtain rfl := List.isEmpty_iff.mp last
        rw [Except.ok.injEq] at ended
        exact ended ▸ .beyond within named free
      · cases ended
    next name target found =>
      split at ended
      next last =>
        obtain ⟨rfl, stops⟩ : steps = [] ∧ followsLast = false := by simpa using last
        rw [Except.ok.injEq] at ended
        exact ended ▸ .onto within named found stops
      next follows =>
        obtain ⟨left, rfl, rest⟩ := behind ended
        exact .through within named found (by simpa using follows) rest
    next entry other found =>
      refine .down within named found ?_ (ih ended)
      cases entry with
      | link name target => exact absurd rfl (other name target)
      | file | directory => rfl

/-- Steps lead to a goal exactly if there is a way there. -/
theorem follow_eq_ok_iff {links : Nat} {place goal : Place} {steps : List Text} :
    follow root followsLast links place steps = .ok goal ↔ Walks root followsLast links place steps goal := by
  constructor
  · -- Fewer links are left behind each one.
    induction links generalizing place steps goal with
    | zero => exact fun ended => walks_of_walk (fun stuck => by cases stuck) steps (follow_eq_walk 0 ▸ ended)
    | succ links ih =>
      exact fun ended => walks_of_walk (fun ended => ⟨links, rfl, ih ended⟩) steps
        (follow_eq_walk (links + 1) ▸ ended)
  · -- A way tells which case the walk takes at each of its steps.
    intro way
    induction way with
    | arrived => rw [follow_eq_walk, walk]
    | stay within stays rest ih =>
      rw [follow_eq_walk] at ih ⊢
      simpa [walk, within, stays] using ih
    | up within rest ih =>
      rw [follow_eq_walk] at ih ⊢
      simpa [walk, within] using ih
    | beyond within named free =>
      rw [follow_eq_walk]
      simp [walk, within, named.leaves, named.down, named.short, free]
    | onto within named found stops =>
      rw [follow_eq_walk]
      simp [walk, within, named.leaves, named.down, named.short, found, stops]
    | through within named found follows rest ih =>
      rw [follow_eq_walk]
      simpa [walk, within, named.leaves, named.down, named.short, found, follows, onLink] using ih
    | down within named found other rest ih =>
      rw [follow_eq_walk] at ih ⊢
      rw [walk]
      simp only [within, named.leaves, named.down, named.short, found]
      cases ‹Entry› with
      | link => simp [isLink] at other
      | file | directory => simpa using ih

end Following

section Landing

variable {root : Entry} {followsLast : Bool} {links : Nat} {place goal : Place}

/-- A place where a way can end. -/
structure Lands (root : Entry) (followsLast : Bool) (place : Place) : Prop where
  /-- The place lies in a directory; the root counts as lying in itself. -/
  within : (root.at? place.dropLast).any isDirectory = true
  /-- A link there would have been followed. -/
  settled : followsLast = true → (root.at? place).any isLink = false

/-- Where there is a directory, there is one at the root, and one around it. -/
theorem isDirectory_dropLast (directory : (root.at? place).any isDirectory = true) :
    (root.at? place.dropLast).any isDirectory = true := by
  -- There is nothing above the root but the root.
  cases place with
  | nil => exact directory
  | cons step place =>
    refine isDirectory_at?_dropLast (List.cons_ne_nil _ _) ?_
    cases found : root.at? (step :: place) with
    | none => simp [found] at directory
    | some entry => rfl

/-- Where there is a directory, there is one at the root. -/
theorem isDirectory_root (directory : (root.at? place).any isDirectory = true) :
    (root.at? []).any isDirectory = true := by
  -- Nothing lies beneath a root that is no directory.
  cases kind : root.isDirectory with
  | true => simp [at?, kind]
  | false =>
    cases place with
    | nil => exact directory
    | cons step place => simp [at?, child?_of_not_isDirectory kind] at directory

/-- A way can end at a directory. -/
theorem Lands.of_isDirectory (directory : (root.at? place).any isDirectory = true) :
    Lands root followsLast place := by
  -- There are directories on the way, and none of them is a link.
  refine ⟨isDirectory_dropLast directory, fun _ => ?_⟩
  cases found : root.at? place with
  | none => rfl
  | some entry => simpa using isLink_of_isDirectory (by simpa [found] using directory)

/-- A way begins at a directory, unless it is over there. -/
theorem Walks.within {steps : List Text} (way : Walks root followsLast links place steps goal)
    (further : steps ≠ []) : (root.at? place).any isDirectory = true := by
  cases way <;> first | contradiction | assumption

/-- A way ends where ways can end. -/
theorem Walks.lands {steps : List Text} (way : Walks root followsLast links place steps goal)
    (start : Lands root followsLast place) : Lands root followsLast goal := by
  -- through| Behind a link the way starts anew from the root, or goes on from where the link is.
  -- The way could end at each place on it.
  induction way with
  | arrived => exact start
  | stay within stays rest ih => exact ih start
  | up within rest ih => exact ih (.of_isDirectory start.within)
  | beyond within named free => exact ⟨by simpa using within, fun _ => by simp [free]⟩
  | onto within named found stops => exact ⟨by simpa using within, fun follows => by simp [stops] at follows⟩
  | through within named found follows rest ih =>
    apply ih
    split
    · exact .of_isDirectory (isDirectory_root within)
    · exact start
  | down within named found other rest ih =>
    exact ih ⟨by simpa using within, fun _ => by simpa [found] using other⟩

end Landing

section Parts

variable {root : Entry} {followsLast : Bool} {links : Nat} {place goal last : Place} {steps more : List Text}

/-- A way is one too where more links may be on it. -/
theorem Walks.spare (way : Walks root followsLast links place steps goal) (spared : Nat) :
    Walks root followsLast (links + spared) place steps goal := by
  -- Only a link takes one of those that may be on the way.
  induction way with
  | arrived => exact .arrived
  | stay within stays rest ih => exact .stay within stays ih
  | up within rest ih => exact .up within ih
  | beyond within named free => exact .beyond within named free
  | onto within named found stops => exact .onto within named found stops
  | through within named found follows rest ih =>
    rw [Nat.add_right_comm]
    exact .through within named found follows ih
  | down within named found other rest ih => exact .down within named found other ih

/-- A way to something, all links followed, goes on from there. -/
theorem Walks.append (way : Walks root true links place steps goal) (there : (root.at? goal).isSome = true)
    (rest : Walks root followsLast 0 goal more last) (further : more ≠ []) :
    Walks root followsLast links place (steps ++ more) last := by
  induction way with
  | @arrived links => exact links.zero_add ▸ rest.spare links
  | stay within stays _ ih => exact .stay within stays (ih there rest)
  | up within _ ih => exact .up within (ih there rest)
  | beyond within named free => simp [free] at there
  | onto within named found stops => cases stops
  | through within named found _ _ ih =>
    -- A link behind which there is more is followed in any case.
    have onward := ih there rest
    rw [List.append_assoc] at onward
    exact .through within named found (by simp [further]) onward
  | down within named found other _ ih => exact .down within named found other (ih there rest)

/-- A step in place that is not the last one can be left out. -/
theorem Walks.skip {front : List Text}
    (way : Walks root followsLast links place (front ++ [] :: more) goal) (further : more ≠ []) :
    Walks root followsLast links place (front ++ more) goal := by
  -- The step is the first one, or behind the first one of the way.
  generalize split : front ++ [] :: more = steps at way
  induction way generalizing front with
  | arrived => simp at split
  | stay within stays rest ih =>
    cases front with
    | nil =>
      obtain ⟨-, rfl⟩ := List.cons.inj split
      exact rest
    | cons step front =>
      obtain ⟨rfl, rfl⟩ := List.cons.inj split
      exact .stay within stays (ih rfl)
  | up within rest ih =>
    cases front with
    | nil => cases split
    | cons step front =>
      obtain ⟨rfl, rfl⟩ := List.cons.inj split
      exact .up within (ih rfl)
  -- These are the last steps of their ways, and behind the step in place comes another one.
  | beyond within named free | onto within named found stops =>
    cases front <;> simp [further] at split
  | @through links place goal step name target steps within named found follows rest ih =>
    cases front with
    | nil =>
      obtain ⟨rfl, -⟩ := List.cons.inj split
      cases named.leaves
    | cons first front =>
      obtain ⟨rfl, rfl⟩ := List.cons.inj split
      have onward := ih (List.append_assoc _ front ([] :: more))
      rw [List.append_assoc] at onward
      exact .through within named found (by simp [further]) onward
  | down within named found other rest ih =>
    cases front with
    | nil =>
      obtain ⟨rfl, -⟩ := List.cons.inj split
      cases named.leaves
    | cons first front =>
      obtain ⟨rfl, rfl⟩ := List.cons.inj split
      exact .down within named found other (ih rfl)

/-- The names on the way to something are the way there, over no links. -/
theorem walks_of_at? {below : Place} {found : Entry} (named : ∀ name ∈ below, Named name)
    (there : root.at? (place ++ below) = some found) : Walks root false 0 place below (place ++ below) := by
  -- The last name may be that of a link, which is not followed; those before it are names of directories.
  induction below generalizing place with
  | nil => exact (List.append_nil place).symm ▸ .arrived
  | cons step below ih =>
    obtain ⟨first, others⟩ := List.forall_mem_cons.mp named
    have onward : place ++ step :: below = place ++ [step] ++ below := by simp
    -- Something is found further down, so this is a directory.
    have within : (root.at? place).any isDirectory = true := by
      by_contra other
      have nothing := at?_append_eq_none (List.cons_ne_nil step below) (Bool.eq_false_iff.mpr other)
      rw [nothing] at there
      cases there
    rw [onward] at there ⊢
    have rest := ih others there
    rw [at?_append, Option.bind_eq_some_iff] at there
    obtain ⟨child, here, inside⟩ := there
    cases kind : child.isLink with
    | false => exact .down within first here kind rest
    | true =>
      cases child with
      | file | directory => cases kind
      | link name target =>
        cases below with
        | cons next below => cases inside
        | nil => simpa using Walks.onto within first here rfl

end Parts

section Growth

/-- A tree has grown into another: nothing is gone or of another kind, no link is new, and names stay distinct. -/
structure Grows (before after : Entry) : Prop where
  /-- What was at a place is there still, as far as its kind goes. -/
  kept : ∀ {place : Place} {entry : Entry}, before.at? place = some entry →
    (after.at? place).map kind = some entry.kind
  /-- What is new is no link. -/
  plain : ∀ {place : Place}, before.at? place = none → (after.at? place).any isLink = false
  /-- No name is new where it was. -/
  distinct : Distinct before → Distinct after

variable {before middle after : Entry} {place : Place}

/-- A tree has grown into itself. -/
theorem Grows.refl (root : Entry) : Grows root root :=
  ⟨fun found => by simp [found], fun free => by simp [free], id⟩

/-- Growing twice is growing. -/
theorem Grows.trans (first : Grows before middle) (last : Grows middle after) : Grows before after := by
  -- What is there at first is of the same kind in the middle and at last.
  refine ⟨?_, ?_, last.distinct ∘ first.distinct⟩
  · intro place entry found
    obtain ⟨between, there, same⟩ := Option.map_eq_some_iff.mp (first.kept found)
    rw [last.kept there, same]
  · intro place free
    cases there : middle.at? place with
    | none => exact last.plain there
    | some between =>
      -- What came between is no link, and stayed what it was.
      have link := first.plain free
      obtain ⟨entry, found, same⟩ := Option.map_eq_some_iff.mp (last.kept there)
      rw [found, Option.any_some, ← isLink_kind, same, isLink_kind]
      simpa [there] using link

/-- A directory stays one. -/
theorem Grows.isDirectory (grown : Grows before after)
    (directory : (before.at? place).any Entry.isDirectory = true) :
    (after.at? place).any Entry.isDirectory = true := by
  -- What a directory becomes is of the same kind.
  cases found : before.at? place with
  | none => simp [found] at directory
  | some entry =>
    obtain ⟨now, there, same⟩ := Option.map_eq_some_iff.mp (grown.kept found)
    rw [there, Option.any_some, ← isDirectory_kind, same, isDirectory_kind]
    simpa [found] using directory

/-- A link stays the one that it is. -/
theorem Grows.link (grown : Grows before after) {name target : Text}
    (found : before.at? place = some (link name target)) : after.at? place = some (link name target) := by
  -- Only a link has its kind, which tells name and target.
  obtain ⟨now, there, same⟩ := Option.map_eq_some_iff.mp (grown.kept found)
  cases now with
  | link => exact there.trans (congrArg some same)
  | file | directory => simp [kind] at same

/-- A way is one too after the tree has grown. -/
theorem Walks.grow {followsLast : Bool} {links : Nat} {goal : Place} {steps : List Text}
    (grown : Grows before after) (way : Walks before followsLast links place steps goal) :
    Walks after followsLast links place steps goal := by
  -- Each step finds what it found, as far as the way depends on it.
  induction way with
  | arrived => exact .arrived
  | stay within stays rest ih => exact .stay (grown.isDirectory within) stays ih
  | up within rest ih => exact .up (grown.isDirectory within) ih
  | @beyond links place step within named free =>
    -- If there is something now, it is no link, and the way ends there all the same.
    cases there : after.at? (place ++ [step]) with
    | none => exact .beyond (grown.isDirectory within) named there
    | some entry =>
      exact .down (grown.isDirectory within) named there (by simpa [there] using grown.plain free) .arrived
  | onto within named found stops =>
    exact .onto (grown.isDirectory within) named (grown.link found) stops
  | through within named found follows rest ih =>
    exact .through (grown.isDirectory within) named (grown.link found) follows ih
  | down within named found other rest ih =>
    obtain ⟨now, there, same⟩ := Option.map_eq_some_iff.mp (grown.kept found)
    refine .down (grown.isDirectory within) named there ?_ ih
    rw [← isLink_kind, same, isLink_kind, other]

end Growth

end AssetCatalog.Store.Entry

namespace AssetCatalog.Store

open Entry

variable {before after store : Store} {path : Text} {followsLast : Bool} {goal : Place}

/-- A path leads to a place exactly if there is a way from the root. -/
theorem place_eq_ok_iff : store.place path followsLast = .ok goal ↔
    path ≠ [] ∧ Walks store.root followsLast linkLimit [] (path.splitOn '/') goal := by
  -- The empty path leads nowhere, and any other is followed from the root.
  rw [place, ← follow_eq_ok_iff]
  cases path with
  | nil => simp
  | cons c path => simp

/-- A path leads to a place where ways can end. -/
theorem lands_of_place (led : store.place path followsLast = .ok goal) :
    Lands store.root followsLast goal := by
  -- Even the empty path has a first step, so the root must be a directory.
  obtain ⟨-, way⟩ := place_eq_ok_iff.mp led
  exact way.lands (.of_isDirectory (way.within (List.splitOn_ne_nil _ _)))

/-- A path leads to the same place after the store has grown. -/
theorem place_of_grows (grown : Grows before.root after.root)
    (led : before.place path followsLast = .ok goal) : after.place path followsLast = .ok goal := by
  -- The steps on the way only ask for directories and links, which stay.
  obtain ⟨filled, way⟩ := place_eq_ok_iff.mp led
  exact place_eq_ok_iff.mpr ⟨filled, way.grow grown⟩

/-- A path leads to a directory still after the store has grown. -/
theorem isDirectory_of_grows (grown : Grows before.root after.root)
    (directory : before.isDirectory path = true) : after.isDirectory path = true := by
  -- The path leads to the same place, and the directory there is still one.
  rw [isDirectory, find?] at directory ⊢
  cases led : before.place path true with
  | error => simp [led] at directory
  | ok goal =>
    rw [place_of_grows grown led]
    exact grown.isDirectory (by simpa [led] using directory)

end AssetCatalog.Store
