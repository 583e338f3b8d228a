import AssetCatalog.Asset.Keys
import Mathlib.Data.List.Induction
import Mathlib.Data.List.Nodup

/-! Claims gathered by key: each key has all sources that were claimed for it, in their order. -/

namespace AssetCatalog.Asset

/-- The sources that a list of claims gives for a key, in the order of the claims. -/
def sourcesFor (key : Text) (claims : List Claim) : List Text :=
  (claims.filter (·.1 = key)).flatMap (·.2)

/-- Claims gathered by key, without those that claim nothing. -/
def gather (claims : List Claim) : List Claim :=
  claims.foldl (fun gathered claim =>
    if claim.2.isEmpty then gathered else addClaim claim.1 claim.2 gathered) []

/-- The keys of a tree are the gathered claims of its nodes. -/
theorem keys_eq_gather (tree : Node) : keys tree = gather (claimsBelow [] tree) := rfl

/-- Nothing is claimed in an empty list. -/
@[simp] theorem sourcesFor_nil (key : Text) : sourcesFor key [] = [] := rfl

/-- The first claim for a key comes before the later ones. -/
theorem sourcesFor_cons (key : Text) (claim : Claim) (claims : List Claim) :
    sourcesFor key (claim :: claims) =
      (if claim.1 = key then claim.2 else []) ++ sourcesFor key claims := by
  by_cases here : claim.1 = key <;> simp [sourcesFor, here]

/-- The sources for a key in two lists of claims follow each other. -/
theorem sourcesFor_append (key : Text) (first second : List Claim) :
    sourcesFor key (first ++ second) = sourcesFor key first ++ sourcesFor key second := by
  simp [sourcesFor]

/-- Nothing is claimed for a key exactly if the claims for it claim nothing. -/
theorem sourcesFor_eq_nil_iff {key : Text} {claims : List Claim} :
    sourcesFor key claims = [] ↔ ∀ claim ∈ claims, claim.1 = key → claim.2 = [] := by
  simp [sourcesFor]

/-- A claim for a key is part of what is claimed for the key. -/
theorem sublist_sourcesFor {claims : List Claim} {claim : Claim} (member : claim ∈ claims) :
    claim.2.Sublist (sourcesFor claim.1 claims) := by
  -- The claim stands between others, whose sources come before and behind its own.
  obtain ⟨before, after, rfl⟩ := List.append_of_mem member
  rw [sourcesFor_append, sourcesFor_cons, if_pos rfl]
  exact (List.sublist_append_left _ _).trans (List.sublist_append_right _ _)

/-- A key is looked up in the first claim, and in the others if that one is for another key. -/
theorem lookup_cons_claim (claim : Claim) (claims : List Claim) (key : Text) :
    (claim :: claims).lookup key = if claim.1 = key then some claim.2 else claims.lookup key := by
  -- The library compares keys by a test, and here they are compared as such.
  by_cases here : claim.1 = key
  · subst here
    rw [if_pos rfl]
    exact List.lookup_cons_self
  · have other : (key == claim.1) = false := by simpa using Ne.symm here
    rw [if_neg here, List.lookup_cons, other]

/-- Sources are added to the key that they are claimed for, and other keys keep theirs. -/
theorem lookup_addClaim (key : Text) (sources : List Text) (gathered : List Claim) (sought : Text) :
    (addClaim key sources gathered).lookup sought =
      if key = sought then some ((gathered.lookup key).getD [] ++ sources)
      else gathered.lookup sought := by
  -- The sources go to the claim of the key in its place, or make a claim of their own.
  induction gathered with
  | nil => simp [addClaim, lookup_cons_claim]
  | cons claim rest ih =>
    rw [addClaim]
    by_cases here : claim.1 = key
    · subst here
      by_cases same : claim.1 = sought <;> simp [lookup_cons_claim, same]
    · rw [if_neg here, lookup_cons_claim, lookup_cons_claim, lookup_cons_claim, if_neg here, ih]
      by_cases first : claim.1 = sought
      · -- A claim in front for the key that is sought is for no other key.
        have other : ¬ key = sought := fun same => here (first.trans same.symm)
        rw [if_pos first, if_neg other, if_pos first]
      · rw [if_neg first, if_neg first]

/-- Adding sources adds their key where it is new. -/
theorem map_fst_addClaim (key : Text) (sources : List Text) (gathered : List Claim) :
    (addClaim key sources gathered).map Prod.fst =
      if key ∈ gathered.map Prod.fst then gathered.map Prod.fst
      else gathered.map Prod.fst ++ [key] := by
  -- A claim keeps its key when sources are added to it.
  induction gathered with
  | nil => simp [addClaim]
  | cons claim rest ih =>
    rw [addClaim]
    by_cases here : claim.1 = key
    · simp [here]
    · have elsewhere : ¬ key = claim.1 := Ne.symm here
      -- The key is new behind another claim exactly if it is new among the rest.
      by_cases later : key ∈ rest.map Prod.fst
      · simp only [if_pos later] at ih
        simp [here, ih, later]
      · simp only [if_neg later] at ih
        simp [here, elsewhere, ih, later]

/-- Sources for a new key make a claim behind all others. -/
theorem addClaim_of_new {key : Text} {sources : List Text} {gathered : List Claim}
    (new : key ∉ gathered.map Prod.fst) : addClaim key sources gathered = gathered ++ [(key, sources)] := by
  -- The key is compared with every claim and is that of none.
  induction gathered with
  | nil => rfl
  | cons claim rest ih =>
    simp only [List.map_cons, List.mem_cons, not_or] at new
    rw [addClaim, if_neg (Ne.symm new.1), ih new.2, List.cons_append]

/-- Adding sources keeps keys distinct. -/
theorem nodup_addClaim (key : Text) (sources : List Text) {gathered : List Claim}
    (distinct : (gathered.map Prod.fst).Nodup) :
    ((addClaim key sources gathered).map Prod.fst).Nodup := by
  -- Adding sources for a known key adds no key at all.
  rw [map_fst_addClaim]
  split
  · exact distinct
  · rename_i new
    simpa using List.Nodup.concat new distinct

/-- Gathered claims have distinct keys. -/
theorem nodup_gather (claims : List Claim) : ((gather claims).map Prod.fst).Nodup := by
  -- Each claim is passed over or added, and neither makes a key appear twice.
  refine List.foldlRecOn (motive := fun gathered : List Claim => (gathered.map Prod.fst).Nodup)
    claims _ List.nodup_nil ?_
  intro gathered distinct claim _
  split
  · exact distinct
  · exact nodup_addClaim _ _ distinct

/-- A gathered key has all sources claimed for it, and a key without sources is not gathered. -/
theorem lookup_gather (claims : List Claim) (key : Text) :
    (gather claims).lookup key =
      if sourcesFor key claims = [] then none else some (sourcesFor key claims) := by
  -- The claims are gathered one by one, so the induction adds a last one.
  induction claims using List.reverseRecOn with
  | nil => rfl
  | append_singleton claims claim ih =>
    have step : gather (claims ++ [claim]) =
        if claim.2.isEmpty then gather claims else addClaim claim.1 claim.2 (gather claims) := by
      simp [gather]
    rw [step, sourcesFor_append, sourcesFor_cons, sourcesFor_nil, List.append_nil]
    -- Claims without sources are dropped, so a claim counts only where it has some.
    by_cases nothing : claim.2 = []
    · simp [nothing, ih]
    · by_cases here : claim.1 = key
      · subst here
        have given : ((gather claims).lookup claim.1).getD [] = sourcesFor claim.1 claims := by
          rw [ih]
          split <;> simp_all
        simp [nothing, lookup_addClaim, given]
      · simp [nothing, here, lookup_addClaim, ih]

/-- Among claims with distinct keys, a lookup finds every claim. -/
theorem mem_iff_lookup {claims : List Claim} (distinct : (claims.map Prod.fst).Nodup)
    (claim : Claim) : claim ∈ claims ↔ claims.lookup claim.1 = some claim.2 := by
  -- A lookup stops at the first claim with the key, which is the only one.
  induction claims with
  | nil => simp
  | cons first rest ih =>
    obtain ⟨fresh, distinct⟩ := List.nodup_cons.mp distinct
    rw [lookup_cons_claim, List.mem_cons]
    by_cases here : first.1 = claim.1
    · have absent : claim ∉ rest := fun member =>
        fresh (List.mem_map.mpr ⟨claim, member, here.symm⟩)
      simp [here, absent, Prod.ext_iff, eq_comm]
    · have other : claim ≠ first := fun same => here (congrArg Prod.fst same).symm
      simp [here, other, ih distinct]

/-- A key is gathered with some sources exactly if these are all that is claimed for it. -/
theorem mem_gather_iff {claims : List Claim} {claim : Claim} :
    claim ∈ gather claims ↔ claim.2 = sourcesFor claim.1 claims ∧ claim.2 ≠ [] := by
  rw [mem_iff_lookup (nodup_gather claims), lookup_gather]
  -- Both sides tell the sources of the key, and that there are some.
  split
  · rename_i nothing
    simp [nothing]
  · rename_i something
    constructor
    · intro same
      rw [← Option.some.inj same]
      exact ⟨rfl, something⟩
    · rintro ⟨same, _⟩
      rw [same]

/-- Claims with distinct keys are gathered as they are, without those that claim nothing. -/
theorem gather_eq_filter {claims : List Claim} (distinct : (claims.map Prod.fst).Nodup) :
    gather claims = claims.filter fun claim => !claim.2.isEmpty := by
  -- The claims are gathered one by one, so the induction adds a last one here too.
  induction claims using List.reverseRecOn with
  | nil => rfl
  | append_singleton claims claim ih =>
    rw [List.map_append, List.nodup_append] at distinct
    obtain ⟨earlier, _, apart⟩ := distinct
    have step : gather (claims ++ [claim]) =
        if claim.2.isEmpty then gather claims else addClaim claim.1 claim.2 (gather claims) := by
      simp [gather]
    rw [step, List.filter_append, ih earlier]
    cases nothing : claim.2.isEmpty with
    | true => simp [nothing]
    | false =>
      -- The key of the last claim is new, so its claim goes to the end.
      have new : claim.1 ∉ (claims.filter fun claim => !claim.2.isEmpty).map Prod.fst := by
        intro member
        obtain ⟨other, kept, same⟩ := List.mem_map.mp member
        exact apart other.1 (List.mem_map_of_mem (List.mem_of_mem_filter kept)) claim.1 (by simp) same
      simp [nothing, addClaim_of_new new]

/-- One more claim in front leaves each key one source at most, if its own key has none yet. -/
theorem length_sourcesFor_cons_le_one {claim : Claim} {rest : List Claim} (single : claim.2.length ≤ 1)
    (apart : ∀ other ∈ rest, claim.2 ≠ [] → other.2 ≠ [] → claim.1 ≠ other.1)
    (later : ∀ key, (sourcesFor key rest).length ≤ 1) (key : Text) : (sourcesFor key (claim :: rest)).length ≤ 1 := by
  rw [sourcesFor_cons, List.length_append]
  by_cases counts : claim.1 = key ∧ claim.2 ≠ []
  · -- A source of the first claim leaves no other for its key.
    obtain ⟨rfl, given⟩ := counts
    have alone : sourcesFor claim.1 rest = [] :=
      sourcesFor_eq_nil_iff.mpr fun other member same =>
        by_contra fun otherGiven => apart other member given otherGiven same.symm
    simp [alone, single]
  · -- The first claim gives nothing for the key, so the later claims decide.
    have nothing : (if claim.1 = key then claim.2 else []) = [] := by
      split
      · rename_i here
        by_contra given
        exact counts ⟨here, given⟩
      · rfl
    simpa [nothing] using later key

/-- If each key has one source at most, no two claims in which one is listed are for the same key. -/
theorem apart_of_length_sourcesFor_cons {claim other : Claim} {rest : List Claim}
    (single : ∀ key, (sourcesFor key (claim :: rest)).length ≤ 1) (member : other ∈ rest) (given : claim.2 ≠ [])
    (otherGiven : other.2 ≠ []) : claim.1 ≠ other.1 := by
  intro same
  -- A later claim for the same key would give the key a second source.
  have whole := single claim.1
  rw [sourcesFor_cons, if_pos rfl, List.length_append] at whole
  have part := (sublist_sourcesFor member).length_le
  rw [← same] at part
  have positive := List.length_pos_iff.mpr given
  have otherPositive := List.length_pos_iff.mpr otherGiven
  omega

/-- No key has two sources exactly if each claim has at most one and claims with one differ in key. -/
theorem length_sourcesFor_le_one_iff {claims : List Claim} :
    (∀ key, (sourcesFor key claims).length ≤ 1) ↔
      (∀ claim ∈ claims, claim.2.length ≤ 1) ∧
        claims.Pairwise fun first second => first.2 ≠ [] → second.2 ≠ [] → first.1 ≠ second.1 := by
  -- The sources for a key are those of the first claim and those of the later ones.
  induction claims with
  | nil => simp
  | cons claim rest ih =>
    rw [List.forall_mem_cons, List.pairwise_cons]
    constructor
    · intro single
      have here := single claim.1
      rw [sourcesFor_cons, if_pos rfl, List.length_append] at here
      -- The later claims have no more sources for a key than all claims together.
      have later : ∀ key, (sourcesFor key rest).length ≤ 1 := by
        intro key
        have whole := single key
        rw [sourcesFor_cons, List.length_append] at whole
        omega
      obtain ⟨restSingle, restApart⟩ := ih.mp later
      exact ⟨⟨by omega, restSingle⟩, fun other member => apart_of_length_sourcesFor_cons single member, restApart⟩
    · rintro ⟨⟨single, restSingle⟩, apart, restApart⟩
      exact length_sourcesFor_cons_le_one single apart (ih.mpr ⟨restSingle, restApart⟩)

end AssetCatalog.Asset
