import PeerConnection.Transport.BundleManager

/-!
# Bundle groups and the map that finds them

The map always points into the groups.  That it points to the only group with the name is
lost when an offer overwrites a group with a name of another group that it leaves alone.
-/

namespace PeerConnection.Transport

open PeerConnection.Text
open PeerConnection.Runs
open PeerConnection.MemberIndex
open PeerConnection.Sdp
open PeerConnection.Jsep
open Std

/-! ## Pointers -/

/-- The pointers of the groups have been allocated, each one once. -/
structure Allocated (manager : BundleManager) : Prop where
  distinct : (manager.bundleGroups.map BundleGroup.pointer).Nodup
  fresh : ∀ held ∈ manager.bundleGroups, held.pointer < manager.nextPointer

/-- The map points into the groups. -/
structure Anchored (manager : BundleManager) : Prop extends Allocated manager where
  alive : ∀ mid pointer, manager.lookupGroupByMid mid = some pointer →
    ∃ held ∈ manager.bundleGroups, held.pointer = pointer ∧ mid ∈ held.contentNames

theorem Allocated.eq_of_pointer {manager : BundleManager} (hallocated : Allocated manager)
    {held other : BundleGroup} (hheld : held ∈ manager.bundleGroups)
    (hother : other ∈ manager.bundleGroups) (hpointer : held.pointer = other.pointer) :
    held = other :=
  List.inj_on_of_nodup_map hallocated.distinct hheld hother hpointer

namespace BundleManager

variable {manager next : BundleManager}

theorem allocated_pushBack (hallocated : Allocated manager) (group : ContentGroup) :
    Allocated (manager.pushBack group) := by
  constructor
  · rw [pushBack, List.map_append, List.nodup_append']
    refine ⟨hallocated.distinct, List.nodup_singleton _, ?_⟩
    intro pointer hpointer hnew
    obtain ⟨held, hheld, rfl⟩ := List.mem_map.mp hpointer
    have hsame : held.pointer = manager.nextPointer := by simpa using hnew
    exact absurd hsame (hallocated.fresh held hheld).ne
  · intro held hheld
    rcases List.mem_append.mp hheld with hold | hnew
    · exact Nat.lt_succ_of_lt (hallocated.fresh held hold)
    · rw [List.mem_singleton.mp hnew]
      exact Nat.lt_succ_self _

theorem allocated_foldl_pushBack (groups : List ContentGroup)
    (hallocated : Allocated manager) : Allocated (groups.foldl pushBack manager) := by
  induction groups generalizing manager with
  | nil => exact hallocated
  | cons group groups ih => exact ih (allocated_pushBack hallocated group)

theorem allocated_replaceGroups (manager : BundleManager) (groups : List ContentGroup) :
    Allocated (manager.replaceGroups groups) :=
  allocated_foldl_pushBack groups ⟨List.nodup_nil, by simp⟩

theorem foldl_pushBack (groups : List ContentGroup) (manager : BundleManager) :
    (groups.foldl pushBack manager).bundleGroups.map (·.group) =
        manager.bundleGroups.map (·.group) ++ groups ∧
      (groups.foldl pushBack manager).stableBundleGroups = manager.stableBundleGroups ∧
      (groups.foldl pushBack manager).bundlePolicy = manager.bundlePolicy := by
  induction groups generalizing manager with
  | nil => simp
  | cons group groups ih =>
      obtain ⟨hgroups, hstable, hpolicy⟩ := ih (manager.pushBack group)
      refine ⟨?_, hstable, hpolicy⟩
      rw [List.foldl_cons, hgroups]
      simp [pushBack]

theorem groups_replaceGroups (manager : BundleManager) (groups : List ContentGroup) :
    (manager.replaceGroups groups).bundleGroups.map (·.group) = groups :=
  (foldl_pushBack groups { manager with bundleGroups := [] }).1

theorem stable_replaceGroups (manager : BundleManager) (groups : List ContentGroup) :
    (manager.replaceGroups groups).stableBundleGroups = manager.stableBundleGroups :=
  (foldl_pushBack groups { manager with bundleGroups := [] }).2.1

theorem anchored_refresh (hallocated : Allocated manager) :
    Anchored manager.refreshEstablishedBundleGroupsByMid where
  distinct := hallocated.distinct
  fresh := hallocated.fresh
  alive _ _ hlookup := exists_of_getElem?_indexMembers _ _ hlookup

theorem mem_editGroup {pointer : ℕ} {edit : ContentGroup → ContentGroup}
    {held : BundleGroup} :
    held ∈ (manager.editGroup pointer edit).bundleGroups ↔
      ∃ before ∈ manager.bundleGroups, held =
        if before.pointer = pointer then { before with group := edit before.group }
        else before := by
  simp only [editGroup, List.mem_map, eq_comm]

theorem allocated_editGroup (hallocated : Allocated manager) (pointer : ℕ)
    (edit : ContentGroup → ContentGroup) : Allocated (manager.editGroup pointer edit) := by
  constructor
  · have hpointers : (manager.editGroup pointer edit).bundleGroups.map BundleGroup.pointer =
        manager.bundleGroups.map BundleGroup.pointer := by
      rw [editGroup, List.map_map]
      apply List.map_congr_left
      intro held _
      simp only [Function.comp_apply]
      split_ifs <;> rfl
    rw [hpointers]
    exact hallocated.distinct
  · intro held hheld
    obtain ⟨before, hbefore, rfl⟩ := mem_editGroup.mp hheld
    split_ifs <;> exact hallocated.fresh before hbefore

/-! ### Offers -/

theorem matching_congr (hmap : next.establishedBundleGroupsByMid =
    manager.establishedBundleGroupsByMid) : next.matching = manager.matching := by
  have hlookup : next.lookupGroupByMid = manager.lookupGroupByMid := by
    funext mid
    rw [lookupGroupByMid, hmap, lookupGroupByMid]
  funext group
  rw [matching, hlookup, matching]

/-- The offered group that the group behind the pointer ends up with: the last one that
matches it. -/
def replacement (manager : BundleManager) (newBundleGroups : List ContentGroup)
    (pointer : ℕ) : Option ContentGroup :=
  newBundleGroups.reverse.find? fun group => manager.matching group = some pointer

def replaced (manager : BundleManager) (newBundleGroups : List ContentGroup)
    (held : BundleGroup) : BundleGroup :=
  { held with group := (manager.replacement newBundleGroups held.pointer).getD held.group }

theorem replacement_eq_none_of_forall {newBundleGroups : List ContentGroup} {pointer : ℕ}
    (hnone : ∀ group ∈ newBundleGroups, manager.matching group ≠ some pointer) :
    manager.replacement newBundleGroups pointer = none := by
  rw [replacement, List.find?_eq_none]
  intro group hgroup
  simpa using hnone group (List.mem_reverse.mp hgroup)

theorem replaced_nil (manager : BundleManager) : manager.replaced [] = id := rfl

theorem replaced_append_of_none {newBundleGroups : List ContentGroup} {last : ContentGroup}
    (hlast : manager.matching last = none) :
    manager.replaced (newBundleGroups ++ [last]) = manager.replaced newBundleGroups := by
  funext held
  simp [replaced, replacement, hlast]

theorem replaced_append_of_some {newBundleGroups : List ContentGroup} {last : ContentGroup}
    {pointer : ℕ} (hlast : manager.matching last = some pointer) (held : BundleGroup) :
    manager.replaced (newBundleGroups ++ [last]) held =
      if held.pointer = pointer then { held with group := last }
      else manager.replaced newBundleGroups held := by
  by_cases hheld : held.pointer = pointer
  · simp [replaced, replacement, hlast, hheld]
  · simp [replaced, replacement, hlast, hheld, Ne.symm hheld]

theorem foldl_offerGroup (manager : BundleManager) (newBundleGroups : List ContentGroup) :
    newBundleGroups.foldl offerGroup (manager, false) =
      ({ manager with
        bundleGroups := manager.bundleGroups.map (manager.replaced newBundleGroups) },
        newBundleGroups.any fun group => (manager.matching group).isSome) := by
  induction newBundleGroups using List.reverseRecOn with
  | nil =>
      rw [replaced_nil, List.map_id]
      rfl
  | append_singleton newBundleGroups last ih =>
      have hmatching : BundleManager.matching { manager with
          bundleGroups := manager.bundleGroups.map (manager.replaced newBundleGroups) } =
          manager.matching := matching_congr rfl
      rw [List.foldl_append, ih, List.foldl_cons, List.foldl_nil, offerGroup, hmatching,
        List.any_append, List.any_cons, List.any_nil]
      cases hlast : manager.matching last with
      | none => rw [replaced_append_of_none hlast, Option.isSome_none, Bool.or_false,
          Bool.or_false]
      | some pointer =>
          have hmap : (manager.bundleGroups.map (manager.replaced newBundleGroups)).map
              (fun held : BundleGroup =>
                if held.pointer = pointer then { held with group := last } else held) =
              manager.bundleGroups.map (manager.replaced (newBundleGroups ++ [last])) := by
            rw [List.map_map]
            apply List.map_congr_left
            intro held _
            rw [replaced_append_of_some hlast, Function.comp_apply]
            rfl
          simp only [editGroup, hmap, Option.isSome_some, Bool.true_or, Bool.or_true]

/-- The groups that `description` offers or answers. -/
def newGroups (description : SessionDescription) : List ContentGroup :=
  description.getGroupsByName groupTypeBundle

/-- The groups after an offer, before the map is refreshed. -/
def overwritten (manager : BundleManager) (newBundleGroups : List ContentGroup) :
    BundleManager :=
  { manager with
    bundleGroups := manager.bundleGroups.map (manager.replaced newBundleGroups) }

/-- No group is replaced by the offer. -/
theorem overwritten_of_unmatched {newBundleGroups : List ContentGroup}
    (hnone : ∀ group ∈ newBundleGroups, manager.matching group = none) :
    manager.overwritten newBundleGroups = manager := by
  have hreplaced : ∀ held ∈ manager.bundleGroups,
      manager.replaced newBundleGroups held = held := by
    intro held _
    have hreplacement : manager.replacement newBundleGroups held.pointer = none := by
      apply replacement_eq_none_of_forall
      intro group hgroup
      rw [hnone group hgroup]
      exact (Option.some_ne_none held.pointer).symm
    rw [replaced, hreplacement, Option.getD_none]
  rw [overwritten, List.map_congr_left hreplaced, List.map_id']

/-- An update replaces all groups, overwrites some, or does nothing. -/
theorem update_cases (manager : BundleManager) (description : SessionDescription)
    (type : SdpType) :
    ((manager.bundlePolicy = .maxBundle ∨ type = .answer) ∧
        manager.update description type =
          (manager.replaceGroups (newGroups description)).refreshEstablishedBundleGroupsByMid) ∨
      (manager.bundlePolicy ≠ .maxBundle ∧ type = .offer ∧
        manager.update description type =
          (manager.overwritten
            (newGroups description)).refreshEstablishedBundleGroupsByMid) ∨
      (manager.update description type = manager ∧
        (type = .offer → manager.overwritten (newGroups description) = manager)) := by
  rw [update]
  by_cases hall : manager.bundlePolicy = .maxBundle ∨ type = .answer
  · rw [if_pos hall]
    exact Or.inl ⟨hall, rfl⟩
  rw [if_neg hall]
  by_cases hoffer : type = .offer
  · rw [if_pos hoffer, foldl_offerGroup]
    by_cases hchanged : ((newGroups description).any fun group =>
        (manager.matching group).isSome) = true
    · refine Or.inr (Or.inl ⟨fun hpolicy => hall (Or.inl hpolicy), hoffer, ?_⟩)
      exact if_pos hchanged
    · have hsame : manager.overwritten (newGroups description) = manager := by
        apply overwritten_of_unmatched
        intro group hgroup
        by_contra hmatched
        apply hchanged
        rw [List.any_eq_true]
        exact ⟨group, hgroup, Option.isSome_iff_ne_none.mpr hmatched⟩
      refine Or.inr (Or.inr ⟨?_, fun _ => hsame⟩)
      exact (if_neg hchanged).trans hsame
  · rw [if_neg hoffer]
    exact Or.inr (Or.inr ⟨rfl, fun htype => absurd htype hoffer⟩)

theorem allocated_overwritten (hallocated : Allocated manager)
    (newBundleGroups : List ContentGroup) : Allocated (manager.overwritten newBundleGroups) := by
  constructor
  · rw [overwritten, List.map_map]
    exact hallocated.distinct
  · intro held hheld
    obtain ⟨before, hbefore, rfl⟩ := List.mem_map.mp hheld
    exact hallocated.fresh before hbefore

theorem anchored_update (hanchored : Anchored manager) (description : SessionDescription)
    (type : SdpType) : Anchored (manager.update description type) := by
  rcases update_cases manager description type with
    ⟨-, hupdate⟩ | ⟨-, -, hupdate⟩ | ⟨hupdate, -⟩
  · rw [hupdate]
    exact anchored_refresh (allocated_replaceGroups manager _)
  · rw [hupdate]
    exact anchored_refresh (allocated_overwritten hanchored.toAllocated _)
  · rw [hupdate]
    exact hanchored

/-! ### Deletions -/

/-- The name leaves the group behind the pointer and the map. -/
def withoutMid (manager : BundleManager) (pointer : ℕ) (mid : Bytes) : BundleManager :=
  { manager.editGroup pointer (·.removeContentName mid) with
    establishedBundleGroupsByMid := manager.establishedBundleGroupsByMid.erase mid }

theorem deleteMid_eq_ok {bundleGroup : Option ℕ} {mid : Bytes}
    (hdelete : manager.deleteMid bundleGroup mid = .ok next) :
    ∃ pointer, bundleGroup = some pointer ∧ next = manager.withoutMid pointer mid := by
  rw [deleteMid] at hdelete
  cases hfind : manager.bundleGroups.find? (some ·.pointer = bundleGroup) with
  | none => simp [hfind] at hdelete
  | some held =>
      have hpointer : some held.pointer = bundleGroup := by simpa using List.find?_some hfind
      simp only [hfind] at hdelete
      split_ifs at hdelete
      exact ⟨held.pointer, hpointer.symm, (Except.ok.inj hdelete).symm⟩

theorem lookup_withoutMid (pointer : ℕ) (mid other : Bytes) :
    (manager.withoutMid pointer mid).lookupGroupByMid other =
      if mid = other then none else manager.lookupGroupByMid other := by
  simp [withoutMid, lookupGroupByMid, TreeMap.getElem?_erase]

theorem mem_withoutMid {pointer : ℕ} {mid : Bytes} {held : BundleGroup} :
    held ∈ (manager.withoutMid pointer mid).bundleGroups ↔
      ∃ before ∈ manager.bundleGroups, held =
        if before.pointer = pointer then
          { before with group := before.group.removeContentName mid }
        else before := by
  simp only [withoutMid]
  exact mem_editGroup

theorem anchored_withoutMid (hanchored : Anchored manager) (pointer : ℕ) (mid : Bytes) :
    Anchored (manager.withoutMid pointer mid) where
  toAllocated :=
    let hallocated := allocated_editGroup hanchored.toAllocated pointer
      (·.removeContentName mid)
    ⟨hallocated.distinct, hallocated.fresh⟩
  alive other found hlookup := by
    rw [lookup_withoutMid] at hlookup
    split_ifs at hlookup with hmid
    obtain ⟨held, hheld, hpointer, hmember⟩ := hanchored.alive other found hlookup
    refine ⟨_, mem_withoutMid.mpr ⟨held, hheld, rfl⟩, ?_⟩
    split_ifs
    · refine ⟨hpointer, ?_⟩
      exact (List.mem_erase_of_ne (Ne.symm hmid)).mpr hmember
    · exact ⟨hpointer, hmember⟩

/-- Deleting the names of a group in their order empties it, and keeps what the deletion
of each of them keeps. -/
theorem foldlM_deleteMid {Inv : BundleManager → Prop} {pointer : ℕ} {names : List Bytes}
    (hstep : ∀ manager mid, Inv manager →
      (∃ held ∈ manager.bundleGroups, held.pointer = pointer ∧ mid ∈ held.contentNames) →
      Inv (manager.withoutMid pointer mid))
    (hinv : Inv manager)
    (hsome : ∃ held ∈ manager.bundleGroups, held.pointer = pointer)
    (hnames : ∀ held ∈ manager.bundleGroups, held.pointer = pointer →
      held.contentNames = names)
    (hfold : names.foldlM (fun manager contentName =>
      manager.deleteMid (some pointer) contentName) manager = .ok next) :
    Inv next ∧ ∀ held ∈ next.bundleGroups, held.pointer = pointer →
      held.contentNames = [] := by
  induction names generalizing manager with
  | nil =>
      obtain rfl := Except.ok.inj hfold
      exact ⟨hinv, hnames⟩
  | cons name names ih =>
      rw [List.foldlM_cons] at hfold
      cases hdelete : manager.deleteMid (some pointer) name with
      | error fault =>
          rw [hdelete] at hfold
          exact absurd hfold (by simp [bind, Except.bind])
      | ok middle =>
          rw [hdelete] at hfold
          obtain ⟨same, hsame, rfl⟩ := deleteMid_eq_ok hdelete
          obtain rfl := Option.some.inj hsame
          obtain ⟨held, hheld, hpointer⟩ := hsome
          have hfirst := hnames held hheld hpointer
          apply ih _ _ _ hfold
          · apply hstep manager name hinv
            exact ⟨held, hheld, hpointer, by rw [hfirst]; exact List.mem_cons_self⟩
          · refine ⟨_, mem_withoutMid.mpr ⟨held, hheld, rfl⟩, ?_⟩
            split_ifs
            exact hpointer
          · intro after hafter hsamePointer
            obtain ⟨before, hbefore, rfl⟩ := mem_withoutMid.mp hafter
            by_cases hbeforePointer : before.pointer = pointer
            · have hbeforeNames := hnames before hbefore hbeforePointer
              rw [if_pos hbeforePointer]
              simp only [BundleGroup.contentNames, ContentGroup.removeContentName]
              rw [BundleGroup.contentNames] at hbeforeNames
              rw [hbeforeNames, List.erase_cons_head]
            · rw [if_neg hbeforePointer] at hsamePointer
              exact absurd hsamePointer hbeforePointer

/-- An emptied group goes. -/
def withoutGroup (manager : BundleManager) (pointer : ℕ) : BundleManager :=
  { manager with bundleGroups := manager.bundleGroups.eraseP (·.pointer = pointer) }

/-- A group is deleted name by name. -/
theorem deleteGroup_induction (Inv : BundleManager → Prop) {pointer : ℕ}
    (hanchored : Anchored manager)
    (hstep : ∀ manager mid, Inv manager →
      (∃ held ∈ manager.bundleGroups, held.pointer = pointer ∧ mid ∈ held.contentNames) →
      Inv (manager.withoutMid pointer mid))
    (hinv : Inv manager)
    (hdelete : manager.deleteGroup (some pointer) = .ok next) :
    ∃ emptied, Inv emptied ∧
      (∀ held ∈ emptied.bundleGroups, held.pointer = pointer → held.contentNames = []) ∧
      next = emptied.withoutGroup pointer := by
  rw [deleteGroup] at hdelete
  cases hfind : manager.bundleGroups.find? (some ·.pointer = some pointer) with
  | none =>
      rw [hfind] at hdelete
      exact absurd hdelete (by simp)
  | some held =>
      have hpointer : held.pointer = pointer := by simpa using List.find?_some hfind
      have hheld := List.mem_of_find?_eq_some hfind
      simp only [hfind] at hdelete
      cases hfold : held.contentNames.foldlM (fun manager contentName =>
          manager.deleteMid (some pointer) contentName) manager with
      | error fault =>
          rw [hfold] at hdelete
          exact absurd hdelete (by simp [bind, Except.bind])
      | ok emptied =>
          rw [hfold] at hdelete
          have hnames : ∀ other ∈ manager.bundleGroups, other.pointer = pointer →
              other.contentNames = held.contentNames := by
            intro other hother hsame
            rw [hanchored.toAllocated.eq_of_pointer hother hheld (hsame.trans hpointer.symm)]
          obtain ⟨hafter, hempty⟩ :=
            foldlM_deleteMid hstep hinv ⟨held, hheld, hpointer⟩ hnames hfold
          refine ⟨emptied, hafter, hempty, ?_⟩
          rw [hpointer] at hdelete
          exact (Except.ok.inj hdelete).symm

theorem anchored_withoutGroup (hanchored : Anchored manager) {pointer : ℕ}
    (hempty : ∀ held ∈ manager.bundleGroups, held.pointer = pointer →
      held.contentNames = []) : Anchored (manager.withoutGroup pointer) where
  distinct := hanchored.distinct.sublist (List.eraseP_sublist.map BundleGroup.pointer)
  fresh held hheld := hanchored.fresh held (List.mem_of_mem_eraseP hheld)
  alive mid found hlookup := by
    obtain ⟨held, hheld, hpointer, hmember⟩ := hanchored.alive mid found hlookup
    refine ⟨held, ?_, hpointer, hmember⟩
    apply (List.mem_eraseP_of_neg _).mpr hheld
    intro hsame
    rw [hempty held hheld (of_decide_eq_true hsame)] at hmember
    exact absurd hmember List.not_mem_nil

theorem deleteGroup_none (manager : BundleManager) :
    manager.deleteGroup none = .error .unknownGroup := by
  have hfind : manager.bundleGroups.find? (some ·.pointer = none) = none := by simp
  rw [deleteGroup, hfind]

end BundleManager

open BundleManager

theorem bundleStep_eq_ok_iff {manager next : BundleManager} {call : BundleCall} :
    bundleStep manager call = some (.ok next) ↔
      WellGrouped manager call ∧ call.apply manager = .ok next := by
  rw [bundleStep, restrict_eq_some_iff, Option.some.injEq]

theorem Anchored.apply {manager next : BundleManager} {call : BundleCall}
    (hanchored : Anchored manager) (happly : call.apply manager = .ok next) :
    Anchored next := by
  cases call with
  | update description type =>
      obtain rfl := Except.ok.inj happly
      exact anchored_update hanchored description type
  | deleteMid mid =>
      obtain ⟨pointer, -, rfl⟩ := deleteMid_eq_ok happly
      exact anchored_withoutMid hanchored pointer mid
  | deleteGroup mid =>
      cases hlookup : manager.lookupGroupByMid mid with
      | none =>
          rw [BundleCall.apply, hlookup, deleteGroup_none] at happly
          exact absurd happly (by simp)
      | some pointer =>
          rw [BundleCall.apply, hlookup] at happly
          obtain ⟨emptied, hemptied, hempty, rfl⟩ := deleteGroup_induction Anchored hanchored
            (fun _ mid hinv _ => anchored_withoutMid hinv pointer mid) hanchored happly
          exact anchored_withoutGroup hemptied hempty
  | commit =>
      obtain rfl := Except.ok.inj happly
      exact ⟨⟨hanchored.distinct, hanchored.fresh⟩, hanchored.alive⟩
  | rollback =>
      obtain rfl := Except.ok.inj happly
      exact anchored_refresh (allocated_replaceGroups manager _)

theorem Anchored.step {manager next : BundleManager} {call : BundleCall}
    (hanchored : Anchored manager) (hstep : bundleStep manager call = some (.ok next)) :
    Anchored next :=
  hanchored.apply (bundleStep_eq_ok_iff.mp hstep).2

theorem anchored_empty (policy : BundlePolicy) : Anchored { bundlePolicy := policy } where
  distinct := List.nodup_nil
  fresh := by simp
  alive mid pointer hlookup := by simp [lookupGroupByMid] at hlookup

/-- No pointer of the map dangles in any state of a run. -/
theorem lookup_alive (policy : BundlePolicy) (calls : List BundleCall) :
    Throughout bundleStep Anchored { bundlePolicy := policy } calls := by
  intro before after manager _ hrun
  exact run_induction (fun _ _ _ hanchored hstep => Anchored.step hanchored hstep)
    (anchored_empty policy) hrun

theorem deref_eq_some {manager : BundleManager} (hallocated : Allocated manager)
    {held : BundleGroup} (hheld : held ∈ manager.bundleGroups) :
    manager.deref held.pointer = some held.group := by
  rw [deref, Option.map_eq_some_iff]
  have hsome : (manager.bundleGroups.find? (·.pointer = held.pointer)).isSome := by
    rw [List.find?_isSome]
    exact ⟨held, hheld, decide_eq_true rfl⟩
  obtain ⟨found, hfind⟩ := Option.isSome_iff_exists.mp hsome
  have hpointer : found.pointer = held.pointer := by simpa using List.find?_some hfind
  refine ⟨found, hfind, ?_⟩
  rw [hallocated.eq_of_pointer (List.mem_of_find?_eq_some hfind) hheld hpointer]

/-- The names of the group that `LookupGroupByMid` finds, in their order. -/
def lookupNames (manager : BundleManager) (mid : Bytes) : Option (List Bytes) :=
  ((manager.lookupGroupByMid mid).bind manager.deref).map (·.contentNames)

/-- The group of a section has the section, so it has a first one. -/
theorem isFirstMidInGroup_eq_ok {manager : BundleManager} (hanchored : Anchored manager)
    (mid : Bytes) : manager.isFirstMidInGroup mid =
      .ok ((lookupNames manager mid).elim true fun names => names.head? = some mid) := by
  rw [isFirstMidInGroup, lookupNames]
  cases hlookup : manager.lookupGroupByMid mid with
  | none => rfl
  | some pointer =>
      obtain ⟨held, hheld, rfl, hmember⟩ := hanchored.alive mid pointer hlookup
      have hderef := deref_eq_some hanchored.toAllocated hheld
      cases hnames : held.group.contentNames with
      | nil =>
          rw [BundleGroup.contentNames, hnames] at hmember
          exact absurd hmember List.not_mem_nil
      | cons first rest => simp [hderef, ContentGroup.firstContentName, hnames, eq_comm]

/-! ## Disjoint groups -/

/-- Every name of a group leads to the group, and stands in it once. -/
structure Covered (manager : BundleManager) : Prop extends Anchored manager where
  covered : ∀ held ∈ manager.bundleGroups, ∀ mid ∈ held.contentNames,
    manager.lookupGroupByMid mid = some held.pointer
  nodup : ∀ held ∈ manager.bundleGroups, held.contentNames.Nodup

/-- No name stands in the groups of two pointers. -/
def Apart (manager : BundleManager) : Prop :=
  ∀ held ∈ manager.bundleGroups, ∀ other ∈ manager.bundleGroups, ∀ mid ∈ held.contentNames,
    mid ∈ other.contentNames → other.pointer = held.pointer

theorem unrepeated_iff (manager : BundleManager) :
    Unrepeated (manager.bundleGroups.map (·.group)) ↔
      (∀ held ∈ manager.bundleGroups, held.contentNames.Nodup) ∧
        manager.bundleGroups.Pairwise fun held other =>
          held.contentNames.Disjoint other.contentNames := by
  rw [Unrepeated, List.flatMap_map, List.nodup_flatMap]
  rfl

theorem covered_refresh {manager : BundleManager} (hallocated : Allocated manager)
    (hapart : Apart manager) (hnodup : ∀ held ∈ manager.bundleGroups, held.contentNames.Nodup) :
    Covered manager.refreshEstablishedBundleGroupsByMid where
  toAnchored := anchored_refresh hallocated
  covered held hheld mid hmid := by
    apply getElem?_indexMembers_of_mem _ _ _ hheld hmid
    intro other hother hmember
    exact hapart held hheld other hother mid hmid hmember
  nodup := hnodup

theorem covered_replaceGroups (manager : BundleManager) {groups : List ContentGroup}
    (hunrepeated : Unrepeated groups) :
    Covered (manager.replaceGroups groups).refreshEstablishedBundleGroupsByMid := by
  rw [← groups_replaceGroups manager groups, unrepeated_iff] at hunrepeated
  obtain ⟨hnodup, hdisjoint⟩ := hunrepeated
  apply covered_refresh (allocated_replaceGroups manager groups) _ hnodup
  intro held hheld other hother mid hmid hmember
  rw [eq_of_mem_members hdisjoint hheld hother hmid hmember]

theorem Covered.apart {manager : BundleManager} (hcovered : Covered manager) :
    Apart manager := by
  intro held hheld other hother mid hmid hmember
  have hfirst := hcovered.covered held hheld mid hmid
  have hsecond := hcovered.covered other hother mid hmember
  exact Option.some.inj (hsecond.symm.trans hfirst)

theorem Covered.unrepeated {manager : BundleManager} (hcovered : Covered manager) :
    Unrepeated (manager.bundleGroups.map (·.group)) := by
  rw [unrepeated_iff]
  refine ⟨hcovered.nodup, ?_⟩
  have hdistinct := List.pairwise_map.mp hcovered.distinct
  apply hdistinct.imp_of_mem
  intro held other hheld hother hpointer mid hmid hmember
  exact hpointer (hcovered.apart held hheld other hother mid hmid hmember).symm

theorem covered_withoutMid {manager : BundleManager} (hcovered : Covered manager)
    {pointer : ℕ} {mid : Bytes} (hlookup : manager.lookupGroupByMid mid = some pointer) :
    Covered (manager.withoutMid pointer mid) where
  toAnchored := anchored_withoutMid hcovered.toAnchored pointer mid
  covered held hheld other hother := by
    obtain ⟨before, hbefore, rfl⟩ := mem_withoutMid.mp hheld
    rw [lookup_withoutMid]
    by_cases hpointer : before.pointer = pointer
    · rw [if_pos hpointer] at hother ⊢
      have hmember := ((hcovered.nodup before hbefore).mem_erase_iff).mp hother
      rw [if_neg (Ne.symm hmember.1)]
      exact hcovered.covered before hbefore other hmember.2
    · rw [if_neg hpointer] at hother ⊢
      have hfound := hcovered.covered before hbefore other hother
      have hne : mid ≠ other := by
        rintro rfl
        exact hpointer (Option.some.inj (hfound.symm.trans hlookup))
      rw [if_neg hne]
      exact hfound
  nodup held hheld := by
    obtain ⟨before, hbefore, rfl⟩ := mem_withoutMid.mp hheld
    split_ifs
    · exact (hcovered.nodup before hbefore).erase mid
    · exact hcovered.nodup before hbefore

theorem covered_withoutGroup {manager : BundleManager} (hcovered : Covered manager)
    {pointer : ℕ} (hempty : ∀ held ∈ manager.bundleGroups, held.pointer = pointer →
      held.contentNames = []) : Covered (manager.withoutGroup pointer) where
  toAnchored := anchored_withoutGroup hcovered.toAnchored hempty
  covered held hheld := hcovered.covered held (List.mem_of_mem_eraseP hheld)
  nodup held hheld := hcovered.nodup held (List.mem_of_mem_eraseP hheld)

/-! ### Offers that keep the groups apart -/

/-- A group that the offer replaces gets no name of a group that it does not replace. -/
def ReplacedApart (manager : BundleManager) (newBundleGroups : List ContentGroup) : Prop :=
  ∀ held ∈ manager.bundleGroups, ∀ other ∈ manager.bundleGroups, ∀ group,
    manager.replacement newBundleGroups held.pointer = some group →
    manager.replacement newBundleGroups other.pointer = none →
    ∀ mid ∈ group.contentNames, mid ∉ other.contentNames

theorem replacement_eq_some {manager : BundleManager} {newBundleGroups : List ContentGroup}
    {pointer : ℕ} {group : ContentGroup}
    (hreplacement : manager.replacement newBundleGroups pointer = some group) :
    group ∈ newBundleGroups ∧ manager.matching group = some pointer :=
  ⟨List.mem_reverse.mp (List.mem_of_find?_eq_some hreplacement),
    by simpa using List.find?_some hreplacement⟩

/-- Two groups of a description share a name only when they are the same. -/
theorem eq_of_unrepeated {groups : List ContentGroup} (hunrepeated : Unrepeated groups)
    {group other : ContentGroup} (hgroup : group ∈ groups) (hother : other ∈ groups)
    {mid : Bytes} (hmid : mid ∈ group.contentNames) (hmember : mid ∈ other.contentNames) :
    group = other :=
  eq_of_mem_members (List.nodup_flatMap.mp hunrepeated).2 hgroup hother hmid hmember

theorem apart_overwritten {manager : BundleManager} (hcovered : Covered manager)
    {newBundleGroups : List ContentGroup} (hunrepeated : Unrepeated newBundleGroups)
    (hreplaced : ReplacedApart manager newBundleGroups) :
    Apart (manager.overwritten newBundleGroups) := by
  intro held hheld other hother mid hmid hmember
  obtain ⟨before, hbefore, rfl⟩ := List.mem_map.mp hheld
  obtain ⟨otherBefore, hotherBefore, rfl⟩ := List.mem_map.mp hother
  cases hfirst : manager.replacement newBundleGroups before.pointer with
  | none =>
      simp only [BundleGroup.contentNames, replaced, hfirst, Option.getD_none] at hmid
      cases hsecond : manager.replacement newBundleGroups otherBefore.pointer with
      | none =>
          simp only [BundleGroup.contentNames, replaced, hsecond, Option.getD_none] at hmember
          exact hcovered.apart before hbefore otherBefore hotherBefore mid hmid hmember
      | some group =>
          simp only [BundleGroup.contentNames, replaced, hsecond, Option.getD_some] at hmember
          exact absurd hmid (hreplaced otherBefore hotherBefore before hbefore group hsecond
            hfirst mid hmember)
  | some group =>
      simp only [BundleGroup.contentNames, replaced, hfirst, Option.getD_some] at hmid
      cases hsecond : manager.replacement newBundleGroups otherBefore.pointer with
      | none =>
          simp only [BundleGroup.contentNames, replaced, hsecond, Option.getD_none] at hmember
          exact absurd hmember (hreplaced before hbefore otherBefore hotherBefore group hfirst
            hsecond mid hmid)
      | some otherGroup =>
          simp only [BundleGroup.contentNames, replaced, hsecond, Option.getD_some] at hmember
          obtain ⟨hgroup, hmatching⟩ := replacement_eq_some hfirst
          obtain ⟨hotherGroup, hotherMatching⟩ := replacement_eq_some hsecond
          obtain rfl := eq_of_unrepeated hunrepeated hgroup hotherGroup hmid hmember
          exact Option.some.inj (hotherMatching.symm.trans hmatching)

theorem covered_overwritten {manager : BundleManager} (hcovered : Covered manager)
    {newBundleGroups : List ContentGroup} (hunrepeated : Unrepeated newBundleGroups)
    (hreplaced : ReplacedApart manager newBundleGroups) :
    Covered (manager.overwritten newBundleGroups).refreshEstablishedBundleGroupsByMid := by
  apply covered_refresh (allocated_overwritten hcovered.toAllocated newBundleGroups)
    (apart_overwritten hcovered hunrepeated hreplaced)
  intro held hheld
  obtain ⟨before, hbefore, rfl⟩ := List.mem_map.mp hheld
  cases hreplacement : manager.replacement newBundleGroups before.pointer with
  | none =>
      simp only [BundleGroup.contentNames, replaced, hreplacement, Option.getD_none]
      exact hcovered.nodup before hbefore
  | some group =>
      simp only [BundleGroup.contentNames, replaced, hreplacement, Option.getD_some]
      exact (List.nodup_flatMap.mp hunrepeated).1 group (replacement_eq_some hreplacement).1

/-! ## Runs -/

/-- The groups are disjoint, the map finds the group of each name and nothing else, and the
first names can be read. -/
structure InStep (manager : BundleManager) : Prop where
  disjoint : manager.bundleGroups.Pairwise fun held other =>
    held.contentNames.Disjoint other.contentNames
  lookup_iff : ∀ mid pointer, manager.lookupGroupByMid mid = some pointer ↔
    ∃ held ∈ manager.bundleGroups, held.pointer = pointer ∧ mid ∈ held.contentNames
  firstMid : ∀ mid, ∃ first, manager.isFirstMidInGroup mid = .ok first

/-- The invariant of the runs that stay in step. -/
structure BundleInv (manager : BundleManager) : Prop extends Covered manager where
  stable : Unrepeated manager.stableBundleGroups

/-- An offer under another policy than max-bundle keeps the groups apart. -/
def KeepsApart (manager : BundleManager) : BundleCall → Prop
  | .update description type =>
      Unrepeated (newGroups description) → manager.bundlePolicy ≠ .maxBundle → type = .offer →
        ReplacedApart manager (newGroups description)
  | .deleteMid _ | .deleteGroup _ | .commit | .rollback => True

theorem bundleInv_empty (policy : BundlePolicy) : BundleInv { bundlePolicy := policy } where
  toAnchored := anchored_empty policy
  covered := by simp
  nodup := by simp
  stable := List.nodup_nil

theorem BundleInv.inStep {manager : BundleManager} (hinv : BundleInv manager) :
    InStep manager where
  disjoint := ((unrepeated_iff manager).mp hinv.toCovered.unrepeated).2
  lookup_iff mid pointer := by
    constructor
    · exact hinv.alive mid pointer
    · rintro ⟨held, hheld, rfl, hmember⟩
      exact hinv.covered held hheld mid hmember
  firstMid mid := ⟨_, isFirstMidInGroup_eq_ok hinv.toAnchored mid⟩

theorem stable_update (manager : BundleManager) (description : SessionDescription)
    (type : SdpType) :
    (manager.update description type).stableBundleGroups = manager.stableBundleGroups := by
  rcases update_cases manager description type with
    ⟨-, hupdate⟩ | ⟨-, -, hupdate⟩ | ⟨hupdate, -⟩
  · rw [hupdate]
    exact stable_replaceGroups manager _
  · rw [hupdate]
    rfl
  · rw [hupdate]

theorem covered_update {manager : BundleManager} (hcovered : Covered manager)
    {description : SessionDescription} {type : SdpType}
    (hunrepeated : Unrepeated (newGroups description))
    (hkeeps : KeepsApart manager (.update description type)) :
    Covered (manager.update description type) := by
  rcases update_cases manager description type with
    ⟨-, hupdate⟩ | ⟨hpolicy, hoffer, hupdate⟩ | ⟨hupdate, -⟩
  · rw [hupdate]
    exact covered_replaceGroups manager hunrepeated
  · rw [hupdate]
    exact covered_overwritten hcovered hunrepeated (hkeeps hunrepeated hpolicy hoffer)
  · rw [hupdate]
    exact hcovered

theorem BundleInv.withoutMid {manager : BundleManager} (hinv : BundleInv manager)
    {pointer : ℕ} {mid : Bytes} (hlookup : manager.lookupGroupByMid mid = some pointer) :
    BundleInv (manager.withoutMid pointer mid) :=
  ⟨covered_withoutMid hinv.toCovered hlookup, hinv.stable⟩

theorem BundleInv.deleteMid {manager next : BundleManager} (hinv : BundleInv manager)
    {mid : Bytes}
    (hdelete : manager.deleteMid (manager.lookupGroupByMid mid) mid = .ok next) :
    ∃ pointer, next = manager.withoutMid pointer mid ∧ BundleInv next := by
  obtain ⟨pointer, hlookup, rfl⟩ := deleteMid_eq_ok hdelete
  exact ⟨pointer, rfl, hinv.withoutMid hlookup⟩

/-- What the deletion of the names keeps can be added to the invariant. -/
theorem BundleInv.deleteGroup {manager next : BundleManager} (hinv : BundleInv manager)
    {mid : Bytes}
    (hdelete : manager.deleteGroup (manager.lookupGroupByMid mid) = .ok next) :
    BundleInv next ∧ next.stableBundleGroups = manager.stableBundleGroups := by
  cases hlookup : manager.lookupGroupByMid mid with
  | none =>
      rw [hlookup, deleteGroup_none] at hdelete
      exact absurd hdelete (by simp)
  | some pointer =>
      rw [hlookup] at hdelete
      obtain ⟨emptied, ⟨hemptied, hstable⟩, hempty, rfl⟩ := deleteGroup_induction
        (fun middle => BundleInv middle ∧
          middle.stableBundleGroups = manager.stableBundleGroups)
        hinv.toAnchored
        (fun middle name hmiddle hname => by
          obtain ⟨held, hheld, rfl, hmember⟩ := hname
          exact ⟨hmiddle.1.withoutMid (hmiddle.1.covered held hheld name hmember),
            hmiddle.2⟩)
        ⟨hinv, rfl⟩ hdelete
      exact ⟨⟨covered_withoutGroup hemptied.toCovered hempty, hemptied.stable⟩, hstable⟩

theorem BundleInv.rollback {manager : BundleManager} (hinv : BundleInv manager) :
    BundleInv manager.rollback where
  toCovered := covered_replaceGroups manager hinv.stable
  stable := by
    have hstable := stable_replaceGroups manager manager.stableBundleGroups
    rw [BundleManager.rollback, refreshEstablishedBundleGroupsByMid, hstable]
    exact hinv.stable

theorem BundleInv.commit {manager : BundleManager} (hinv : BundleInv manager) :
    BundleInv manager.commit where
  distinct := hinv.distinct
  fresh := hinv.fresh
  alive := hinv.alive
  covered := hinv.covered
  nodup := hinv.nodup
  stable := hinv.toCovered.unrepeated

theorem BundleInv.step {manager next : BundleManager} {call : BundleCall}
    (hinv : BundleInv manager) (hkeeps : KeepsApart manager call)
    (hstep : bundleStep manager call = some (.ok next)) : BundleInv next := by
  obtain ⟨hgrouped, happly⟩ := bundleStep_eq_ok_iff.mp hstep
  cases call with
  | update description type =>
      obtain rfl := Except.ok.inj happly
      refine ⟨covered_update hinv.toCovered hgrouped hkeeps, ?_⟩
      rw [stable_update]
      exact hinv.stable
  | deleteMid mid =>
      obtain ⟨_, -, hnext⟩ := hinv.deleteMid happly
      exact hnext
  | deleteGroup mid => exact (hinv.deleteGroup happly).1
  | commit =>
      obtain rfl := Except.ok.inj happly
      exact hinv.commit
  | rollback =>
      obtain rfl := Except.ok.inj happly
      exact hinv.rollback

/-- After an offer that does not keep the groups apart, a name stands in two groups, and
the map finds one of them. -/
theorem not_inStep_update {manager : BundleManager} {description : SessionDescription}
    (hpolicy : manager.bundlePolicy ≠ .maxBundle)
    (hmixes : ¬ ReplacedApart manager (newGroups description)) :
    ¬ InStep (manager.update description .offer) := by
  intro hinStep
  apply hmixes
  intro held hheld other hother group hreplaced hkept mid hmid hmember
  have hgroups : (manager.update description .offer).bundleGroups =
      (manager.overwritten (newGroups description)).bundleGroups := by
    rcases update_cases manager description .offer with
      ⟨hall, -⟩ | ⟨-, -, hupdate⟩ | ⟨hupdate, hsame⟩
    · exact absurd hall (by simp [hpolicy])
    · rw [hupdate]
      rfl
    · rw [hupdate, hsame rfl]
  have hlookup : ∀ each ∈ manager.bundleGroups,
      mid ∈ (manager.replaced (newGroups description) each).contentNames →
      (manager.update description .offer).lookupGroupByMid mid = some each.pointer := by
    intro each heach hnames
    apply (hinStep.lookup_iff mid each.pointer).mpr
    refine ⟨manager.replaced (newGroups description) each, ?_, rfl, hnames⟩
    rw [hgroups]
    exact List.mem_map_of_mem heach
  have hfirst := hlookup held hheld (by
    simpa only [BundleGroup.contentNames, replaced, hreplaced, Option.getD_some] using hmid)
  have hsecond := hlookup other hother (by
    simpa only [BundleGroup.contentNames, replaced, hkept, Option.getD_none] using hmember)
  have hpointer := Option.some.inj (hfirst.symm.trans hsecond)
  rw [hpointer, hkept] at hreplaced
  exact absurd hreplaced (by simp)

theorem breaks_of_not_keepsApart {manager : BundleManager} {call : BundleCall}
    (hkeeps : ¬ KeepsApart manager call) :
    ∃ next, bundleStep manager call = some (.ok next) ∧ ¬ InStep next := by
  cases call with
  | update description type =>
      simp only [KeepsApart, Classical.not_imp] at hkeeps
      obtain ⟨hunrepeated, hpolicy, rfl, hmixes⟩ := hkeeps
      exact ⟨_, bundleStep_eq_ok_iff.mpr ⟨hunrepeated, rfl⟩, not_inStep_update hpolicy hmixes⟩
  | deleteMid mid => exact absurd trivial hkeeps
  | deleteGroup mid => exact absurd trivial hkeeps
  | commit => exact absurd trivial hkeeps
  | rollback => exact absurd trivial hkeeps

/-- Groups and map agree in every state of a run exactly when no offer gives a group a name
of a group that it leaves as it is. -/
theorem bundleInStep_iff (policy : BundlePolicy) (calls : List BundleCall) :
    Throughout bundleStep InStep { bundlePolicy := policy } calls ↔
      Guarded bundleStep KeepsApart { bundlePolicy := policy } calls :=
  guarded_iff_throughout (fun _ _ _ => BundleInv.step) (fun _ => BundleInv.inStep)
    (fun _ _ _ hkeeps => breaks_of_not_keepsApart hkeeps) (bundleInv_empty policy) calls

/-- A description with the BUNDLE groups. -/
def bundling (groups : List (List Bytes)) : SessionDescription where
  contentGroups := groups.map fun names =>
    { semantics := groupTypeBundle, contentNames := names }

/-- An offer moves a section from one group to another. -/
theorem offer_leaves_two_groups :
    ∃ manager held other, run bundleStep {}
        [.update (bundling [[ascii "a", ascii "b"], [ascii "c", ascii "d"]]) .answer,
          .update (bundling [[ascii "a", ascii "c"]]) .offer] = some (.ok manager) ∧
      manager.bundleGroups = [held, other] ∧ held.pointer ≠ other.pointer ∧
      ascii "c" ∈ held.contentNames ∧ ascii "c" ∈ other.contentNames ∧
      manager.lookupGroupByMid (ascii "c") = some other.pointer := by
  refine ⟨_, _, _, rfl, rfl, ?_, ?_, ?_, ?_⟩ <;> decide

end PeerConnection.Transport
