import PeerConnection.Connection.Reachable
import PeerConnection.Transport.BundleGroups

/-!
# Deleting bundle groups

`DeleteGroup` deletes the names of its group one after the other.  Each of them takes its
entry of the map with it, whichever group the entry leads to, and for a name without an
entry `end()` is erased.
-/

namespace PeerConnection.Transport

open PeerConnection.Text
open PeerConnection.Runs
open PeerConnection.Sdp
open PeerConnection.Jsep
open PeerConnection.Connection
open Std

namespace BundleManager

variable {manager : BundleManager}

/-! ## The names, one after the other -/

/-- The search finds a group behind a pointer that leads to one. -/
theorem exists_find?_pointer {pointer : ℕ}
    (hsome : ∃ held ∈ manager.bundleGroups, held.pointer = pointer) :
    ∃ found ∈ manager.bundleGroups, found.pointer = pointer ∧
      manager.bundleGroups.find? (some ·.pointer = some pointer) = some found := by
  have hfound : (manager.bundleGroups.find? (some ·.pointer = some pointer)).isSome := by
    obtain ⟨held, hheld, hpointer⟩ := hsome
    rw [List.find?_isSome]
    exact ⟨held, hheld, decide_eq_true (congrArg some hpointer)⟩
  obtain ⟨found, hfind⟩ := Option.isSome_iff_exists.mp hfound
  exact ⟨found, List.mem_of_find?_eq_some hfind, by simpa using List.find?_some hfind, hfind⟩

theorem deleteMid_eq {pointer : ℕ}
    (hsome : ∃ held ∈ manager.bundleGroups, held.pointer = pointer) (mid : Bytes) :
    manager.deleteMid (some pointer) mid =
      if (manager.lookupGroupByMid mid).isSome then .ok (manager.withoutMid pointer mid)
      else .error .unknownMid := by
  obtain ⟨found, -, hpointer, hfind⟩ := exists_find?_pointer hsome
  simp only [deleteMid, hfind, lookupGroupByMid, TreeMap.isSome_getElem?_eq_contains, hpointer]
  rfl

/-- The names leave the group behind the pointer and the map. -/
def withoutMids (manager : BundleManager) (pointer : ℕ) (names : List Bytes) :
    BundleManager :=
  names.foldl (fun manager contentName => manager.withoutMid pointer contentName) manager

theorem exists_withoutMid {pointer : ℕ}
    (hsome : ∃ held ∈ manager.bundleGroups, held.pointer = pointer) (mid : Bytes) :
    ∃ held ∈ (manager.withoutMid pointer mid).bundleGroups, held.pointer = pointer := by
  obtain ⟨held, hheld, hpointer⟩ := hsome
  refine ⟨_, mem_withoutMid.mpr ⟨held, hheld, rfl⟩, ?_⟩
  split_ifs
  exact hpointer

/-- Each name has an entry, and none comes twice. -/
def Erasable (manager : BundleManager) (names : List Bytes) : Prop :=
  names.Nodup ∧ ∀ name ∈ names, (manager.lookupGroupByMid name).isSome = true

instance (manager : BundleManager) (names : List Bytes) :
    Decidable (manager.Erasable names) :=
  inferInstanceAs (Decidable (_ ∧ _))

/-- The first name takes only its own entry. -/
theorem erasable_cons_iff (pointer : ℕ) (name : Bytes) (names : List Bytes) :
    manager.Erasable (name :: names) ↔
      (manager.lookupGroupByMid name).isSome = true ∧
        (manager.withoutMid pointer name).Erasable names := by
  have hothers : (∀ other ∈ names,
        ((manager.withoutMid pointer name).lookupGroupByMid other).isSome = true) ↔
      name ∉ names ∧ ∀ other ∈ names, (manager.lookupGroupByMid other).isSome = true := by
    constructor
    · intro hall
      refine ⟨fun hname => ?_, fun other hother => ?_⟩
      · have hself := hall name hname
        rw [lookup_withoutMid, if_pos rfl] at hself
        exact absurd hself Bool.false_ne_true
      · have hfound := hall other hother
        rw [lookup_withoutMid] at hfound
        split_ifs at hfound
        · exact absurd hfound Bool.false_ne_true
        · exact hfound
    · rintro ⟨hname, hall⟩ other hother
      have hdistinct : name ≠ other := by
        rintro rfl
        exact hname hother
      rw [lookup_withoutMid, if_neg hdistinct]
      exact hall other hother
  simp only [Erasable, hothers, List.nodup_cons, List.forall_mem_cons]
  tauto

theorem foldlM_deleteMid_eq (names : List Bytes) {pointer : ℕ}
    (hsome : ∃ held ∈ manager.bundleGroups, held.pointer = pointer) :
    names.foldlM (fun manager contentName =>
        manager.deleteMid (some pointer) contentName) manager =
      if manager.Erasable names then .ok (manager.withoutMids pointer names)
      else .error .unknownMid := by
  induction names generalizing manager with
  | nil =>
      rw [if_pos ⟨List.nodup_nil, by simp⟩]
      rfl
  | cons name names ih =>
      rw [List.foldlM_cons, deleteMid_eq hsome]
      by_cases hname : (manager.lookupGroupByMid name).isSome = true
      · have hrest : manager.Erasable (name :: names) ↔
            (manager.withoutMid pointer name).Erasable names := by
          rw [erasable_cons_iff pointer, and_iff_right hname]
        simp only [if_pos hname, bind, Except.bind, hrest]
        exact ih (exists_withoutMid hsome name)
      · have hrest : ¬ manager.Erasable (name :: names) := fun hall =>
          hname ((erasable_cons_iff pointer name names).mp hall).1
        rw [if_neg hname, if_neg hrest]
        rfl

theorem lookup_withoutMids (pointer : ℕ) (names : List Bytes) (other : Bytes) :
    (manager.withoutMids pointer names).lookupGroupByMid other =
      if other ∈ names then none else manager.lookupGroupByMid other := by
  induction names generalizing manager with
  | nil => simp [withoutMids]
  | cons name names ih =>
      have hfirst : manager.withoutMids pointer (name :: names) =
          (manager.withoutMid pointer name).withoutMids pointer names := rfl
      rw [hfirst, ih, lookup_withoutMid]
      by_cases hother : other ∈ names
      · simp [hother]
      · by_cases hname : name = other
        · simp [hname]
        · simp [hother, hname, Ne.symm hname]

/-! ## The group -/

/-- The group behind the pointer has gone, and the others are as they were. -/
def RemovesOnly (pointer : ℕ) (manager next : BundleManager) : Prop :=
  ∃ before held after, manager.bundleGroups = before ++ held :: after ∧
    held.pointer = pointer ∧ next.bundleGroups = before ++ after

/-- What has no name of the group behind the pointer is found as before. -/
def LeavesOthers (pointer : ℕ) (manager next : BundleManager) : Prop :=
  ∀ held ∈ manager.bundleGroups, held.pointer = pointer → ∀ mid ∉ held.contentNames,
    next.lookupGroupByMid mid = manager.lookupGroupByMid mid

/-- Around the group behind the pointer nothing changes. -/
theorem bundleGroups_withoutMid {before after : List BundleGroup} {held : BundleGroup}
    (hgroups : manager.bundleGroups = before ++ held :: after)
    (hothers : ∀ other ∈ before ++ after, other.pointer ≠ held.pointer) (mid : Bytes) :
    (manager.withoutMid held.pointer mid).bundleGroups =
      before ++ { held with group := held.group.removeContentName mid } :: after := by
  have hsame : ∀ others : List BundleGroup, (∀ other ∈ others, other.pointer ≠ held.pointer) →
      (others.map fun other =>
        if other.pointer = held.pointer then
          { other with group := other.group.removeContentName mid }
        else other) = others := by
    intro others hdistinct
    conv_rhs => rw [← List.map_id others]
    apply List.map_congr_left
    intro other hother
    exact if_neg (hdistinct other hother)
  have hbefore := hsame before fun other hother => hothers other (List.mem_append_left _ hother)
  have hafter := hsame after fun other hother => hothers other (List.mem_append_right _ hother)
  simp only [withoutMid, editGroup, hgroups, List.map_append, List.map_cons, hbefore, hafter,
    if_true]

theorem bundleGroups_withoutMids (names : List Bytes) {before after : List BundleGroup}
    {held : BundleGroup} {pointer : ℕ} (hpointer : held.pointer = pointer)
    (hgroups : manager.bundleGroups = before ++ held :: after)
    (hothers : ∀ other ∈ before ++ after, other.pointer ≠ pointer) :
    ∃ group, (manager.withoutMids pointer names).bundleGroups =
      before ++ { held with group := group } :: after := by
  induction names generalizing manager held with
  | nil => exact ⟨held.group, hgroups⟩
  | cons name names ih =>
      subst hpointer
      have hfirst := bundleGroups_withoutMid hgroups hothers name
      exact @ih _ { held with group := held.group.removeContentName name } rfl hfirst

/-- A group that has been emptied is taken out of its place. -/
theorem bundleGroups_withoutGroup (names : List Bytes) {before after : List BundleGroup}
    {held : BundleGroup} (hgroups : manager.bundleGroups = before ++ held :: after)
    (hothers : ∀ other ∈ before ++ after, other.pointer ≠ held.pointer) :
    ((manager.withoutMids held.pointer names).withoutGroup held.pointer).bundleGroups =
      before ++ after := by
  obtain ⟨group, hemptied⟩ := bundleGroups_withoutMids names rfl hgroups hothers
  have hbefore : ∀ other ∈ before, ¬ decide (other.pointer = held.pointer) = true := by
    intro other hother
    simpa using hothers other (List.mem_append_left _ hother)
  simp only [withoutGroup, hemptied, List.eraseP_append_right _ hbefore]
  exact congrArg (before ++ ·) (List.eraseP_cons_of_pos (decide_eq_true rfl))

theorem exists_split (hallocated : Allocated manager) {held : BundleGroup}
    (hheld : held ∈ manager.bundleGroups) :
    ∃ before after, manager.bundleGroups = before ++ held :: after ∧
      ∀ other ∈ before ++ after, other.pointer ≠ held.pointer := by
  obtain ⟨before, after, hgroups⟩ := List.append_of_mem hheld
  refine ⟨before, after, hgroups, ?_⟩
  have hdistinct := hallocated.distinct
  rw [hgroups, List.map_append, List.map_cons, List.nodup_middle, List.nodup_cons,
    ← List.map_append] at hdistinct
  intro other hother hpointer
  exact hdistinct.1 (hpointer ▸ List.mem_map_of_mem hother)

/-- `DeleteGroup`, of a group that is there. -/
theorem deleteGroup_eq (hallocated : Allocated manager) {held : BundleGroup}
    (hheld : held ∈ manager.bundleGroups) :
    manager.deleteGroup (some held.pointer) =
      if manager.Erasable held.contentNames then
        .ok ((manager.withoutMids held.pointer held.contentNames).withoutGroup held.pointer)
      else .error .unknownMid := by
  obtain ⟨found, hfound, hpointer, hfind⟩ := exists_find?_pointer ⟨held, hheld, rfl⟩
  obtain rfl := hallocated.eq_of_pointer hfound hheld hpointer
  simp only [deleteGroup, hfind, foldlM_deleteMid_eq found.contentNames ⟨found, hheld, rfl⟩]
  split_ifs <;> rfl

end BundleManager

open BundleManager

/-! ## Deletions in a run -/

/-- Deletions go through the group that a section finds. -/
def FindsGroup (manager : BundleManager) : BundleCall → Prop
  | .deleteMid mid | .deleteGroup mid => (manager.lookupGroupByMid mid).isSome = true
  | .update _ _ | .commit | .rollback => True

instance (manager : BundleManager) (call : BundleCall) : Decidable (FindsGroup manager call) :=
  match call with
  | .deleteMid mid | .deleteGroup mid =>
      inferInstanceAs (Decidable ((manager.lookupGroupByMid mid).isSome = true))
  | .update _ _ | .commit | .rollback => inferInstanceAs (Decidable True)

/-- Updates with any groups, and deletions of groups that are found. -/
def deletionStep : System BundleManager BundleCall BundleFault :=
  restrict (fun manager call => some (call.apply manager)) FindsGroup

/-- A deletion finds everything that it erases, and takes no more than it should. -/
def DeletesSafely (manager : BundleManager) : BundleCall → Prop
  | .deleteMid mid => ∀ pointer, manager.lookupGroupByMid mid = some pointer →
      ∃ next, manager.deleteMid (some pointer) mid = .ok next ∧
        LeavesOthers pointer manager next
  | .deleteGroup mid => ∀ pointer, manager.lookupGroupByMid mid = some pointer →
      ∃ next, manager.deleteGroup (some pointer) = .ok next ∧
        RemovesOnly pointer manager next ∧ LeavesOthers pointer manager next
  | .update _ _ | .commit | .rollback => True

/-- A group is deleted while each of its names still has an entry of its own. -/
def DeletesErasable (manager : BundleManager) : BundleCall → Prop
  | .deleteGroup mid => ∀ pointer, manager.lookupGroupByMid mid = some pointer →
      ∀ held ∈ manager.bundleGroups, held.pointer = pointer →
        manager.Erasable held.contentNames
  | .update _ _ | .deleteMid _ | .commit | .rollback => True

/-- A section that finds a group can always be deleted from it. -/
theorem Anchored.deleteMid_safely {manager : BundleManager} (hanchored : Anchored manager)
    (mid : Bytes) : DeletesSafely manager (.deleteMid mid) := by
  intro pointer hlookup
  obtain ⟨held, hheld, rfl, hmember⟩ := hanchored.alive mid pointer hlookup
  refine ⟨manager.withoutMid held.pointer mid, ?_, ?_⟩
  · rw [deleteMid_eq ⟨held, hheld, rfl⟩, hlookup]
    rfl
  · intro other hother hpointer name hname
    obtain rfl := hanchored.toAllocated.eq_of_pointer hother hheld hpointer
    have hdistinct : mid ≠ name := by
      rintro rfl
      exact hname hmember
    rw [lookup_withoutMid, if_neg hdistinct]

theorem Anchored.deleteGroup_safely_iff {manager : BundleManager}
    (hanchored : Anchored manager) (mid : Bytes) :
    DeletesSafely manager (.deleteGroup mid) ↔ DeletesErasable manager (.deleteGroup mid) := by
  constructor
  · intro hsafe pointer hlookup held hheld hpointer
    obtain ⟨next, hdelete, -⟩ := hsafe pointer hlookup
    rw [← hpointer, deleteGroup_eq hanchored.toAllocated hheld] at hdelete
    by_contra herasable
    rw [if_neg herasable] at hdelete
    exact absurd hdelete (by simp)
  · intro hall pointer hlookup
    obtain ⟨held, hheld, rfl, -⟩ := hanchored.alive mid pointer hlookup
    have herasable := hall held.pointer hlookup held hheld rfl
    refine ⟨_, (deleteGroup_eq hanchored.toAllocated hheld).trans (if_pos herasable), ?_, ?_⟩
    · obtain ⟨before, after, hgroups, hothers⟩ := exists_split hanchored.toAllocated hheld
      exact ⟨before, held, after, hgroups, rfl,
        bundleGroups_withoutGroup held.contentNames hgroups hothers⟩
    · intro other hother hpointer name hname
      obtain rfl := hanchored.toAllocated.eq_of_pointer hother hheld hpointer
      calc
        _ = (manager.withoutMids other.pointer other.contentNames).lookupGroupByMid name := rfl
        _ = manager.lookupGroupByMid name := by rw [lookup_withoutMids, if_neg hname]

theorem Anchored.deletesSafely_iff {manager : BundleManager} (hanchored : Anchored manager)
    (call : BundleCall) : DeletesSafely manager call ↔ DeletesErasable manager call := by
  cases call with
  | deleteMid mid => exact iff_of_true (hanchored.deleteMid_safely mid) trivial
  | deleteGroup mid => exact hanchored.deleteGroup_safely_iff mid
  | update description type => exact Iff.rfl
  | commit => exact Iff.rfl
  | rollback => exact Iff.rfl

theorem Anchored.deletionStep {manager next : BundleManager} {call : BundleCall}
    (hanchored : Anchored manager) (hstep : deletionStep manager call = some (.ok next)) :
    Anchored next := by
  obtain ⟨-, happly⟩ := restrict_eq_some_iff.mp hstep
  exact hanchored.apply (Option.some.inj happly)

/-- In every run the deletions are safe exactly if each group is deleted while its names have
entries and none of them is repeated. -/
theorem deletionsSafe_iff (policy : BundlePolicy) (calls : List BundleCall) :
    Guarded deletionStep DeletesSafely { bundlePolicy := policy } calls ↔
      Guarded deletionStep DeletesErasable { bundlePolicy := policy } calls :=
  guarded_iff_of_invariant (fun _ _ _ hanchored hstep => Anchored.deletionStep hanchored hstep)
    (fun _ call hanchored => hanchored.deletesSafely_iff call) (anchored_empty policy) calls

/-- A text with a section that stands twice in the BUNDLE group. -/
def repeatedSdp : Bytes :=
  ascii "v=0\na=group:BUNDLE audio audio\nm=audio 9 UDP/TLS/RTP/SAVPF 111\n"

/-- The second deletion of the name finds no entry. -/
theorem not_deletesSafely_repeatedSdp :
    Accepted repeatedSdp ∧
      ¬ Guarded deletionStep DeletesSafely {}
        [.update (acceptedDescription rfc4572Api repeatedSdp) .answer, .deleteGroup kAudio] := by
  refine ⟨by decide, ?_⟩
  let updated := BundleManager.update {} (acceptedDescription rfc4572Api repeatedSdp) .answer
  have hlookup : updated.lookupGroupByMid kAudio = some 0 := by decide
  have hdelete : updated.deleteGroup (some 0) = .error .unknownMid := rfl
  rintro ⟨-, hrest⟩
  obtain ⟨hsafe, -⟩ := hrest updated rfl
  obtain ⟨next, hnext, -⟩ := hsafe 0 hlookup
  exact absurd (hdelete.symm.trans hnext) (by simp)

/-- Groups that stay apart can always be deleted. -/
theorem deletions_safe_of_keepsApart (policy : BundlePolicy) (calls : List BundleCall)
    (hkeeps : Guarded bundleStep KeepsApart { bundlePolicy := policy } calls) :
    Guarded bundleStep DeletesSafely { bundlePolicy := policy } calls := by
  apply guarded_of_invariant (fun _ _ _ => BundleInv.step) _ (bundleInv_empty policy) hkeeps
  intro manager call hinv _
  rw [hinv.toAnchored.deletesSafely_iff]
  cases call with
  | deleteGroup mid =>
      intro pointer _ held hheld _
      refine ⟨hinv.nodup held hheld, fun name hname => ?_⟩
      rw [hinv.covered held hheld name hname]
      rfl
  | deleteMid mid => trivial
  | update description type => trivial
  | commit => trivial
  | rollback => trivial

end PeerConnection.Transport
