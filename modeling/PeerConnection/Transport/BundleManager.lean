import PeerConnection.Core.MemberIndex
import PeerConnection.Core.Runs
import PeerConnection.Jsep.RtcpMuxFilter
import PeerConnection.Sdp.Description

/-!
# The bundle manager

`BundleManager` holds its groups on the heap and finds the group of a media section through
a map of raw pointers.  A pointer is a number here, and no number is allocated twice.
Answers replace all groups; offers overwrite groups in place and are matched against the
map as it was before.
-/

namespace PeerConnection.Sdp

open PeerConnection.Text

namespace ContentGroup

def firstContentName (group : ContentGroup) : Option Bytes :=
  group.contentNames.head?

def removeContentName (group : ContentGroup) (contentName : Bytes) : ContentGroup :=
  { group with contentNames := group.contentNames.erase contentName }

end ContentGroup

def SessionDescription.getGroupsByName (desc : SessionDescription) (name : Bytes) :
    List ContentGroup :=
  desc.contentGroups.filter (·.semantics = name)

end PeerConnection.Sdp

namespace PeerConnection.Transport

open PeerConnection.Text
open PeerConnection.Runs
open PeerConnection.MemberIndex
open PeerConnection.Sdp
open PeerConnection.Jsep
open Std

/-- `PeerConnectionInterface::BundlePolicy`. -/
inductive BundlePolicy where
  | balanced
  | maxBundle
  | maxCompat
  deriving DecidableEq, Repr

/-- A group on the heap. -/
structure BundleGroup where
  pointer : ℕ
  group : ContentGroup

namespace BundleGroup

def contentNames (held : BundleGroup) : List Bytes := held.group.contentNames

end BundleGroup

/-- What goes wrong with a pointer or an iterator, with the checks compiled out. -/
inductive BundleFault where
  /-- `*bundle_groups_.end()`. -/
  | unknownGroup
  /-- `established_bundle_groups_by_mid_.erase(end())`. -/
  | unknownMid
  /-- `*group->FirstContentName()` of a group without names. -/
  | nullFirstName
  | danglingGroup
  deriving DecidableEq, Repr

structure BundleManager where
  bundlePolicy : BundlePolicy := .balanced
  bundleGroups : List BundleGroup := []
  /-- Copies, which nothing points to. -/
  stableBundleGroups : List ContentGroup := []
  establishedBundleGroupsByMid : TreeMap Bytes ℕ := ∅
  /-- The pointer that the next allocation gives. -/
  nextPointer : ℕ := 0

/-- `GROUP_TYPE_BUNDLE`. -/
def groupTypeBundle : Bytes := ascii "BUNDLE"

namespace BundleManager

def lookupGroupByMid (manager : BundleManager) (mid : Bytes) : Option ℕ :=
  manager.establishedBundleGroupsByMid[mid]?

/-- The group that a pointer leads to. -/
def deref (manager : BundleManager) (pointer : ℕ) : Option ContentGroup :=
  (manager.bundleGroups.find? (·.pointer = pointer)).map (·.group)

/-- Sections without a group lead their own. -/
def isFirstMidInGroup (manager : BundleManager) (mid : Bytes) : Except BundleFault Bool :=
  match manager.lookupGroupByMid mid with
  | none => .ok true
  | some pointer =>
      match manager.deref pointer with
      | none => .error .danglingGroup
      | some group =>
          match group.firstContentName with
          | none => .error .nullFirstName
          | some first => .ok (mid = first)

def refreshEstablishedBundleGroupsByMid (manager : BundleManager) : BundleManager :=
  { manager with
    establishedBundleGroupsByMid :=
      indexMembers BundleGroup.pointer BundleGroup.contentNames manager.bundleGroups }

/-- `bundle_groups_.push_back(std::make_unique<ContentGroup>(group))`. -/
def pushBack (manager : BundleManager) (group : ContentGroup) : BundleManager :=
  { manager with
    bundleGroups := manager.bundleGroups ++ [{ pointer := manager.nextPointer, group := group }]
    nextPointer := manager.nextPointer + 1 }

def replaceGroups (manager : BundleManager) (groups : List ContentGroup) : BundleManager :=
  groups.foldl pushBack { manager with bundleGroups := [] }

/-- Change the group behind the pointer.  The pointers of the map are never dangling
(`Anchored.alive`). -/
def editGroup (manager : BundleManager) (pointer : ℕ) (edit : ContentGroup → ContentGroup) :
    BundleManager :=
  { manager with
    bundleGroups := manager.bundleGroups.map fun held =>
      if held.pointer = pointer then { held with group := edit held.group } else held }

/-- The group that an offered group matches: the one of its first known name. -/
def matching (manager : BundleManager) (newBundleGroup : ContentGroup) : Option ℕ :=
  newBundleGroup.contentNames.findSome? manager.lookupGroupByMid

/-- The flag is `bundle_groups_changed`. -/
def offerGroup (updated : BundleManager × Bool) (newBundleGroup : ContentGroup) :
    BundleManager × Bool :=
  match updated.1.matching newBundleGroup with
  | none => updated
  | some pointer => (updated.1.editGroup pointer fun _ => newBundleGroup, true)

def update (manager : BundleManager) (description : SessionDescription) (type : SdpType) :
    BundleManager :=
  let newBundleGroups := description.getGroupsByName groupTypeBundle
  if manager.bundlePolicy = .maxBundle ∨ type = .answer then
    (manager.replaceGroups newBundleGroups).refreshEstablishedBundleGroupsByMid
  else if type = .offer then
    let (updated, changed) := newBundleGroups.foldl offerGroup (manager, false)
    if changed then updated.refreshEstablishedBundleGroupsByMid else updated
  else manager

/-- The pointer is null when it is `none`. -/
def deleteMid (manager : BundleManager) (bundleGroup : Option ℕ) (mid : Bytes) :
    Except BundleFault BundleManager :=
  match manager.bundleGroups.find? (some ·.pointer = bundleGroup) with
  | none => .error .unknownGroup
  | some held =>
      let removed := manager.editGroup held.pointer (·.removeContentName mid)
      if manager.establishedBundleGroupsByMid.contains mid then
        .ok { removed with
          establishedBundleGroupsByMid := manager.establishedBundleGroupsByMid.erase mid }
      else .error .unknownMid

def deleteGroup (manager : BundleManager) (bundleGroup : Option ℕ) :
    Except BundleFault BundleManager :=
  match manager.bundleGroups.find? (some ·.pointer = bundleGroup) with
  | none => .error .unknownGroup
  | some held => do
      let midList := held.contentNames
      let emptied ← midList.foldlM (fun manager contentName =>
        manager.deleteMid bundleGroup contentName) manager
      return { emptied with
        bundleGroups := emptied.bundleGroups.eraseP (·.pointer = held.pointer) }

def rollback (manager : BundleManager) : BundleManager :=
  (manager.replaceGroups manager.stableBundleGroups).refreshEstablishedBundleGroupsByMid

def commit (manager : BundleManager) : BundleManager :=
  { manager with stableBundleGroups := manager.bundleGroups.map (·.group) }

end BundleManager

/-! ## Runs -/

/-- Groups are deleted through the group of a section. -/
inductive BundleCall where
  | update (description : SessionDescription) (type : SdpType)
  | deleteMid (mid : Bytes)
  | deleteGroup (mid : Bytes)
  | commit
  | rollback

def BundleCall.apply (call : BundleCall) (manager : BundleManager) :
    Except BundleFault BundleManager :=
  match call with
  | .update description type => .ok (manager.update description type)
  | .deleteMid mid => manager.deleteMid (manager.lookupGroupByMid mid) mid
  | .deleteGroup mid => manager.deleteGroup (manager.lookupGroupByMid mid)
  | .commit => .ok manager.commit
  | .rollback => .ok manager.rollback

/-- No name stands in two groups or twice in one. -/
def Unrepeated (groups : List ContentGroup) : Prop :=
  (groups.flatMap (·.contentNames)).Nodup

instance (groups : List ContentGroup) : Decidable (Unrepeated groups) :=
  inferInstanceAs (Decidable (groups.flatMap (·.contentNames)).Nodup)

/-- The BUNDLE groups of a description do not share or repeat names. -/
def WellGrouped (_manager : BundleManager) : BundleCall → Prop
  | .update description _ => Unrepeated (description.getGroupsByName groupTypeBundle)
  | .deleteMid _ | .deleteGroup _ | .commit | .rollback => True

instance (manager : BundleManager) (call : BundleCall) : Decidable (WellGrouped manager call) :=
  match call with
  | .update description _ =>
      inferInstanceAs (Decidable (Unrepeated (description.getGroupsByName groupTypeBundle)))
  | .deleteMid _ | .deleteGroup _ | .commit | .rollback => inferInstanceAs (Decidable True)

def bundleStep : System BundleManager BundleCall BundleFault :=
  restrict (fun manager call => some (call.apply manager)) WellGrouped

end PeerConnection.Transport
