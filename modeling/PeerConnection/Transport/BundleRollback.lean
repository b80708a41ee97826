import PeerConnection.Transport.BundleGroups

/-!
# Undoing changes of the bundle groups

A rollback brings back copies of the committed groups.  Their pointers are new, but every
section finds a group with the same names in the same order.
-/

namespace PeerConnection.Transport

open PeerConnection.Text
open PeerConnection.Runs
open PeerConnection.Sdp
open PeerConnection.Jsep
open BundleManager

/-- Updates replace all groups. -/
def ReplacesAll (manager : BundleManager) : BundleCall → Prop
  | .update _ type => manager.bundlePolicy = .maxBundle ∨ type = .answer
  | .deleteMid _ | .deleteGroup _ | .commit | .rollback => True

instance (manager : BundleManager) (call : BundleCall) : Decidable (ReplacesAll manager call) :=
  match call with
  | .update _ type =>
      inferInstanceAs (Decidable (manager.bundlePolicy = .maxBundle ∨ type = .answer))
  | .deleteMid _ | .deleteGroup _ | .commit | .rollback => inferInstanceAs (Decidable True)

def replacingStep : System BundleManager BundleCall BundleFault :=
  restrict bundleStep ReplacesAll

/-- The calls that change the groups and not what is committed. -/
def BundleCall.Edits : BundleCall → Prop
  | .update _ _ | .deleteMid _ | .deleteGroup _ => True
  | .commit | .rollback => False

theorem replacingStep_eq_ok_iff {manager next : BundleManager} {call : BundleCall} :
    replacingStep manager call = some (.ok next) ↔
      ReplacesAll manager call ∧ bundleStep manager call = some (.ok next) :=
  restrict_eq_some_iff

theorem ReplacesAll.keepsApart {manager : BundleManager} {call : BundleCall}
    (hreplaces : ReplacesAll manager call) : KeepsApart manager call := by
  cases call with
  | update description type =>
      intro _ hpolicy hoffer
      rcases hreplaces with hmax | hanswer
      · exact absurd hmax hpolicy
      · exact absurd (hoffer.symm.trans hanswer) (by simp)
  | deleteMid mid => trivial
  | deleteGroup mid => trivial
  | commit => trivial
  | rollback => trivial

theorem BundleInv.replacingStep {manager next : BundleManager} {call : BundleCall}
    (hinv : BundleInv manager) (hstep : replacingStep manager call = some (.ok next)) :
    BundleInv next := by
  obtain ⟨hreplaces, hbundle⟩ := replacingStep_eq_ok_iff.mp hstep
  exact hinv.step hreplaces.keepsApart hbundle

theorem bundleInv_run {manager final : BundleManager} {calls : List BundleCall}
    (hinv : BundleInv manager) (hrun : run replacingStep manager calls = some (.ok final)) :
    BundleInv final :=
  run_induction (fun _ _ _ hinv hstep => BundleInv.replacingStep hinv hstep) hinv hrun

/-- The groups have been changed since the commit. -/
structure UncommittedGroups (committed manager : BundleManager) : Prop where
  inv : BundleInv manager
  stable : manager.stableBundleGroups = committed.stableBundleGroups

theorem UncommittedGroups.step {committed manager next : BundleManager} {call : BundleCall}
    (hbefore : UncommittedGroups committed manager) (hedits : call.Edits)
    (hstep : replacingStep manager call = some (.ok next)) :
    UncommittedGroups committed next := by
  refine ⟨hbefore.inv.replacingStep hstep, ?_⟩
  rw [← hbefore.stable]
  obtain ⟨-, hbundle⟩ := replacingStep_eq_ok_iff.mp hstep
  obtain ⟨-, happly⟩ := bundleStep_eq_ok_iff.mp hbundle
  cases call with
  | update description type =>
      obtain rfl := Except.ok.inj happly
      exact stable_update manager description type
  | deleteMid mid =>
      obtain ⟨pointer, rfl, -⟩ := hbefore.inv.deleteMid happly
      rfl
  | deleteGroup mid => exact (hbefore.inv.deleteGroup happly).2
  | commit => exact hedits.elim
  | rollback => exact hedits.elim

theorem uncommittedGroups_run {committed manager edited : BundleManager}
    {edits : List BundleCall} (hbefore : UncommittedGroups committed manager)
    (hedits : ∀ call ∈ edits, call.Edits)
    (hrun : run replacingStep manager edits = some (.ok edited)) :
    UncommittedGroups committed edited :=
  run_induction_of_forall
    (fun _ _ _ hbefore hedits hstep => UncommittedGroups.step hbefore hedits hstep)
    hbefore hedits hrun

/-- In step, a section finds the names of the group that has it. -/
theorem lookupNames_eq_some_iff {manager : BundleManager} (hcovered : Covered manager)
    (mid : Bytes) (names : List Bytes) :
    lookupNames manager mid = some names ↔
      ∃ group ∈ manager.bundleGroups.map (·.group), group.contentNames = names ∧
        mid ∈ names := by
  simp only [lookupNames, Option.map_eq_some_iff, Option.bind_eq_some_iff, List.mem_map]
  constructor
  · rintro ⟨group, ⟨pointer, hlookup, hderef⟩, rfl⟩
    obtain ⟨held, hheld, rfl, hmember⟩ := hcovered.alive mid pointer hlookup
    rw [deref_eq_some hcovered.toAllocated hheld] at hderef
    obtain rfl := Option.some.inj hderef
    exact ⟨held.group, ⟨held, hheld, rfl⟩, rfl, hmember⟩
  · rintro ⟨group, ⟨held, hheld, rfl⟩, rfl, hmember⟩
    exact ⟨held.group, ⟨held.pointer, hcovered.covered held hheld mid hmember,
      deref_eq_some hcovered.toAllocated hheld⟩, rfl⟩

theorem lookupNames_eq_none_iff {manager : BundleManager} (hcovered : Covered manager)
    (mid : Bytes) :
    lookupNames manager mid = none ↔ manager.lookupGroupByMid mid = none := by
  rw [lookupNames, Option.map_eq_none_iff]
  cases hlookup : manager.lookupGroupByMid mid with
  | none => simp
  | some pointer =>
      obtain ⟨held, hheld, rfl, -⟩ := hcovered.alive mid pointer hlookup
      rw [Option.bind_some, deref_eq_some hcovered.toAllocated hheld]
      simp

/-- The section finds the same names, or no group in both, and has the same place. -/
structure SameGroup (before after : BundleManager) (mid : Bytes) : Prop where
  absent : after.lookupGroupByMid mid = none ↔ before.lookupGroupByMid mid = none
  names : lookupNames after mid = lookupNames before mid
  first : after.isFirstMidInGroup mid = before.isFirstMidInGroup mid

theorem sameGroup_of_groups {before after : BundleManager} (hbefore : Covered before)
    (hafter : Covered after)
    (hgroups : after.bundleGroups.map (·.group) = before.bundleGroups.map (·.group))
    (mid : Bytes) : SameGroup before after mid := by
  have hnames : lookupNames after mid = lookupNames before mid := by
    ext names
    rw [lookupNames_eq_some_iff hafter, lookupNames_eq_some_iff hbefore, hgroups]
  constructor
  · rw [← lookupNames_eq_none_iff hafter, ← lookupNames_eq_none_iff hbefore, hnames]
  · exact hnames
  · rw [isFirstMidInGroup_eq_ok hafter.toAnchored, isFirstMidInGroup_eq_ok hbefore.toAnchored,
      hnames]

/-- After a commit and any updates and deletions, a rollback restores what every section
finds. -/
theorem rollback_restores_groups {policy : BundlePolicy} {before edits : List BundleCall}
    {committed edited : BundleManager}
    (hbefore : run replacingStep { bundlePolicy := policy } (before ++ [.commit]) =
      some (.ok committed))
    (hedits : ∀ call ∈ edits, call.Edits)
    (hafter : run replacingStep committed edits = some (.ok edited)) (mid : Bytes) :
    SameGroup committed edited.rollback mid := by
  have hinv : BundleInv committed := bundleInv_run (bundleInv_empty policy) hbefore
  obtain ⟨earlier, -, hlast⟩ := run_concat_eq_ok_iff.mp hbefore
  have hstable : committed.stableBundleGroups = committed.bundleGroups.map (·.group) := by
    obtain ⟨-, hbundle⟩ := replacingStep_eq_ok_iff.mp hlast
    obtain ⟨-, happly⟩ := bundleStep_eq_ok_iff.mp hbundle
    obtain rfl := Except.ok.inj happly
    rfl
  have hedited := uncommittedGroups_run ⟨hinv, rfl⟩ hedits hafter
  apply sameGroup_of_groups hinv.toCovered hedited.inv.rollback.toCovered
  calc
    edited.rollback.bundleGroups.map (·.group) = edited.stableBundleGroups :=
      groups_replaceGroups edited edited.stableBundleGroups
    _ = committed.stableBundleGroups := hedited.stable
    _ = committed.bundleGroups.map (·.group) := hstable

/-- The committed group has lost a name, and another one has taken its place. -/
theorem rollback_restores_replaced :
    ∃ committed edited : BundleManager,
      lookupNames committed (ascii "b") = some [ascii "a", ascii "b"] ∧
        lookupNames edited (ascii "b") = none ∧
        SameGroup committed edited.rollback (ascii "b") := by
  let before : List BundleCall :=
    [.update (bundling [[ascii "a", ascii "b"]]) .answer]
  let edits : List BundleCall :=
    [.deleteMid (ascii "a"), .update (bundling [[ascii "c"]]) .answer]
  have hedits : ∀ call ∈ edits, call.Edits := by
    simp [edits, BundleCall.Edits]
  refine ⟨_, _, ?_, ?_,
    @rollback_restores_groups .balanced before edits _ _ rfl hedits rfl (ascii "b")⟩
  · decide
  · decide

end PeerConnection.Transport
