import PeerConnection.Transport.CollectionEvents
import PeerConnection.Transport.CollectionOwnership

/-!
# Undoing uncommitted changes

As long as a name is only registered when it owns nothing, a rollback brings back the
committed map with the transports it had, and nothing else stays alive.  What a committed
section is mapped to is needed for the rollback, so no call in between destroys it.
-/

namespace PeerConnection.Transport

open PeerConnection.Text
open PeerConnection.Runs
open JsepTransportCollection

variable {T : Type*} [DecidableEq T]

/-- Names are registered that own nothing, and not all transports are destroyed. -/
def Undoable (collection : JsepTransportCollection T) (answered : AnsweredCall T) : Prop :=
  match answered.call with
  | .registerTransport mid _ => collection.getTransportByName mid = none
  | .destroyAllTransports => False
  | _ => True

instance (collection : JsepTransportCollection T) (answered : AnsweredCall T) :
    Decidable (Undoable collection answered) :=
  match answered with
  | ⟨.registerTransport mid _, _⟩ =>
      inferInstanceAs (Decidable (collection.getTransportByName mid = none))
  | ⟨.destroyAllTransports, _⟩ => inferInstanceAs (Decidable False)
  | ⟨.setTransportForMid _ _, _⟩ | ⟨.removeTransportForMid _, _⟩ | ⟨.rollbackTransports, _⟩
  | ⟨.commitTransports, _⟩ => inferInstanceAs (Decidable True)

def undoableStep : System (JsepTransportCollection T) (AnsweredCall T) Empty :=
  restrict mappingStep Undoable

/-- The calls that change single mappings. -/
def CollectionCall.Edits : CollectionCall T → Prop
  | .registerTransport _ _ | .setTransportForMid _ _ | .removeTransportForMid _ => True
  | .rollbackTransports | .commitTransports | .destroyAllTransports => False

theorem undoableStep_eq_ok_iff {collection next : JsepTransportCollection T}
    {answered : AnsweredCall T} :
    undoableStep collection answered = some (.ok next) ↔
      Undoable collection answered ∧ mappingStep collection answered = some (.ok next) :=
  restrict_eq_some_iff

theorem Undoable.leavesNoPointer {collection : JsepTransportCollection T}
    {answered : AnsweredCall T} (hundoable : Undoable collection answered) :
    LeavesNoPointer collection answered := by
  obtain ⟨call, callback⟩ := answered
  cases call with
  | registerTransport mid transport =>
      intro _ replaced howner
      exact absurd (hundoable.symm.trans howner) (by simp)
  | destroyAllTransports => exact hundoable.elim
  | setTransportForMid mid transport => trivial
  | removeTransportForMid mid => trivial
  | rollbackTransports => trivial
  | commitTransports => trivial

theorem Sound.undoableStep {collection next : JsepTransportCollection T}
    {answered : AnsweredCall T} (hsound : Sound collection)
    (hstep : undoableStep collection answered = some (.ok next)) : Sound next := by
  obtain ⟨hundoable, hmapping⟩ := undoableStep_eq_ok_iff.mp hstep
  exact hsound.step hundoable.leavesNoPointer hmapping

theorem sound_run {collection final : JsepTransportCollection T}
    {events : List (AnsweredCall T)} (hsound : Sound collection)
    (hrun : run undoableStep collection events = some (.ok final)) : Sound final :=
  run_induction (fun _ _ _ hsound hstep => Sound.undoableStep hsound hstep) hsound hrun

/-- A section of the collection is mapped to the transport. -/
def HasMid (collection : JsepTransportCollection T) (transport : T) : Prop :=
  ∃ mid, collection.getTransportForMid mid = some transport

/-- Nothing that the earlier collection maps has lost its owner since. -/
structure Keeps (earlier later : JsepTransportCollection T) : Prop where
  owner : ∀ name transport, HasMid earlier transport →
    earlier.getTransportByName name = some transport →
    later.getTransportByName name = some transport
  spares : ∃ since, later.events = earlier.events ++ since ∧
    ∀ transport, HasMid earlier transport → CollectionEvent.destroyed transport ∉ since

omit [DecidableEq T] in
theorem Keeps.refl (collection : JsepTransportCollection T) : Keeps collection collection :=
  ⟨fun _ _ _ howned => howned, [], (List.append_nil _).symm, fun _ _ => List.not_mem_nil⟩

omit [DecidableEq T] in
/-- The next call adds events that spare what the earlier collection maps. -/
theorem Keeps.extend {earlier middle later : JsepTransportCollection T}
    (hkeeps : Keeps earlier middle)
    (howner : ∀ name transport, HasMid earlier transport →
      middle.getTransportByName name = some transport →
      later.getTransportByName name = some transport)
    {extra : List (CollectionEvent T)} (hevents : later.events = middle.events ++ extra)
    (hspares : ∀ transport, HasMid earlier transport →
      CollectionEvent.destroyed transport ∉ extra) :
    Keeps earlier later := by
  obtain ⟨since, hsince, hspared⟩ := hkeeps.spares
  constructor
  · intro name transport hmid howned
    exact howner name transport hmid (hkeeps.owner name transport hmid howned)
  · refine ⟨since ++ extra, by rw [hevents, hsince, List.append_assoc], ?_⟩
    intro transport hmid hmem
    exact (List.mem_append.mp hmem).elim (hspared transport hmid) (hspares transport hmid)

/-- The collection between a commit and the rollback. -/
structure Uncommitted (committed collection : JsepTransportCollection T) : Prop where
  sound : Sound collection
  stable : collection.stableMidToTransport = committed.midToTransport
  keeps : Keeps committed collection

theorem needed_of_stable {committed collection : JsepTransportCollection T}
    (hstable : collection.stableMidToTransport = committed.midToTransport) {transport : T}
    (hmid : HasMid committed transport) : collection.needed transport = true := by
  obtain ⟨mid, hmid⟩ := hmid
  apply (needed_iff _ _).mpr (Or.inr ⟨mid, _⟩)
  rw [stableTransportForMid, hstable]
  exact hmid

theorem keeps_setTransportForMid {committed collection : JsepTransportCollection T}
    (hbefore : Uncommitted committed collection) (callback : Bytes → Option T → Bool)
    (mid : Bytes) (transport : T) :
    Keeps committed (setTransportForMid callback collection mid transport).1 := by
  have hneeded : ∀ each, HasMid committed each →
      (setTransportForMid callback collection mid transport).1.needed each = true :=
    fun each => needed_of_stable ((stable_setTransportForMid _ _ _ _).trans hbefore.stable)
  rcases events_setTransportForMid callback collection mid transport with
    ⟨-, hsame⟩ | ⟨extra, hevents, hquiet⟩
  · rw [hsame]
    exact hbefore.keeps
  · apply hbefore.keeps.extend _ hevents
    · intro each hmid hmem
      rcases List.mem_cons.mp hmem with hnotified | hmem
      · exact absurd hnotified (by simp)
      · exact hquiet.spares each (hneeded each hmid) hmem
    · intro name each hmid howned
      exact (releases_setTransportForMid callback hbefore.sound.owned.sole mid
        transport).kept name each howned (hneeded each hmid)

theorem keeps_registerTransport {committed collection : JsepTransportCollection T}
    (hbefore : Uncommitted committed collection) (callback : Bytes → Option T → Bool)
    {mid : Bytes} (transport : T) (hfree : collection.getTransportByName mid = none) :
    Keeps committed (registerTransport callback collection mid transport) := by
  have hmapped : (setTransportForMid callback collection mid transport).1.getTransportByName
      mid = none := by
    apply Option.eq_none_iff_forall_ne_some.mpr
    intro owned howned
    have howner := (releases_setTransportForMid callback hbefore.sound.owned.sole mid
      transport).owned mid owned howned
    exact absurd (hfree.symm.trans howner) (by simp)
  obtain ⟨extra, hevents, hquiet⟩ :=
    events_registerTransport callback collection mid transport
  apply (keeps_setTransportForMid hbefore callback mid transport).extend _ hevents
  · intro each _
    apply hquiet.spares each
    rw [hmapped]
    exact Option.some_ne_none each |>.symm
  · intro name each _ howned
    have hname : mid ≠ name := by
      rintro rfl
      exact absurd (hmapped.symm.trans howned) (by simp)
    rw [getTransportByName_registerTransport_eq, if_neg hname]
    exact howned

theorem keeps_removeTransportForMid {committed collection : JsepTransportCollection T}
    (hbefore : Uncommitted committed collection) (mid : Bytes) :
    Keeps committed (collection.removeTransportForMid mid) := by
  have hneeded : ∀ each, HasMid committed each →
      (collection.removeTransportForMid mid).needed each = true :=
    fun each => needed_of_stable ((stable_removeTransportForMid _ _).trans hbefore.stable)
  obtain ⟨extra, hevents, hquiet⟩ := events_removeTransportForMid collection mid
  apply hbefore.keeps.extend _ hevents
  · intro each hmid hmem
    rcases List.mem_cons.mp hmem with hnotified | hmem
    · exact absurd hnotified (by simp)
    · exact hquiet.spares each (hneeded each hmid) hmem
  · intro name each hmid howned
    exact (releases_removeTransportForMid hbefore.sound.owned.sole mid).kept name each howned
      (hneeded each hmid)

theorem Uncommitted.step {committed collection next : JsepTransportCollection T}
    {answered : AnsweredCall T} (hbefore : Uncommitted committed collection)
    (hedits : answered.call.Edits)
    (hstep : undoableStep collection answered = some (.ok next)) :
    Uncommitted committed next := by
  have hsound := hbefore.sound.undoableStep hstep
  obtain ⟨hundoable, hmapping⟩ := undoableStep_eq_ok_iff.mp hstep
  obtain ⟨-, -, rfl⟩ := mappingStep_eq_ok_iff.mp hmapping
  obtain ⟨call, callback⟩ := answered
  cases call with
  | registerTransport mid transport =>
      exact ⟨hsound, (stable_registerTransport _ _ _ _).trans hbefore.stable,
        keeps_registerTransport hbefore callback transport hundoable⟩
  | setTransportForMid mid transport =>
      exact ⟨hsound, (stable_setTransportForMid _ _ _ _).trans hbefore.stable,
        keeps_setTransportForMid hbefore callback mid transport⟩
  | removeTransportForMid mid =>
      exact ⟨hsound, (stable_removeTransportForMid _ _).trans hbefore.stable,
        keeps_removeTransportForMid hbefore mid⟩
  | rollbackTransports => exact hedits.elim
  | commitTransports => exact hedits.elim
  | destroyAllTransports => exact hedits.elim

theorem uncommitted_run {committed collection edited : JsepTransportCollection T}
    {edits : List (AnsweredCall T)} (hbefore : Uncommitted committed collection)
    (hedits : ∀ answered ∈ edits, answered.call.Edits)
    (hrun : run undoableStep collection edits = some (.ok edited)) :
    Uncommitted committed edited :=
  run_induction_of_forall (fun _ _ _ hbefore hedits hstep => Uncommitted.step hbefore hedits hstep)
    hbefore hedits hrun

theorem uncommitted_commitTransports {collection : JsepTransportCollection T}
    (hsound : Sound collection.commitTransports) :
    Uncommitted collection.commitTransports collection.commitTransports := by
  refine ⟨hsound, ?_, Keeps.refl _⟩
  rw [stable_commitTransports, midToTransport_commitTransports]

/-- What a rollback leaves of the uncommitted changes: nothing. -/
structure RestoredFrom (committed restored : JsepTransportCollection T) : Prop where
  sameMap : restored.midToTransport = committed.midToTransport
  /-- The committed transports have had their owners all the time. -/
  keeps : Keeps committed restored
  alive : ∀ transport, HasMid committed transport → restored.owns transport = true
  noOther : ∀ transport, restored.owns transport = true ↔ HasMid restored transport

theorem Uncommitted.rollback {committed collection : JsepTransportCollection T}
    (hbefore : Uncommitted committed collection) (callback : Bytes → Option T → Bool) :
    RestoredFrom committed (rollbackTransports callback collection).1 := by
  set restored := (rollbackTransports callback collection).1 with hrestored
  have hmap : restored.midToTransport = committed.midToTransport :=
    (midToTransport_rollbackTransports callback collection).trans hbefore.stable
  have hstable : restored.stableMidToTransport = committed.midToTransport :=
    (stable_rollbackTransports callback collection).trans hbefore.stable
  have hstep : undoableStep collection ⟨.rollbackTransports, callback⟩ =
      some (.ok restored) :=
    undoableStep_eq_ok_iff.mpr
      ⟨trivial, mappingStep_eq_ok_iff.mpr ⟨trivial, trivial, hrestored.symm⟩⟩
  have hsound : Sound restored := hbefore.sound.undoableStep hstep
  have hneeded : ∀ each, HasMid committed each → restored.needed each = true :=
    fun each => needed_of_stable hstable
  have hmapped : ∀ each, HasMid committed each → HasMid restored each := by
    rintro each ⟨mid, hmid⟩
    refine ⟨mid, ?_⟩
    rw [getTransportForMid, hmap]
    exact hmid
  have howned : ∀ each, HasMid restored each → restored.owns each = true := by
    rintro each ⟨mid, hmid⟩
    exact hsound.noDangling mid each (Or.inl hmid)
  refine ⟨hmap, ?_, fun each hmid => howned each (hmapped each hmid), ?_⟩
  · obtain ⟨extra, hevents, hquiet⟩ := events_rollbackTransports callback collection
    rw [List.append_assoc] at hevents
    apply hbefore.keeps.extend _ hevents
    · intro each hmid hmem
      rcases List.mem_append.mp hmem with hnotified | hmem
      · obtain ⟨change, -, hchange⟩ := List.mem_map.mp hnotified
        exact absurd hchange (by simp)
      · exact hquiet.spares each (hneeded each hmid) hmem
    · intro name each hmid howner
      exact (releases_rollbackTransports callback collection).kept name each howner
        (hneeded each hmid)
  · intro each
    refine ⟨fun howns => ?_, howned each⟩
    obtain ⟨name, howner⟩ := (owns_iff _ _).mp howns
    rcases (needed_iff _ _).mp (hsound.owned.noLeak name each howner) with hmid | ⟨mid, hmid⟩
    · exact hmid
    · refine ⟨mid, ?_⟩
      rw [getTransportForMid, hmap, ← hstable]
      exact hmid

/-- After a commit and any changes of single mappings, a rollback restores what was
committed. -/
theorem rollback_restores {before edits : List (AnsweredCall T)}
    {commit : AnsweredCall T} (hcommit : commit.call = .commitTransports)
    {committed edited : JsepTransportCollection T}
    (hbefore : run undoableStep {} (before ++ [commit]) = some (.ok committed))
    (hedits : ∀ answered ∈ edits, answered.call.Edits)
    (hafter : run undoableStep committed edits = some (.ok edited))
    (callback : Bytes → Option T → Bool) :
    RestoredFrom committed (rollbackTransports callback edited).1 := by
  have hsound : Sound committed := sound_run sound_empty hbefore
  obtain ⟨earlier, -, hlast⟩ := run_concat_eq_ok_iff.mp hbefore
  have happly : commit.apply earlier = committed :=
    (mappingStep_eq_ok_iff.mp (undoableStep_eq_ok_iff.mp hlast).2).2.2
  rw [AnsweredCall.apply, hcommit] at happly
  subst happly
  exact (uncommitted_run (uncommitted_commitTransports hsound) hedits hafter).rollback callback

/-- The committed section is moved to the transport of a new one. -/
theorem rollback_restores_moved :
    ∃ committed edited : JsepTransportCollection ℕ,
      committed.getTransportForMid (ascii "audio") = some 0 ∧
        edited.getTransportForMid (ascii "audio") = some 1 ∧
        RestoredFrom committed (rollbackTransports (fun _ _ => false) edited).1 := by
  let before : List (AnsweredCall ℕ) := [{ call := .registerTransport (ascii "audio") 0 }]
  let commit : AnsweredCall ℕ := { call := .commitTransports }
  let edits : List (AnsweredCall ℕ) :=
    [{ call := .registerTransport (ascii "video") 1 },
      { call := .setTransportForMid (ascii "audio") 1 }]
  have hreaches : reaches
      (fun committed : JsepTransportCollection ℕ =>
        committed.getTransportForMid (ascii "audio") = some 0 &&
          reaches (fun edited => edited.getTransportForMid (ascii "audio") = some 1)
            (run undoableStep committed edits))
      (run undoableStep {} (before ++ [commit])) = true := by
    decide +kernel
  obtain ⟨committed, hbefore, hcheck⟩ := exists_of_reaches _ hreaches
  obtain ⟨haudio, hedited⟩ := Bool.and_eq_true_iff.mp hcheck
  obtain ⟨edited, hafter, hmoved⟩ := exists_of_reaches _ hedited
  refine ⟨committed, edited, by simpa using haudio, by simpa using hmoved, ?_⟩
  have hedits : ∀ answered ∈ edits, answered.call.Edits := by
    simp [edits, CollectionCall.Edits]
  exact rollback_restores rfl hbefore hedits hafter _

end PeerConnection.Transport
