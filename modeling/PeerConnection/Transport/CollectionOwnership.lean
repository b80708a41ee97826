import PeerConnection.Transport.CollectionCalls

/-!
# Owners and pointers of the transport collection

Every owned transport stays mapped, and all checks of `IsConsistent` succeed, also those
inside nested calls.  The converse, that every mapped transport is owned, fails where an
owner goes without a look at the maps: `RegisterTransport` assigns to a name that owns a
transport already, and `DestroyAllTransports` clears the owners alone.
-/

namespace PeerConnection.Transport

open PeerConnection.Text
open PeerConnection.Runs
open JsepTransportCollection

variable {T : Type*} [DecidableEq T]

/-! ## The consistency checks -/

namespace JsepTransportCollection

/-- The results of `RTC_DCHECK(IsConsistent())` in `MaybeDestroyJsepTransport`, which
returns early when the transport is needed. -/
def maybeDestroyChecks (collection : JsepTransportCollection T) (transport : T) : List Bool :=
  if collection.needed transport then []
  else [(collection.maybeDestroyJsepTransport transport).isConsistent]

def setChecks (mapChangeCallback : Bytes → Option T → Bool)
    (collection : JsepTransportCollection T) (mid : Bytes) (jsepTransport : T) : List Bool :=
  let after := (setTransportForMid mapChangeCallback collection mid jsepTransport).1
  match collection.midToTransport[mid]? with
  | none => [after.isConsistent]
  | some oldTransport =>
      if oldTransport = jsepTransport then []
      else
        let notified := collection.emit (.mapChanged mid (some jsepTransport))
        let mapped := { notified with
          midToTransport := notified.midToTransport.insert mid jsepTransport }
        mapped.maybeDestroyChecks oldTransport ++ [after.isConsistent]

def registerChecks (mapChangeCallback : Bytes → Option T → Bool)
    (collection : JsepTransportCollection T) (mid : Bytes) (transport : T) : List Bool :=
  setChecks mapChangeCallback collection mid transport ++
    [(registerTransport mapChangeCallback collection mid transport).isConsistent]

def removeChecks (collection : JsepTransportCollection T) (mid : Bytes) : List Bool :=
  let notified := collection.emit (.mapChanged mid none)
  let nested :=
    match notified.getTransportForMid mid with
    | none => []
    | some oldTransport =>
        { notified with
          midToTransport := notified.midToTransport.erase mid }.maybeDestroyChecks oldTransport
  collection.isConsistent :: (nested ++ [(collection.removeTransportForMid mid).isConsistent])

/-- A nested check sees what the call as a whole leaves. -/
theorem maybeDestroyChecks_hold {mapped : JsepTransportCollection T} {old : T}
    (hinv : (mapped.maybeDestroyJsepTransport old).NoLeak) :
    ∀ result ∈ mapped.maybeDestroyChecks old, result = true := by
  intro result hresult
  rw [maybeDestroyChecks] at hresult
  split_ifs at hresult
  · simp at hresult
  · obtain rfl := List.mem_singleton.mp hresult
    exact (isConsistent_iff _).mpr hinv

theorem setChecks_hold (callback : Bytes → Option T → Bool)
    {collection : JsepTransportCollection T} (hinv : collection.Owned) (mid : Bytes)
    (transport : T) : ∀ result ∈ setChecks callback collection mid transport,
      result = true := by
  have hafter : (setTransportForMid callback collection mid transport).1.NoLeak :=
    ((releases_setTransportForMid callback hinv.sole mid transport).keeps hinv).noLeak
  have hconsistent := (isConsistent_iff _).mpr hafter
  intro result hresult
  simp only [setChecks] at hresult
  cases hold : collection.midToTransport[mid]? with
  | none =>
      simp only [hold] at hresult
      rw [List.mem_singleton.mp hresult]
      exact hconsistent
  | some old =>
      simp only [hold] at hresult
      by_cases hsame : old = transport
      · simp [hsame] at hresult
      · rw [if_neg hsame] at hresult
        rcases List.mem_append.mp hresult with hnested | hlast
        · refine maybeDestroyChecks_hold ?_ result hnested
          simpa only [setTransportForMid, hold, if_neg hsame] using hafter
        · rw [List.mem_singleton.mp hlast]
          exact hconsistent

theorem removeChecks_hold {collection : JsepTransportCollection T}
    (hinv : collection.Owned) (mid : Bytes) :
    ∀ result ∈ removeChecks collection mid, result = true := by
  have hafter : (collection.removeTransportForMid mid).NoLeak :=
    ((releases_removeTransportForMid hinv.sole mid).keeps hinv).noLeak
  intro result hresult
  rw [removeChecks, List.mem_cons, List.mem_append] at hresult
  rcases hresult with rfl | hnested | hlast
  · exact (isConsistent_iff _).mpr hinv.noLeak
  · simp only [getTransportForMid_emit] at hnested
    cases hold : collection.getTransportForMid mid with
    | none => simp [hold] at hnested
    | some old =>
        simp only [hold] at hnested
        refine maybeDestroyChecks_hold ?_ result hnested
        simpa only [removeTransportForMid, getTransportForMid_emit, hold] using hafter
  · rw [List.mem_singleton.mp hlast]
    exact (isConsistent_iff _).mpr hafter

end JsepTransportCollection

/-- The results of the checks during a call, in their order. -/
def AnsweredCall.checks (answered : AnsweredCall T) (collection : JsepTransportCollection T) :
    List Bool :=
  match answered.call with
  | .registerTransport mid transport =>
      registerChecks answered.mapChangeCallback collection mid transport
  | .setTransportForMid mid jsepTransport =>
      setChecks answered.mapChangeCallback collection mid jsepTransport
  | .removeTransportForMid mid => collection.removeChecks mid
  | .rollbackTransports | .commitTransports | .destroyAllTransports =>
      [(answered.apply collection).isConsistent]

theorem checks_hold {collection : JsepTransportCollection T} (hinv : collection.Owned)
    {answered : AnsweredCall T} (hregistrable : Registrable collection answered) :
    ∀ result ∈ answered.checks collection, result = true := by
  have hafter : (answered.apply collection).isConsistent = true :=
    (isConsistent_iff _).mpr
      (hinv.step (collectionStep_eq_ok_iff.mpr ⟨hregistrable, rfl⟩)).noLeak
  have hlast : ∀ result ∈ [(answered.apply collection).isConsistent], result = true := by
    intro result hresult
    rw [List.mem_singleton.mp hresult]
    exact hafter
  obtain ⟨call, callback⟩ := answered
  cases call with
  | registerTransport mid transport =>
      intro result hresult
      rcases List.mem_append.mp hresult with hnested | hown
      · exact setChecks_hold callback hinv mid transport result hnested
      · exact hlast result hown
  | setTransportForMid mid transport => exact setChecks_hold callback hinv mid transport
  | removeTransportForMid mid => exact removeChecks_hold hinv mid
  | rollbackTransports => exact hlast
  | commitTransports => exact hlast
  | destroyAllTransports => exact hlast

/-- In every state of every run all owned transports are mapped, and no check of the next
call fails. -/
theorem no_transport_leaks (events : List (AnsweredCall T)) :
    Throughout collectionStep
      (fun collection => collection.NoLeak ∧
        ∀ answered, Registrable collection answered →
          ∀ result ∈ answered.checks collection, result = true)
      {} events := by
  intro before after collection _ hrun
  have hinv : collection.Owned :=
    run_induction (fun _ _ _ hinv hstep => JsepTransportCollection.Owned.step hinv hstep)
      owned_empty hrun
  exact ⟨hinv.noLeak, fun _ hregistrable => checks_hold hinv hregistrable⟩

/-! ## Dangling pointers -/

/-- Every pointer in the two maps has an owner. -/
def NoDangling (collection : JsepTransportCollection T) : Prop :=
  ∀ mid transport, collection.getTransportForMid mid = some transport ∨
    collection.stableTransportForMid mid = some transport → collection.owns transport = true

/-- A section is only mapped to a transport that has an owner. -/
def MapsOwned (collection : JsepTransportCollection T) (answered : AnsweredCall T) : Prop :=
  match answered.call with
  | .setTransportForMid _ jsepTransport => collection.owns jsepTransport = true
  | _ => True

instance (collection : JsepTransportCollection T) (answered : AnsweredCall T) :
    Decidable (MapsOwned collection answered) :=
  match answered with
  | ⟨.setTransportForMid _ jsepTransport, _⟩ =>
      inferInstanceAs (Decidable (collection.owns jsepTransport = true))
  | ⟨.registerTransport _ _, _⟩ | ⟨.removeTransportForMid _, _⟩ | ⟨.rollbackTransports, _⟩
  | ⟨.commitTransports, _⟩ | ⟨.destroyAllTransports, _⟩ => inferInstanceAs (Decidable True)

def mappingStep : System (JsepTransportCollection T) (AnsweredCall T) Empty :=
  restrict collectionStep MapsOwned

/-- The transport that the name owns is mapped nowhere but under the name. -/
def Replaceable (collection : JsepTransportCollection T) (mid : Bytes) : Prop :=
  ∀ replaced, collection.getTransportByName mid = some replaced →
    (∀ other, other ≠ mid → collection.getTransportForMid other ≠ some replaced) ∧
      ∀ other, collection.stableTransportForMid other ≠ some replaced

/-- No pointer is left to what loses its owner without a look at the maps: the transport
that a name owns already, but for the mapping that is replaced with it, and all transports
when all are destroyed. -/
def LeavesNoPointer (collection : JsepTransportCollection T) (answered : AnsweredCall T) :
    Prop :=
  match answered.call with
  | .registerTransport mid transport =>
      collection.owns transport = false → Replaceable collection mid
  | .destroyAllTransports =>
      ∀ mid, collection.getTransportForMid mid = none ∧
        collection.stableTransportForMid mid = none
  | _ => True

/-- The invariant of the runs without dangling pointers. -/
structure Sound (collection : JsepTransportCollection T) : Prop where
  owned : collection.Owned
  noDangling : NoDangling collection

theorem sound_empty : Sound ({} : JsepTransportCollection T) := by
  refine ⟨owned_empty, ?_⟩
  intro mid transport hmapped
  simp [getTransportForMid, stableTransportForMid] at hmapped

/-- A release keeps the owners of what is mapped. -/
theorem noDangling_of_releases {before after : JsepTransportCollection T}
    (hreleases : Releases before after)
    (hmaps : ∀ mid transport, after.getTransportForMid mid = some transport ∨
      after.stableTransportForMid mid = some transport → before.owns transport = true) :
    NoDangling after := by
  intro mid transport hmapped
  obtain ⟨name, howner⟩ := (owns_iff _ _).mp (hmaps mid transport hmapped)
  have hneeded : after.needed transport = true :=
    (needed_iff _ _).mpr (hmapped.imp (fun hmid => ⟨mid, hmid⟩) fun hmid => ⟨mid, hmid⟩)
  exact (owns_iff _ _).mpr ⟨name, hreleases.kept _ _ howner hneeded⟩

theorem getTransportForMid_registerTransport (callback : Bytes → Option T → Bool)
    (collection : JsepTransportCollection T) (mid other : Bytes) (transport : T) :
    (registerTransport callback collection mid transport).getTransportForMid other =
      if mid = other then some transport else collection.getTransportForMid other :=
  midToTransport_registerTransport collection callback mid other transport

theorem stableTransportForMid_registerTransport (callback : Bytes → Option T → Bool)
    (collection : JsepTransportCollection T) (mid other : Bytes) (transport : T) :
    (registerTransport callback collection mid transport).stableTransportForMid other =
      collection.stableTransportForMid other := by
  rw [stableTransportForMid, stable_registerTransport, stableTransportForMid]

/-- A mapped transport keeps its owner through a registration, unless the owner is the
name that is assigned to. -/
theorem owner_registerTransport (callback : Bytes → Option T → Bool)
    {collection : JsepTransportCollection T} (hsole : collection.SoleOwners)
    {mid name : Bytes} {transport owned : T} (hname : name ≠ mid)
    (howner : collection.getTransportByName name = some owned)
    (hmapped : (∃ other, other ≠ mid ∧ collection.getTransportForMid other = some owned) ∨
      ∃ other, collection.stableTransportForMid other = some owned) :
    (registerTransport callback collection mid transport).getTransportByName name =
      some owned := by
  rw [getTransportByName_registerTransport_eq, if_neg hname.symm]
  apply (releases_setTransportForMid callback hsole mid transport).kept name owned howner
  apply (needed_iff _ _).mpr
  refine hmapped.imp ?_ ?_
  · rintro ⟨other, hother, hmid⟩
    exact ⟨other, by rw [getTransportForMid_setTransportForMid, if_neg hother.symm, hmid]⟩
  · rintro ⟨other, hmid⟩
    exact ⟨other, by rw [stableTransportForMid, stable_setTransportForMid]; exact hmid⟩

theorem noDangling_registerTransport (callback : Bytes → Option T → Bool)
    {collection : JsepTransportCollection T} (hsound : Sound collection) {mid : Bytes}
    (transport : T) (hreplaceable : Replaceable collection mid) :
    NoDangling (registerTransport callback collection mid transport) := by
  have hkept : ∀ owned,
      ((∃ other, other ≠ mid ∧ collection.getTransportForMid other = some owned) ∨
        ∃ other, collection.stableTransportForMid other = some owned) →
      (registerTransport callback collection mid transport).owns owned = true := by
    intro owned hmapped
    have howns : collection.owns owned = true := by
      rcases hmapped with ⟨other, -, hmid⟩ | ⟨other, hmid⟩
      · exact hsound.noDangling other owned (Or.inl hmid)
      · exact hsound.noDangling other owned (Or.inr hmid)
    obtain ⟨name, howner⟩ := (owns_iff _ _).mp howns
    have hname : name ≠ mid := by
      rintro rfl
      obtain ⟨hcurrent, hstable⟩ := hreplaceable owned howner
      rcases hmapped with ⟨other, hother, hmid⟩ | ⟨other, hmid⟩
      · exact hcurrent other hother hmid
      · exact hstable other hmid
    exact (owns_iff _ _).mpr
      ⟨name, owner_registerTransport callback hsound.owned.sole hname howner hmapped⟩
  intro other owned hmapped
  rw [getTransportForMid_registerTransport, stableTransportForMid_registerTransport] at hmapped
  rcases hmapped with hmid | hmid
  · split_ifs at hmid with hother
    · apply (owns_iff _ _).mpr ⟨mid, _⟩
      rw [getTransportByName_registerTransport_eq, if_pos rfl, hmid]
    · exact hkept owned (Or.inl ⟨other, Ne.symm hother, hmid⟩)
  · exact hkept owned (Or.inr ⟨other, hmid⟩)

/-- What the name has owned has no owner after a registration. -/
theorem owns_replaced (callback : Bytes → Option T → Bool)
    {collection : JsepTransportCollection T} (hsole : collection.SoleOwners) {mid : Bytes}
    {transport replaced : T} (hnew : collection.owns transport = false)
    (howner : collection.getTransportByName mid = some replaced) :
    (registerTransport callback collection mid transport).owns replaced = false := by
  apply (owns_eq_false_iff _ _).mpr
  intro name hname
  rw [getTransportByName_registerTransport_eq] at hname
  split_ifs at hname with hmid
  · obtain rfl := Option.some.inj hname
    exact (owns_eq_false_iff _ _).mp hnew mid howner
  · have hbefore := (releases_setTransportForMid callback hsole mid transport).owned _ _ hname
    exact hmid (hsole _ _ _ howner hbefore)

theorem not_noDangling_registerTransport (callback : Bytes → Option T → Bool)
    {collection : JsepTransportCollection T} (hsole : collection.SoleOwners) {mid : Bytes}
    {transport : T} (hnew : collection.owns transport = false)
    (hreplaceable : ¬ Replaceable collection mid) :
    ¬ NoDangling (registerTransport callback collection mid transport) := by
  intro hnoDangling
  apply hreplaceable
  intro replaced howner
  have hgone := owns_replaced callback hsole hnew howner
  constructor
  · intro other hother hmid
    have howns := hnoDangling other replaced (Or.inl (by
      rw [getTransportForMid_registerTransport, if_neg hother.symm, hmid]))
    exact Bool.false_ne_true (hgone.symm.trans howns)
  · intro other hmid
    have howns := hnoDangling other replaced (Or.inr (by
      rw [stableTransportForMid_registerTransport, hmid]))
    exact Bool.false_ne_true (hgone.symm.trans howns)

theorem mappingStep_eq_ok_iff {collection next : JsepTransportCollection T}
    {answered : AnsweredCall T} :
    mappingStep collection answered = some (.ok next) ↔
      MapsOwned collection answered ∧ Registrable collection answered ∧
        answered.apply collection = next := by
  rw [mappingStep, restrict_eq_some_iff, collectionStep_eq_ok_iff]

theorem Sound.step {collection next : JsepTransportCollection T} {answered : AnsweredCall T}
    (hsound : Sound collection) (hleaves : LeavesNoPointer collection answered)
    (hstep : mappingStep collection answered = some (.ok next)) : Sound next := by
  obtain ⟨hmaps, hregistrable, rfl⟩ := mappingStep_eq_ok_iff.mp hstep
  refine ⟨hsound.owned.step (collectionStep_eq_ok_iff.mpr ⟨hregistrable, rfl⟩), ?_⟩
  have hsole := hsound.owned.sole
  obtain ⟨call, callback⟩ := answered
  cases call with
  | registerTransport mid transport =>
      exact noDangling_registerTransport callback hsound transport (hleaves hregistrable)
  | setTransportForMid mid transport =>
      apply noDangling_of_releases (releases_setTransportForMid callback hsole mid transport)
      intro other owned hmapped
      rw [getTransportForMid_setTransportForMid, stableTransportForMid,
        stable_setTransportForMid] at hmapped
      rcases hmapped with hmid | hmid
      · split_ifs at hmid with hother
        · obtain rfl := Option.some.inj hmid
          exact hmaps
        · exact hsound.noDangling other owned (Or.inl hmid)
      · exact hsound.noDangling other owned (Or.inr hmid)
  | removeTransportForMid mid =>
      apply noDangling_of_releases (releases_removeTransportForMid hsole mid)
      intro other owned hmapped
      rw [getTransportForMid_removeTransportForMid, stableTransportForMid,
        stable_removeTransportForMid] at hmapped
      rcases hmapped with hmid | hmid
      · split_ifs at hmid
        exact hsound.noDangling other owned (Or.inl hmid)
      · exact hsound.noDangling other owned (Or.inr hmid)
  | rollbackTransports =>
      apply noDangling_of_releases (releases_rollbackTransports callback collection)
      intro other owned hmapped
      rw [getTransportForMid, midToTransport_rollbackTransports, stableTransportForMid,
        stable_rollbackTransports, or_self_iff] at hmapped
      exact hsound.noDangling other owned (Or.inr hmapped)
  | commitTransports =>
      apply noDangling_of_releases (releases_commitTransports collection)
      intro other owned hmapped
      rw [getTransportForMid, midToTransport_commitTransports, stableTransportForMid,
        stable_commitTransports, or_self_iff] at hmapped
      exact hsound.noDangling other owned (Or.inl hmapped)
  | destroyAllTransports =>
      intro mid owned hmapped
      rcases hmapped with hmid | hmid
      · exact absurd ((hleaves mid).1.symm.trans hmid) (by simp)
      · exact absurd ((hleaves mid).2.symm.trans hmid) (by simp)

/-- A call that leaves a pointer to what it destroys brings about a dangling one. -/
theorem Sound.breaks {collection : JsepTransportCollection T} {answered : AnsweredCall T}
    (hsound : Sound collection) (hleaves : ¬ LeavesNoPointer collection answered) :
    ∃ next, mappingStep collection answered = some (.ok next) ∧ ¬ NoDangling next := by
  obtain ⟨call, callback⟩ := answered
  cases call with
  | registerTransport mid transport =>
      obtain ⟨hnew, hreplaceable⟩ := Classical.not_imp.mp hleaves
      refine ⟨_, mappingStep_eq_ok_iff.mpr ⟨trivial, hnew, rfl⟩, ?_⟩
      exact not_noDangling_registerTransport callback hsound.owned.sole hnew hreplaceable
  | destroyAllTransports =>
      refine ⟨_, mappingStep_eq_ok_iff.mpr ⟨trivial, trivial, rfl⟩, fun hnoDangling => ?_⟩
      apply hleaves
      have hnone : ∀ transport, collection.destroyAllTransports.owns transport = false := by
        intro transport
        apply (owns_eq_false_iff _ _).mpr
        intro name howner
        rw [getTransportByName_destroyAllTransports] at howner
        exact absurd howner (by simp)
      have hunmapped : ∀ mid transport, ¬ (collection.getTransportForMid mid = some transport ∨
          collection.stableTransportForMid mid = some transport) := by
        intro mid transport hmapped
        exact Bool.false_ne_true ((hnone transport).symm.trans
          (hnoDangling mid transport hmapped))
      intro mid
      constructor
      · exact Option.eq_none_iff_forall_ne_some.mpr fun transport hmid =>
          hunmapped mid transport (Or.inl hmid)
      · exact Option.eq_none_iff_forall_ne_some.mpr fun transport hmid =>
          hunmapped mid transport (Or.inr hmid)
  | setTransportForMid mid transport => exact absurd trivial hleaves
  | removeTransportForMid mid => exact absurd trivial hleaves
  | rollbackTransports => exact absurd trivial hleaves
  | commitTransports => exact absurd trivial hleaves

/-- Every pointer has an owner in every state of a run exactly when each call leaves no
pointer to what it destroys without a look at the maps. -/
theorem noDangling_iff (events : List (AnsweredCall T)) :
    Throughout mappingStep NoDangling {} events ↔
      Guarded mappingStep LeavesNoPointer {} events :=
  guarded_iff_throughout (fun _ _ _ => Sound.step) (fun _ => Sound.noDangling)
    (fun _ _ => Sound.breaks) sound_empty events

/-- A name is registered again while another section uses its transport. -/
theorem registration_dangles :
    ∃ (events : List (AnsweredCall ℕ)) (collection : JsepTransportCollection ℕ),
      run mappingStep {} events = some (.ok collection) ∧
        collection.getTransportForMid (ascii "video") = some 0 ∧
        collection.owns 0 = false := by
  have hreaches : reaches
      (fun collection : JsepTransportCollection ℕ =>
        collection.getTransportForMid (ascii "video") = some 0 && !collection.owns 0)
      (run mappingStep {}
        [{ call := .registerTransport (ascii "audio") 0 },
          { call := .setTransportForMid (ascii "video") 0 },
          { call := .registerTransport (ascii "audio") 1 }]) = true := by
    decide
  obtain ⟨collection, hrun, hcheck⟩ := exists_of_reaches _ hreaches
  exact ⟨_, collection, hrun, by simpa using hcheck⟩

end PeerConnection.Transport
