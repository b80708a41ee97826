import PeerConnection.Core.Runs
import PeerConnection.Transport.Collection

/-!
# The calls on the transport collection

Besides registration there are the calls that remap, roll back, commit and destroy.  What
each of them does to the three maps is said once, entry by entry; the properties of whole
runs are derived from that.
-/

namespace PeerConnection.Transport

open PeerConnection.Text
open PeerConnection.Runs
open Std

namespace JsepTransportCollection

variable {T : Type*} [DecidableEq T]

def getTransportForMid (collection : JsepTransportCollection T) (mid : Bytes) : Option T :=
  collection.midToTransport[mid]?

/-- `GetTransportForMid` in the stable state. -/
def stableTransportForMid (collection : JsepTransportCollection T) (mid : Bytes) : Option T :=
  collection.stableMidToTransport[mid]?

/-- The transport is mapped, now or in the stable state. -/
def needed (collection : JsepTransportCollection T) (transport : T) : Bool :=
  collection.transportInUse transport || collection.transportNeededForRollback transport

def destroyUnusedTransports (collection : JsepTransportCollection T) :
    JsepTransportCollection T :=
  let unused := collection.jsepTransportsByName.toList.filter (!collection.needed ·.2)
  let kept := { collection with
    jsepTransportsByName := collection.jsepTransportsByName.filter fun _ transport =>
      collection.needed transport
    events := collection.events ++ unused.map (.destroyed ·.2) }
  if unused.isEmpty then kept else kept.emit .stateChanged

def removeTransportForMid (collection : JsepTransportCollection T) (mid : Bytes) :
    JsepTransportCollection T :=
  let notified := collection.emit (.mapChanged mid none)
  match notified.getTransportForMid mid with
  | none => notified
  | some oldTransport =>
      { notified with
        midToTransport := notified.midToTransport.erase mid }.maybeDestroyJsepTransport
          oldTransport

/-- `ret = ret && map_change_callback_(mid, transport)`. -/
def notifyChange (mapChangeCallback : Bytes → Option T → Bool)
    (notified : JsepTransportCollection T × Bool) (change : Bytes × Option T) :
    JsepTransportCollection T × Bool :=
  if notified.2 then
    (notified.1.emit (.mapChanged change.1 change.2), mapChangeCallback change.1 change.2)
  else notified

/-- The mappings that are not in the stable state. -/
def newMids (collection : JsepTransportCollection T) : List (Bytes × Option T) :=
  (collection.midToTransport.toList.filter fun entry =>
    !collection.stableMidToTransport.contains entry.1).map fun entry => (entry.1, none)

/-- The mappings of the stable state that are not there any more. -/
def oldMappings (collection : JsepTransportCollection T) : List (Bytes × Option T) :=
  (collection.stableMidToTransport.toList.filter fun entry =>
    collection.midToTransport[entry.1]? ≠ some entry.2).map fun entry => (entry.1, some entry.2)

/-- The result is what the callbacks came to. -/
def rollbackTransports (mapChangeCallback : Bytes → Option T → Bool)
    (collection : JsepTransportCollection T) : JsepTransportCollection T × Bool :=
  let removed := collection.newMids.foldl (notifyChange mapChangeCallback) (collection, true)
  let (restored, ret) := collection.oldMappings.foldl (notifyChange mapChangeCallback) removed
  let remapped := { restored with midToTransport := restored.stableMidToTransport }
  ((remapped.emit .stateChanged).destroyUnusedTransports, ret)

def commitTransports (collection : JsepTransportCollection T) : JsepTransportCollection T :=
  { collection with
    stableMidToTransport := collection.midToTransport }.destroyUnusedTransports

/-- The map does not say in which order it destroys what it owns. -/
def destroyAllTransports (collection : JsepTransportCollection T) :
    JsepTransportCollection T :=
  let owned := collection.jsepTransportsByName.toList
  { collection with
    jsepTransportsByName := ∅
    events := collection.events ++
      (owned.map (.mapChanged ·.1 none) ++ owned.map (.destroyed ·.2)) }

def isConsistent (collection : JsepTransportCollection T) : Bool :=
  collection.jsepTransportsByName.toList.all (collection.needed ·.2)

end JsepTransportCollection

/-! ## Runs -/

inductive CollectionCall (T : Type*) where
  | registerTransport (mid : Bytes) (transport : T)
  | setTransportForMid (mid : Bytes) (jsepTransport : T)
  | removeTransportForMid (mid : Bytes)
  | rollbackTransports
  | commitTransports
  | destroyAllTransports
  deriving DecidableEq, Repr

/-- A call with the answers of `map_change_callback_` while it runs. -/
structure AnsweredCall (T : Type*) where
  call : CollectionCall T
  mapChangeCallback : Bytes → Option T → Bool := fun _ _ => false

variable {T : Type*} [DecidableEq T]

open JsepTransportCollection in
def AnsweredCall.apply (answered : AnsweredCall T) (collection : JsepTransportCollection T) :
    JsepTransportCollection T :=
  match answered.call with
  | .registerTransport mid transport =>
      registerTransport answered.mapChangeCallback collection mid transport
  | .setTransportForMid mid jsepTransport =>
      (setTransportForMid answered.mapChangeCallback collection mid jsepTransport).1
  | .removeTransportForMid mid => collection.removeTransportForMid mid
  | .rollbackTransports =>
      (rollbackTransports answered.mapChangeCallback collection).1
  | .commitTransports => collection.commitTransports
  | .destroyAllTransports => collection.destroyAllTransports

/-- A transport that is registered comes with its only owner. -/
def Registrable (collection : JsepTransportCollection T) (answered : AnsweredCall T) : Prop :=
  match answered.call with
  | .registerTransport _ transport => collection.owns transport = false
  | _ => True

instance (collection : JsepTransportCollection T) (answered : AnsweredCall T) :
    Decidable (Registrable collection answered) :=
  match answered with
  | ⟨.registerTransport _ transport, _⟩ =>
      inferInstanceAs (Decidable (collection.owns transport = false))
  | ⟨.setTransportForMid _ _, _⟩ | ⟨.removeTransportForMid _, _⟩ | ⟨.rollbackTransports, _⟩
  | ⟨.commitTransports, _⟩ | ⟨.destroyAllTransports, _⟩ => inferInstanceAs (Decidable True)

def collectionStep : System (JsepTransportCollection T) (AnsweredCall T) Empty :=
  restrict (fun collection answered => some (.ok (answered.apply collection))) Registrable

/-! ## What the calls do to the maps -/

namespace JsepTransportCollection

/-- No transport has two owners. -/
def SoleOwners (collection : JsepTransportCollection T) : Prop :=
  ∀ name other transport, collection.getTransportByName name = some transport →
    collection.getTransportByName other = some transport → name = other

/-- Every owned transport is mapped, now or in the stable state. -/
def NoLeak (collection : JsepTransportCollection T) : Prop :=
  ∀ name transport, collection.getTransportByName name = some transport →
    collection.needed transport = true

theorem transportNeededForRollback_iff (collection : JsepTransportCollection T)
    (transport : T) :
    collection.transportNeededForRollback transport = true ↔
      ∃ mid, collection.stableTransportForMid mid = some transport := by
  simp [transportNeededForRollback, stableTransportForMid,
    TreeMap.mem_toList_iff_getElem?_eq_some]

theorem needed_iff (collection : JsepTransportCollection T) (transport : T) :
    collection.needed transport = true ↔
      (∃ mid, collection.getTransportForMid mid = some transport) ∨
        ∃ mid, collection.stableTransportForMid mid = some transport := by
  rw [needed, Bool.or_eq_true, transportInUse_iff, transportNeededForRollback_iff]
  rfl

theorem isConsistent_iff (collection : JsepTransportCollection T) :
    collection.isConsistent = true ↔ collection.NoLeak := by
  simp [isConsistent, NoLeak, getTransportByName, TreeMap.mem_toList_iff_getElem?_eq_some]

/-- Transports of the first collection are released, but none that is needed. -/
structure Releases (before after : JsepTransportCollection T) : Prop where
  kept : ∀ name transport, before.getTransportByName name = some transport →
    after.needed transport = true → after.getTransportByName name = some transport
  owned : ∀ name transport, after.getTransportByName name = some transport →
    before.getTransportByName name = some transport
  noLeak : before.NoLeak → after.NoLeak

omit [DecidableEq T] in
theorem getTransportForMid_emit (collection : JsepTransportCollection T)
    (event : CollectionEvent T) : (collection.emit event).getTransportForMid =
      collection.getTransportForMid := rfl

theorem stable_maybeDestroyJsepTransport (collection : JsepTransportCollection T) (old : T) :
    (collection.maybeDestroyJsepTransport old).stableMidToTransport =
      collection.stableMidToTransport := by
  rw [maybeDestroyJsepTransport]
  split_ifs
  · rfl
  · rfl
  · split <;> rfl

theorem needed_maybeDestroyJsepTransport (collection : JsepTransportCollection T)
    (old transport : T) :
    (collection.maybeDestroyJsepTransport old).needed transport =
      collection.needed transport := by
  simp only [needed, transportInUse, transportNeededForRollback,
    midToTransport_maybeDestroyJsepTransport, stable_maybeDestroyJsepTransport]

/-- Only the old transport goes, and only when it is not needed. -/
theorem getTransportByName_maybeDestroyJsepTransport {collection : JsepTransportCollection T}
    (hsole : collection.SoleOwners) (old : T) (name : Bytes) (transport : T) :
    (collection.maybeDestroyJsepTransport old).getTransportByName name = some transport ↔
      collection.getTransportByName name = some transport ∧
        (transport ≠ old ∨ collection.needed transport = true) := by
  by_cases hneeded : collection.needed old = true
  · have hkept : (collection.maybeDestroyJsepTransport old).jsepTransportsByName =
        collection.jsepTransportsByName := by
      rw [needed, Bool.or_eq_true] at hneeded
      rw [maybeDestroyJsepTransport]
      split_ifs with huse hrollback
      · rfl
      · rfl
      · exact absurd hneeded (not_or.mpr ⟨huse, hrollback⟩)
    rw [getTransportByName, hkept]
    refine ⟨fun howned => ⟨howned, ?_⟩, fun howned => howned.1⟩
    by_cases hold : transport = old
    · exact Or.inr (hold ▸ hneeded)
    · exact Or.inl hold
  · have hunneeded := hneeded
    rw [needed, Bool.or_eq_true, not_or] at hunneeded
    rw [maybeDestroyJsepTransport, if_neg hunneeded.1, if_neg hunneeded.2]
    cases hfound : collection.jsepTransportsByName.toList.find? (·.2 = old) with
    | none =>
        have hnone : ∀ entry ∈ collection.jsepTransportsByName.toList, entry.2 ≠ old := by
          simpa using hfound
        refine ⟨fun howned => ⟨howned, Or.inl ?_⟩, fun howned => howned.1⟩
        exact hnone (name, transport) (TreeMap.mem_toList_iff_getElem?_eq_some.mpr howned)
    | some entry =>
        obtain ⟨owner, found⟩ := entry
        obtain rfl : found = old := by simpa using List.find?_some hfound
        have howner : collection.getTransportByName owner = some found :=
          TreeMap.mem_toList_iff_getElem?_eq_some.mp (List.mem_of_find?_eq_some hfound)
        have herase : getTransportByName
            (({ collection with
              jsepTransportsByName := collection.jsepTransportsByName.erase owner }.emit
                (.destroyed found)).emit .stateChanged) name =
            if owner = name then none else collection.getTransportByName name := by
          simp [getTransportByName, emit, TreeMap.getElem?_erase]
        simp only [herase]
        by_cases hname : owner = name
        · subst hname
          rw [if_pos rfl, howner]
          constructor
          · intro hnone
            exact absurd hnone (by simp)
          · rintro ⟨hsame, hother⟩
            obtain rfl := Option.some.inj hsame
            exact absurd rfl (hother.resolve_right hneeded)
        · rw [if_neg hname]
          refine ⟨fun howned => ⟨howned, Or.inl ?_⟩, fun howned => howned.1⟩
          rintro rfl
          exact hname (hsole _ _ _ howner howned)

/-- The mapping of one section has changed and the old transport may have gone. -/
theorem releases_maybeDestroy {before mapped : JsepTransportCollection T}
    (hsole : before.SoleOwners) {mid : Bytes} {old : T}
    (howners : mapped.jsepTransportsByName = before.jsepTransportsByName)
    (hold : before.getTransportForMid mid = some old)
    (hother : ∀ other, other ≠ mid →
      mapped.getTransportForMid other = before.getTransportForMid other)
    (hstable : mapped.stableMidToTransport = before.stableMidToTransport) :
    Releases before (mapped.maybeDestroyJsepTransport old) := by
  have hname : ∀ name, mapped.getTransportByName name = before.getTransportByName name := by
    intro name
    simp only [getTransportByName, howners]
  have hmapped : mapped.SoleOwners := by
    intro name other transport hfirst hsecond
    exact hsole name other transport (hname name ▸ hfirst) (hname other ▸ hsecond)
  refine ⟨?_, ?_, ?_⟩
  · intro name transport howned hneeded
    rw [needed_maybeDestroyJsepTransport] at hneeded
    apply (getTransportByName_maybeDestroyJsepTransport hmapped old name transport).mpr
    exact ⟨(hname name).trans howned, Or.inr hneeded⟩
  · intro name transport howned
    rw [getTransportByName_maybeDestroyJsepTransport hmapped, hname] at howned
    exact howned.1
  · intro hleak name transport howned
    rw [getTransportByName_maybeDestroyJsepTransport hmapped, hname] at howned
    rw [needed_maybeDestroyJsepTransport]
    apply howned.2.elim _ id
    intro hne
    rcases (needed_iff _ _).mp (hleak name transport howned.1) with
      ⟨other, hmid⟩ | ⟨other, hmid⟩
    · apply (needed_iff _ _).mpr (Or.inl ⟨other, _⟩)
      rw [hother other, hmid]
      rintro rfl
      exact hne (Option.some.inj (hmid.symm.trans hold))
    · apply (needed_iff _ _).mpr (Or.inr ⟨other, _⟩)
      rw [stableTransportForMid, hstable]
      exact hmid

theorem needed_destroyUnusedTransports (collection : JsepTransportCollection T)
    (transport : T) :
    collection.destroyUnusedTransports.needed transport = collection.needed transport := by
  rw [destroyUnusedTransports]
  split_ifs <;> rfl

/-- The unused transports go, whatever the maps were before. -/
theorem releases_destroyUnused {before remapped : JsepTransportCollection T}
    (howners : remapped.jsepTransportsByName = before.jsepTransportsByName) :
    Releases before remapped.destroyUnusedTransports := by
  have hname : ∀ name transport,
      remapped.destroyUnusedTransports.getTransportByName name = some transport ↔
        before.getTransportByName name = some transport ∧
          remapped.needed transport = true := by
    intro name transport
    have hfilter : remapped.destroyUnusedTransports.jsepTransportsByName =
        before.jsepTransportsByName.filter fun _ transport => remapped.needed transport := by
      rw [destroyUnusedTransports, ← howners]
      split_ifs <;> rfl
    rw [getTransportByName, hfilter, TreeMap.getElem?_filter', Option.filter_eq_some_iff]
    rfl
  refine ⟨?_, ?_, ?_⟩
  · intro name transport howned hafter
    rw [needed_destroyUnusedTransports] at hafter
    exact (hname name transport).mpr ⟨howned, hafter⟩
  · intro name transport howned
    exact ((hname name transport).mp howned).1
  · intro _ name transport howned
    rw [needed_destroyUnusedTransports]
    exact ((hname name transport).mp howned).2

/-! ### The single calls -/

variable (callback : Bytes → Option T → Bool) (collection : JsepTransportCollection T)

theorem stable_setTransportForMid (mid : Bytes) (transport : T) :
    (setTransportForMid callback collection mid transport).1.stableMidToTransport =
      collection.stableMidToTransport := by
  rw [setTransportForMid]
  split
  · rfl
  · split_ifs
    · rfl
    · exact stable_maybeDestroyJsepTransport _ _

theorem getTransportForMid_setTransportForMid (mid other : Bytes) (transport : T) :
    (setTransportForMid callback collection mid transport).1.getTransportForMid other =
      if mid = other then some transport else collection.getTransportForMid other :=
  midToTransport_setTransportForMid callback collection mid other transport

theorem releases_setTransportForMid {collection : JsepTransportCollection T}
    (hsole : collection.SoleOwners) (mid : Bytes) (transport : T) :
    Releases collection (setTransportForMid callback collection mid transport).1 := by
  rw [setTransportForMid]
  cases hold : collection.midToTransport[mid]? with
  | none =>
      refine ⟨fun _ _ howned _ => howned, fun _ _ howned => howned, ?_⟩
      intro hleak name owned howned
      rcases (needed_iff _ _).mp (hleak name owned howned) with ⟨other, hmid⟩ | hrollback
      · apply (needed_iff _ _).mpr (Or.inl ⟨other, _⟩)
        have hne : mid ≠ other := by
          rintro rfl
          exact absurd (hold.symm.trans hmid) (by simp)
        simpa [getTransportForMid, emit, TreeMap.getElem?_insert, hne] using hmid
      · exact (needed_iff _ _).mpr (Or.inr hrollback)
  | some old =>
      by_cases hsame : old = transport
      · simp only [if_pos hsame]
        exact ⟨fun _ _ howned _ => howned, fun _ _ howned => howned, id⟩
      · simp only [if_neg hsame]
        apply releases_maybeDestroy hsole _ hold _ _
        · rfl
        · intro other hother
          simp [getTransportForMid, emit, TreeMap.getElem?_insert, Ne.symm hother]
        · rfl

theorem stable_removeTransportForMid (mid : Bytes) :
    (collection.removeTransportForMid mid).stableMidToTransport =
      collection.stableMidToTransport := by
  rw [removeTransportForMid]
  split
  · rfl
  · exact stable_maybeDestroyJsepTransport _ _

theorem getTransportForMid_removeTransportForMid (mid other : Bytes) :
    (collection.removeTransportForMid mid).getTransportForMid other =
      if mid = other then none else collection.getTransportForMid other := by
  rw [removeTransportForMid, getTransportForMid_emit]
  cases hold : collection.getTransportForMid mid with
  | none =>
      split_ifs with hother
      · subst hother
        exact hold
      · rfl
  | some old =>
      simp only [getTransportForMid, midToTransport_maybeDestroyJsepTransport]
      simp [emit, TreeMap.getElem?_erase]

theorem releases_removeTransportForMid {collection : JsepTransportCollection T}
    (hsole : collection.SoleOwners) (mid : Bytes) :
    Releases collection (collection.removeTransportForMid mid) := by
  rw [removeTransportForMid, getTransportForMid_emit]
  cases hold : collection.getTransportForMid mid with
  | none => exact ⟨fun _ _ howned _ => howned, fun _ _ howned => howned, id⟩
  | some old =>
      apply releases_maybeDestroy hsole _ hold _ _
      · rfl
      · intro other hother
        simp [getTransportForMid, emit, TreeMap.getElem?_erase, Ne.symm hother]
      · rfl

/-- The changes of a rollback in the order in which they are announced. -/
def changes : List (Bytes × Option T) :=
  collection.newMids ++ collection.oldMappings

/-- The changes up to the first whose callback returns false. -/
def announced : List (Bytes × Option T) → List (Bytes × Option T)
  | [] => []
  | change :: changes =>
      change :: if callback change.1 change.2 then announced changes else []

def changeEvents (changes : List (Bytes × Option T)) : List (CollectionEvent T) :=
  changes.map fun change => .mapChanged change.1 change.2

omit [DecidableEq T] in
theorem foldl_notifyChange_false (changes : List (Bytes × Option T)) :
    changes.foldl (notifyChange callback) (collection, false) = (collection, false) := by
  induction changes with
  | nil => rfl
  | cons change changes ih => exact ih

omit [DecidableEq T] in
/-- The notifications leave the maps alone. -/
theorem foldl_notifyChange (changes : List (Bytes × Option T)) :
    (changes.foldl (notifyChange callback) (collection, true)).1 =
      { collection with
        events := collection.events ++ changeEvents (announced callback changes) } := by
  induction changes generalizing collection with
  | nil => simp [announced, changeEvents]
  | cons change changes ih =>
      rw [List.foldl_cons, announced, notifyChange, if_pos rfl]
      by_cases hanswer : callback change.1 change.2 = true
      · rw [hanswer, ih, if_pos rfl]
        simp [emit, changeEvents]
      · rw [Bool.not_eq_true] at hanswer
        rw [hanswer, foldl_notifyChange_false]
        simp [emit, changeEvents]

theorem rollbackTransports_eq :
    (rollbackTransports callback collection).1 =
      ({ collection with
        midToTransport := collection.stableMidToTransport
        events := collection.events ++
          changeEvents (announced callback collection.changes) }.emit
            .stateChanged).destroyUnusedTransports := by
  have hfold := foldl_notifyChange callback collection collection.changes
  rw [changes, List.foldl_append] at hfold
  simp only [rollbackTransports, hfold, changes]

theorem midToTransport_destroyUnusedTransports :
    collection.destroyUnusedTransports.midToTransport = collection.midToTransport := by
  rw [destroyUnusedTransports]
  split_ifs <;> rfl

theorem stable_destroyUnusedTransports :
    collection.destroyUnusedTransports.stableMidToTransport =
      collection.stableMidToTransport := by
  rw [destroyUnusedTransports]
  split_ifs <;> rfl

theorem midToTransport_rollbackTransports :
    (rollbackTransports callback collection).1.midToTransport =
      collection.stableMidToTransport := by
  rw [rollbackTransports_eq, midToTransport_destroyUnusedTransports]
  rfl

theorem stable_rollbackTransports :
    (rollbackTransports callback collection).1.stableMidToTransport =
      collection.stableMidToTransport := by
  rw [rollbackTransports_eq, stable_destroyUnusedTransports]
  rfl

theorem releases_rollbackTransports :
    Releases collection (rollbackTransports callback collection).1 := by
  rw [rollbackTransports_eq]
  exact releases_destroyUnused rfl

theorem midToTransport_commitTransports :
    collection.commitTransports.midToTransport = collection.midToTransport :=
  midToTransport_destroyUnusedTransports _

theorem stable_commitTransports :
    collection.commitTransports.stableMidToTransport = collection.midToTransport :=
  stable_destroyUnusedTransports _

theorem releases_commitTransports : Releases collection collection.commitTransports :=
  releases_destroyUnused rfl

theorem stable_registerTransport (mid : Bytes) (transport : T) :
    (registerTransport callback collection mid transport).stableMidToTransport =
      collection.stableMidToTransport := by
  rw [← stable_setTransportForMid callback collection mid transport, registerTransport]
  split
  · split_ifs <;> rfl
  · rfl

/-- The name gets the transport after the mapping has been set. -/
theorem getTransportByName_registerTransport_eq (mid other : Bytes) (transport : T) :
    (registerTransport callback collection mid transport).getTransportByName other =
      if mid = other then some transport
      else (setTransportForMid callback collection mid transport).1.getTransportByName
        other := by
  rw [getTransportByName, jsepTransportsByName_registerTransport, TreeMap.getElem?_insert]
  simp [getTransportByName]

theorem owns_eq_false_iff (transport : T) :
    collection.owns transport = false ↔
      ∀ name, collection.getTransportByName name ≠ some transport := by
  rw [← Bool.not_eq_true, owns_iff, not_exists]

/-- No transport has two owners, and none is without a mapping. -/
structure Owned (collection : JsepTransportCollection T) : Prop where
  sole : collection.SoleOwners
  noLeak : collection.NoLeak

theorem Releases.soleOwners {before after : JsepTransportCollection T}
    (hreleases : Releases before after) (hsole : before.SoleOwners) : after.SoleOwners :=
  fun name other transport hfirst hsecond =>
    hsole name other transport (hreleases.owned _ _ hfirst) (hreleases.owned _ _ hsecond)

theorem Releases.keeps {before after : JsepTransportCollection T}
    (hreleases : Releases before after) (hinv : before.Owned) : after.Owned :=
  ⟨hreleases.soleOwners hinv.sole, hreleases.noLeak hinv.noLeak⟩

theorem owned_registerTransport {collection : JsepTransportCollection T}
    (hinv : collection.Owned) (mid : Bytes) {transport : T}
    (hnew : collection.owns transport = false) :
    (registerTransport callback collection mid transport).Owned := by
  have hset := releases_setTransportForMid callback hinv.sole mid transport
  have hkept := hset.keeps hinv
  have hnone : ∀ name, (setTransportForMid callback collection mid
      transport).1.getTransportByName name ≠ some transport := fun name howned =>
    (owns_eq_false_iff _ _).mp hnew name (hset.owned _ _ howned)
  have hname := getTransportByName_registerTransport_eq callback collection mid
  constructor
  · intro name other owned hfirst hsecond
    rw [hname] at hfirst hsecond
    split_ifs at hfirst hsecond with hmid hother hother
    · exact hmid.symm.trans hother
    · exact absurd (Option.some.inj hfirst ▸ hsecond) (hnone other)
    · exact absurd (Option.some.inj hsecond ▸ hfirst) (hnone name)
    · exact hkept.sole name other owned hfirst hsecond
  · intro name owned howned
    have hneeded : ∀ each, (registerTransport callback collection mid transport).needed each =
        (setTransportForMid callback collection mid transport).1.needed each := by
      intro each
      simp only [needed, transportInUse, transportNeededForRollback]
      rw [stable_registerTransport, ← stable_setTransportForMid callback collection mid
        transport]
      congr 2
      rw [registerTransport]
      split
      · split_ifs <;> rfl
      · rfl
    rw [hname] at howned
    rw [hneeded]
    split_ifs at howned with hmid
    · obtain rfl := Option.some.inj howned
      apply (needed_iff _ _).mpr (Or.inl ⟨mid, _⟩)
      rw [getTransportForMid_setTransportForMid, if_pos rfl]
    · exact hkept.noLeak name owned howned

omit [DecidableEq T] in
theorem getTransportByName_destroyAllTransports (name : Bytes) :
    collection.destroyAllTransports.getTransportByName name = none := by
  simp [destroyAllTransports, getTransportByName]

theorem owned_empty : ({} : JsepTransportCollection T).Owned := by
  constructor
  · intro name other transport hfirst
    simp [getTransportByName] at hfirst
  · intro name transport howned
    simp [getTransportByName] at howned

theorem owned_destroyAllTransports : collection.destroyAllTransports.Owned := by
  constructor
  · intro name other transport hfirst
    rw [getTransportByName_destroyAllTransports] at hfirst
    exact absurd hfirst (by simp)
  · intro name transport howned
    rw [getTransportByName_destroyAllTransports] at howned
    exact absurd howned (by simp)

end JsepTransportCollection

open JsepTransportCollection

theorem collectionStep_eq_ok_iff {collection next : JsepTransportCollection T}
    {answered : AnsweredCall T} :
    collectionStep collection answered = some (.ok next) ↔
      Registrable collection answered ∧ answered.apply collection = next := by
  rw [collectionStep, restrict_eq_some_iff, Option.some.injEq, Except.ok.injEq]

theorem JsepTransportCollection.Owned.step {collection next : JsepTransportCollection T}
    {answered : AnsweredCall T}
    (hinv : collection.Owned) (hstep : collectionStep collection answered = some (.ok next)) :
    next.Owned := by
  obtain ⟨hregistrable, rfl⟩ := collectionStep_eq_ok_iff.mp hstep
  obtain ⟨call, callback⟩ := answered
  cases call with
  | registerTransport mid transport => exact owned_registerTransport _ hinv mid hregistrable
  | setTransportForMid mid transport =>
      exact (releases_setTransportForMid _ hinv.sole mid transport).keeps hinv
  | removeTransportForMid mid =>
      exact (releases_removeTransportForMid hinv.sole mid).keeps hinv
  | rollbackTransports => exact (releases_rollbackTransports _ _).keeps hinv
  | commitTransports => exact (releases_commitTransports _).keeps hinv
  | destroyAllTransports => exact owned_destroyAllTransports _

end PeerConnection.Transport
