import PeerConnection.Core.Text

/-!
# The transport collection

`JsepTransportCollection` owns the transports by name and maps media sections to
them by raw pointer.  A transport is an identity here; it exists as long as
`jsepTransportsByName` holds it.  The callbacks and destructions are kept in the
order in which they happen.
-/

namespace PeerConnection.Transport

open PeerConnection.Text
open Std

/-- What the collection does to the outside. -/
inductive CollectionEvent (T : Type*) where
  | mapChanged (mid : Bytes) (transport : Option T)
  | stateChanged
  | destroyed (transport : T)
  deriving DecidableEq

structure JsepTransportCollection (T : Type*) where
  /-- Owns the transports. -/
  jsepTransportsByName : TreeMap Bytes T := ∅
  midToTransport : TreeMap Bytes T := ∅
  /-- `mid_to_transport_` at the last stable state. -/
  stableMidToTransport : TreeMap Bytes T := ∅
  events : List (CollectionEvent T) := []

namespace JsepTransportCollection

variable {T : Type*} [DecidableEq T]

def emit (collection : JsepTransportCollection T) (event : CollectionEvent T) :
    JsepTransportCollection T :=
  { collection with events := collection.events ++ [event] }

/-- Some name owns the transport, so that it is alive. -/
def owns (collection : JsepTransportCollection T) (transport : T) : Bool :=
  collection.jsepTransportsByName.toList.any (·.2 = transport)

def transportInUse (collection : JsepTransportCollection T) (transport : T) : Bool :=
  collection.midToTransport.toList.any (·.2 = transport)

def transportNeededForRollback (collection : JsepTransportCollection T) (transport : T) :
    Bool :=
  collection.stableMidToTransport.toList.any (·.2 = transport)

def getTransportByName (collection : JsepTransportCollection T) (transportName : Bytes) :
    Option T :=
  collection.jsepTransportsByName[transportName]?

def maybeDestroyJsepTransport (collection : JsepTransportCollection T) (transport : T) :
    JsepTransportCollection T :=
  if collection.transportInUse transport then collection
  else if collection.transportNeededForRollback transport then
    collection.emit .stateChanged
  else
    match collection.jsepTransportsByName.toList.find? (·.2 = transport) with
    | some entry =>
        ({ collection with
          jsepTransportsByName := collection.jsepTransportsByName.erase entry.1 }.emit
            (.destroyed transport)).emit .stateChanged
    | none => collection

/-- The result is what `map_change_callback_` returned. -/
def setTransportForMid (mapChangeCallback : Bytes → Option T → Bool)
    (collection : JsepTransportCollection T) (mid : Bytes) (jsepTransport : T) :
    JsepTransportCollection T × Bool :=
  match collection.midToTransport[mid]? with
  | none =>
      let notified := collection.emit (.mapChanged mid (some jsepTransport))
      ({ notified with midToTransport := notified.midToTransport.insert mid jsepTransport },
        mapChangeCallback mid (some jsepTransport))
  | some oldTransport =>
      if oldTransport = jsepTransport then (collection, true)
      else
        let notified := collection.emit (.mapChanged mid (some jsepTransport))
        let mapped := { notified with
          midToTransport := notified.midToTransport.insert mid jsepTransport }
        (mapped.maybeDestroyJsepTransport oldTransport,
          mapChangeCallback mid (some jsepTransport))

/-- Assigning to `jsep_transports_by_name_[mid]` destroys a transport that is
still there. -/
def registerTransport (mapChangeCallback : Bytes → Option T → Bool)
    (collection : JsepTransportCollection T) (mid : Bytes) (transport : T) :
    JsepTransportCollection T :=
  let mapped := (setTransportForMid mapChangeCallback collection mid transport).1
  let assigned := { mapped with
    jsepTransportsByName := mapped.jsepTransportsByName.insert mid transport }
  match mapped.jsepTransportsByName[mid]? with
  | some replaced =>
      if replaced = transport then assigned else assigned.emit (.destroyed replaced)
  | none => assigned

/-! ## Registration -/

/-- Every owned transport is mapped under its own name. -/
def Mapped (collection : JsepTransportCollection T) : Prop :=
  ∀ (mid : Bytes) (transport : T),
    collection.jsepTransportsByName[mid]? = some transport →
    collection.midToTransport[mid]? = some transport

omit [DecidableEq T] in
theorem mapped_empty : Mapped ({} : JsepTransportCollection T) := by
  intro mid transport hmid
  simp at hmid

theorem owns_iff (collection : JsepTransportCollection T) (transport : T) :
    collection.owns transport = true ↔
      ∃ mid, collection.getTransportByName mid = some transport := by
  simp [owns, getTransportByName, TreeMap.mem_toList_iff_getElem?_eq_some]

theorem transportInUse_iff (collection : JsepTransportCollection T) (transport : T) :
    collection.transportInUse transport = true ↔
      ∃ mid : Bytes, collection.midToTransport[mid]? = some transport := by
  simp [transportInUse, TreeMap.mem_toList_iff_getElem?_eq_some]

/-- Destroying an unused transport leaves the other owned transports in place. -/
theorem getElem?_maybeDestroyJsepTransport {collection : JsepTransportCollection T}
    {old : T} {mid : Bytes} (hother : ∀ transport,
      collection.jsepTransportsByName[mid]? = some transport → transport ≠ old) :
    (collection.maybeDestroyJsepTransport old).jsepTransportsByName[mid]? =
      collection.jsepTransportsByName[mid]? := by
  rw [maybeDestroyJsepTransport]
  by_cases huse : collection.transportInUse old
  · rw [if_pos huse]
  by_cases hrollback : collection.transportNeededForRollback old
  · rw [if_neg huse, if_pos hrollback]
    rfl
  rw [if_neg huse, if_neg hrollback]
  cases hfound : collection.jsepTransportsByName.toList.find? (·.2 = old) with
  | none => rfl
  | some entry =>
      have hentry : entry.2 = old := by simpa using List.find?_some hfound
      have hmem : collection.jsepTransportsByName[entry.1]? = some entry.2 :=
        TreeMap.mem_toList_iff_getElem?_eq_some.mp (List.mem_of_find?_eq_some hfound)
      have hne : entry.1 ≠ mid := by
        intro hmid
        exact hother entry.2 (hmid ▸ hmem) hentry
      simp [emit, TreeMap.getElem?_erase, hne]

theorem midToTransport_maybeDestroyJsepTransport (collection : JsepTransportCollection T)
    (old : T) :
    (collection.maybeDestroyJsepTransport old).midToTransport =
      collection.midToTransport := by
  rw [maybeDestroyJsepTransport]
  split_ifs
  · rfl
  · rfl
  · split <;> rfl

theorem midToTransport_setTransportForMid (mapChangeCallback : Bytes → Option T → Bool)
    (collection : JsepTransportCollection T) (mid other : Bytes) (transport : T) :
    (setTransportForMid mapChangeCallback collection mid transport).1.midToTransport[other]? =
      if mid = other then some transport else collection.midToTransport[other]? := by
  rw [setTransportForMid]
  cases hold : collection.midToTransport[mid]? with
  | none => simp [emit, TreeMap.getElem?_insert]
  | some old =>
      by_cases hsame : old = transport
      · by_cases hother : mid = other
        · subst hother hsame
          simp [hold]
        · simp [hsame, hother]
      · simp [hsame, midToTransport_maybeDestroyJsepTransport, emit,
          TreeMap.getElem?_insert]

/-- Mapping a section to a new transport destroys no transport that another
section is mapped to. -/
theorem byName_setTransportForMid {collection : JsepTransportCollection T}
    (hmapped : Mapped collection) (mapChangeCallback : Bytes → Option T → Bool)
    {mid other : Bytes} (hother : mid ≠ other) (transport : T) :
    (setTransportForMid mapChangeCallback collection mid
      transport).1.jsepTransportsByName[other]? =
      collection.jsepTransportsByName[other]? := by
  rw [setTransportForMid]
  cases hold : collection.midToTransport[mid]? with
  | none => rfl
  | some old =>
      by_cases hsame : old = transport
      · simp [hsame]
      · simp only [if_neg hsame]
        set mapped : JsepTransportCollection T :=
          { collection.emit (.mapChanged mid (some transport)) with
            midToTransport :=
              (collection.emit (.mapChanged mid (some transport))).midToTransport.insert
                mid transport } with hmappedDef
        by_cases huse : mapped.transportInUse old
        · rw [maybeDestroyJsepTransport, if_pos huse]
          rfl
        · refine getElem?_maybeDestroyJsepTransport fun kept hkept hkeptOld => huse ?_
          subst hkeptOld
          refine (transportInUse_iff _ _).mpr ⟨other, ?_⟩
          simp [hmappedDef, emit, TreeMap.getElem?_insert, hother, hmapped other kept hkept]

theorem jsepTransportsByName_registerTransport (collection : JsepTransportCollection T)
    (mapChangeCallback : Bytes → Option T → Bool) (mid : Bytes) (transport : T) :
    (collection.registerTransport mapChangeCallback mid transport).jsepTransportsByName =
      (setTransportForMid mapChangeCallback collection mid
        transport).1.jsepTransportsByName.insert mid transport := by
  rw [registerTransport]
  split
  · split_ifs <;> rfl
  · rfl

/-- Registration replaces what its own name owns and nothing else. -/
theorem getTransportByName_registerTransport {collection : JsepTransportCollection T}
    (hmapped : Mapped collection) (mapChangeCallback : Bytes → Option T → Bool)
    (mid other : Bytes) (transport : T) :
    (collection.registerTransport mapChangeCallback mid transport).getTransportByName other =
      if mid = other then some transport else collection.getTransportByName other := by
  rw [getTransportByName, jsepTransportsByName_registerTransport, TreeMap.getElem?_insert]
  by_cases hother : mid = other
  · simp [hother]
  · simp [hother, byName_setTransportForMid hmapped mapChangeCallback hother,
      getTransportByName]

theorem midToTransport_registerTransport (collection : JsepTransportCollection T)
    (mapChangeCallback : Bytes → Option T → Bool) (mid other : Bytes) (transport : T) :
    (collection.registerTransport mapChangeCallback mid transport).midToTransport[other]? =
      if mid = other then some transport else collection.midToTransport[other]? := by
  rw [← midToTransport_setTransportForMid mapChangeCallback collection mid other transport]
  rw [registerTransport]
  split
  · split_ifs <;> rfl
  · rfl

theorem mapped_registerTransport {collection : JsepTransportCollection T}
    (hmapped : Mapped collection) (mapChangeCallback : Bytes → Option T → Bool)
    (mid : Bytes) (transport : T) :
    Mapped (collection.registerTransport mapChangeCallback mid transport) := by
  intro other owned howned
  rw [midToTransport_registerTransport]
  have hlookup :=
    getTransportByName_registerTransport hmapped mapChangeCallback mid other transport
  rw [getTransportByName, howned] at hlookup
  by_cases hother : mid = other
  · simpa [hother] using hlookup.symm
  · rw [if_neg hother] at hlookup ⊢
    exact hmapped other owned hlookup.symm

end JsepTransportCollection

end PeerConnection.Transport
