import PeerConnection.Transport.CollectionCalls

/-!
# What the transport collection tells the outside

Each call adds to the events: first the notifications of changed mappings, then, when the
maps have changed, the destructions.  A rollback stops its notifications at the first
callback that returns false.
-/

namespace PeerConnection.Transport

open PeerConnection.Text
open Std

namespace JsepTransportCollection

variable {T : Type*} [DecidableEq T]

/-- Events without notifications, in which nothing that is needed is destroyed. -/
structure Quiet (needed : T → Prop) (extra : List (CollectionEvent T)) : Prop where
  silent : ∀ mid transport, CollectionEvent.mapChanged mid transport ∉ extra
  spares : ∀ transport, needed transport → CollectionEvent.destroyed transport ∉ extra

omit [DecidableEq T] in
theorem quiet_nil (needed : T → Prop) : Quiet needed [] :=
  ⟨fun _ _ => List.not_mem_nil, fun _ _ => List.not_mem_nil⟩

omit [DecidableEq T] in
theorem quiet_stateChanged (needed : T → Prop) : Quiet needed [.stateChanged] :=
  ⟨by simp, by simp⟩

omit [DecidableEq T] in
theorem Quiet.append {needed : T → Prop} {front back : List (CollectionEvent T)}
    (hfront : Quiet needed front) (hback : Quiet needed back) :
    Quiet needed (front ++ back) := by
  constructor
  · intro mid transport hmem
    exact (List.mem_append.mp hmem).elim (hfront.silent _ _) (hback.silent _ _)
  · intro transport hneeded hmem
    exact (List.mem_append.mp hmem).elim (hfront.spares _ hneeded) (hback.spares _ hneeded)

theorem events_maybeDestroyJsepTransport (collection : JsepTransportCollection T) (old : T) :
    ∃ extra, (collection.maybeDestroyJsepTransport old).events =
        collection.events ++ extra ∧
      Quiet (fun transport => collection.needed transport = true) extra := by
  rw [maybeDestroyJsepTransport]
  split_ifs with huse hrollback
  · exact ⟨[], (List.append_nil _).symm, quiet_nil _⟩
  · exact ⟨_, rfl, quiet_stateChanged _⟩
  · split
    · refine ⟨[.destroyed old, .stateChanged], by simp [emit], by simp, ?_⟩
      intro transport hneeded hmem
      have hold : transport = old := by simpa using hmem
      rw [hold, needed, Bool.or_eq_true] at hneeded
      exact hneeded.elim huse hrollback
    · exact ⟨[], (List.append_nil _).symm, quiet_nil _⟩

theorem events_destroyUnusedTransports (collection : JsepTransportCollection T) :
    ∃ extra, collection.destroyUnusedTransports.events = collection.events ++ extra ∧
      Quiet (fun transport => collection.needed transport = true) extra := by
  have hunused : Quiet (fun transport => collection.needed transport = true)
      ((collection.jsepTransportsByName.toList.filter (!collection.needed ·.2)).map
        (.destroyed ·.2)) := by
    constructor
    · intro mid transport hmem
      obtain ⟨entry, -, hentry⟩ := List.mem_map.mp hmem
      exact absurd hentry (by simp)
    · intro transport hneeded hmem
      obtain ⟨entry, hfilter, hentry⟩ := List.mem_map.mp hmem
      have hnot := (List.mem_filter.mp hfilter).2
      obtain rfl := CollectionEvent.destroyed.inj hentry
      rw [hneeded] at hnot
      exact absurd hnot (by simp)
  rw [destroyUnusedTransports]
  split_ifs
  · exact ⟨_, rfl, hunused⟩
  · refine ⟨_, ?_, hunused.append (quiet_stateChanged _)⟩
    simp [emit]

/-- A new mapping is announced, unless it is the old one. -/
theorem events_setTransportForMid (callback : Bytes → Option T → Bool)
    (collection : JsepTransportCollection T) (mid : Bytes) (transport : T) :
    let after := (setTransportForMid callback collection mid transport).1
    (collection.getTransportForMid mid = some transport ∧ after = collection) ∨
      ∃ extra, after.events =
          collection.events ++ .mapChanged mid (some transport) :: extra ∧
        Quiet (fun each => after.needed each = true) extra := by
  rw [setTransportForMid]
  cases hold : collection.midToTransport[mid]? with
  | none => exact Or.inr ⟨[], rfl, quiet_nil _⟩
  | some old =>
      by_cases hsame : old = transport
      · simp only [if_pos hsame]
        exact Or.inl ⟨hsame ▸ hold, trivial⟩
      · simp only [if_neg hsame]
        obtain ⟨extra, hextra, hquiet⟩ := events_maybeDestroyJsepTransport
          { collection.emit (.mapChanged mid (some transport)) with
            midToTransport :=
              (collection.emit (.mapChanged mid (some transport))).midToTransport.insert
                mid transport } old
        refine Or.inr ⟨extra, ?_, ?_⟩
        · rw [hextra]
          simp [emit]
        · simpa only [needed_maybeDestroyJsepTransport] using hquiet

/-- With the assignment of the owner goes what the name has owned. -/
theorem events_registerTransport (callback : Bytes → Option T → Bool)
    (collection : JsepTransportCollection T) (mid : Bytes) (transport : T) :
    let mapped := (setTransportForMid callback collection mid transport).1
    ∃ extra, (registerTransport callback collection mid transport).events =
        mapped.events ++ extra ∧
      Quiet (fun each => mapped.getTransportByName mid ≠ some each) extra := by
  intro mapped
  rw [registerTransport]
  cases howner : mapped.jsepTransportsByName[mid]? with
  | none =>
      exact ⟨[], (List.append_nil _).symm, quiet_nil _⟩
  | some replaced =>
      simp only
      split_ifs
      · exact ⟨[], (List.append_nil _).symm, quiet_nil _⟩
      · refine ⟨[.destroyed replaced], rfl, by simp, ?_⟩
        intro each hother hmem
        apply hother
        rw [List.mem_singleton.mp hmem |> CollectionEvent.destroyed.inj]
        exact howner

theorem events_removeTransportForMid (collection : JsepTransportCollection T) (mid : Bytes) :
    ∃ extra, (collection.removeTransportForMid mid).events =
        collection.events ++ .mapChanged mid none :: extra ∧
      Quiet (fun each => (collection.removeTransportForMid mid).needed each = true) extra := by
  rw [removeTransportForMid]
  cases hold : (collection.emit (.mapChanged mid none)).getTransportForMid mid with
  | none => exact ⟨[], rfl, quiet_nil _⟩
  | some old =>
      obtain ⟨extra, hextra, hquiet⟩ := events_maybeDestroyJsepTransport
        { collection.emit (.mapChanged mid none) with
          midToTransport :=
            (collection.emit (.mapChanged mid none)).midToTransport.erase mid } old
      refine ⟨extra, ?_, ?_⟩
      · rw [hextra]
        simp [emit]
      · simpa only [needed_maybeDestroyJsepTransport] using hquiet

theorem events_commitTransports (collection : JsepTransportCollection T) :
    ∃ extra, collection.commitTransports.events = collection.events ++ extra ∧
      Quiet (fun each => collection.commitTransports.needed each = true) extra := by
  obtain ⟨extra, hextra, hquiet⟩ := events_destroyUnusedTransports
    { collection with stableMidToTransport := collection.midToTransport }
  refine ⟨extra, hextra, ?_⟩
  simpa only [commitTransports, needed_destroyUnusedTransports] using hquiet

theorem events_rollbackTransports (callback : Bytes → Option T → Bool)
    (collection : JsepTransportCollection T) :
    ∃ extra, (rollbackTransports callback collection).1.events =
        collection.events ++ changeEvents (announced callback collection.changes) ++ extra ∧
      Quiet (fun each => (rollbackTransports callback collection).1.needed each = true)
        extra := by
  rw [rollbackTransports_eq]
  obtain ⟨extra, hextra, hquiet⟩ := events_destroyUnusedTransports
    ({ collection with
      midToTransport := collection.stableMidToTransport
      events := collection.events ++
        changeEvents (announced callback collection.changes) }.emit .stateChanged)
  refine ⟨.stateChanged :: extra, ?_, ?_⟩
  · rw [hextra]
    simp [emit]
  · simp only [needed_destroyUnusedTransports]
    exact (quiet_stateChanged _).append hquiet

end JsepTransportCollection

end PeerConnection.Transport
