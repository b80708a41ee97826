import PeerConnection.Transport.CollectionEvents
import PeerConnection.Transport.CollectionOwnership

/-!
# What the subscribers know

A rollback announces the changed sections one after the other and stops at the first
callback that returns false, although it goes on to restore all of them.  A subscriber then
still holds the transport it was told last.  The callback of the transport controller never
returns anything else.
-/

namespace PeerConnection.Transport

open PeerConnection.Text
open PeerConnection.Runs
open JsepTransportCollection
open Std

variable {T : Type*} [DecidableEq T]

/-- `transport_controller::OnTransportChanged`, whose body is commented out. -/
def onTransportChanged (_mid : Bytes) (_transport : Option T) : Bool := false

/-! ## One rollback -/

omit [DecidableEq T] in
theorem announced_prefix_of_changes (callback : Bytes → Option T → Bool)
    (changes : List (Bytes × Option T)) : announced callback changes <+: changes := by
  induction changes with
  | nil => exact List.prefix_rfl
  | cons change changes ih =>
      rw [announced]
      split_ifs
      · exact (List.prefix_cons_inj change).mpr ih
      · exact (List.prefix_cons_inj change).mpr (List.nil_prefix)

/-- The callback lets the announcements go on to the last. -/
def AnswersAll (callback : Bytes → Option T → Bool) (changes : List (Bytes × Option T)) :
    Prop :=
  ∀ change ∈ changes.dropLast, callback change.1 change.2 = true

omit [DecidableEq T] in
theorem announced_eq_iff (callback : Bytes → Option T → Bool)
    (changes : List (Bytes × Option T)) :
    announced callback changes = changes ↔ AnswersAll callback changes := by
  induction changes with
  | nil => simp [announced, AnswersAll]
  | cons change changes ih =>
      rw [announced, List.cons_inj_right]
      cases changes with
      | nil => simp [announced, AnswersAll]
      | cons next changes =>
          have hcons : AnswersAll callback (change :: next :: changes) ↔
              callback change.1 change.2 = true ∧
                AnswersAll callback (next :: changes) := by
            simp [AnswersAll]
          rw [hcons, ← ih]
          split_ifs with hanswer
          · simp [hanswer]
          · simp [hanswer]

omit [DecidableEq T] in
theorem mem_newMids_iff (collection : JsepTransportCollection T) (mid : Bytes)
    (transport : Option T) :
    (mid, transport) ∈ collection.newMids ↔
      transport = none ∧ collection.stableTransportForMid mid = none ∧
        collection.getTransportForMid mid ≠ none := by
  simp only [newMids, List.mem_map, List.mem_filter, Prod.exists, Prod.mk.injEq,
    TreeMap.mem_toList_iff_getElem?_eq_some, Bool.not_eq_true', TreeMap.contains_eq_isSome_getElem?,
    Option.isSome_eq_false_iff, Option.isNone_iff_eq_none]
  constructor
  · rintro ⟨other, current, ⟨hcurrent, hstable⟩, rfl, rfl⟩
    refine ⟨rfl, hstable, ?_⟩
    rw [getTransportForMid, hcurrent]
    exact Option.some_ne_none current
  · rintro ⟨rfl, hstable, hmapped⟩
    obtain ⟨current, hcurrent⟩ := Option.ne_none_iff_exists'.mp hmapped
    exact ⟨mid, current, ⟨hcurrent, hstable⟩, rfl, rfl⟩

theorem mem_oldMappings_iff (collection : JsepTransportCollection T) (mid : Bytes)
    (transport : Option T) :
    (mid, transport) ∈ collection.oldMappings ↔
      transport ≠ none ∧ transport = collection.stableTransportForMid mid ∧
        collection.getTransportForMid mid ≠ transport := by
  simp only [oldMappings, List.mem_map, List.mem_filter, Prod.exists, Prod.mk.injEq,
    TreeMap.mem_toList_iff_getElem?_eq_some, decide_eq_true_eq]
  constructor
  · rintro ⟨other, stable, ⟨hstable, hcurrent⟩, rfl, rfl⟩
    exact ⟨Option.some_ne_none stable, hstable.symm, hcurrent⟩
  · rintro ⟨hsome, hstable, hcurrent⟩
    obtain ⟨stable, rfl⟩ := Option.ne_none_iff_exists'.mp hsome
    exact ⟨mid, stable, ⟨hstable.symm, hcurrent⟩, rfl, rfl⟩

/-- The changes of a rollback are the sections that are not as they were. -/
theorem mem_changes_iff (collection : JsepTransportCollection T) (mid : Bytes)
    (transport : Option T) :
    (mid, transport) ∈ collection.changes ↔
      collection.getTransportForMid mid ≠ collection.stableTransportForMid mid ∧
        transport = collection.stableTransportForMid mid := by
  rw [changes, List.mem_append, mem_newMids_iff, mem_oldMappings_iff]
  constructor
  · rintro (⟨rfl, hstable, hmapped⟩ | ⟨-, rfl, hmapped⟩)
    · exact ⟨hstable ▸ hmapped, hstable.symm⟩
    · exact ⟨hmapped, rfl⟩
  · rintro ⟨hmapped, rfl⟩
    cases hstable : collection.stableTransportForMid mid with
    | none => exact Or.inl ⟨rfl, rfl, hstable ▸ hmapped⟩
    | some stable => exact Or.inr ⟨Option.some_ne_none stable, rfl, hstable ▸ hmapped⟩

omit [DecidableEq T] in
theorem pairwise_toList (map : TreeMap Bytes T) :
    map.toList.Pairwise fun entry other => entry.1 ≠ other.1 :=
  TreeMap.distinct_keys_toList.imp ReflCmp.ne_of_cmp_ne_eq

/-- No section is changed twice. -/
theorem pairwise_changes (collection : JsepTransportCollection T) :
    collection.changes.Pairwise fun change other => change.1 ≠ other.1 := by
  rw [changes, List.pairwise_append]
  refine ⟨?_, ?_, ?_⟩
  · exact List.pairwise_map.mpr ((pairwise_toList _).sublist List.filter_sublist)
  · exact List.pairwise_map.mpr ((pairwise_toList _).sublist List.filter_sublist)
  · rintro ⟨mid, removed⟩ hnew ⟨other, restored⟩ hold hsame
    obtain ⟨-, hnone, -⟩ := (mem_newMids_iff _ _ _).mp hnew
    obtain ⟨hsome, hstable, -⟩ := (mem_oldMappings_iff _ _ _).mp hold
    have hmid : mid = other := hsame
    rw [hmid] at hnone
    exact hsome (hstable.trans hnone)

theorem nodup_changes (collection : JsepTransportCollection T) : collection.changes.Nodup :=
  (pairwise_changes collection).imp fun hkeys hsame => hkeys (congrArg Prod.fst hsame)

theorem announced_eq_of_subset {callback : Bytes → Option T → Bool}
    {collection : JsepTransportCollection T}
    (hsubset : collection.changes ⊆ announced callback collection.changes) :
    announced callback collection.changes = collection.changes := by
  have hprefix := announced_prefix_of_changes callback collection.changes
  apply hprefix.eq_of_length
  exact Nat.le_antisymm hprefix.length_le
    ((nodup_changes collection).subperm hsubset).length_le

/-- Each section that changes is announced once, with what it is mapped to afterwards, and
before anything is destroyed. -/
def AnnouncesOnce (callback : Bytes → Option T → Bool) (collection : JsepTransportCollection T) :
    Prop :=
  ∃ announcements rest,
    (rollbackTransports callback collection).1.events =
        collection.events ++ announcements ++ rest ∧
      (∀ transport, CollectionEvent.destroyed transport ∉ announcements) ∧
      (∀ mid transport, CollectionEvent.mapChanged mid transport ∉ rest) ∧
      ∀ mid transport, announcements.count (.mapChanged mid transport) =
        if collection.getTransportForMid mid ≠ collection.stableTransportForMid mid ∧
          transport = collection.stableTransportForMid mid then 1 else 0

theorem count_changeEvents (changes : List (Bytes × Option T)) (mid : Bytes)
    (transport : Option T) :
    (changeEvents changes).count (.mapChanged mid transport) =
      changes.count (mid, transport) := by
  have hinjective : Function.Injective
      fun change : Bytes × Option T => CollectionEvent.mapChanged change.1 change.2 := by
    intro change other hsame
    exact Prod.ext (CollectionEvent.mapChanged.inj hsame).1
      (CollectionEvent.mapChanged.inj hsame).2
  exact List.count_map_of_injective changes _ hinjective (mid, transport)

omit [DecidableEq T] in
theorem destroyed_notMem_changeEvents (changes : List (Bytes × Option T)) (transport : T) :
    CollectionEvent.destroyed transport ∉ changeEvents changes := by
  simp [changeEvents]

theorem count_changes (collection : JsepTransportCollection T) (mid : Bytes)
    (transport : Option T) :
    collection.changes.count (mid, transport) =
      if collection.getTransportForMid mid ≠ collection.stableTransportForMid mid ∧
        transport = collection.stableTransportForMid mid then 1 else 0 := by
  rw [(nodup_changes collection).count]
  simp only [mem_changes_iff]

/-- Split off what is announced. -/
theorem announcements_unique {announcements other rest otherRest : List (CollectionEvent T)}
    (hsplit : announcements ++ rest = other ++ otherRest)
    (hsilent : ∀ mid transport, CollectionEvent.mapChanged mid transport ∉ rest)
    (hotherSilent : ∀ mid transport, CollectionEvent.mapChanged mid transport ∉ otherRest)
    (mid : Bytes) (transport : Option T) :
    announcements.count (.mapChanged mid transport) =
      other.count (.mapChanged mid transport) := by
  have hcount := congrArg (List.count (.mapChanged mid transport)) hsplit
  rwa [List.count_append, List.count_append, List.count_eq_zero_of_not_mem (hsilent _ _),
    List.count_eq_zero_of_not_mem (hotherSilent _ _), add_zero, add_zero] at hcount

/-- A rollback announces everything exactly when no callback but the last returns false. -/
theorem announcesOnce_iff (callback : Bytes → Option T → Bool)
    (collection : JsepTransportCollection T) :
    AnnouncesOnce callback collection ↔ AnswersAll callback collection.changes := by
  obtain ⟨extra, hevents, hquiet⟩ := events_rollbackTransports callback collection
  rw [← announced_eq_iff]
  constructor
  · rintro ⟨announcements, rest, hother, -, hsilent, hcounts⟩
    have hsplit : announcements ++ rest =
        changeEvents (announced callback collection.changes) ++ extra := by
      rw [hevents, List.append_assoc, List.append_assoc] at hother
      exact (List.append_cancel_left hother).symm
    apply announced_eq_of_subset
    rintro ⟨mid, transport⟩ hmem
    rw [← List.one_le_count_iff] at hmem ⊢
    rw [← count_changeEvents, ← announcements_unique hsplit hsilent hquiet.silent, hcounts,
      ← count_changes]
    exact hmem
  · intro hall
    rw [hall] at hevents
    refine ⟨_, extra, hevents, destroyed_notMem_changeEvents _, hquiet.silent, ?_⟩
    intro mid transport
    rw [count_changeEvents, count_changes]

/-! ## The last announcement -/

/-- The transport that the subscriber holds for the section after the event. -/
def hear (mid : Bytes) (known : Option T) : CollectionEvent T → Option T
  | .mapChanged other transport => if other = mid then transport else known
  | .stateChanged | .destroyed _ => known

/-- The transport notified last for the section. -/
def lastNotified (mid : Bytes) (events : List (CollectionEvent T)) : Option T :=
  events.foldl (hear mid) none

omit [DecidableEq T] in
theorem foldl_hear_silent {extra : List (CollectionEvent T)}
    (hsilent : ∀ mid transport, CollectionEvent.mapChanged mid transport ∉ extra)
    (mid : Bytes) (known : Option T) : extra.foldl (hear mid) known = known := by
  induction extra with
  | nil => rfl
  | cons event extra ih =>
      rw [List.foldl_cons]
      have hrest := ih fun other transport hmem =>
        hsilent other transport (List.mem_cons_of_mem _ hmem)
      cases event with
      | mapChanged other transport => exact absurd List.mem_cons_self (hsilent other transport)
      | stateChanged => exact hrest
      | destroyed transport => exact hrest

omit [DecidableEq T] in
theorem foldl_hear_other {changes : List (Bytes × Option T)} {mid : Bytes}
    (hother : ∀ change ∈ changes, change.1 ≠ mid) (known : Option T) :
    (changeEvents changes).foldl (hear mid) known = known := by
  induction changes with
  | nil => rfl
  | cons change changes ih =>
      have hfirst : change.1 ≠ mid := hother change List.mem_cons_self
      have hrest := ih fun other hmem => hother other (List.mem_cons_of_mem _ hmem)
      simpa [changeEvents, hear, hfirst] using hrest

omit [DecidableEq T] in
theorem foldl_hear_mem {changes : List (Bytes × Option T)}
    (hkeys : changes.Pairwise fun change other => change.1 ≠ other.1) {mid : Bytes}
    {transport : Option T} (hmem : (mid, transport) ∈ changes) (known : Option T) :
    (changeEvents changes).foldl (hear mid) known = transport := by
  obtain ⟨front, back, rfl⟩ := List.append_of_mem hmem
  have hback : ∀ change ∈ back, change.1 ≠ mid := by
    intro change hchange
    exact (List.rel_of_pairwise_cons (List.pairwise_append.mp hkeys).2.1 hchange).symm
  have hrest := foldl_hear_other hback transport
  simpa [changeEvents, hear] using hrest

/-- The transport has been destroyed and not been registered again. -/
def Destroyed (collection : JsepTransportCollection T) (transport : T) : Prop :=
  .destroyed transport ∈ collection.events ∧ collection.owns transport = false

/-- The subscribers hold what the sections are mapped to, and it has not been destroyed. -/
structure Informed (collection : JsepTransportCollection T) : Prop where
  current : ∀ mid, lastNotified mid collection.events = collection.getTransportForMid mid
  alive : ∀ mid transport, lastNotified mid collection.events = some transport →
    ¬ Destroyed collection transport

/-- A call announces the changes and then releases transports that nothing needs. -/
structure Announces (before after : JsepTransportCollection T)
    (changes : List (Bytes × Option T)) : Prop where
  releases : Releases before after
  events : ∃ extra, after.events = before.events ++ changeEvents changes ++ extra ∧
    Quiet (fun each => after.needed each = true) extra

theorem Announces.lastNotified {before after : JsepTransportCollection T}
    {changes : List (Bytes × Option T)} (hannounces : Announces before after changes)
    (mid : Bytes) : lastNotified mid after.events =
      (changeEvents changes).foldl (hear mid) (lastNotified mid before.events) := by
  obtain ⟨extra, hevents, hquiet⟩ := hannounces.events
  rw [Transport.lastNotified, hevents, List.foldl_append, List.foldl_append,
    foldl_hear_silent hquiet.silent, ← Transport.lastNotified]

/-- What is mapped afterwards has not been destroyed by the call. -/
theorem Announces.destroyed_iff {before after : JsepTransportCollection T}
    {changes : List (Bytes × Option T)} (hannounces : Announces before after changes)
    {transport : T} (hneeded : after.needed transport = true) :
    Destroyed after transport ↔ Destroyed before transport := by
  obtain ⟨extra, hevents, hquiet⟩ := hannounces.events
  have howns : after.owns transport = before.owns transport := by
    rw [Bool.eq_iff_iff, owns_iff, owns_iff]
    constructor
    · rintro ⟨name, howner⟩
      exact ⟨name, hannounces.releases.owned name transport howner⟩
    · rintro ⟨name, howner⟩
      exact ⟨name, hannounces.releases.kept name transport howner hneeded⟩
  have hmem : CollectionEvent.destroyed transport ∈ after.events ↔
      CollectionEvent.destroyed transport ∈ before.events := by
    rw [hevents, List.mem_append, List.mem_append]
    have hspared := hquiet.spares transport hneeded
    have hchanges := destroyed_notMem_changeEvents changes transport
    tauto
  rw [Destroyed, Destroyed, howns, hmem]

theorem needed_of_mapped {collection : JsepTransportCollection T} {mid : Bytes}
    {transport : T} (hmid : collection.getTransportForMid mid = some transport) :
    collection.needed transport = true :=
  (needed_iff _ _).mpr (Or.inl ⟨mid, hmid⟩)

theorem Informed.not_destroyed {collection : JsepTransportCollection T}
    (hinformed : Informed collection) {mid : Bytes} {transport : T}
    (hmid : collection.getTransportForMid mid = some transport) :
    ¬ Destroyed collection transport :=
  hinformed.alive mid transport ((hinformed.current mid).trans hmid)

theorem Announces.informed {before after : JsepTransportCollection T}
    {changes : List (Bytes × Option T)} (hannounces : Announces before after changes)
    (hinformed : Informed before)
    (hcurrent : ∀ mid, (changeEvents changes).foldl (hear mid)
      (before.getTransportForMid mid) = after.getTransportForMid mid)
    (halive : ∀ mid transport, after.getTransportForMid mid = some transport →
      ¬ Destroyed before transport) : Informed after := by
  have hheard : ∀ mid, Transport.lastNotified mid after.events =
      after.getTransportForMid mid := by
    intro mid
    rw [hannounces.lastNotified, hinformed.current, hcurrent]
  refine ⟨hheard, ?_⟩
  intro mid transport hlast
  rw [hheard] at hlast
  rw [hannounces.destroyed_iff (needed_of_mapped hlast)]
  exact halive mid transport hlast

/-! ### The single calls -/

theorem announces_setTransportForMid (callback : Bytes → Option T → Bool)
    {collection : JsepTransportCollection T} (hsole : collection.SoleOwners) (mid : Bytes)
    (transport : T) :
    ∃ changes, Announces collection (setTransportForMid callback collection mid transport).1
        changes ∧
      ∀ other, (changeEvents changes).foldl (hear other) (collection.getTransportForMid other) =
        (setTransportForMid callback collection mid transport).1.getTransportForMid other := by
  have hreleases := releases_setTransportForMid callback hsole mid transport
  rcases events_setTransportForMid callback collection mid transport with
    ⟨-, hsame⟩ | ⟨extra, hevents, hquiet⟩
  · refine ⟨[], ⟨hreleases, [], ?_, quiet_nil _⟩, ?_⟩
    · simp [hsame, changeEvents]
    · intro other
      rw [hsame]
      rfl
  · refine ⟨[(mid, some transport)], ⟨hreleases, extra, ?_, hquiet⟩, ?_⟩
    · rw [hevents]
      simp [changeEvents]
    · intro other
      rw [getTransportForMid_setTransportForMid]
      rfl

theorem announces_removeTransportForMid {collection : JsepTransportCollection T}
    (hsole : collection.SoleOwners) (mid : Bytes) :
    Announces collection (collection.removeTransportForMid mid) [(mid, none)] := by
  obtain ⟨extra, hevents, hquiet⟩ := events_removeTransportForMid collection mid
  refine ⟨releases_removeTransportForMid hsole mid, extra, ?_, hquiet⟩
  rw [hevents]
  simp [changeEvents]

theorem announces_commitTransports (collection : JsepTransportCollection T) :
    Announces collection collection.commitTransports [] := by
  obtain ⟨extra, hevents, hquiet⟩ := events_commitTransports collection
  refine ⟨releases_commitTransports collection, extra, ?_, hquiet⟩
  rw [hevents]
  simp [changeEvents]

theorem announces_rollbackTransports (callback : Bytes → Option T → Bool)
    (collection : JsepTransportCollection T) :
    Announces collection (rollbackTransports callback collection).1
      (announced callback collection.changes) :=
  ⟨releases_rollbackTransports callback collection,
    events_rollbackTransports callback collection⟩

/-! ## Runs -/

def NotDestroyAll (_collection : JsepTransportCollection T) (answered : AnsweredCall T) :
    Prop :=
  answered.call ≠ .destroyAllTransports

instance (collection : JsepTransportCollection T) (answered : AnsweredCall T) :
    Decidable (NotDestroyAll collection answered) :=
  inferInstanceAs (Decidable (answered.call ≠ .destroyAllTransports))

def subscriberStep : System (JsepTransportCollection T) (AnsweredCall T) Empty :=
  restrict collectionStep NotDestroyAll

/-- The transport that the name owns is mapped under no other name. -/
def UnsharedOwner (collection : JsepTransportCollection T) (mid : Bytes) : Prop :=
  ∀ replaced, collection.getTransportByName mid = some replaced →
    ∀ other, other ≠ mid → collection.getTransportForMid other ≠ some replaced

/-- A rollback that announces everything and maps nothing to what has been destroyed. -/
def RollsBackInformed (callback : Bytes → Option T → Bool)
    (collection : JsepTransportCollection T) : Prop :=
  AnswersAll callback collection.changes ∧
    ∀ mid transport, collection.stableTransportForMid mid = some transport →
      ¬ Destroyed collection transport

/-- The call keeps the subscribers informed. -/
def KeepsInformed (collection : JsepTransportCollection T) (answered : AnsweredCall T) : Prop :=
  match answered.call with
  | .registerTransport mid transport =>
      collection.owns transport = false → UnsharedOwner collection mid
  | .setTransportForMid _ jsepTransport => ¬ Destroyed collection jsepTransport
  | .rollbackTransports => RollsBackInformed answered.mapChangeCallback collection
  | .removeTransportForMid _ | .commitTransports | .destroyAllTransports => True

theorem subscriberStep_eq_ok_iff {collection next : JsepTransportCollection T}
    {answered : AnsweredCall T} :
    subscriberStep collection answered = some (.ok next) ↔
      NotDestroyAll collection answered ∧ Registrable collection answered ∧
        answered.apply collection = next := by
  rw [subscriberStep, restrict_eq_some_iff, collectionStep_eq_ok_iff]

/-- The invariant of the runs that keep the subscribers informed. -/
structure InformedInv (collection : JsepTransportCollection T) : Prop where
  owned : collection.Owned
  informed : Informed collection

theorem informedInv_empty : InformedInv ({} : JsepTransportCollection T) := by
  refine ⟨owned_empty, ?_, ?_⟩
  · intro mid
    simp [lastNotified, getTransportForMid]
  · intro mid transport hlast
    simp [lastNotified] at hlast

theorem informed_setTransportForMid (callback : Bytes → Option T → Bool)
    {collection : JsepTransportCollection T} (hinv : InformedInv collection) (mid : Bytes)
    {transport : T} (halive : ¬ Destroyed collection transport) :
    Informed (setTransportForMid callback collection mid transport).1 := by
  obtain ⟨changes, hannounces, hcurrent⟩ :=
    announces_setTransportForMid callback hinv.owned.sole mid transport
  apply hannounces.informed hinv.informed hcurrent
  intro other each hmid
  rw [getTransportForMid_setTransportForMid] at hmid
  split_ifs at hmid
  · obtain rfl := Option.some.inj hmid
    exact halive
  · exact hinv.informed.not_destroyed hmid

theorem lastNotified_registerTransport (callback : Bytes → Option T → Bool)
    (collection : JsepTransportCollection T) (mid other : Bytes) (transport : T) :
    lastNotified other (registerTransport callback collection mid transport).events =
      lastNotified other (setTransportForMid callback collection mid transport).1.events := by
  obtain ⟨extra, hevents, hquiet⟩ := events_registerTransport callback collection mid transport
  rw [lastNotified, hevents, List.foldl_append, foldl_hear_silent hquiet.silent, lastNotified]

theorem current_registerTransport (callback : Bytes → Option T → Bool)
    {collection : JsepTransportCollection T} (hinv : InformedInv collection)
    (mid other : Bytes) (transport : T) :
    lastNotified other (registerTransport callback collection mid transport).events =
      (registerTransport callback collection mid transport).getTransportForMid other := by
  obtain ⟨changes, hannounces, hcurrent⟩ :=
    announces_setTransportForMid callback hinv.owned.sole mid transport
  rw [lastNotified_registerTransport, hannounces.lastNotified, hinv.informed.current,
    hcurrent, getTransportForMid_setTransportForMid, getTransportForMid_registerTransport]

theorem informed_registerTransport (callback : Bytes → Option T → Bool)
    {collection : JsepTransportCollection T} (hinv : InformedInv collection) {mid : Bytes}
    (transport : T) (hunshared : UnsharedOwner collection mid) :
    Informed (registerTransport callback collection mid transport) := by
  have hcurrent := fun other => current_registerTransport callback hinv mid other transport
  refine ⟨hcurrent, ?_⟩
  intro other each hlast
  rw [hcurrent, getTransportForMid_registerTransport] at hlast
  rintro ⟨hdestroyed, hgone⟩
  have hnot := (owns_eq_false_iff _ _).mp hgone
  split_ifs at hlast with hother
  · apply hnot mid
    rw [getTransportByName_registerTransport_eq, if_pos rfl, hlast]
  · obtain ⟨changes, hannounces, -⟩ :=
      announces_setTransportForMid callback hinv.owned.sole mid transport
    obtain ⟨extra, hevents, hquiet⟩ :=
      events_registerTransport callback collection mid transport
    -- What the name owned before is not what the other section is mapped to.
    have hspared : (setTransportForMid callback collection mid transport).1.getTransportByName
        mid ≠ some each := by
      intro howner
      exact hunshared each (hannounces.releases.owned mid each howner) other (Ne.symm hother)
        hlast
    rw [hevents, List.mem_append] at hdestroyed
    have hbefore := hdestroyed.resolve_right (hquiet.spares each hspared)
    have hneeded : (setTransportForMid callback collection mid transport).1.needed each =
        true := by
      apply needed_of_mapped
      rw [getTransportForMid_setTransportForMid, if_neg hother]
      exact hlast
    have halive := (hannounces.destroyed_iff hneeded).not.mpr
      (hinv.informed.not_destroyed hlast)
    apply halive
    refine ⟨hbefore, (owns_eq_false_iff _ _).mpr fun name howner => ?_⟩
    apply hnot name
    have hname : mid ≠ name := by
      rintro rfl
      exact hspared howner
    rw [getTransportByName_registerTransport_eq, if_neg hname]
    exact howner

theorem informed_rollbackTransports {callback : Bytes → Option T → Bool}
    {collection : JsepTransportCollection T} (hinv : InformedInv collection)
    (hrolls : RollsBackInformed callback collection) :
    Informed (rollbackTransports callback collection).1 := by
  obtain ⟨hanswers, hstable⟩ := hrolls
  apply (announces_rollbackTransports callback collection).informed hinv.informed
  · intro mid
    rw [(announced_eq_iff callback collection.changes).mpr hanswers]
    have hafter : (rollbackTransports callback collection).1.getTransportForMid mid =
        collection.stableTransportForMid mid := by
      rw [getTransportForMid, midToTransport_rollbackTransports, stableTransportForMid]
    rw [hafter]
    by_cases hsame : collection.getTransportForMid mid = collection.stableTransportForMid mid
    · rw [foldl_hear_other _ _, hsame]
      rintro ⟨other, transport⟩ hmem rfl
      exact ((mem_changes_iff _ _ _).mp hmem).1 hsame
    · exact foldl_hear_mem (pairwise_changes collection)
        ((mem_changes_iff _ _ _).mpr ⟨hsame, rfl⟩) _
  · intro mid transport hmid
    rw [getTransportForMid, midToTransport_rollbackTransports] at hmid
    exact hstable mid transport hmid

theorem InformedInv.step {collection next : JsepTransportCollection T}
    {answered : AnsweredCall T} (hinv : InformedInv collection)
    (hkeeps : KeepsInformed collection answered)
    (hstep : subscriberStep collection answered = some (.ok next)) : InformedInv next := by
  obtain ⟨hallowed, hregistrable, rfl⟩ := subscriberStep_eq_ok_iff.mp hstep
  refine ⟨hinv.owned.step (collectionStep_eq_ok_iff.mpr ⟨hregistrable, rfl⟩), ?_⟩
  obtain ⟨call, callback⟩ := answered
  cases call with
  | registerTransport mid transport =>
      exact informed_registerTransport callback hinv transport (hkeeps hregistrable)
  | setTransportForMid mid transport =>
      exact informed_setTransportForMid callback hinv mid hkeeps
  | removeTransportForMid mid =>
      apply (announces_removeTransportForMid hinv.owned.sole mid).informed hinv.informed
      · intro other
        rw [getTransportForMid_removeTransportForMid]
        rfl
      · intro other transport hmid
        rw [getTransportForMid_removeTransportForMid] at hmid
        split_ifs at hmid
        exact hinv.informed.not_destroyed hmid
  | rollbackTransports => exact informed_rollbackTransports hinv hkeeps
  | commitTransports =>
      have hsame : ∀ mid, collection.commitTransports.getTransportForMid mid =
          collection.getTransportForMid mid := by
        intro mid
        rw [getTransportForMid, midToTransport_commitTransports, getTransportForMid]
      apply (announces_commitTransports collection).informed hinv.informed
      · intro mid
        exact (hsame mid).symm
      · intro mid transport hmid
        rw [hsame] at hmid
        exact hinv.informed.not_destroyed hmid
  | destroyAllTransports => exact absurd rfl hallowed

/-! ### What goes wrong -/

theorem not_informed_registerTransport (callback : Bytes → Option T → Bool)
    {collection : JsepTransportCollection T} (hinv : InformedInv collection) {mid : Bytes}
    {transport : T} (hnew : collection.owns transport = false)
    (hshared : ¬ UnsharedOwner collection mid) :
    ¬ Informed (registerTransport callback collection mid transport) := by
  intro hinformed
  apply hshared
  intro replaced howner other hother hmid
  have hmapped : (registerTransport callback collection mid transport).getTransportForMid
      other = some replaced := by
    rw [getTransportForMid_registerTransport, if_neg hother.symm]
    exact hmid
  apply hinformed.not_destroyed hmapped
  refine ⟨?_, owns_replaced callback hinv.owned.sole hnew howner⟩
  -- The mapping of the other section keeps it alive until the name is assigned to.
  have hkept : (setTransportForMid callback collection mid transport).1.getTransportByName
      mid = some replaced := by
    apply (releases_setTransportForMid callback hinv.owned.sole mid transport).kept _ _ howner
    apply needed_of_mapped
    rw [getTransportForMid_setTransportForMid, if_neg hother.symm]
    exact hmid
  have hne : replaced ≠ transport := by
    rintro rfl
    exact (owns_eq_false_iff _ _).mp hnew mid howner
  rw [getTransportByName] at hkept
  rw [registerTransport, hkept]
  simp [hne, emit]

theorem not_informed_setTransportForMid (callback : Bytes → Option T → Bool)
    {collection : JsepTransportCollection T} (hinv : InformedInv collection) (mid : Bytes)
    {transport : T} (hdestroyed : Destroyed collection transport) :
    ¬ Informed (setTransportForMid callback collection mid transport).1 := by
  intro hinformed
  obtain ⟨changes, hannounces, -⟩ :=
    announces_setTransportForMid callback hinv.owned.sole mid transport
  have hmapped : (setTransportForMid callback collection mid
      transport).1.getTransportForMid mid = some transport := by
    rw [getTransportForMid_setTransportForMid, if_pos rfl]
  apply hinformed.not_destroyed hmapped
  exact (hannounces.destroyed_iff (needed_of_mapped hmapped)).mpr hdestroyed

/-- The section of the first change that is not announced keeps its subscriber. -/
theorem not_informed_of_unannounced {callback : Bytes → Option T → Bool}
    {collection : JsepTransportCollection T} (hinv : InformedInv collection)
    {change : Bytes × Option T} (hchange : change ∈ collection.changes)
    (hunannounced : change ∉ announced callback collection.changes) :
    ¬ Informed (rollbackTransports callback collection).1 := by
  intro hinformed
  obtain ⟨mid, transport⟩ := change
  obtain ⟨hchanged, rfl⟩ := (mem_changes_iff _ _ _).mp hchange
  have hother : ∀ other ∈ announced callback collection.changes, other.1 ≠ mid := by
    rintro ⟨other, restored⟩ hmem rfl
    have hmemChanges := (announced_prefix_of_changes callback collection.changes).subset hmem
    obtain ⟨-, rfl⟩ := (mem_changes_iff _ _ _).mp hmemChanges
    exact hunannounced hmem
  have hlast := (announces_rollbackTransports callback collection).lastNotified mid
  rw [foldl_hear_other hother, hinv.informed.current, hinformed.current, getTransportForMid,
    midToTransport_rollbackTransports] at hlast
  exact hchanged hlast.symm

theorem not_informed_rollbackTransports {callback : Bytes → Option T → Bool}
    {collection : JsepTransportCollection T} (hinv : InformedInv collection)
    (hmisses : ¬ RollsBackInformed callback collection) :
    ¬ Informed (rollbackTransports callback collection).1 := by
  intro hinformed
  apply hmisses
  constructor
  · rw [← announced_eq_iff]
    apply announced_eq_of_subset
    intro change hchange
    by_contra hunannounced
    exact not_informed_of_unannounced hinv hchange hunannounced hinformed
  · intro mid transport hstable hdestroyed
    have hmapped : (rollbackTransports callback collection).1.getTransportForMid mid =
        some transport := by
      rw [getTransportForMid, midToTransport_rollbackTransports]
      exact hstable
    apply hinformed.not_destroyed hmapped
    exact ((announces_rollbackTransports callback collection).destroyed_iff
      (needed_of_mapped hmapped)).mpr hdestroyed

theorem InformedInv.breaks {collection : JsepTransportCollection T}
    {answered : AnsweredCall T} (hinv : InformedInv collection)
    (hkeeps : ¬ KeepsInformed collection answered) :
    ∃ next, subscriberStep collection answered = some (.ok next) ∧ ¬ Informed next := by
  obtain ⟨call, callback⟩ := answered
  cases call with
  | registerTransport mid transport =>
      obtain ⟨hnew, hshared⟩ := Classical.not_imp.mp hkeeps
      exact ⟨_, subscriberStep_eq_ok_iff.mpr ⟨by simp [NotDestroyAll], hnew, rfl⟩,
        not_informed_registerTransport callback hinv hnew hshared⟩
  | setTransportForMid mid transport =>
      exact ⟨_, subscriberStep_eq_ok_iff.mpr ⟨by simp [NotDestroyAll], trivial, rfl⟩,
        not_informed_setTransportForMid callback hinv mid (Classical.not_not.mp hkeeps)⟩
  | rollbackTransports =>
      exact ⟨_, subscriberStep_eq_ok_iff.mpr ⟨by simp [NotDestroyAll], trivial, rfl⟩,
        not_informed_rollbackTransports hinv hkeeps⟩
  | removeTransportForMid mid => exact absurd trivial hkeeps
  | commitTransports => exact absurd trivial hkeeps
  | destroyAllTransports => exact absurd trivial hkeeps

/-- A rollback announces all changes exactly when no callback but the last returns false,
whatever the maps hold.  Over a run the subscribers stay informed exactly when the rollbacks
do so and no section is mapped to what has been destroyed. -/
theorem subscribers_informed_iff (events : List (AnsweredCall T)) :
    (∀ (collection : JsepTransportCollection T) callback,
        AnnouncesOnce callback collection ↔ AnswersAll callback collection.changes) ∧
      (Throughout subscriberStep Informed {} events ↔
        Guarded subscriberStep KeepsInformed {} events) :=
  ⟨fun collection callback => announcesOnce_iff callback collection,
    guarded_iff_throughout (fun _ _ _ => InformedInv.step) (fun _ => InformedInv.informed)
      (fun _ _ => InformedInv.breaks) informedInv_empty events⟩

/-- Two new sections are rolled back, and only one of them is announced. -/
theorem rollback_announces_first :
    ∃ (events : List (AnsweredCall ℕ)) (collection : JsepTransportCollection ℕ),
      run subscriberStep {} events = some (.ok collection) ∧
        collection.getTransportForMid (ascii "video") = none ∧
        lastNotified (ascii "video") collection.events = some 1 ∧
        Destroyed collection 1 := by
  have hreaches : reaches
      (fun collection : JsepTransportCollection ℕ =>
        collection.getTransportForMid (ascii "video") = none &&
          lastNotified (ascii "video") collection.events = some 1 &&
          (.destroyed 1 ∈ collection.events && collection.owns 1 = false))
      (run subscriberStep {}
        [⟨.registerTransport (ascii "audio") 0, onTransportChanged⟩,
          ⟨.registerTransport (ascii "video") 1, onTransportChanged⟩,
          ⟨.rollbackTransports, onTransportChanged⟩]) = true := by
    decide +kernel
  obtain ⟨collection, hrun, hcheck⟩ := exists_of_reaches _ hreaches
  simp only [Bool.and_eq_true, decide_eq_true_eq] at hcheck
  exact ⟨_, collection, hrun, hcheck.1.1, hcheck.1.2, hcheck.2⟩

end PeerConnection.Transport
