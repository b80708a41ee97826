import PeerConnection.Core.Scan

/-!
# Loops described by what they have read

The state of a loop is often a function of the elements that it has read so far.  Such a loop
is decided by which elements pass after which prefix: a loop that fails on the first element
that does not pass succeeds exactly when all of them do, and a loop that is left early is left
in the state that the elements before the exit determine.
-/

namespace PeerConnection.Prefixes

open PeerConnection.Scan

variable {α κ σ φ : Type*}

/-- Every element passes after the elements before it. -/
def AllPass (passes : List α → α → Prop) (items : List α) : Prop :=
  ∀ front item back, items = front ++ item :: back → passes front item

theorem allPass_nil (passes : List α → α → Prop) : AllPass passes [] := by
  intro front item back hitems
  simp at hitems

theorem allPass_concat_iff {passes : List α → α → Prop} {items : List α} {last : α} :
    AllPass passes (items ++ [last]) ↔ AllPass passes items ∧ passes items last := by
  constructor
  · intro hall
    refine ⟨fun front item back hitems => ?_, hall items last [] rfl⟩
    apply hall front item (back ++ [last])
    rw [hitems, List.append_assoc, List.cons_append]
  · rintro ⟨hall, hlast⟩ front item back hitems
    rcases List.eq_nil_or_concat back with rfl | ⟨rest, other, rfl⟩
    · obtain ⟨rfl, hsame⟩ := List.append_inj' hitems rfl
      obtain rfl := List.head_eq_of_cons_eq hsame
      exact hlast
    · rw [List.concat_eq_append, ← List.cons_append, ← List.append_assoc] at hitems
      exact hall front item rest (List.append_inj' hitems rfl).1

/-- A condition that does not look at the elements before. -/
theorem allPass_const_iff {passes : α → Prop} {items : List α} :
    AllPass (fun _ => passes) items ↔ ∀ item ∈ items, passes item := by
  constructor
  · intro hall item hitem
    obtain ⟨front, back, hitems⟩ := List.append_of_mem hitem
    exact hall front item back hitems
  · intro hall front item back hitems
    exact hall item (by simp [hitems])

theorem allPass_and_iff {passes others : List α → α → Prop} {items : List α} :
    AllPass (fun front item => passes front item ∧ others front item) items ↔
      AllPass passes items ∧ AllPass others items :=
  ⟨fun hall => ⟨fun front item back hitems => (hall front item back hitems).1,
    fun front item back hitems => (hall front item back hitems).2⟩,
    fun hall front item back hitems =>
      ⟨hall.1 front item back hitems, hall.2 front item back hitems⟩⟩

/-- A key that is new whenever it comes up comes up once. -/
theorem allPass_fresh_iff {key : α → κ} {items : List α} :
    AllPass (fun front item => key item ∉ front.map key) items ↔ (items.map key).Nodup := by
  induction items using List.reverseRecOn with
  | nil => simp [allPass_nil]
  | append_singleton items last ih =>
      rw [allPass_concat_iff, ih, List.map_append, List.map_singleton, List.nodup_append]
      constructor
      · rintro ⟨hnodup, hfresh⟩
        refine ⟨hnodup, List.nodup_singleton _, ?_⟩
        intro value hvalue other hother hsame
        rw [List.mem_singleton.mp hother] at hsame
        exact hfresh (hsame ▸ hvalue)
      · rintro ⟨hnodup, -, hapart⟩
        exact ⟨hnodup, fun hmem => hapart _ hmem _ (List.mem_singleton_self _) rfl⟩

/-- A loop that fails at the first element that does not pass. -/
theorem foldlM_eq_some_iff {body : σ → α → Option σ} {after : List α → σ}
    {passes : List α → α → Prop}
    (hpass : ∀ front item, passes front item →
      body (after front) item = some (after (front ++ [item])))
    (hreject : ∀ front item, ¬ passes front item → body (after front) item = none)
    {items : List α} {final : σ} :
    items.foldlM body (after []) = some final ↔
      AllPass passes items ∧ final = after items := by
  induction items using List.reverseRecOn generalizing final with
  | nil =>
      rw [List.foldlM_nil]
      constructor
      · intro hfinal
        exact ⟨allPass_nil _, (Option.some.inj hfinal).symm⟩
      · rintro ⟨-, rfl⟩
        rfl
  | append_singleton items last ih =>
      rw [List.foldlM_append, Option.bind_eq_bind, Option.bind_eq_some_iff, allPass_concat_iff]
      constructor
      · rintro ⟨middle, hmiddle, hlast⟩
        obtain ⟨hall, rfl⟩ := ih.mp hmiddle
        rw [List.foldlM_cons] at hlast
        by_cases hpasses : passes items last
        · rw [hpass items last hpasses] at hlast
          exact ⟨⟨hall, hpasses⟩, (Option.some.inj hlast).symm⟩
        · rw [hreject items last hpasses] at hlast
          exact absurd hlast (by simp)
      · rintro ⟨⟨hall, hpasses⟩, rfl⟩
        refine ⟨after items, ih.mpr ⟨hall, rfl⟩, ?_⟩
        rw [List.foldlM_cons, hpass items last hpasses]
        rfl

/-- What one pass keeps of what has been read holds when the loop has run through, or holds
where it is left. -/
theorem scan_cases {body : σ → α → Outcome φ σ} {Inv : List α → σ → Prop} {init : σ}
    (hinit : Inv [] init)
    (hnext : ∀ front item state next, Inv front state → body state item = .next next →
      Inv (front ++ [item]) next)
    (items : List α) :
    (∃ final, scan body init items = .next final ∧ Inv items final) ∨
      ∃ front item back state, items = front ++ item :: back ∧ Inv front state ∧
        scan body init items = body state item ∧ ∀ next, body state item ≠ .next next := by
  suffices hgeneral : ∀ front state, Inv front state →
      (∃ final, scan body state items = .next final ∧ Inv (front ++ items) final) ∨
        ∃ middle item back left, items = middle ++ item :: back ∧ Inv (front ++ middle) left ∧
          scan body state items = body left item ∧ ∀ next, body left item ≠ .next next by
    simpa using hgeneral [] init hinit
  clear hinit
  induction items with
  | nil =>
      intro front state hinv
      exact Or.inl ⟨state, rfl, by simpa using hinv⟩
  | cons item items ih =>
      intro front state hinv
      cases hbody : body state item with
      | next next =>
          have hrest := ih (front ++ [item]) next (hnext front item state next hinv hbody)
          rw [scan, hbody, Outcome.andThen_next]
          rcases hrest with ⟨final, hscan, hfinal⟩ |
            ⟨middle, other, back, left, hsplit, hleft, hexit⟩
          · exact Or.inl ⟨final, hscan, by simpa using hfinal⟩
          · refine Or.inr ⟨item :: middle, other, back, left, ?_, by simpa using hleft, hexit⟩
            rw [hsplit, List.cons_append]
      | stop left =>
          refine Or.inr ⟨[], item, items, state, rfl, by simpa using hinv, ?_, by simp [hbody]⟩
          rw [scan, hbody, Outcome.andThen_stop]
      | fault reason =>
          refine Or.inr ⟨[], item, items, state, rfl, by simpa using hinv, ?_, by simp [hbody]⟩
          rw [scan, hbody, Outcome.andThen_fault]

end PeerConnection.Prefixes
