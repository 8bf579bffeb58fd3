import Mathlib.Data.List.Induction

/-!
# Last writes

A register that every event overwrites or leaves alone holds, after any run, what the last
write has put there. `lastOf` names that write on the list of events alone.
-/

namespace DeviceSettings.Std

variable {α β σ : Type}

/-- What `pick` makes of the last event that it concerns. -/
def lastOf (pick : α → Option β) (events : List α) : Option β :=
  (events.filterMap pick).getLast?

@[simp] theorem lastOf_nil (pick : α → Option β) : lastOf pick [] = none := rfl

theorem lastOf_snoc (pick : α → Option β) (events : List α) (event : α) :
    lastOf pick (events ++ [event]) = (pick event).or (lastOf pick events) := by
  unfold lastOf
  rw [List.filterMap_append, List.getLast?_append]
  cases picked : pick event <;> simp [picked]

theorem lastOf_cons (pick : α → Option β) (event : α) (events : List α) :
    lastOf pick (event :: events) = (lastOf pick events).or (pick event) := by
  induction events using List.reverseRecOn with
  | nil => rw [← List.nil_append [event], lastOf_snoc, lastOf_nil, Option.or_none, Option.none_or]
  | append_singleton events last ih =>
      rw [← List.cons_append, lastOf_snoc, lastOf_snoc, ih, Option.or_assoc]

theorem lastOf_append (pick : α → Option β) (earlier later : List α) :
    lastOf pick (earlier ++ later) = (lastOf pick later).or (lastOf pick earlier) := by
  unfold lastOf
  rw [List.filterMap_append, List.getLast?_append]

theorem lastOf_eq_none {pick : α → Option β} {events : List α}
    (nothing : ∀ event ∈ events, pick event = none) : lastOf pick events = none := by
  unfold lastOf
  rw [List.filterMap_eq_nil_iff.mpr nothing, List.getLast?_nil]

theorem lastOf_map {γ : Type} (pick : α → Option β) (convert : β → γ) (events : List α) :
    lastOf (fun event => (pick event).map convert) events =
      (lastOf pick events).map convert := by
  induction events using List.reverseRecOn with
  | nil => rfl
  | append_singleton events event ih =>
      rw [lastOf_snoc, lastOf_snoc, ih]
      cases pick event <;> rfl

/-- An event may stand for several. -/
theorem lastOf_flatMap {γ : Type} (pick : β → Option γ) (expand : α → List β) (events : List α) :
    lastOf pick (events.flatMap expand) =
      lastOf (fun event => lastOf pick (expand event)) events := by
  induction events using List.reverseRecOn with
  | nil => rfl
  | append_singleton events event ih =>
      rw [List.flatMap_append, List.flatMap_singleton, lastOf_append, ih, lastOf_snoc]

theorem lastOf_congr {pick other : α → Option β} {events : List α}
    (same : ∀ event ∈ events, pick event = other event) :
    lastOf pick events = lastOf other events := by
  induction events using List.reverseRecOn with
  | nil => rfl
  | append_singleton events event ih =>
      rw [lastOf_snoc, lastOf_snoc, same event (by simp),
        ih fun earlier member => same earlier (List.mem_append_left _ member)]

/-- The last write and what follows it. -/
theorem lastOf_eq_some_iff {pick : α → Option β} {events : List α} {value : β} :
    lastOf pick events = some value ↔
      ∃ earlier event later, events = earlier ++ event :: later ∧ pick event = some value ∧
        ∀ other ∈ later, pick other = none := by
  induction events using List.reverseRecOn with
  | nil => simp
  | append_singleton events last ih =>
      rw [lastOf_snoc]
      constructor
      · intro found
        cases picked : pick last with
        | some here =>
            rw [picked, Option.some_or, Option.some.injEq] at found
            exact ⟨events, last, [], rfl, by rw [picked, found], by simp⟩
        | none =>
            rw [picked, Option.none_or] at found
            obtain ⟨earlier, event, later, rfl, chosen, rest⟩ := ih.mp found
            refine ⟨earlier, event, later ++ [last], by simp, chosen, fun other member => ?_⟩
            rcases List.mem_append.mp member with before | final
            · exact rest other before
            · rw [List.mem_singleton.mp final]
              exact picked
      · rintro ⟨earlier, event, later, split, chosen, rest⟩
        rcases List.eq_nil_or_concat later with rfl | ⟨front, final, rfl⟩
        · obtain ⟨-, same⟩ := List.append_inj' split rfl
          rw [(List.cons.inj same).1, chosen, Option.some_or]
        · rw [List.concat_eq_append, ← List.cons_append, ← List.append_assoc] at split
          obtain ⟨same, ends⟩ := List.append_inj' split rfl
          rw [(List.cons.inj ends).1, rest final (by simp), Option.none_or]
          exact ih.mpr ⟨earlier, event, front, same, chosen, fun other member =>
            rest other (by simp [member])⟩

/-- A value that was picked at all is picked by one of the events. -/
theorem exists_of_lastOf {pick : α → Option β} {events : List α} {value : β}
    (found : lastOf pick events = some value) : ∃ event ∈ events, pick event = some value := by
  obtain ⟨earlier, event, later, rfl, chosen, -⟩ := lastOf_eq_some_iff.mp found
  exact ⟨event, by simp, chosen⟩

/-- Where one event is picked there is a last one. -/
theorem exists_lastOf {pick : α → Option β} {events : List α} {event : α}
    (member : event ∈ events) (picked : (pick event).isSome) :
    ∃ value, lastOf pick events = some value := by
  obtain ⟨value, chosen⟩ := Option.isSome_iff_exists.mp picked
  have nonempty : events.filterMap pick ≠ [] :=
    List.ne_nil_of_mem (List.mem_filterMap.mpr ⟨event, member, chosen⟩)
  exact ⟨_, List.getLast?_eq_some_getLast nonempty⟩

/-- The register law: `Holds` is what the steps keep and may rely on. -/
theorem foldl_register {step : σ → α → σ} (Holds : σ → Prop) (register : σ → Option β)
    (written : α → Option β) {events : List α}
    (kept : ∀ state, ∀ event ∈ events, Holds state → Holds (step state event) ∧
      register (step state event) = (written event).or (register state))
    {start : σ} (initially : Holds start) :
    Holds (events.foldl step start) ∧
      register (events.foldl step start) = (lastOf written events).or (register start) := by
  induction events using List.reverseRecOn with
  | nil => exact ⟨initially, by simp⟩
  | append_singleton events event ih =>
      obtain ⟨holds, held⟩ := ih fun state event member =>
        kept state event (List.mem_append_left _ member)
      obtain ⟨holds', held'⟩ := kept (events.foldl step start) event
        (List.mem_append_right _ List.mem_cons_self) holds
      rw [List.foldl_append, List.foldl_cons, List.foldl_nil]
      refine ⟨holds', ?_⟩
      rw [held', held, lastOf_snoc, Option.or_assoc]

end DeviceSettings.Std
