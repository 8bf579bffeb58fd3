import Mathlib.Data.List.Basic

/-!
# Announced changes

A component announces a change before and after it asks a service for it. What one call shows is a
list of events; `Told` says that the announcements are true and none is missing. A service can
also change by itself, and is then believed.
-/

namespace DeviceSettings.Std

/-- What a client hears and what a service is asked for, or does by itself. -/
inductive ChangeEvent (Announcement Mode : Type) where
  | preChange (announcement : Announcement)
  | requested (mode : Mode) (accepted : Bool)
  | made (mode : Mode)
  | postChange (announcement : Announcement)
  deriving DecidableEq, Repr

namespace ChangeEvent

variable {Announcement Mode : Type}

def pre? : ChangeEvent Announcement Mode → Option Announcement
  | preChange announcement => some announcement
  | _ => none

def post? : ChangeEvent Announcement Mode → Option Announcement
  | postChange announcement => some announcement
  | _ => none

variable (Names : Announcement → Mode → Prop) (InEffect : Mode → Prop)

/-- Every announcement of a change names a mode that the service has accepted or made before. -/
def Truthful (events : List (ChangeEvent Announcement Mode)) : Prop :=
  ∀ earlier announcement later, events = earlier ++ postChange announcement :: later →
    ∃ mode, Names announcement mode ∧ (requested mode true ∈ earlier ∨ made mode ∈ earlier)

/-- An accepted request for a mode that is not in effect has one announcement before it and one
behind it, and both name it. -/
def Announced (events : List (ChangeEvent Announcement Mode)) : Prop :=
  ∀ earlier mode later, events = earlier ++ requested mode true :: later → ¬InEffect mode →
    (∃ announcement, earlier.filterMap pre? = [announcement] ∧ Names announcement mode) ∧
      ∃ announcement, later.filterMap post? = [announcement] ∧ Names announcement mode

/-- What a client is told of the changes is right. -/
structure Told (events : List (ChangeEvent Announcement Mode)) : Prop where
  truthful : Truthful Names events
  announced : Announced Names InEffect events

variable {Names InEffect} {announcement : Announcement} {mode : Mode} {accepted : Bool}

/-- A list is split at its head or behind it. -/
theorem cons_eq_append_cons_iff {α : Type} {event found : α} {events earlier later : List α} :
    event :: events = earlier ++ found :: later ↔
      (earlier = [] ∧ event = found ∧ events = later) ∨
        ∃ front, earlier = event :: front ∧ events = front ++ found :: later := by
  cases earlier with
  | nil => simp
  | cons first front => simp [eq_comm, and_assoc]

theorem told_nil : Told Names InEffect [] where
  truthful earlier announcement later split := by simp at split
  announced earlier mode later split := by simp at split

/-- An announcement of what is then not asked for does no harm. -/
theorem told_preChange : Told Names InEffect [preChange announcement] where
  truthful earlier announcement later split := by simp [cons_eq_append_cons_iff] at split
  announced earlier mode later split := by simp [cons_eq_append_cons_iff] at split

/-- What the service was never asked for must not be announced as done. -/
theorem not_told_unasked :
    ¬Told Names InEffect [preChange announcement, postChange announcement] := by
  intro told
  obtain ⟨mode, -, asked | made⟩ := told.truthful [preChange announcement] announcement [] rfl
  · simp at asked
  · simp at made

/-- A silent request may only change nothing. -/
theorem told_silent_iff :
    Told Names InEffect [requested mode accepted] ↔ (accepted = true → InEffect mode) := by
  constructor
  · rintro told rfl
    by_contra other
    obtain ⟨⟨announcement, none, -⟩, -⟩ := told.announced [] mode [] rfl other
    simp at none
  · intro same
    refine ⟨fun earlier announcement later split => ?_, fun earlier other later split => ?_⟩
    · simp [cons_eq_append_cons_iff] at split
    · obtain ⟨-, requests, -⟩ | ⟨front, -, rest⟩ := cons_eq_append_cons_iff.mp split
      · obtain ⟨rfl, rfl⟩ := requested.inj requests
        exact fun different => absurd (same rfl) different
      · simp at rest

/-- A request that is announced before only may not succeed with a change. -/
theorem told_request_iff :
    Told Names InEffect [preChange announcement, requested mode accepted] ↔
      (accepted = true → InEffect mode) := by
  constructor
  · rintro told rfl
    by_contra other
    obtain ⟨-, announcement', none, -⟩ :=
      told.announced [preChange announcement] mode [] rfl other
    simp at none
  · intro same
    refine ⟨fun earlier announcement later split => ?_, fun earlier other later split => ?_⟩
    · simp [cons_eq_append_cons_iff] at split
    · obtain ⟨-, requests, -⟩ | ⟨front, -, rest⟩ := cons_eq_append_cons_iff.mp split
      · exact nomatch requests
      · obtain ⟨-, requests, -⟩ | ⟨front', -, rest'⟩ := cons_eq_append_cons_iff.mp rest
        · obtain ⟨rfl, rfl⟩ := requested.inj requests
          exact fun different => absurd (same rfl) different
        · simp at rest'

/-- A request announced before and behind is told right when it was accepted and named. -/
theorem told_change_iff :
    Told Names InEffect
        [preChange announcement, requested mode accepted, postChange announcement] ↔
      accepted = true ∧ Names announcement mode := by
  constructor
  · intro told
    obtain ⟨named, names, asked | made⟩ :=
      told.truthful [preChange announcement, requested mode accepted] announcement [] rfl
    · have same : named = mode ∧ true = accepted := by simpa using asked
      obtain ⟨rfl, accepts⟩ := same
      exact ⟨accepts.symm, names⟩
    · simp at made
  · rintro ⟨rfl, names⟩
    refine ⟨fun earlier other later split => ?_, fun earlier other later split _ => ?_⟩
    · obtain ⟨-, differs, -⟩ | ⟨front, rfl, rest⟩ := cons_eq_append_cons_iff.mp split
      · exact nomatch differs
      · obtain ⟨-, differs, -⟩ | ⟨front', rfl, rest'⟩ := cons_eq_append_cons_iff.mp rest
        · exact nomatch differs
        · obtain ⟨-, same, -⟩ | ⟨front, -, final⟩ := cons_eq_append_cons_iff.mp rest'
          · exact ⟨mode, postChange.inj same ▸ names, .inl (by simp)⟩
          · simp at final
    · obtain ⟨-, differs, -⟩ | ⟨front, rfl, rest⟩ := cons_eq_append_cons_iff.mp split
      · exact nomatch differs
      · obtain ⟨rfl, same, rfl⟩ | ⟨front', -, final⟩ := cons_eq_append_cons_iff.mp rest
        · obtain ⟨rfl, -⟩ := requested.inj same
          exact ⟨⟨announcement, rfl, names⟩, announcement, rfl, names⟩
        · simp [cons_eq_append_cons_iff] at final

/-- What the service has done by itself is told right when all announcements of it name it. -/
theorem told_made_iff {announcements : List Announcement} :
    Told Names InEffect (made mode :: announcements.map postChange) ↔
      ∀ announcement ∈ announcements, Names announcement mode := by
  constructor
  · intro told announcement member
    obtain ⟨before, behind, rfl⟩ := List.append_of_mem member
    obtain ⟨named, names, asked | does⟩ := told.truthful (made mode :: before.map postChange)
      announcement (behind.map postChange) (by simp)
    · simp at asked
    · have same : named = mode := by simpa using does
      exact same ▸ names
  · intro names
    refine ⟨fun earlier announcement later split => ?_, fun earlier other later split => ?_⟩
    · obtain ⟨-, differs, -⟩ | ⟨front, rfl, rest⟩ := cons_eq_append_cons_iff.mp split
      · exact nomatch differs
      · have member : (postChange announcement : ChangeEvent Announcement Mode) ∈
            announcements.map postChange := by
          rw [rest]
          simp
        obtain ⟨announced, member, same⟩ := List.mem_map.mp member
        exact ⟨mode, names announcement (postChange.inj same ▸ member), .inr List.mem_cons_self⟩
    · have member : requested other true ∈ made mode :: announcements.map postChange := by
        rw [split]
        simp
      simp at member

end ChangeEvent
end DeviceSettings.Std
