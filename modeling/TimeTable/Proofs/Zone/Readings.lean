import TimeTable.Proofs.Calendar.Ticks
import TimeTable.Zone.Basic

namespace TimeTable

namespace Zone

variable {zone : Zone} {reading utc : DateTime} {instant : Int}

/-- The offset that holds at an instant is the first one or that of a transition. -/
lemma localAt_eq_or_mem (zone : Zone) (instant : Int) :
    zone.localAt instant = zone.initial ∨
      ∃ transition ∈ zone.transitions, transition.2 = zone.localAt instant := by
  rw [localAt]
  generalize zone.initial = held
  induction zone.transitions generalizing held with
  | nil => exact .inl rfl
  | cons next rest ih =>
    rw [List.foldl_cons]
    rcases ih (if next.1 ≤ instant then next.2 else held) with h | ⟨transition, hmem, h⟩
    · rw [h]
      split
      · exact .inr ⟨next, List.mem_cons_self, rfl⟩
      · exact .inl rfl
    · exact .inr ⟨transition, List.mem_cons_of_mem _ hmem, h⟩

/-- A local clock is less than a day from UTC. -/
lemma natAbs_offsetAt_lt (zone : Zone) (instant : Int) : (zone.offsetAt instant).natAbs < 86400 :=
  of_decide_eq_true (zone.localAt instant).short

lemma offsetAt_mem_offsets (zone : Zone) (instant : Int) : zone.offsetAt instant ∈ zone.offsets := by
  rw [offsets, List.mem_eraseDups, List.mem_cons, List.mem_map, offsetAt]
  rcases zone.localAt_eq_or_mem instant with h | ⟨transition, hmem, h⟩
  · exact .inl (congrArg ZoneOffset.seconds h)
  · exact .inr ⟨transition, hmem, congrArg ZoneOffset.seconds h⟩

/-- No instant of a reading is missed, as the offset at each instant is one of those that are tried. -/
lemma mem_instantsOf {seconds : Int} :
    instant ∈ zone.instantsOf seconds ↔ instant + zone.offsetAt instant = seconds := by
  rw [instantsOf, List.mem_filter, beq_iff_eq, List.mem_map]
  constructor
  · exact fun h => h.2
  · intro h
    exact ⟨⟨_, zone.offsetAt_mem_offsets instant, by omega⟩, h⟩

/-- That the local clock shows a date and time at an instant. -/
def Shows (zone : Zone) (reading : DateTime) (instant : Int) : Prop :=
  zone.wallClock (.ofInstant instant reading.nano) = reading

/-- That an instant is the first one at which the local clock shows a date and time. -/
structure FirstShows (zone : Zone) (reading : DateTime) (instant : Int) : Prop where
  shows : zone.Shows reading instant
  first : ∀ other, zone.Shows reading other → instant ≤ other

lemma shows_iff (h : reading.IsReading) :
    zone.Shows reading instant ↔ instant ∈ zone.instantsOf reading.instant := by
  rw [Shows, wallClock, DateTime.addSeconds, DateTime.instant_ofInstant, DateTime.nano_ofInstant,
    mem_instantsOf]
  constructor
  · intro hshown
    have hinstant := congrArg DateTime.instant hshown
    rwa [DateTime.instant_ofInstant] at hinstant
  · intro hinstant
    rw [hinstant, DateTime.ofInstant_instant h]

lemma firstShows_iff (h : reading.IsReading) :
    zone.FirstShows reading instant ↔ (zone.instantsOf reading.instant).min? = some instant := by
  rw [List.min?_eq_some_iff]
  constructor
  · intro hfirst
    exact ⟨(shows_iff h).mp hfirst.shows, fun other hother =>
      hfirst.first other ((shows_iff h).mpr hother)⟩
  · rintro ⟨hmem, hfirst⟩
    exact ⟨(shows_iff h).mpr hmem, fun other hother => hfirst other ((shows_iff h).mp hother)⟩

lemma FirstShows.unique {other : Int} (h : zone.FirstShows reading instant)
    (hother : zone.FirstShows reading other) : other = instant :=
  Int.le_antisymm (hother.first instant h.shows) (h.first other hother.shows)

/-- What is taken for the instant of a reading is the first one that shows it, if it is in range. -/
lemma ofLocal?_eq_some_iff (h : reading.IsReading) :
    zone.ofLocal? reading = some utc ↔
      ∃ instant, zone.FirstShows reading instant ∧ utc = .ofInstant instant reading.nano ∧
        Calendar.inRange utc.day := by
  rw [ofLocal?, Option.bind_eq_bind, Option.bind_eq_some_iff]
  refine exists_congr fun instant => ?_
  rw [firstShows_iff h, DateTime.check, Option.ite_none_right_eq_some, Option.some.injEq]
  constructor
  · rintro ⟨hmin, hrange, rfl⟩
    exact ⟨hmin, rfl, hrange⟩
  · rintro ⟨hmin, rfl, hrange⟩
    exact ⟨hmin, hrange, rfl⟩

end Zone
end TimeTable
