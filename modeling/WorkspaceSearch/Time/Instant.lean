import WorkspaceSearch.Time.Calendar

/-!
# Instants

A point in time to the nanosecond, in the years -262143 to 262142.  An instant is a count of seconds from the start of
1970 together with nanoseconds.  A leap second has no count of its own: it is the second before it with a billion
nanoseconds more, so it can only follow the last second of a minute, and it comes before the next minute in the order.

Instants are ordered by their seconds and then by their nanoseconds.
-/

namespace WorkspaceSearch

/-- A point in time. -/
structure Instant where
  /-- Seconds since the start of 1970. -/
  seconds : Int
  /-- Nanoseconds after the second; a billion and more inside a leap second. -/
  nanos : Nat
  nanos_lt : nanos < 2000000000
  leap_ends_minute : 1000000000 ≤ nanos → seconds % 60 = 59
  first_le : -8334601228800 ≤ seconds
  le_last : seconds ≤ 8210266876799
  deriving DecidableEq, Repr

namespace Instant

/-- The start of 1970. -/
def epoch : Instant := ⟨0, 0, by decide, by decide, by decide, by decide⟩

instance : Inhabited Instant := ⟨epoch⟩

/-- The instant with the given seconds and nanoseconds, if there is one. -/
def ofParts? (seconds : Int) (nanos : Nat) : Option Instant :=
  if h : nanos < 2000000000 ∧ (1000000000 ≤ nanos → seconds % 60 = 59) ∧
      -8334601228800 ≤ seconds ∧ seconds ≤ 8210266876799 then
    some ⟨seconds, nanos, h.1, h.2.1, h.2.2.1, h.2.2.2⟩
  else none

/-- Whether one instant is before another. -/
def before (a b : Instant) : Bool := a.seconds < b.seconds || (a.seconds == b.seconds && a.nanos < b.nanos)

instance : LT Instant := ⟨fun a b => a.before b = true⟩

instance : LE Instant := ⟨fun a b => b.before a = false⟩

instance (a b : Instant) : Decidable (a < b) := inferInstanceAs (Decidable (_ = true))

instance (a b : Instant) : Decidable (a ≤ b) := inferInstanceAs (Decidable (_ = false))

theorem ext {a b : Instant} (hs : a.seconds = b.seconds) (hn : a.nanos = b.nanos) : a = b := by
  cases a; cases b; simp_all

theorem lt_iff {a b : Instant} :
    a < b ↔ a.seconds < b.seconds ∨ a.seconds = b.seconds ∧ a.nanos < b.nanos := by
  show a.before b = true ↔ _
  simp [before]

theorem le_iff {a b : Instant} :
    a ≤ b ↔ a.seconds < b.seconds ∨ a.seconds = b.seconds ∧ a.nanos ≤ b.nanos := by
  show b.before a = false ↔ _
  simp [before]
  omega

theorem le_refl (a : Instant) : a ≤ a := le_iff.2 (by omega)

theorem le_trans {a b c : Instant} (h : a ≤ b) (h' : b ≤ c) : a ≤ c := by
  rw [le_iff] at *
  omega

theorem le_total (a b : Instant) : a ≤ b ∨ b ≤ a := by
  simp only [le_iff]
  omega

theorem le_antisymm {a b : Instant} (h : a ≤ b) (h' : b ≤ a) : a = b := by
  rw [le_iff] at *
  exact ext (by omega) (by omega)

theorem not_lt {a b : Instant} : ¬a < b ↔ b ≤ a := by
  rw [lt_iff, le_iff]
  omega

/-- The later of two instants; of two equal ones the second. -/
def later (a b : Instant) : Instant := if b < a then a else b

/-- The earlier of two instants; of two equal ones the first. -/
def earlier (a b : Instant) : Instant := if b < a then b else a

theorem le_later_left (a b : Instant) : a ≤ later a b := by
  unfold later
  split
  · exact le_refl a
  · exact not_lt.1 ‹_›

theorem le_later_right (a b : Instant) : b ≤ later a b := by
  unfold later
  split
  · exact le_iff.2 (by have := lt_iff.1 ‹b < a›; omega)
  · exact le_refl b

theorem earlier_le_left (a b : Instant) : earlier a b ≤ a := by
  unfold earlier
  split
  · exact le_iff.2 (by have := lt_iff.1 ‹b < a›; omega)
  · exact le_refl a

theorem earlier_le_right (a b : Instant) : earlier a b ≤ b := by
  unfold earlier
  split
  · exact le_refl b
  · exact not_lt.1 ‹_›

end Instant

end WorkspaceSearch
