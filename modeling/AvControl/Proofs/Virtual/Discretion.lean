import AvControl.Proofs.Virtual.Resemblance

/-!
# Reading leaves no trace

Requests are made one after another. When some that apply no state are left out, all others are
answered as they would have been, but for the blocks that sound processors list. The two runs go
through worlds that look the same: a request that is left out leaves its world as it looks, and one
that is made in both worlds is answered alike and leaves them looking the same.
-/

namespace AvControl

open Virtual

/-- The marked entries of a list. -/
def marked {α : Type} : List Bool → List α → List α
  | true :: marks, entry :: rest => entry :: marked marks rest
  | false :: marks, _ :: rest => marked marks rest
  | _, _ => []

namespace World

/-- What is answered to some visits, one after another. -/
def replies {δ : Type} [Driver δ] (world : World δ) :
    List Visit → List (Option (Except RequestError Answer))
  | [] => []
  | visit :: rest => (world.visit visit).2 :: (world.visit visit).1.replies rest

variable {δ : Type} [Driver δ] [Enacts δ]

/-- Worlds that look the same answer visits alike, whichever readings are left out in one. -/
theorem replies_marked (visits : List Visit) : ∀ {world other : World δ} (marks : List Bool),
    world.Resembles other → world.AtRest → other.AtRest →
    (∀ visit ∈ visits, visit.request.room.Apart) →
    (∀ visit ∈ visits, visit.request.InBackground world.tokens) →
    (∀ entry ∈ marks.zip visits, entry.1 = false →
      ∀ change, entry.2.request.operation ≠ .set change) →
    List.Forall₂ AnsweredAlike (marked marks (world.replies visits))
      (other.replies (marked marks visits)) := by
  induction visits with
  | nil =>
      intro world other marks _ _ _ _ _ _
      rcases marks with _ | ⟨_ | _, _⟩ <;> exact .nil
  | cons visit rest ih =>
      intro world other marks resembles calm calm' apart background readsOnly
      rcases List.forall_mem_cons.1 apart with ⟨firstApart, apart⟩
      rcases List.forall_mem_cons.1 background with ⟨inBackground, background⟩
      have concludes := visit_concludes calm firstApart inBackground
      have calm := concludes.rest calm
      rw [← concludes.tokens] at background
      cases marks with
      | nil => exact .nil
      | cons mark marks =>
          rcases List.forall_mem_cons.1 readsOnly with ⟨first, others⟩
          cases mark with
          | false =>
              -- the other run stands still meanwhile
              have unchanged := concludes.resembles_of_reads (first rfl)
              exact ih marks (unchanged.symm.trans resembles) calm calm' apart background others
          | true =>
              have inBackground' := inBackground
              rw [← resembles.tokens] at inBackground'
              have concludes' := visit_concludes calm' firstApart inBackground'
              rcases concludes.resembles concludes' inBackground resembles with
                ⟨resembles', answered⟩
              exact .cons answered
                (ih marks resembles' calm (concludes'.rest calm') apart background others)

theorem Unused.atRest {world : World VirtualDriver} (unused : world.Unused) : world.AtRest := by
  refine ⟨unused.wired, fun driver cached found address => ?_⟩
  rcases unused driver cached found with ⟨model, latency, rfl⟩
  rfl

/--
Since the drivers were registered some visits have been made in the background, of rooms of which
each keeps its devices apart. Whichever of those that apply no state are left out, all the others
are answered as they would have been, but for the blocks that sound processors list.
-/
theorem reads_invisible {world : World VirtualDriver} (unused : world.Unused)
    {visits : List Visit} (apart : ∀ visit ∈ visits, visit.request.room.Apart)
    (background : ∀ visit ∈ visits, visit.request.InBackground world.tokens)
    {marks : List Bool} (readsOnly : ∀ entry ∈ marks.zip visits, entry.1 = false →
      ∀ change, entry.2.request.operation ≠ .set change) :
    List.Forall₂ AnsweredAlike (marked marks (world.replies visits))
      (world.replies (marked marks visits)) :=
  replies_marked visits marks (.refl world) unused.atRest unused.atRest apart background readsOnly

theorem reads_invisible_lab :
    let start := labWorld ({ model := .dsp } : VirtualDriver)
    let visits := [labVisit .get, labVisit (.set (labLevel 40 true)), labVisit .info]
    let marks := [false, true, true]
    start.Unused ∧ (∀ visit ∈ visits, visit.request.room.Apart) ∧
      (∀ visit ∈ visits, visit.request.InBackground start.tokens) ∧
      (∀ entry ∈ marks.zip visits, entry.1 = false →
        ∀ change, entry.2.request.operation ≠ .set change) ∧
      List.Forall₂ AnsweredAlike (marked marks (start.replies visits))
        (start.replies (marked marks visits)) := by
  intro start visits marks
  have apart : ∀ visit ∈ visits, visit.request.room.Apart := by
    simpa [visits, labVisit] using apart_lab
  have background : ∀ visit ∈ visits, visit.request.InBackground start.tokens := by
    simp [visits, start, inBackground_labVisit]
  have readsOnly : ∀ entry ∈ marks.zip visits, entry.1 = false →
      ∀ change, entry.2.request.operation ≠ .set change := by
    simp [marks, visits, labVisit]
  have unused := unused_labWorld .dsp
  exact ⟨unused, apart, background, readsOnly,
    reads_invisible unused apart background readsOnly⟩

end World

end AvControl
