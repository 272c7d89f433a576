import ClassMatch.Proofs.Check.Basic
import ClassMatch.Proofs.Check.Built
import ClassMatch.Proofs.Check.Rendering

/-!
Where checks fail: at the crumb entered last. Crumbs are entered for parts that turn out to be equal,
too, but then the next part enters a crumb of its own before it can fail.
-/
namespace ClassMatch

/-- The trail that was entered last. -/
def lastEntered? (events : List Event) : Option Trail := (events.filterMap Event.entered?).getLast?

theorem lastEntered?_append (first second : List Event) :
    lastEntered? (first ++ second) = (lastEntered? second).or (lastEntered? first) := by
  rw [lastEntered?, List.filterMap_append, List.getLast?_append]
  rfl

theorem EntersNone.lastEntered?_eq {events : List Event} (h : EntersNone events) :
    lastEntered? events = none := by
  rw [lastEntered?, List.filterMap_eq_nil_iff.mpr h]
  rfl

/-- What is logged for tracing are the paths of the trails entered. -/
theorem messages_trace (events : List Event) :
    (events.filter fun e => e.level = "TRACE").map Event.message =
      (events.filterMap Event.entered?).map fun trail => "Entering " ++ trail.path := by
  induction events with
  | nil => rfl
  | cons e events ih =>
    cases e with
    | entering trail => exact congrArg (_ :: ·) ih
    | _ => exact ih

/-- The failure is at the trail entered last. If the report is of no inner check, it may also be that
no crumb was entered, and then the failure is at the trail at which the check was run. -/
def Report.EndsAtLast (inner : Bool) (trail : Trail) (report : Report) : Prop :=
  ∀ f ∈ report.failure, lastEntered? report.events = some f.trail ∨
    inner = false ∧ lastEntered? report.events = none ∧ f.trail = trail

namespace Report.EndsAtLast

variable {inner : Bool} {trail : Trail} {report : Report} {events : List Event}

theorem after_entersNone (h : report.EndsAtLast inner trail) (hevents : EntersNone events) :
    (report.after events).EndsAtLast inner trail := by
  rw [EndsAtLast, Report.after, lastEntered?_append, hevents.lastEntered?_eq, Option.or_none]
  exact h

/-- Whatever was entered before, an inner check has entered a crumb since. -/
theorem after_any (h : report.EndsAtLast true trail) :
    (report.after events).EndsAtLast inner trail := by
  intro f hf
  rcases h f hf with hlast | ⟨hinner, -⟩
  · left
    rw [Report.after, lastEntered?_append, hlast, Option.some_or]
  · cases hinner

theorem after_entering (h : report.EndsAtLast false trail) {outer : Trail} :
    (report.after [.entering trail]).EndsAtLast inner outer := by
  intro f hf
  left
  rcases h f hf with hlast | ⟨-, hnone, htrail⟩
  · rw [Report.after, lastEntered?_append, hlast, Option.some_or]
  · rw [Report.after, lastEntered?_append, hnone, htrail]
    rfl

end Report.EndsAtLast

namespace Check

/-- Checks in turn report what the first one does, or what the second one does after the first. -/
theorem run_andThen (c d : Check) (trail : Trail) :
    (c.andThen d).run trail = c.run trail ∨
      (c.andThen d).run trail = (d.run trail).after (c.run trail).events := by
  rcases hc : c.run trail with ⟨events, _ | f⟩
  · right
    simp only [andThen, hc]
  · left
    simp only [andThen, hc]

theorem Built.endsAtLast {inner : Bool} {c : Check} (h : Built inner c) (trail : Trail) :
    (c.run trail).EndsAtLast inner trail := by
  induction h generalizing trail with
  | pass => exact fun _ hf => nomatch hf
  | fail | failUsing =>
    rintro f ⟨⟩
    exact .inr ⟨rfl, rfl, rfl⟩
  | logThen hevents _ ih => exact (ih trail).after_entersNone hevents
  | @andThen _ c d _ _ ihc ihd =>
    rcases run_andThen c d trail with hrun | hrun
    · rw [hrun]
      exact ihc trail
    · rw [hrun]
      exact (ihd trail).after_any
  | @enter _ crumb _ _ ih => exact (ih (trail.push crumb)).after_entering

end Check

namespace Kind

/-- A check that fails does so at the trail that it has entered last, whose path is what the last
message for tracing shows, or at the trail at which it is run if it has entered none. -/
theorem fails_at_last_crumb (k : Kind) (ctx : Context) (actual expected : k.Node) (trail : Trail)
    (f : Failure) (hf : f ∈ ((k.check ctx actual expected).run trail).failure) :
    let events := ((k.check ctx actual expected).run trail).events
    f.trail = (lastEntered? events).getD trail ∧
    ((events.filter fun e => e.level = "TRACE").map Event.message).getLast?.getD
      ("Entering " ++ trail.path) = "Entering " ++ f.trail.path := by
  intro events
  have htrail : f.trail = (lastEntered? events).getD trail := by
    rcases (k.built_check).endsAtLast trail f hf with hlast | ⟨-, hnone, htrail⟩
    · rw [hlast, Option.getD_some]
    · rw [hnone, Option.getD_none, htrail]
  refine ⟨htrail, ?_⟩
  rw [messages_trace, List.getLast?_map, htrail, lastEntered?]
  cases (events.filterMap Event.entered?).getLast? <;> rfl

/-- The jumps of two methods differ, which is found at the fourth crumb. -/
theorem fails_at_last_crumb_of_jump :
    let report := (Kind.check .classFile .plain (jumpingClass ⟨0⟩) (jumpingClass ⟨1⟩)).run
      (.root "C")
    ∃ f ∈ report.failure, f.trail = (lastEntered? report.events).getD (.root "C") ∧
      f.trail.crumbs = ["C", "Has equal methods", "Method: m()V", "Has equal instructions"] := by
  intro report
  have hcrumbs : report.failure.map (fun f => f.trail.crumbs) =
      some ["C", "Has equal methods", "Method: m()V", "Has equal instructions"] := by
    decide +kernel
  obtain ⟨f, hf, hplace⟩ := Option.map_eq_some_iff.mp hcrumbs
  have h := fails_at_last_crumb .classFile .plain (jumpingClass ⟨0⟩) (jumpingClass ⟨1⟩) (.root "C")
    f hf
  exact ⟨f, hf, h.1, hplace⟩

end Kind

end ClassMatch
