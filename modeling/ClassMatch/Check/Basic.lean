import ClassMatch.Report.Event
import ClassMatch.Report.Failure

/-!
Checks. A check is run at a trail; it reports events, and it fails at the first difference. Larger
checks are made from smaller ones by running them in turn and by entering crumbs.
-/
namespace ClassMatch

/-- What comes of a check: the events in order, and the failure that ended it. -/
structure Report where
  events : List Event
  failure : Option Failure
  deriving DecidableEq

namespace Report

/-- No difference was found. -/
def passes (r : Report) : Bool := r.failure.isNone

/-- The report with more events in front. -/
def after (events : List Event) (r : Report) : Report := ⟨events ++ r.events, r.failure⟩

end Report

structure Check where
  run : Trail → Report

namespace Check

def pass : Check := ⟨fun _ => ⟨[], none⟩⟩

/-- Fails at the trail at which it is run. -/
def fail (message : String) : Check := ⟨fun trail => ⟨[], some ⟨trail, message, none⟩⟩⟩

/-- Fails at the trail at which it is run, on behalf of a comparator. -/
def failUsing (comparator message : String) : Check :=
  ⟨fun trail => ⟨[], some ⟨trail, message, some comparator⟩⟩⟩

def log (events : List Event) : Check := ⟨fun _ => ⟨events, none⟩⟩

/-- Runs the second check if the first one passes. -/
def andThen (first second : Check) : Check :=
  ⟨fun trail =>
    match first.run trail with
    | ⟨events, some failure⟩ => ⟨events, some failure⟩
    | ⟨events, none⟩ => (second.run trail).after events⟩

theorem passes_andThen (first second : Check) (trail : Trail) :
    ((first.andThen second).run trail).passes =
      ((first.run trail).passes && (second.run trail).passes) := by
  rcases h : first.run trail with ⟨events, _ | failure⟩ <;>
    simp [andThen, h, Report.passes, Report.after]

/-- Runs the checks in turn up to the first one that fails. -/
def all : List Check → Check
  | [] => pass
  | check :: checks => check.andThen (all checks)

/-- Checks that are run in turn pass together exactly if each of them passes. -/
theorem passes_all (checks : List Check) (trail : Trail) :
    ((all checks).run trail).passes = checks.all fun check => (check.run trail).passes := by
  induction checks with
  | nil => rfl
  | cons check checks ih => simp [all, passes_andThen, ih]

/-- Runs the check with one crumb more on the trail. -/
def enter (crumb : String) (check : Check) : Check :=
  ⟨fun trail => (check.run (trail.push crumb)).after [.entering (trail.push crumb)]⟩

theorem passes_enter (crumb : String) (check : Check) (trail : Trail) :
    ((enter crumb check).run trail).passes = (check.run (trail.push crumb)).passes := rfl

/-- Runs the check of a part. -/
def field (part : String) (check : Check) : Check := enter (Trail.fieldCrumb part) check

end Check

/-- An ignored part is not checked. -/
def Context.checkUnless (ctx : Context) (option : CheckOption) (check : Check) : Check :=
  if ctx.has option then .pass else check

end ClassMatch
