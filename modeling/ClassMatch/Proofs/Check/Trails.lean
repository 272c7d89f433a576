import ClassMatch.Proofs.Check.Built

/-!
Checks further down a trail. A check hands on the trail at which it is run and does not look at it,
so what it finds is the same wherever it is run, and is found at the same place from there.
-/
namespace ClassMatch

/-- The trail as it is seen from further up. -/
def Trail.under (trail outer : Trail) : Trail := ⟨outer.crumbs ++ trail.crumbs⟩

theorem Trail.push_under (trail outer : Trail) (crumb : String) :
    (trail.under outer).push crumb = (trail.push crumb).under outer :=
  congrArg Trail.mk (List.append_assoc outer.crumbs trail.crumbs [crumb])

theorem Trail.empty_under (outer : Trail) : Trail.empty.under outer = outer :=
  congrArg Trail.mk (List.append_nil outer.crumbs)

def Failure.under (f : Failure) (outer : Trail) : Failure := { f with trail := f.trail.under outer }

def Event.under (e : Event) (outer : Trail) : Event :=
  match e with
  | entering trail => entering (trail.under outer)
  | e => e

theorem EntersNone.map_under {events : List Event} (h : EntersNone events) (outer : Trail) :
    events.map (Event.under · outer) = events := by
  refine (List.map_congr_left fun e he => ?_).trans (List.map_id events)
  have hnone : e.entered? = none := h e he
  cases e with
  | entering trail => cases hnone
  | _ => rfl

/-- The report of the same check further down a trail. -/
def Report.under (r : Report) (outer : Trail) : Report :=
  ⟨r.events.map (Event.under · outer), r.failure.map (Failure.under · outer)⟩

theorem Report.after_under (r : Report) (events : List Event) (outer : Trail) :
    (r.after events).under outer = (r.under outer).after (events.map (Event.under · outer)) := by
  rw [Report.under, Report.after, List.map_append]
  rfl

theorem Report.passes_under (r : Report) (outer : Trail) : (r.under outer).passes = r.passes :=
  Option.isNone_map

namespace Check

/-- Run further down a trail, the check reports the same from there. -/
def MovesAlong (c : Check) : Prop :=
  ∀ outer trail, c.run (trail.under outer) = (c.run trail).under outer

variable {c d : Check}

theorem MovesAlong.logThen {events : List Event} (h : EntersNone events) (hc : c.MovesAlong) :
    ((log events).andThen c).MovesAlong := by
  intro outer trail
  have hrun (start : Trail) : ((log events).andThen c).run start = (c.run start).after events :=
    rfl
  rw [hrun, hrun, hc, Report.after_under, h.map_under]

theorem MovesAlong.andThen (hc : c.MovesAlong) (hd : d.MovesAlong) : (c.andThen d).MovesAlong := by
  intro outer trail
  have hfirst := hc outer trail
  rcases hrun : c.run trail with ⟨events, _ | f⟩
  · rw [hrun] at hfirst
    simp only [Check.andThen, hrun, hfirst, Report.under, Option.map_none]
    rw [hd]
    exact (Report.after_under _ _ _).symm
  · rw [hrun] at hfirst
    simp only [Check.andThen, hrun, hfirst, Report.under, Option.map_some]

theorem MovesAlong.enter (hc : c.MovesAlong) (crumb : String) : (enter crumb c).MovesAlong := by
  intro outer trail
  have hrun (start : Trail) : (Check.enter crumb c).run start =
      (c.run (start.push crumb)).after [.entering (start.push crumb)] := rfl
  rw [hrun, hrun, Trail.push_under, hc, Report.after_under]
  rfl

theorem Built.movesAlong {inner : Bool} (h : Built inner c) : c.MovesAlong := by
  induction h with
  | pass | fail | failUsing => exact fun _ _ => rfl
  | logThen hevents _ ih => exact ih.logThen hevents
  | andThen _ _ ihc ihd => exact ihc.andThen ihd
  | enter _ ih => exact ih.enter _

end Check

/-- The trail at which nodes are checked only labels what is found: the check passes or fails
whatever the trail is, with the same message on behalf of the same comparator, and the trail comes
before the trail of a failure, and of every crumb entered, when there is none to begin with. -/
theorem Kind.check_labelled_by_trail (k : Kind) (ctx : Context) (actual expected : k.Node)
    (trail : Trail) :
    let report := (k.check ctx actual expected).run trail
    let alone := (k.check ctx actual expected).run .empty
    report.passes = alone.passes ∧
    report.failure = alone.failure.map (fun f =>
      ⟨⟨trail.crumbs ++ f.trail.crumbs⟩, f.message, f.comparator⟩) ∧
    report.events = alone.events.map (Event.under · trail) := by
  intro report alone
  have hreport : report = alone.under trail := by
    have hbuilt : Check.Built false (k.check ctx actual expected) := k.built_check
    have hmove := hbuilt.movesAlong trail .empty
    rwa [Trail.empty_under] at hmove
  rw [hreport]
  exact ⟨alone.passes_under trail, rfl, rfl⟩

end ClassMatch
