import ClassMatch.Check.Collection
import ClassMatch.Order.Events

/-!
What is reported while lists are compared. Whatever sorting and matching report, they report of a
comparison of two elements, and comparing enters no crumbs.
-/
namespace ClassMatch

variable {α : Type} {cmp : α → α → Ordering} {events : α → α → List Event} {e : Event}

theorem mem_insertEvents {a : α} {bs : List α} (h : e ∈ insertEvents cmp events a bs) :
    ∃ x y, e ∈ events x y := by
  induction bs with
  | nil => cases h
  | cons b bs ih =>
    rcases List.mem_append.mp h with h | h
    · exact ⟨a, b, h⟩
    · split at h
      · exact ih h
      · cases h

theorem mem_insertAllEvents {sorted as : List α} (h : e ∈ insertAllEvents cmp events sorted as) :
    ∃ x y, e ∈ events x y := by
  induction as generalizing sorted with
  | nil => cases h
  | cons a as ih =>
    rcases List.mem_append.mp h with h | h
    · exact mem_insertEvents h
    · exact ih h

theorem mem_sortEvents {as : List α} (h : e ∈ sortEvents cmp events as) :
    ∃ x y, e ∈ events x y :=
  mem_insertAllEvents h

theorem mem_elementEvents {as bs : List α} (h : e ∈ elementEvents cmp events as bs) :
    ∃ x y, e ∈ events x y := by
  induction as generalizing bs with
  | nil => cases h
  | cons a as ih =>
    cases bs with
    | nil => cases h
    | cons b bs =>
      rcases List.mem_append.mp h with h | h
      · exact ⟨a, b, h⟩
      · split at h
        · exact ih h
        · cases h

theorem mem_unorderedEvents {as bs : List α} (h : e ∈ unorderedEvents cmp events as bs) :
    ∃ x y, e ∈ events x y := by
  unfold unorderedEvents at h
  split at h
  · rcases List.mem_append.mp h with h | h
    · exact (List.mem_append.mp h).elim mem_sortEvents mem_sortEvents
    · exact mem_elementEvents h
  · cases h

theorem mem_unmatchedEvents {actual expected : List α}
    (h : e ∈ unmatchedEvents cmp events actual expected) : ∃ x y, e ∈ events x y := by
  fun_induction unmatchedEvents cmp events actual expected with
  | case1 a actual b expected ih_lt ih_gt ih_eq =>
    rcases List.mem_append.mp h with h | h
    · exact ⟨a, b, h⟩
    · split at h
      · exact ih_lt h
      · exact ih_gt h
      · exact ih_eq h
  | case2 => cases h

theorem mem_differenceEvents {actual expected : List α}
    (h : e ∈ differenceEvents cmp events actual expected) : ∃ x y, e ∈ events x y := by
  rcases List.mem_append.mp h with h | h
  · exact (List.mem_append.mp h).elim mem_sortEvents mem_sortEvents
  · exact mem_unmatchedEvents h

/-- The trail that has got a new crumb. -/
def Event.entered? : Event → Option Trail
  | entering trail => some trail
  | _ => none

/-- No crumb is entered. -/
def EntersNone (events : List Event) : Prop := ∀ e ∈ events, e.entered? = none

theorem EntersNone.append {first second : List Event} (hfirst : EntersNone first)
    (hsecond : EntersNone second) : EntersNone (first ++ second) := fun e he =>
  (List.mem_append.mp he).elim (hfirst e) (hsecond e)

theorem Context.entersNone_viewEvents {ctx : Context} {m : Method} :
    EntersNone (ctx.viewEvents m) := by
  unfold viewEvents
  split <;> simp [EntersNone, removalEvent, Event.entered?]

theorem Context.entersNone_pairEvents {ctx : Context} {as bs : List Instruction} :
    EntersNone (ctx.pairEvents as bs) := by
  unfold pairEvents
  split <;> simp [EntersNone, Event.entered?]

theorem Method.entersNone_compareEvents {ctx : Context} {a b : Method} :
    EntersNone (a.compareEvents ctx b) := by
  refine (Context.entersNone_viewEvents.append Context.entersNone_viewEvents).append ?_
  split
  · exact Context.entersNone_pairEvents
  · exact fun _ h => nomatch h

theorem ClassFile.entersNone_compareEvents {ctx : Context} {a b : ClassFile} :
    EntersNone (a.compareEvents ctx b) := by
  unfold compareEvents
  split
  · exact fun _ h => nomatch h
  · intro e he
    obtain ⟨m, n, he⟩ := mem_unorderedEvents he
    exact Method.entersNone_compareEvents e he

theorem Kind.entersNone_compareEvents {ctx : Context} (k : Kind) {a b : k.Node} :
    EntersNone (k.compareEvents ctx a b) := by
  cases k with
  | method => exact Method.entersNone_compareEvents
  | classFile => exact ClassFile.entersNone_compareEvents
  | _ => exact fun _ h => nomatch h

/-- The comparator enters no crumb, whatever it compares. -/
def Comparator.EntersNone (c : Comparator α) : Prop :=
  ∀ ctx a b, ClassMatch.EntersNone (c.events ctx a b)

theorem Comparator.entersNone_natural (k : Kind) : (Comparator.natural k).EntersNone :=
  fun _ _ _ => k.entersNone_compareEvents

theorem Comparator.EntersNone.ignoringLabels {c : Comparator α} (h : c.EntersNone) :
    c.ignoringLabels.EntersNone := fun ctx => h ctx.ignoringLabels

theorem Comparator.EntersNone.differenceEvents {c : Comparator α} (h : c.EntersNone)
    {ctx : Context} {actual expected : List α} :
    ClassMatch.EntersNone (differenceEvents (c.compare ctx) (c.events ctx) actual expected) := by
  intro e he
  obtain ⟨a, b, he⟩ := mem_differenceEvents he
  exact h ctx a b e he

end ClassMatch
