import Mathlib.Data.Set.Subsingleton

/-!
# Agreement among reports

Reports about one thing are kept only as a verdict: nothing heard, all the same, or a conflict.
A verdict depends on the set of reports, so neither their order nor a repetition matters.
-/

inductive Verdict (D : Type) where
  | unknown
  | agreed (report : D)
  | conflicting

namespace Verdict
variable {D : Type}

/-- The verdict after one more report. -/
def hear [DecidableEq D] (verdict : Verdict D) (report : D) : Verdict D :=
  match verdict with
  | unknown => agreed report
  | agreed known => if known = report then agreed known else conflicting
  | conflicting => conflicting

/-- The report all agree on. -/
def agreed? : Verdict D → Option D
  | agreed report => some report
  | _ => none

/-- What a verdict means for the set of reports it is about. -/
def On (reports : Set D) : Verdict D → Prop
  | unknown => reports = ∅
  | agreed report => reports = {report}
  | conflicting => reports.Nontrivial

theorem On.unique {reports : Set D} {v w : Verdict D} (here : v.On reports) (there : w.On reports) :
    v = w := by
  cases v with
  | unknown =>
    cases w with
    | unknown => rfl
    | agreed report => exact absurd (here.symm.trans there) (Set.singleton_ne_empty report).symm
    | conflicting => exact absurd here there.nonempty.ne_empty
  | agreed report =>
    cases w with
    | unknown => exact absurd (here.symm.trans there) (Set.singleton_ne_empty report)
    | agreed report' => exact congrArg agreed (Set.singleton_injective (here.symm.trans there))
    | conflicting => exact absurd here there.ne_singleton
  | conflicting =>
    cases w with
    | unknown => exact absurd there here.nonempty.ne_empty
    | agreed report => exact absurd there here.ne_singleton
    | conflicting => rfl

theorem On.hear [DecidableEq D] {reports : Set D} {v : Verdict D} (on : v.On reports) (report : D) :
    (v.hear report).On (insert report reports) := by
  cases v with
  | unknown =>
    show insert report reports = {report}
    rw [show reports = ∅ from on, insert_empty_eq]
  | agreed known =>
    have reports : reports = {known} := on
    subst reports
    by_cases same : known = report
    · rw [Verdict.hear, if_pos same, ← same, Set.insert_eq_of_mem (Set.mem_singleton known)]
      exact on
    · rw [Verdict.hear, if_neg same]
      exact Set.nontrivial_pair (Ne.symm same)
  | conflicting =>
    have conflict : reports.Nontrivial := on
    exact conflict.mono (Set.subset_insert report reports)

theorem On.agreed_of_all {reports : Set D} {v : Verdict D} (on : v.On reports) {report : D}
    (all : reports = {report}) : v.agreed? = some report := by
  rw [on.unique (w := .agreed report) all]
  rfl

theorem On.agreed_of_split {reports : Set D} {v : Verdict D} (on : v.On reports)
    (split : reports = ∅ ∨ reports.Nontrivial) : v.agreed? = none := by
  obtain none | conflict := split
  · rw [on.unique (w := .unknown) none]
    rfl
  · rw [on.unique (w := .conflicting) conflict]
    rfl

end Verdict
