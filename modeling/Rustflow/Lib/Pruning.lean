import Rustflow.Lib.FileSystem

/-!
# Pruning a tree

Removing many files, and the directories of a list that are empty. With each directory listed
after those in it, a directory goes exactly when all that it holds goes before it.
-/

namespace FileSystem
variable {N : Type} [DecidableEq N] {fs : FileSystem N}

/-- Removes a directory if it is empty. -/
def prune (fs : FileSystem N) (p : EntryPath N) : FileSystem N :=
  match fs.rmdir p with
  | .ok fs => fs
  | .error _ => fs

/-- A listed directory that holds nothing but directories that go too. -/
inductive Prunable (fs : FileSystem N) (ds : List (EntryPath N)) : EntryPath N → Prop
  | intro {p : EntryPath N} (listed : p ∈ ds) (dir : fs.lookup p = some .dir)
      (below : ∀ name, fs.lookup (p ++ [name]) ≠ none →
        Prunable fs ds (p ++ [name])) : Prunable fs ds p

theorem Prunable.mono {ds es : List (EntryPath N)} {p : EntryPath N} (subset : ds ⊆ es)
    (prunable : Prunable fs ds p) :
    Prunable fs es p := by
  induction prunable with
  | intro listed dir _ ih => exact .intro (subset listed) dir ih

theorem prune_of_empty {p : EntryPath N} (dir : fs.lookup p = some .dir)
    (empty : ∀ name, fs.lookup (p ++ [name]) = none) :
    fs.prune p = fs.erase p := by
  unfold prune
  rw [rmdir_eq_ok.mpr ⟨dir, empty, rfl⟩]

theorem prune_of_not {p : EntryPath N}
    (kept : ¬ (fs.lookup p = some .dir ∧ ∀ name, fs.lookup (p ++ [name]) = none)) :
    fs.prune p = fs := by
  unfold prune
  split
  · rename_i fs' removed
    obtain ⟨dir, empty, -⟩ := rmdir_eq_ok.mp removed
    exact absurd ⟨dir, empty⟩ kept
  · rfl

theorem WellFormed.prune (whole : fs.WellFormed) {p : EntryPath N} (named : p ≠ []) :
    (fs.prune p).WellFormed := by
  unfold FileSystem.prune
  split
  · rename_i fs' removed
    obtain ⟨-, empty, rfl⟩ := rmdir_eq_ok.mp removed
    exact whole.erase empty named
  · exact whole

theorem WellFormed.foldl_prune (whole : fs.WellFormed) {ds : List (EntryPath N)}
    (named : ∀ p ∈ ds, p ≠ []) :
    (ds.foldl FileSystem.prune fs).WellFormed := by
  induction ds generalizing fs with
  | nil => exact whole
  | cons d ds ih =>
    exact ih (whole.prune (named d List.mem_cons_self)) fun p inside =>
      named p (List.mem_cons_of_mem _ inside)

/-- What is left after the directories of a list, each after those in it. -/
theorem lookup_foldl_prune {ds : List (EntryPath N)}
    (bottomUp : ds.Pairwise fun a b => ∀ name, b ≠ a ++ [name]) (p : EntryPath N) :
    (Prunable fs ds p → (ds.foldl prune fs).lookup p = none) ∧
    (¬ Prunable fs ds p → (ds.foldl prune fs).lookup p = fs.lookup p) := by
  induction ds using List.reverseRecOn generalizing p with
  | nil =>
    refine ⟨fun prunable => ?_, fun _ => rfl⟩
    obtain ⟨listed, -, -⟩ := prunable
    cases listed
  | append_singleton ds d ih =>
    obtain ⟨before, -, later⟩ := List.pairwise_append.mp bottomUp
    have ih := ih before
    rw [List.foldl_append, List.foldl_cons, List.foldl_nil]
    -- The last directory is in none of the others, so what they lose is decided before it.
    have earlier : ∀ q, Prunable fs (ds ++ [d]) q → Prunable fs ds q ∨ q = d := by
      intro q prunable
      induction prunable with
      | @intro q listed dir below deeper =>
        rcases List.mem_append.mp listed with inside | last
        · refine .inl (.intro inside dir fun name present => ?_)
          refine (deeper name present).resolve_right fun same => ?_
          exact later q inside d (List.mem_singleton_self d) name same.symm
        · exact .inr (List.mem_singleton.mp last)
    have subset : ds ⊆ ds ++ [d] := List.subset_append_left _ _
    have children : Prunable fs (ds ++ [d]) d → ∀ name, fs.lookup (d ++ [name]) ≠ none →
        Prunable fs ds (d ++ [name]) := by
      rintro ⟨-, -, below⟩ name present
      refine (earlier _ (below name present)).resolve_right fun same => ?_
      exact List.cons_ne_nil _ _ (List.append_right_eq_self.mp same)
    have empties : Prunable fs (ds ++ [d]) d → ∀ name, (ds.foldl prune fs).lookup (d ++ [name]) =
        none := by
      intro prunable name
      by_cases goes : Prunable fs ds (d ++ [name])
      · exact (ih _).1 goes
      · rw [(ih _).2 goes]
        by_contra present
        exact goes (children prunable name present)
    by_cases gone : Prunable fs ds d
    · -- A directory that is gone already stays so.
      have kept : (ds.foldl prune fs).prune d = ds.foldl prune fs := by
        refine prune_of_not fun dir => ?_
        rw [(ih d).1 gone] at dir
        cases dir.1
      rw [kept]
      refine ⟨fun prunable => (ih p).1 ?_,
        fun stays => (ih p).2 fun prunable => stays (prunable.mono subset)⟩
      rcases earlier p prunable with before | rfl
      · exact before
      · exact gone
    · have same := (ih d).2 gone
      by_cases goes : Prunable fs (ds ++ [d]) d
      · have dir : fs.lookup d = some .dir := by
          obtain ⟨-, dir, -⟩ := goes
          exact dir
        rw [prune_of_empty (same.trans dir) (empties goes), Table.lookup_erase_eq]
        split
        · rename_i here
          rw [here]
          exact ⟨fun _ => rfl, fun stays => absurd goes stays⟩
        · rename_i elsewhere
          exact ⟨fun prunable => (ih p).1 ((earlier p prunable).resolve_right elsewhere),
            fun stays => (ih p).2 fun prunable => stays (prunable.mono subset)⟩
      · have kept : (ds.foldl prune fs).prune d = ds.foldl prune fs := by
          refine prune_of_not fun ⟨dir, empty⟩ => goes ?_
          refine .intro (List.mem_append_right _ (List.mem_singleton_self d)) (same.symm.trans dir)
            fun name present => ?_
          refine Prunable.mono subset ?_
          by_contra stays
          exact present (((ih _).2 stays).symm.trans (empty name))
        rw [kept]
        refine ⟨fun prunable => (ih p).1 ?_,
          fun stays => (ih p).2 fun prunable => stays (prunable.mono subset)⟩
        refine (earlier p prunable).resolve_right ?_
        rintro rfl
        exact goes prunable

end FileSystem
