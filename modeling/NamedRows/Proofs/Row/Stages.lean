import NamedRows.Proofs.Row.Agree
import NamedRows.Proofs.Row.Narrowed

/-!
# Chains as runs of stages

A stage of a chain passes on the rows that it selects of those it sees (`Source.advance`), and a chain passes on what
its stages do one after another (`advance_chain`). So a chain among the stages of another one is worth its own stages.

The first stage of a chain over a whole source is special: it sees the source itself, with the directory and the masks
that go with it, where a later stage sees a list of rows. But over all rows in order this makes no difference to the
rows that are selected (`positions_eq_advance`), provided that the source with its rows listed is the same source
(`Source.Relisted`).
-/

namespace NamedRows

variable [Externals]

/-- The rows a selector means in the whole source, one after another. -/
def Source.positions (src : Source) (selector : Selector) (strict : Bool) : Except Error (List Nat) :=
  (src.select selector strict).map Selection.positions

/-- The rows that a stage passes on of those it sees. -/
def Source.advance (src : Source) (strict : Bool) (ps : List Nat) (stage : Selector) : Except Error (List Nat) :=
  (resolve src strict ⟨some ps⟩ stage).map Selection.positions

/-- `sub` is the source `src` with all of its rows chosen in order. -/
structure Source.Relisted (src sub : Source) : Prop where
  narrowed : src.Narrowed (List.range src.rowCount) sub
  agrees : src.Agrees sub
  column?_eq : sub.column? = src.column?

/-- The stages after the first one see the rows that it selects. -/
theorem positions_resolveStages (src : Source) (strict : Bool) (w : Window) (stage next : Selector)
    (stages : List Selector) :
    (resolveStages src strict w (stage :: next :: stages)).map Selection.positions =
      (resolve src strict w stage).map Selection.positions >>= fun ps =>
        src.advance strict ps (.chain (next :: stages)) := by
  simp only [resolveStages]
  rw [map_bind, bind_map]
  rfl

section Listed

variable {src sub : Source} {strict : Bool}

/-! ## All rows, listed -/

omit [Externals] in
/-- The row at a place among all rows is the row itself. -/
theorem map_absolute_listed {n : Nat} {rows : List Nat} (h : ∀ r ∈ rows, r < n) :
    rows.map (Window.absolute ⟨some (List.range n)⟩) = rows := by
  refine (List.map_congr_left fun r hr => ?_).trans (List.map_id rows)
  simp [Window.absolute, h r hr]

/-- A selector without masks means the same rows where all rows are listed: these are the source once more. -/
theorem listed_of_maskFree (h : src.Relisted sub) {sel : Selector} (hf : sel.maskFree = true) :
    (resolve src strict {} sel).map Selection.positions = src.advance strict (List.range src.rowCount) sel := by
  have hwithin : resolve src strict ⟨some (List.range src.rowCount)⟩ sel =
      (resolve src strict {} sel).map (Selection.map (Window.absolute ⟨some (List.range src.rowCount)⟩)) := by
    rw [← resolve_congr h.agrees sel {} fun name _ => congrFun h.column?_eq name]
    exact resolve_within h.narrowed sel (w := {}) hf (inRange_whole _)
  unfold Source.advance
  rw [hwithin, map_map]
  cases hs : resolve src strict {} sel with
  | error e => rfl
  | ok s =>
    show Except.ok s.positions = .ok (s.map _).positions
    rw [Selection.positions_map, map_absolute_listed (select_inRange hs).lt]

/-- A mask for all rows is a mask for the list of all rows. -/
theorem listed_mask (src : Source) (strict : Bool) (flags : List Bool) :
    (resolve src strict {} (.mask flags)).map Selection.positions =
      src.advance strict (List.range src.rowCount) (.mask flags) := by
  have hsize : Window.size ⟨some (List.range src.rowCount)⟩ src = src.rowCount := List.length_range
  have hwhole : Window.size {} src = src.rowCount := rfl
  unfold Source.advance
  simp only [resolve, resolveMask]
  rw [hsize, hwhole]
  by_cases hn : flags.length = src.rowCount
  · rw [if_pos hn, if_pos hn]
    have hlt : ∀ r ∈ flagged flags, r < src.rowCount := fun r hr => hn ▸ lt_of_mem_flagged hr
    exact congrArg Except.ok (map_absolute_listed hlt).symm
  · rw [if_neg hn, if_neg hn, if_neg hn, if_neg hn]

end Listed

mutual

/-- The rows a selector means in the whole source are those that it passes on of the list of all rows. -/
theorem positions_eq_advance {src sub : Source} {strict : Bool} (h : src.Relisted sub) : ∀ sel : Selector,
    (resolve src strict {} sel).map Selection.positions = src.advance strict (List.range src.rowCount) sel
  | .mask flags => listed_mask src strict flags
  | .chain stages => stages_eq_advance h stages
  | .all | .index _ | .name _ | .address _ | .slice _ _ _ | .nameRange _ _ | .valueRange _ _ _ | .indices _
  | .names _ => listed_of_maskFree h rfl

/-- Only the first stage of a chain sees where the chain starts. -/
theorem stages_eq_advance {src sub : Source} {strict : Bool} (h : src.Relisted sub) : ∀ stages : List Selector,
    (resolveStages src strict {} stages).map Selection.positions =
      (resolveStages src strict ⟨some (List.range src.rowCount)⟩ stages).map Selection.positions
  | [] => rfl
  | [stage] => positions_eq_advance h stage
  | stage :: next :: stages => by
    rw [positions_resolveStages, positions_resolveStages, positions_eq_advance h stage]
    rfl

end

/-! ## Stages one after another -/

/-- The rows that a chain passes on are those that its stages pass on one after another. -/
theorem advance_chain (src : Source) (strict : Bool) : ∀ (stages : List Selector) (ps : List Nat),
    src.advance strict ps (.chain stages) = stages.foldlM (src.advance strict) ps
  | [], _ => rfl
  | [stage], ps => by
    rw [List.foldlM_cons]
    show src.advance strict ps stage = src.advance strict ps stage >>= fun qs => .ok qs
    cases src.advance strict ps stage <;> rfl
  | stage :: next :: stages, ps => by
    rw [List.foldlM_cons, ← funext (advance_chain src strict (next :: stages))]
    exact positions_resolveStages src strict ⟨some ps⟩ stage next stages

/-- The stages of a chain see, one after another, the rows that its first stage selects. -/
theorem positions_chain_cons (src : Source) (strict : Bool) (stage : Selector) (stages : List Selector) :
    src.positions (.chain (stage :: stages)) strict =
      src.positions stage strict >>= fun ps => stages.foldlM (src.advance strict) ps := by
  cases stages with
  | nil => exact (bind_pure _).symm
  | cons next stages =>
    rw [← funext (advance_chain src strict (next :: stages))]
    exact positions_resolveStages src strict {} stage next stages

/-- All rows of those that are seen are passed on. -/
theorem advance_all (src : Source) (strict : Bool) (ps : List Nat) : src.advance strict ps .all = pure ps := rfl

/-- A chain among the stages of a chain passes on what its stages do there. -/
theorem advance_flatten (src : Source) (strict : Bool) (ps : List Nat) (xs ys zs : List Selector) :
    src.advance strict ps (.chain (xs ++ [.chain ys] ++ zs)) = src.advance strict ps (.chain (xs ++ ys ++ zs)) := by
  simp only [advance_chain, List.foldlM_append, List.foldlM_cons, List.foldlM_nil, bind_pure]

/-- A chain of one stage is the stage. -/
theorem advance_singleton (src : Source) (strict : Bool) (ps : List Nat) (stage : Selector) :
    src.advance strict ps (.chain [stage]) = src.advance strict ps stage := by
  simp only [advance_chain, List.foldlM_cons, List.foldlM_nil, bind_pure]

/-- All rows before a stage change nothing. -/
theorem advance_all_chain (src : Source) (strict : Bool) (ps : List Nat) (stage : Selector) :
    src.advance strict ps (.chain [.all, stage]) = src.advance strict ps stage := by
  simp only [advance_chain, List.foldlM_cons, List.foldlM_nil, advance_all, pure_bind, bind_pure]

/-- All rows after a stage change nothing. -/
theorem advance_chain_all (src : Source) (strict : Bool) (ps : List Nat) (stage : Selector) :
    src.advance strict ps (.chain [stage, .all]) = src.advance strict ps stage := by
  simp only [advance_chain, List.foldlM_cons, List.foldlM_nil, advance_all, bind_pure]

end NamedRows
