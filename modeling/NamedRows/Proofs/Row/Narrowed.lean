import NamedRows.Proofs.Column.Take
import NamedRows.Proofs.Row.InRange

/-!
# Selecting in narrowed sources

A source may hold chosen rows of another one (`Source.Narrowed`). A stage of a chain sees such rows without a source of
their own: it looks at the whole source through a window. Both come to the same. What a selector means in a window of
the narrowed source, moved back into the whole source, is what it means in the window those rows make there
(`resolve_within`), with the same errors.

Masks are left out (`Selector.maskFree`): in a window a mask may have a flag for every row of the whole source, which a
narrowed source has forgotten.
-/

namespace NamedRows

mutual

/-- Whether a selector holds no mask, at any depth of its chains. -/
def Selector.maskFree : Selector → Bool
  | .mask _ => false
  | .chain stages => maskFreeStages stages
  | _ => true

/-- Whether no stage of a chain holds a mask. -/
def Selector.maskFreeStages : List Selector → Bool
  | [] => true
  | stage :: stages => stage.maskFree && maskFreeStages stages

end

/-- The selection with its positions moved. A moved mask is no mask of the same rows any more. -/
def Selection.map (f : Nat → Nat) : Selection → Selection
  | .single row => .single (f row)
  | .rows ps => .rows (ps.map f)
  | .mask flags => .rows ((flagged flags).map f)

@[simp] theorem Selection.positions_map (f : Nat → Nat) (s : Selection) : (s.map f).positions = s.positions.map f := by
  cases s <;> rfl

/-- The rows of a window of the rows `ps`, as a window of the source these are rows of. -/
def Window.within (w : Window) (ps : List Nat) : Window :=
  ⟨some (match w.rows with
    | none => ps
    | some rows => rows.map (Window.absolute ⟨some ps⟩))⟩

/-- `sub` holds the rows `ps` of `src`: as many rows, the same columns at those rows, and a directory of its own. -/
structure Source.Narrowed (src : Source) (ps : List Nat) (sub : Source) : Prop where
  rowCount_eq : sub.rowCount = ps.length
  key_eq : sub.key = src.key
  overrun_eq : sub.overrun = src.overrun
  column?_eq : ∀ name, sub.column? name = (src.column? name).map fun c => c.take ps
  directory_eq : sub.directory = Window.directory ⟨some ps⟩ src
  lt_size : ∀ name c, src.column? name = some c → ∀ p ∈ ps, p < c.size

section Within

variable {src sub : Source} {ps : List Nat} {w : Window}

/-! ## Windows -/

theorem size_within (h : src.Narrowed ps sub) : (w.within ps).size src = w.size sub := by
  obtain ⟨rows⟩ := w
  cases rows with
  | none => exact h.rowCount_eq.symm
  | some rows => exact List.length_map _

theorem absolute_within {r : Nat} (hr : r < w.size sub) :
    (w.within ps).absolute r = Window.absolute ⟨some ps⟩ (w.absolute r) := by
  obtain ⟨rows⟩ := w
  cases rows with
  | none => rfl
  | some rows =>
    have hr' : r < rows.length := hr
    simp [Window.within, Window.absolute, hr']

theorem map_absolute_within {rows : List Nat} (hr : ∀ r ∈ rows, r < w.size sub) :
    rows.map (w.within ps).absolute = (rows.map w.absolute).map (Window.absolute ⟨some ps⟩) := by
  rw [List.map_map]
  exact List.map_congr_left fun r hm => absolute_within (hr r hm)

theorem all_within (h : src.Narrowed ps sub) :
    (w.within ps).all src = (w.all sub).map (Window.absolute ⟨some ps⟩) := by
  obtain ⟨rows⟩ := w
  cases rows with
  | none =>
    show ps = (List.range sub.rowCount).map _
    rw [h.rowCount_eq]
    exact (map_absolute_range ⟨some ps⟩ src).symm
  | some rows => rfl

/-- The directory of a window inside the narrowed source is the one of the same rows in the whole source. -/
theorem directory_within (h : src.Narrowed ps sub) (hw : w.InRange sub.rowCount) :
    (w.within ps).directory src = w.directory sub := by
  obtain ⟨rows⟩ := w
  cases rows with
  | none => exact h.directory_eq.symm
  | some rows =>
    simp only [Window.directory, Window.within, h.key_eq, h.column?_eq]
    cases hc : src.column? src.key with
    | none => rfl
    | some c =>
      have hq : ∀ q ∈ rows, q < ps.length := fun q hm => h.rowCount_eq ▸ hw rows rfl q hm
      show Except.ok (Directory.build (c.take _) 0) = .ok (Directory.build ((c.take ps).take rows) 0)
      rw [Column.take_take (h.lt_size _ c hc) hq]
      rfl

/-! ## Selectors of each sort -/

/-- A row of the window that a computation leads to, as a selection. -/
theorem single_within {x : Except Error Nat} (hx : ∀ r, x = .ok r → r < w.size sub) :
    (x >>= fun r => .ok (.single ((w.within ps).absolute r)) : Except Error Selection) =
      (x >>= fun r => .ok (.single (w.absolute r)) : Except Error Selection).map
        (Selection.map (Window.absolute ⟨some ps⟩)) := by
  rw [map_bind]
  refine bind_congr_ok fun r hr => ?_
  show Except.ok (Selection.single _) = .ok (Selection.single _)
  rw [absolute_within (hx r hr)]

theorem resolvePattern_within [Externals] (d : Directory) (a : Address) :
    resolvePattern (w.within ps) d a (w.size sub) =
      (resolvePattern w d a (w.size sub)).map (Selection.map (Window.absolute ⟨some ps⟩)) := by
  unfold resolvePattern
  rw [map_bind]
  refine bind_congr_ok fun hits _ => ?_
  cases a.occurrence with
  | none =>
    show Except.ok (Selection.rows _) = .ok (Selection.rows _)
    rw [map_absolute_within fun r hr => lt_of_mem_movedHits hr]
  | some k =>
    show (if hits = [] then _ else _) = Except.map _ (if hits = [] then _ else _)
    split
    · rfl
    · rw [map_bind]
      exact bind_congr_ok fun hit _ => single_within fun r hr => checkRow_lt hr

theorem resolveName_within [Externals] (h : src.Narrowed ps sub) (hw : w.InRange sub.rowCount) (strict : Bool)
    (text : String) :
    resolveName src (w.within ps) strict text =
      (resolveName sub w strict text).map (Selection.map (Window.absolute ⟨some ps⟩)) := by
  unfold resolveName
  rw [directory_within h hw, size_within h, h.key_eq, map_bind]
  refine bind_congr_ok fun d _ => ?_
  cases naming d text with
  | row a => exact single_within fun r hr => exactRow_lt hr
  | pattern a => exact resolvePattern_within d a
  | unreadable e => cases strict <;> rfl
  | nothing => cases strict <;> rfl

theorem resolveNames_within [Externals] (h : src.Narrowed ps sub) (hw : w.InRange sub.rowCount) : ∀ texts : List String,
    resolveNames src (w.within ps) texts =
      (resolveNames sub w texts).map (List.map (Window.absolute ⟨some ps⟩))
  | [] => rfl
  | text :: texts => by
    simp only [resolveNames]
    rw [resolveName_within h hw, resolveNames_within h hw texts, bind_map, map_bind]
    refine bind_congr_ok fun s _ => ?_
    rw [bind_map, map_bind]
    refine bind_congr_ok fun rows _ => ?_
    show Except.ok _ = Except.ok _
    rw [Selection.positions_map, List.map_append]

theorem rangeBound_within [Externals] (h : src.Narrowed ps sub) (hw : w.InRange sub.rowCount) (text : String) :
    rangeBound src (w.within ps) text = rangeBound sub w text := by
  simp only [rangeBound, boundPosition]
  rw [directory_within h hw, size_within h, h.key_eq, h.overrun_eq]

theorem rangeStart_within [Externals] (h : src.Narrowed ps sub) (hw : w.InRange sub.rowCount) (start : Option String) :
    rangeStart src (w.within ps) start = rangeStart sub w start := by
  cases start with
  | none => rfl
  | some text => exact rangeBound_within h hw text

theorem resolveNameRange_within [Externals] (h : src.Narrowed ps sub) (hw : w.InRange sub.rowCount)
    (start stop : Option String) :
    resolveNameRange src (w.within ps) start stop =
      (resolveNameRange sub w start stop).map (Selection.map (Window.absolute ⟨some ps⟩)) := by
  unfold resolveNameRange
  rw [rangeStart_within h hw, size_within h, map_bind]
  refine bind_congr_ok fun lo hlo => ?_
  cases stop with
  | some text =>
    show (rangeBound src (w.within ps) text >>= _) = Except.map _ (rangeBound sub w text >>= _)
    rw [rangeBound_within h hw, map_bind]
    refine bind_congr_ok fun hi hhi => ?_
    have hhi' := rangeBound_lt hhi
    show Except.ok (Selection.rows _) = .ok (Selection.rows _)
    rw [map_absolute_within fun r hr => lt_of_mem_between (rangeStart_lt hlo (by omega)) hhi' hr]
  | none =>
    by_cases hz : w.size sub = 0
    · simp only [if_pos hz]
      rfl
    · simp only [if_neg hz]
      show Except.ok (Selection.rows _) = .ok (Selection.rows _)
      rw [map_absolute_within fun r hr => lt_of_mem_between (rangeStart_lt hlo hz) (by omega) hr]

/-- A cell of a narrowed column is the cell of the row that stands there. -/
theorem cell?_absolute {c : Column} (hc : ∀ p ∈ ps, p < c.size) {r : Nat} (hr : r < ps.length) :
    c.cell? (Window.absolute ⟨some ps⟩ r) = (c.take ps).cell? r := by
  rw [Column.cell?_take hc]
  simp [Window.absolute, hr]

theorem checkBound_take (name : String) (c : Column) (bound : Option Cell) :
    checkBound name (c.take ps) bound = checkBound name c bound := by
  simp only [checkBound, Column.kind_take]

theorem resolveValueRange_within (h : src.Narrowed ps sub) (hw : w.InRange sub.rowCount) (name : String)
    (low high : Option Cell) :
    resolveValueRange src (w.within ps) name low high =
      (resolveValueRange sub w name low high).map (Selection.map (Window.absolute ⟨some ps⟩)) := by
  unfold resolveValueRange
  rw [h.column?_eq name]
  cases hc : src.column? name with
  | none => rfl
  | some c =>
    simp only [Option.map_some]
    rw [checkBound_take, checkBound_take, map_bind]
    refine bind_congr_ok fun _ _ => ?_
    rw [map_bind]
    refine bind_congr_ok fun _ _ => ?_
    show Except.ok (Selection.rows _) = .ok (Selection.rows _)
    rw [all_within h, List.filter_map]
    congr 3
    refine List.filter_congr fun r hr => ?_
    have hr' : r < ps.length := h.rowCount_eq ▸ lt_of_mem_all hw hr
    rw [Function.comp_apply, cell?_absolute (h.lt_size name c hc) hr']

theorem resolveIndex_within (h : src.Narrowed ps sub) (i : Int64) :
    resolveIndex src (w.within ps) i = (resolveIndex sub w i).map (Window.absolute ⟨some ps⟩) := by
  unfold resolveIndex
  rw [size_within h]
  cases hi : entryIndex i (w.size sub) with
  | none => rfl
  | some r => exact congrArg Except.ok (absolute_within (entryIndex_lt hi))

end Within

/-! ## All selectors -/

variable [Externals]

mutual

/-- What a selector without masks means in the narrowed source, moved back, is what it means in the window there. -/
theorem resolve_within {src sub : Source} {ps : List Nat} (h : src.Narrowed ps sub) {strict : Bool} :
    ∀ (sel : Selector) {w : Window}, sel.maskFree = true → w.InRange sub.rowCount →
      resolve src strict (w.within ps) sel =
        (resolve sub strict w sel).map (Selection.map (Window.absolute ⟨some ps⟩))
  | .all, w, _, _ => congrArg (fun rows => Except.ok (Selection.rows rows)) (all_within h)
  | .index i, w, _, _ => by
    simp only [resolve]
    rw [resolveIndex_within h, map_map, map_map]
    rfl
  | .name text, w, _, hw => resolveName_within h hw strict text
  | .address a, w, _, hw => by
    simp only [resolve]
    rw [directory_within h hw, size_within h, map_bind]
    exact bind_congr_ok fun d _ => single_within fun r hr => exactRow_lt hr
  | .slice start stop step, w, _, _ => by
    simp only [resolve]
    rw [size_within h, map_bind]
    refine bind_congr_ok fun rows hr => ?_
    exact congrArg (fun rows => Except.ok (Selection.rows rows)) (map_absolute_within (slice_lt hr))
  | .nameRange start stop, w, _, hw => resolveNameRange_within h hw start stop
  | .valueRange name low high, w, _, hw => resolveValueRange_within h hw name low high
  | .indices is, w, _, _ => by
    simp only [resolve]
    rw [funext (resolveIndex_within h), ← map_mapM, map_map, map_map]
    rfl
  | .names texts, w, _, hw => by
    simp only [resolve]
    rw [resolveNames_within h hw, map_map, map_map]
    rfl
  | .mask _, _, hf, _ => nomatch hf
  | .chain stages, w, hf, hw => resolveStages_within h stages hf hw

/-- What the stages of a chain mean in the narrowed source, moved back, is what they mean in the window there. -/
theorem resolveStages_within {src sub : Source} {ps : List Nat} (h : src.Narrowed ps sub) {strict : Bool} :
    ∀ (stages : List Selector) {w : Window}, Selector.maskFreeStages stages = true → w.InRange sub.rowCount →
      resolveStages src strict (w.within ps) stages =
        (resolveStages sub strict w stages).map (Selection.map (Window.absolute ⟨some ps⟩))
  | [], w, _, _ => congrArg (fun rows => Except.ok (Selection.rows rows)) (all_within h)
  | [stage], w, hf, hw => resolve_within h stage (Bool.and_eq_true_iff.mp hf).1 hw
  | stage :: next :: stages, w, hf, hw => by
    obtain ⟨hstage, hnext⟩ := Bool.and_eq_true_iff.mp hf
    simp only [resolveStages]
    rw [resolve_within h stage hstage hw, bind_map, map_bind]
    refine bind_congr_ok fun s hs => ?_
    rw [Selection.positions_map]
    -- the positions moved back are those of the stage's window, seen from the whole source
    exact resolveStages_within h (next :: stages) hnext (resolve_inRange stage hw hs).window

end

end NamedRows
