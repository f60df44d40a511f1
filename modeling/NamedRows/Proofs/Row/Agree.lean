import NamedRows.Proofs.Outcome
import NamedRows.Table.Run

/-!
# Sources that agree

What a selector means depends on a source only by the number of rows, the key column and its directory, the policy for
range ends, and the columns that value ranges look at (`Selector.ranged`). Sources that agree on these
(`Source.Agrees`) give the same rows or the same error (`resolve_congr`); the versions of their directories do not
matter.
-/

namespace NamedRows

mutual

/-- The columns that the value ranges of a selector look at, at any depth of its chains. -/
def Selector.ranged : Selector → List String
  | .valueRange column _ _ => [column]
  | .chain stages => rangedStages stages
  | _ => []

/-- The columns that the value ranges in the stages of a chain look at. -/
def Selector.rangedStages : List Selector → List String
  | [] => []
  | stage :: stages => stage.ranged ++ rangedStages stages

end

/-- Two sources with as many rows, named alike, under one policy. -/
structure Source.Agrees (src other : Source) : Prop where
  rowCount_eq : other.rowCount = src.rowCount
  key_eq : other.key = src.key
  overrun_eq : other.overrun = src.overrun
  keyColumn_eq : other.column? src.key = src.column? src.key
  directory_eq : other.directory.map Directory.unstamped = src.directory.map Directory.unstamped

section Agree

variable {src other : Source} {w : Window}

/-! ## Windows -/

theorem size_congr (h : src.Agrees other) (w : Window) : w.size other = w.size src := by
  obtain ⟨rows⟩ := w
  cases rows with
  | none => exact h.rowCount_eq
  | some rows => rfl

theorem all_congr (h : src.Agrees other) (w : Window) : w.all other = w.all src := by
  simp only [Window.all, h.rowCount_eq]

/-- What follows a look-up in a directory is the same, as long as it does not look at the version. -/
theorem directory_bind_congr {α : Type} (h : src.Agrees other) (w : Window) {k : Directory → Except Error α}
    (hk : ∀ d, k d.unstamped = k d) : (w.directory other >>= k) = (w.directory src >>= k) := by
  have hstamp : ∀ x : Except Error Directory, (x >>= k) = (x.map Directory.unstamped >>= k) := fun x => by
    rw [bind_map]
    exact bind_congr_ok fun d _ => (hk d).symm
  obtain ⟨rows⟩ := w
  cases rows with
  | none =>
    show (other.directory >>= k) = (src.directory >>= k)
    rw [hstamp other.directory, hstamp src.directory, h.directory_eq]
  | some rows => simp only [Window.directory, h.key_eq, h.keyColumn_eq]

/-! ## Selectors of each sort -/

theorem resolveName_congr [Externals] (h : src.Agrees other) (w : Window) (strict : Bool) (text : String) :
    resolveName other w strict text = resolveName src w strict text := by
  unfold resolveName
  rw [size_congr h, h.key_eq]
  exact directory_bind_congr h w fun _ => rfl

theorem resolveNames_congr [Externals] (h : src.Agrees other) (w : Window) (texts : List String) :
    resolveNames other w texts = resolveNames src w texts := by
  induction texts with
  | nil => rfl
  | cons text texts ih => simp only [resolveNames, resolveName_congr h, ih]

theorem rangeBound_congr [Externals] (h : src.Agrees other) (w : Window) (text : String) :
    rangeBound other w text = rangeBound src w text := by
  simp only [rangeBound, boundPosition]
  rw [size_congr h, h.key_eq, h.overrun_eq]
  exact directory_bind_congr h w fun _ => rfl

theorem resolveNameRange_congr [Externals] (h : src.Agrees other) (w : Window) (start stop : Option String) :
    resolveNameRange other w start stop = resolveNameRange src w start stop := by
  have hstart : rangeStart other w start = rangeStart src w start := by
    cases start with
    | none => rfl
    | some text => exact rangeBound_congr h w text
  unfold resolveNameRange
  rw [hstart, size_congr h]
  cases stop with
  | none => rfl
  | some text => simp only [rangeBound_congr h]

theorem resolveValueRange_congr (h : src.Agrees other) (w : Window) {name : String}
    (hc : other.column? name = src.column? name) (low high : Option Cell) :
    resolveValueRange other w name low high = resolveValueRange src w name low high := by
  unfold resolveValueRange
  rw [hc, all_congr h]

theorem resolveMask_congr (h : src.Agrees other) (w : Window) (flags : List Bool) :
    resolveMask other w flags = resolveMask src w flags := by
  unfold resolveMask
  rw [size_congr h, all_congr h, h.rowCount_eq]

theorem resolveIndex_congr (h : src.Agrees other) (w : Window) (i : Int64) :
    resolveIndex other w i = resolveIndex src w i := by
  unfold resolveIndex
  rw [size_congr h]

end Agree

/-! ## All selectors -/

variable [Externals]

mutual

/-- A selector means the same in sources that agree, if they do so on the columns that it looks at. -/
theorem resolve_congr {src other : Source} (h : src.Agrees other) {strict : Bool} : ∀ (sel : Selector) (w : Window),
    (∀ name ∈ sel.ranged, other.column? name = src.column? name) →
      resolve other strict w sel = resolve src strict w sel
  | .all, w, _ => congrArg (fun rows => Except.ok (Selection.rows rows)) (all_congr h w)
  | .index i, w, _ => congrArg (Except.map Selection.single) (resolveIndex_congr h w i)
  | .name text, w, _ => resolveName_congr h w strict text
  | .address a, w, _ => by
    simp only [resolve]
    rw [size_congr h]
    exact directory_bind_congr h w fun _ => rfl
  | .slice start stop step, w, _ => by
    simp only [resolve]
    rw [size_congr h]
  | .nameRange start stop, w, _ => resolveNameRange_congr h w start stop
  | .valueRange name low high, w, hc => resolveValueRange_congr h w (hc name List.mem_cons_self) low high
  | .indices is, w, _ => by
    simp only [resolve]
    rw [funext (resolveIndex_congr h w)]
  | .names texts, w, _ => congrArg (Except.map Selection.rows) (resolveNames_congr h w texts)
  | .mask flags, w, _ => resolveMask_congr h w flags
  | .chain stages, w, hc => resolveStages_congr h stages w hc

/-- The stages of a chain mean the same in sources that agree. -/
theorem resolveStages_congr {src other : Source} (h : src.Agrees other) {strict : Bool} :
    ∀ (stages : List Selector) (w : Window),
      (∀ name ∈ Selector.rangedStages stages, other.column? name = src.column? name) →
        resolveStages other strict w stages = resolveStages src strict w stages
  | [], w, _ => congrArg (fun rows => Except.ok (Selection.rows rows)) (all_congr h w)
  | [stage], w, hc => resolve_congr h stage w fun name hn => hc name (List.mem_append_left _ hn)
  | stage :: next :: stages, w, hc => by
    simp only [resolveStages]
    rw [resolve_congr h stage w fun name hn => hc name (List.mem_append_left _ hn)]
    refine bind_congr_ok fun s _ => ?_
    exact resolveStages_congr h (next :: stages) _ fun name hn => hc name (List.mem_append_right _ hn)

end

end NamedRows
