import NamedRows.Proofs.Session.Sound
import NamedRows.Proofs.Table.Forget

/-!
# The same columns under other handles

A store may have the buffers of another one under other handles, among buffers of its own (`Renamed`). Writing one
buffer on both sides keeps this, also when it is written in place on one side only: then the handle that stands for it
is redirected (`Renamed.written`). Tables and readings match when they differ in their handles as the stores do, and
otherwise only in details that are left out (`Table.Matches`, `Reading.Matches`).
-/

namespace NamedRows

/-! ## Stores -/

/-- The buffers of a store are in another one, under other handles. -/
structure Renamed (φ : Handle → Handle) (b b' : Store) : Prop where
  lt : ∀ h : Handle, h.index < b.size → (φ h).index < b'.size
  inj : ∀ h g : Handle, h.index < b.size → g.index < b.size → φ h = φ g → h = g
  read_eq : ∀ h : Handle, h.index < b.size → b'.read (φ h) = b.read h

/-- The handles with another name for one of them. -/
def redirect (φ : Handle → Handle) (h g : Handle) : Handle → Handle := fun k => if k = h then g else φ k

theorem redirect_self (φ : Handle → Handle) (h g : Handle) : redirect φ h g h = g := if_pos rfl

theorem redirect_of_ne (φ : Handle → Handle) {h k : Handle} (g : Handle) (hk : k ≠ h) : redirect φ h g k = φ k :=
  if_neg hk

/-- The handle of a new buffer is none of those before. -/
theorem Store.hold_ne_of_lt {b : Store} {k : Handle} (c : Column) (hk : k.index < b.size) : k ≠ (b.hold c).2 :=
  fun e => Nat.lt_irrefl b.size (by rw [e] at hk; exact hk)

theorem Store.lt_of_ne_hold {b : Store} {k : Handle} (c : Column) (hk : k.index < (b.hold c).1.size)
    (hne : k ≠ (b.hold c).2) : k.index < b.size := by
  rw [size_hold] at hk
  refine Nat.lt_of_le_of_ne (Nat.le_of_lt_succ hk) fun e => hne ?_
  show k = ⟨b.size⟩
  rw [← e]

namespace Renamed

variable {φ : Handle → Handle} {b b' b₁ b₁' : Store} {h g : Handle}

/-- One buffer is written or new on both sides, under a handle that no other buffer has, and nothing else changes. -/
theorem written (hr : Renamed φ b b') (hbefore : ∀ k : Handle, k.index < b₁.size → k ≠ h → k.index < b.size)
    (hkeep : ∀ k : Handle, k.index < b.size → k ≠ h → b₁.read k = b.read k ∧ b₁'.read (φ k) = b'.read (φ k) ∧ φ k ≠ g)
    (hg : g.index < b₁'.size) (hsize : b'.size ≤ b₁'.size) (hsame : b₁'.read g = b₁.read h) :
    Renamed (redirect φ h g) b₁ b₁' where
  lt k hk := by
    by_cases he : k = h
    · rw [he, redirect_self]
      exact hg
    · rw [redirect_of_ne φ g he]
      exact Nat.lt_of_lt_of_le (hr.lt k (hbefore k hk he)) hsize
  inj k l hk hl heq := by
    by_cases hke : k = h <;> by_cases hle : l = h
    · rw [hke, hle]
    · rw [hke, redirect_self, redirect_of_ne φ g hle] at heq
      exact absurd heq.symm (hkeep l (hbefore l hl hle) hle).2.2
    · rw [hle, redirect_self, redirect_of_ne φ g hke] at heq
      exact absurd heq (hkeep k (hbefore k hk hke) hke).2.2
    · rw [redirect_of_ne φ g hke, redirect_of_ne φ g hle] at heq
      exact hr.inj k l (hbefore k hk hke) (hbefore l hl hle) heq
  read_eq k hk := by
    by_cases he : k = h
    · rw [he, redirect_self, hsame]
    · obtain ⟨hb, hb', -⟩ := hkeep k (hbefore k hk he) he
      rw [redirect_of_ne φ g he, hb, hb', hr.read_eq k (hbefore k hk he)]

/-- Both sides get a new buffer. -/
theorem hold (hr : Renamed φ b b') (c : Column) :
    Renamed (redirect φ (b.hold c).2 (b'.hold c).2) (b.hold c).1 (b'.hold c).1 :=
  hr.written (fun k hk hne => Store.lt_of_ne_hold c hk hne)
    (fun k hk _ =>
      ⟨Store.read_hold_of_lt c hk, Store.read_hold_of_lt c (hr.lt k hk), Store.hold_ne_of_lt c (hr.lt k hk)⟩)
    (Store.lt_hold b' c) (by rw [Store.size_hold]; exact Nat.le_succ b'.size)
    (by rw [Store.read_hold_self, Store.read_hold_self])

/-- A buffer is overwritten on both sides. -/
theorem overwrite (hr : Renamed φ b b') (hh : h.index < b.size) (c : Column) :
    Renamed (redirect φ h (φ h)) (b.overwrite h c) (b'.overwrite (φ h) c) := by
  refine hr.written (fun k hk _ => by rwa [Store.size_overwrite] at hk) (fun k hk hne => ?_)
    (by rw [Store.size_overwrite]; exact hr.lt h hh) (Nat.le_of_eq (Store.size_overwrite b' (φ h) c).symm)
    (by rw [Store.read_overwrite_self c hh, Store.read_overwrite_self c (hr.lt h hh)])
  have hne' : φ k ≠ φ h := fun e => hne (hr.inj k h hk hh e)
  exact ⟨Store.read_overwrite_of_ne c hne, Store.read_overwrite_of_ne c hne', hne'⟩

/-- A buffer is overwritten on the left; on the right the contents get a buffer of their own. -/
theorem overwrite_hold (hr : Renamed φ b b') (hh : h.index < b.size) (c : Column) :
    Renamed (redirect φ h (b'.hold c).2) (b.overwrite h c) (b'.hold c).1 := by
  refine hr.written (fun k hk _ => by rwa [Store.size_overwrite] at hk) (fun k hk hne => ?_)
    (Store.lt_hold b' c) (by rw [Store.size_hold]; exact Nat.le_succ b'.size)
    (by rw [Store.read_overwrite_self c hh, Store.read_hold_self])
  exact ⟨Store.read_overwrite_of_ne c hne, Store.read_hold_of_lt c (hr.lt k hk), Store.hold_ne_of_lt c (hr.lt k hk)⟩

/-- Only the right side gets a new buffer, and nothing stands for it on the left. -/
theorem hold_right (hr : Renamed φ b b') (c : Column) : Renamed φ b (b'.hold c).1 where
  lt h hh := Nat.lt_of_lt_of_le (hr.lt h hh) (by rw [Store.size_hold]; exact Nat.le_succ b'.size)
  inj := hr.inj
  read_eq h hh := (Store.read_hold_of_lt c (hr.lt h hh)).trans (hr.read_eq h hh)

end Renamed

/-! ## Tables -/

namespace Table

variable {f : Forgetting} {φ ψ : Handle → Handle} {b b' : Store} {t t' : Table Handle} {name : String}

/-- Two tables differ in the names of their handles, and in details that are left out. -/
def Matches (f : Forgetting) (φ : Handle → Handle) (t t' : Table Handle) : Prop := (t.map φ).forget f = t'.forget f

theorem map_id {κ : Type} (t : Table κ) : t.map id = t := by simp [map]

theorem columns_eq_of_forget {κ : Type} {v v' : Table κ} (h : v.forget f = v'.forget f) : v.columns = v'.columns :=
  congrArg (fun u => u.columns) h

theorem Matches.column?_eq (h : Matches f φ t t') (name : String) : t'.column? name = (t.column? name).map φ := by
  rw [← column?_map, column?, column?, columns_eq_of_forget h]

/-- Matching tables have the same cells, but for what is left out. -/
theorem Matches.view_eq (h : Matches f φ t t') (hr : Renamed φ b b') (hlt : ∀ g ∈ t.handles, g.index < b.size) :
    (t.map b.read).forget f = (t'.map b'.read).forget f := by
  have hread : (t.map φ).map b'.read = t.map b.read := by
    rw [map_map]
    exact map_congr fun g hg => hr.read_eq g (hlt g hg)
  calc (t.map b.read).forget f
      = ((t.map φ).forget f).map b'.read := by rw [← hread]; rfl
    _ = (t'.forget f).map b'.read := by rw [h]
    _ = (t'.map b'.read).forget f := rfl

theorem Matches.apply (h : Matches f φ t t') (c : Change Handle) : Matches f φ (t.apply c) (t'.apply (c.map φ)) := by
  unfold Matches
  rw [map_apply, ← apply_forget, h, apply_forget]

/-- A column is put into both tables, while its handle may have had another name before. -/
theorem Matches.put (h : Matches f φ t t') (hψ : ∀ p ∈ t.columns, p.1 ≠ name → ψ p.2 = φ p.2) (g : Handle) :
    Matches f ψ (t.apply (.put name g)) (t'.apply (.put name (ψ g))) := by
  unfold Matches
  rw [map_apply, Change.map, map_apply_put_congr hψ, ← apply_forget, h, apply_forget]

end Table

/-! ## Readings -/

namespace Reading

variable {f : Forgetting} {φ : Handle → Handle}

/-- The reading with its columns replaced by others. -/
def map {κ μ : Type} (g : κ → μ) : Reading κ → Reading μ
  | .cell c => .cell c
  | .column c => .column (g c)
  | .table t => .table (t.map g)

theorem map_id {κ : Type} (r : Reading κ) : r.map id = r := by
  cases r with
  | table t => exact congrArg table t.map_id
  | _ => rfl

/-- Two readings differ in the names of their handles, and in details that are left out. -/
def Matches (f : Forgetting) (φ : Handle → Handle) (r r' : Reading Handle) : Prop := (r.map φ).forget f = r'.forget f

end Reading

namespace Session

variable {f : Forgetting} {φ : Handle → Handle} {t t' : Table Handle}

/-- What is read without a copy has the handles of the table. -/
theorem sharedReading_forget (f : Forgetting) (φ : Handle → Handle) (t : Table Handle) (q : Query) :
    sharedReading? ((t.map φ).forget f) q = (sharedReading? t q).map fun r => (r.map φ).forget f := by
  have hcols (names : List String) : (((t.map φ).forget f).cols names).toOption.map Reading.table =
      ((t.cols names).toOption.map Reading.table).map fun r => (r.map φ).forget f := by
    rw [Table.cols_forget, Table.cols_map]
    cases t.cols names <;> rfl
  cases q with
  | get columns =>
    cases columns with
    | one text =>
      show ((t.map φ).column? text).map Reading.column = ((t.column? text).map Reading.column).map _
      rw [Table.column?_map, Option.map_map, Option.map_map]
      rfl
    | many names => exact hcols names
  | cols names => exact hcols names
  | rows sel =>
    cases sel with
    | all =>
      simp only [sharedReading?, Table.derived_forget]
      rfl
    | _ => rfl
  | _ => rfl

/-- From matching tables the same is read without a copy. -/
theorem sharedReading_matches (h : Table.Matches f φ t t') (q : Query) :
    (sharedReading? t q).map (fun r => (r.map φ).forget f) = (sharedReading? t' q).map (Reading.forget f) := by
  have hsame : (sharedReading? t' q).map (fun r => (r.map id).forget f) =
      (sharedReading? t' q).map (Reading.forget f) := by simp only [Reading.map_id]
  rw [← hsame, ← sharedReading_forget, ← sharedReading_forget, Table.map_id, h]

end Session

end NamedRows
