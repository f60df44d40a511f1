import Mathlib.Data.List.Perm.Basic
import NamedRows.Proofs.Table.WellFormed
import NamedRows.Table.Draw

/-!
# Orders of columns

- Drawing from a pool loses nothing and makes nothing up, whatever the pool looks like by then (`draw_perm`); under
  distinct names it draws what a look-up in the pool at the start would find (`draw_eq_filterMap`).
- An order of columns is accepted if it is a permutation of their names (`badOrder?_eq_none_iff_perm`), and otherwise
  the error tells whether a name that is no column stands before the first repetition (`family_of_badOrder?`).
- An order that is accepted leaves every name its column (`column?_order`) and is what drawing the columns from a pool
  comes to (`draw_columns`).
-/

namespace NamedRows.Table

open scoped List

variable {α κ : Type}

/-! ## Pools -/

/-- An entry that is overwritten makes room for the new one. -/
theorem cons_set_perm (entries : List α) {i : Nat} (h : i < entries.length) (a : α) :
    entries[i] :: entries.set i a ~ a :: entries := by
  have hsplit : entries.take i ++ entries[i] :: entries.drop (i + 1) = entries := by
    rw [List.getElem_cons_drop, List.take_append_drop]
  rw [List.set_eq_take_append_cons_drop, if_pos h]
  calc entries[i] :: (entries.take i ++ a :: entries.drop (i + 1))
    _ ~ entries[i] :: a :: (entries.take i ++ entries.drop (i + 1)) := List.perm_middle.cons _
    _ ~ a :: entries[i] :: (entries.take i ++ entries.drop (i + 1)) := .swap _ _ _
    _ ~ a :: (entries.take i ++ entries[i] :: entries.drop (i + 1)) := List.perm_middle.symm.cons a
    _ ~ a :: entries := by rw [hsplit]

/-- The entry that is taken out is the only one that is gone. -/
theorem cons_swapRemove_perm (entries : List α) {i : Nat} (h : i < entries.length) :
    entries[i] :: swapRemove entries i ~ entries := by
  rcases entries.eq_nil_or_concat with rfl | ⟨front, last, rfl⟩
  · cases h
  · simp only [List.concat_eq_append, List.length_append, List.length_singleton] at h
    simp only [List.concat_eq_append, swapRemove, List.getLast?_concat, List.dropLast_concat]
    by_cases hi : i < front.length
    · rw [List.getElem_append_left hi]
      exact (cons_set_perm front hi last).trans (List.perm_append_singleton last front).symm
    · have hlast : i = front.length := by omega
      subst hlast
      rw [List.getElem_concat_length rfl, List.set_eq_of_length_le (Nat.le_refl _)]
      exact (List.perm_append_singleton last front).symm

variable {pool rest : List (String × κ)} {name : String} {p : String × κ} {names : List String}

theorem drawn?_eq_some (h : drawn? pool name = some (p, rest)) : p.1 = name ∧ p :: rest ~ pool := by
  obtain ⟨i, hi, h⟩ := Option.bind_eq_some_iff.mp h
  obtain ⟨q, hq, h⟩ := Option.bind_eq_some_iff.mp h
  cases h
  obtain ⟨hlt, hname, -⟩ := List.findIdx?_eq_some_iff_getElem.mp hi
  obtain ⟨-, rfl⟩ := List.getElem?_eq_some_iff.mp hq
  exact ⟨of_decide_eq_true hname, cons_swapRemove_perm pool hlt⟩

/-- Only a name that is not there draws nothing. -/
theorem lookup_of_drawn?_eq_none (h : drawn? pool name = none) : pool.lookup name = none := by
  refine List.lookup_eq_none_iff.mpr fun p hp => bne_iff_ne.mpr fun hname => ?_
  cases hi : pool.findIdx? fun q => decide (q.1 = name) with
  | none => exact absurd (List.findIdx?_eq_none_iff.mp hi p hp) (by simp [hname])
  | some i =>
    obtain ⟨hlt, -, -⟩ := List.findIdx?_eq_some_iff_getElem.mp hi
    simp [drawn?, hi, hlt] at h

/-- What is drawn and what is left are the pool, in another order. -/
theorem draw_perm (pool : List (String × κ)) (names : List String) :
    (draw pool names).1 ++ (draw pool names).2 ~ pool := by
  induction names generalizing pool with
  | nil => exact .refl pool
  | cons name names ih =>
    cases h : drawn? pool name with
    | none => simpa only [draw, h] using ih pool
    | some r =>
      obtain ⟨p, rest⟩ := r
      simp only [draw, h, List.cons_append]
      exact ((ih rest).cons p).trans (drawn?_eq_some h).2

/-- Under distinct names the disorder in the pool does not matter: what is drawn is what a look-up in the pool at the
start would find. The invariant is that the pool has the entries that are not drawn yet, so later names are still found
there. -/
theorem draw_eq_filterMap (hpool : (pool.map Prod.fst).Nodup) (hnames : names.Nodup) :
    (draw pool names).1 = names.filterMap fun name => (pool.lookup name).map fun c => (name, c) := by
  induction names generalizing pool with
  | nil => rfl
  | cons name names ih =>
    obtain ⟨hnew, hlater⟩ := List.nodup_cons.mp hnames
    cases h : drawn? pool name with
    | none =>
      simp only [draw, h, List.filterMap_cons, lookup_of_drawn?_eq_none h, Option.map_none]
      exact ih hpool hlater
    | some r =>
      obtain ⟨⟨first, c⟩, rest⟩ := r
      obtain ⟨rfl, hperm⟩ := drawn?_eq_some h
      have hkeys : (first :: rest.map Prod.fst).Nodup := (hperm.map Prod.fst).nodup_iff.mpr hpool
      have hfound : pool.lookup first = some c := lookup_of_mem hpool (hperm.subset List.mem_cons_self)
      have hrest : ∀ other ∈ names, rest.lookup other = pool.lookup other := fun other hother => by
        have hne : other ≠ first := fun e => hnew (e ▸ hother)
        rw [← lookup_perm hperm hkeys, List.lookup_cons, beq_eq_false_iff_ne.mpr hne]
      simp only [draw, h, List.filterMap_cons, hfound, Option.map_some]
      rw [ih (List.nodup_cons.mp hkeys).2 hlater]
      exact congrArg _ (List.filterMap_congr fun other hother => by rw [hrest other hother])

/-! ## Orders that are accepted -/

variable {t : Table κ} {order : List String}

/-- A permutation of distinct names of columns lists each of them. -/
theorem names_order (hn : t.names.Nodup) (h : order ~ t.names) : (t.apply (.order order)).names = order := by
  have hfound : ∀ name ∈ order, ∃ c, t.column? name = some c := fun name hname => by
    obtain ⟨p, hp, rfl⟩ := List.mem_map.mp (h.subset hname)
    exact ⟨p.2, lookup_of_mem hn hp⟩
  rw [names, apply, List.map_filterMap]
  calc order.filterMap (fun name => ((t.column? name).map fun c => (name, c)).map Prod.fst)
      = order.filterMap some := List.filterMap_congr fun name hname => by
        obtain ⟨c, hc⟩ := hfound name hname
        rw [hc]
        rfl
    _ = order := List.filterMap_some

/-- Every name keeps its column. -/
theorem column?_order (h : order ~ t.names) (name : String) :
    (t.apply (.order order)).column? name = t.column? name := by
  refine column?_apply (fun e => by cases e) fun names e hname => ?_
  cases e
  exact h.symm.subset hname

/-- Drawing the columns in their new order leaves none of them in the pool. -/
theorem draw_columns (hn : t.names.Nodup) (h : order ~ t.names) :
    draw t.columns order = ((t.apply (.order order)).columns, []) := by
  have hdrawn : (draw t.columns order).1 = (t.apply (.order order)).columns :=
    draw_eq_filterMap hn (h.nodup_iff.mpr hn)
  have hlength : (t.apply (.order order)).columns.length = t.columns.length := by
    have := congrArg List.length (names_order hn h)
    simpa only [names, List.length_map, h.length_eq] using this
  refine Prod.ext hdrawn (List.eq_nil_of_length_eq_zero ?_)
  have hall := (draw_perm t.columns order).length_eq
  rw [List.length_append, hdrawn] at hall
  show (draw t.columns order).2.length = 0
  omega

/-! ## Orders that are refused -/

/-- An order has a name that is no column, and nothing repeats up to there. -/
def Strays (t : Table κ) (order : List String) : Prop :=
  ∃ before name after, order = before ++ name :: after ∧ (before ++ [name]).Nodup ∧ name ∉ t.names

section

variable {f : String → Error.Construction} {seen before after : List String}

theorem badName?_cons_of_not_mem (h : name ∉ t.names) (names : List String) :
    t.badName? f seen (name :: names) = some (.undefined name) := by
  have hno : t.contains name = false := by simpa [contains] using h
  simp [badName?, hno]

theorem badName?_cons_of_mem (h : name ∈ t.names) (names : List String) :
    t.badName? f seen (name :: names) =
      if name ∈ seen then some (.construction (f name)) else t.badName? f (name :: seen) names := by
  simp [badName?, contains_iff_mem.mpr h]

/-- A name that is no column is met before any repetition after it, if none of the names before it was seen. -/
theorem badName?_of_stray (hnodup : before.Nodup) (hseen : ∀ n ∈ before, n ∉ seen) (hname : name ∉ t.names) :
    ∃ other, t.badName? f seen (before ++ name :: after) = some (.undefined other) := by
  induction before generalizing seen with
  | nil => exact ⟨name, badName?_cons_of_not_mem hname after⟩
  | cons n before ih =>
    obtain ⟨hn, hbefore⟩ := List.nodup_cons.mp hnodup
    by_cases hmem : n ∈ t.names
    · have hrest : ∀ m ∈ before, m ∉ n :: seen := fun m hm =>
        List.not_mem_cons_of_ne_of_not_mem (fun e => hn (e ▸ hm)) (hseen m (List.mem_cons_of_mem n hm))
      rw [List.cons_append, badName?_cons_of_mem hmem, if_neg (hseen n List.mem_cons_self)]
      exact ih hbefore hrest
    · exact ⟨n, badName?_cons_of_not_mem hmem _⟩

/-- The check fails at a repetition, or else at a name that is no column, and nothing repeats up to there. The names
that were seen already are columns. -/
theorem stray_of_badName? {e : Error} (h : t.badName? f seen order = some e) (hseen : ∀ n ∈ seen, n ∈ t.names) :
    e.family = .construction ∨ ∃ before name after, order = before ++ name :: after ∧ (before ++ [name]).Nodup ∧
      (∀ n ∈ before ++ [name], n ∉ seen) ∧ name ∉ t.names := by
  induction order generalizing seen with
  | nil => cases h
  | cons n order ih =>
    by_cases hmem : n ∈ t.names
    · rw [badName?_cons_of_mem hmem] at h
      split at h
      · cases h
        exact .inl rfl
      · rename_i hunseen
        refine (ih h (List.forall_mem_cons.mpr ⟨hmem, hseen⟩)).imp_right ?_
        rintro ⟨before, name, after, rfl, hnodup, hnew, hname⟩
        refine ⟨n :: before, name, after, rfl, ?_, ?_, hname⟩
        · exact List.nodup_cons.mpr ⟨fun hm => hnew n hm List.mem_cons_self, hnodup⟩
        · exact List.forall_mem_cons.mpr ⟨hunseen, fun m hm hs => hnew m hm (List.mem_cons_of_mem n hs)⟩
    · refine .inr ⟨[], n, order, rfl, by simp, fun m hm hs => hmem ?_, hmem⟩
      exact List.mem_singleton.mp hm ▸ hseen m hs

end

section

variable {t : Table Column}

/-- An order is accepted if it is a permutation of the names. -/
theorem badOrder?_eq_none_iff_perm (hn : t.names.Nodup) : t.badOrder? order = none ↔ order ~ t.names := by
  rw [badOrder?_eq_none]
  constructor
  · rintro ⟨hnodup, hm, hl⟩
    exact (List.perm_ext_iff_of_nodup hnodup hn).mpr fun name => ⟨hm name, mem_of_mem_names hnodup hm hl⟩
  · intro h
    exact ⟨h.nodup_iff.mpr hn, fun name hname => h.subset hname, by rw [h.length_eq, names, List.length_map]⟩

/-- Which error an order that is refused gives. -/
theorem family_of_badOrder? {e : Error} (h : t.badOrder? order = some e) :
    (t.Strays order → e.family = .name) ∧ (¬t.Strays order → e.family = .construction) := by
  constructor
  · rintro ⟨before, name, after, rfl, hnodup, hname⟩
    obtain ⟨other, hother⟩ :
        ∃ other, t.badName? .duplicateInOrder [] (before ++ name :: after) = some (.undefined other) :=
      badName?_of_stray (hnodup.sublist (List.sublist_append_left before [name])) (fun n _ => List.not_mem_nil) hname
    simp only [badOrder?, hother] at h
    cases h
    rfl
  · intro hno
    unfold badOrder? at h
    split at h
    · rename_i e' hbad
      cases h
      refine (stray_of_badName? hbad (List.forall_mem_nil _)).resolve_right ?_
      rintro ⟨before, name, after, horder, hnodup, -, hname⟩
      exact hno ⟨before, name, after, horder, hnodup, hname⟩
    · split at h
      · cases h
      · cases h
        rfl

end

end NamedRows.Table
