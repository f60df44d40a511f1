import Mathlib.Data.List.Basic
import Mathlib.Data.List.Flatten
import NamedRows.Proofs.Session.Renamed

/-!
# Sessions that differ in nothing that counts

Two sessions are alike if they have the same columns under the same names, kept in buffers that may be others, and
tables that differ at most in details that are left out (`Session.Alike`). Only some names count: the session on the
right may have more tables and columns, under names that do not. A buffer that is used twice on the left is used twice
on the right (`Alike.count_le`). One that is used once on the left may be used more often on the right; the contents
that are written in place on the left then go into a new buffer on the right, which nothing else stands for
(`Alike.write`).
-/

namespace NamedRows.Session

variable {f : Forgetting} {own : String → Bool} {φ ψ : Handle → Handle} {s s' s₁ s₁' : Session} {t t' : Table Handle}
  {name on : String} {g h : Handle}

/-! ## Uses -/

theorem Sound.lt_of_mem (hs : Sound s) (hg : g ∈ s.handles) : g.index < s.store.size := by
  rcases List.mem_append.mp hg with hg | hg
  · obtain ⟨p, hp, hg⟩ := List.mem_flatMap.mp hg
    exact (hs.backs p hp).lt g hg
  · obtain ⟨p, hp, rfl⟩ := List.mem_map.mp hg
    exact hs.kept_lt p hp

/-- The session without the kept column of a name. -/
def withoutKept (s : Session) (name : String) : Session := { s with kept := s.kept.filter fun p => p.1 ≠ name }

theorem Extends.withoutKept (h : Extends s s') (name : String) :
    Extends (s.withoutKept name) (s'.withoutKept name) where
  tables_eq := h.tables_eq
  kept_eq := congrArg (List.filter fun p : String × Handle => p.1 ≠ name) h.kept_eq
  size_le := h.size_le

theorem mem_handles_without (hg : g ∈ (s.without name).handles) : g ∈ s.handles :=
  ((List.filter_sublist.flatMap _).append_right _).subset hg

theorem mem_handles_withoutKept (hg : g ∈ (s.withoutKept name).handles) : g ∈ s.handles :=
  ((List.filter_sublist.map _).append_left _).subset hg

/-- A handle of a table that is also used elsewhere than in it is used twice. -/
theorem two_le_count_without (hon : (on, t) ∈ s.tables) (hgt : g ∈ t.handles) (hg : g ∈ (s.without on).handles) :
    2 ≤ s.handles.count g := by
  rcases List.mem_append.mp hg with hg | hg
  · obtain ⟨p, hp, hgp⟩ := List.mem_flatMap.mp hg
    obtain ⟨hp, hne⟩ := List.mem_filter.mp hp
    have hne : p ≠ (on, t) := fun e => by simp [e] at hne
    exact two_le_count_tables hp hon hne hgp hgt
  · obtain ⟨p, hp, rfl⟩ := List.mem_map.mp hg
    exact two_le_count_kept hon hp hgt

/-- A handle of a kept column that is also used elsewhere is used twice. -/
theorem two_le_count_withoutKept (hk : (name, g) ∈ s.kept) (hg : g ∈ (s.withoutKept name).handles) :
    2 ≤ s.handles.count g := by
  rcases List.mem_append.mp hg with hg | hg
  · obtain ⟨p, hp, hgp⟩ := List.mem_flatMap.mp hg
    exact two_le_count_kept (q := (name, g)) hp hk hgp
  · obtain ⟨p, hp, he⟩ := List.mem_map.mp hg
    obtain ⟨hp, hne⟩ := List.mem_filter.mp hp
    have hne : p ≠ (name, g) := fun e => by simp [e] at hne
    have htwo : 2 ≤ (s.kept.map Prod.snd).count g := two_le_count_map hp hk hne he
    rw [count_handles]
    omega

/-! ## Alike sessions -/

/-- The sessions differ at most in their buffers, in the order of their tables and in details of them, and in what is
kept under names that do not count. -/
structure Alike (f : Forgetting) (own : String → Bool) (φ : Handle → Handle) (s s' : Session) : Prop where
  renamed : Renamed φ s.store s'.store
  kept_eq : (s'.kept.filter fun p => own p.1) = s.kept.map fun p => (p.1, φ p.2)
  tables_perm : (s.tables.map fun p => (p.1, (p.2.map φ).forget f)).Perm
    ((s'.tables.map fun p => (p.1, p.2.forget f)).filter fun p => own p.1)

theorem alike_empty (f : Forgetting) (own : String → Bool) (least least' : Log.Severity) :
    Alike f own id { least } { least := least' } where
  renamed := ⟨fun _ h => h, fun _ _ _ _ h => h, fun _ _ => rfl⟩
  kept_eq := rfl
  tables_perm := .refl _

/-- A handle is used at least as often on the right. -/
theorem Alike.count_le (h : Alike f own φ s s') (g : Handle) : s.handles.count g ≤ s'.handles.count (φ g) := by
  have hforget (tables : List (String × Table Handle)) : (tables.flatMap fun p => p.2.handles) =
      (tables.map fun p => (p.1, p.2.forget f)).flatMap fun p => p.2.handles := by
    rw [List.flatMap_map]
    rfl
  have htables : (s.tables.flatMap fun p => p.2.handles).map φ =
      (s.tables.map fun p => (p.1, (p.2.map φ).forget f)).flatMap fun p => p.2.handles := by
    rw [List.map_flatMap, List.flatMap_map]
    refine List.flatMap_congr fun p _ => ?_
    simp only [Table.handles, Table.forget, Table.map, List.map_map, Function.comp_def]
  have hkept : (s.kept.map Prod.snd).map φ = (s'.kept.filter fun p => own p.1).map Prod.snd := by
    rw [h.kept_eq, List.map_map, List.map_map]
    rfl
  have h₁ : ((s.tables.flatMap fun p => p.2.handles).map φ).count (φ g) ≤
      (s'.tables.flatMap fun p => p.2.handles).count (φ g) := by
    rw [htables, (h.tables_perm.flatMap_right _).count_eq, hforget s'.tables]
    exact (List.filter_sublist.flatMap _).count_le (φ g)
  have h₂ : ((s.kept.map Prod.snd).map φ).count (φ g) ≤ (s'.kept.map Prod.snd).count (φ g) := by
    rw [hkept]
    exact (List.filter_sublist.map _).count_le (φ g)
  have h₃ := List.count_le_count_map (f := φ) (l := s.tables.flatMap fun p => p.2.handles) (x := g)
  have h₄ := List.count_le_count_map (f := φ) (l := s.kept.map Prod.snd) (x := g)
  rw [count_handles, count_handles]
  omega

/-- Under a name that counts there are matching tables, or none. -/
theorem Alike.lookup_eq (h : Alike f own φ s s') (hs : Sound s) (hn : own name = true) :
    (s.tables.lookup name).map (fun t => (t.map φ).forget f) = (s'.tables.lookup name).map (Table.forget f) := by
  have hnames : ((s.tables.map fun p => (p.1, (p.2.map φ).forget f)).map Prod.fst).Nodup := by
    rw [List.map_map]
    exact hs.nodup
  rw [← Table.lookup_map, ← Table.lookup_map, Table.lookup_perm h.tables_perm hnames, Table.lookup_filter _ own hn]

theorem Alike.kept_lookup_eq (h : Alike f own φ s s') (hn : own name = true) :
    s'.kept.lookup name = (s.kept.lookup name).map φ := by
  rw [← Table.lookup_map, ← h.kept_eq, Table.lookup_filter _ own hn]

theorem Alike.without (h : Alike f own φ s s') (name : String) : Alike f own φ (s.without name) (s'.without name) where
  renamed := h.renamed
  kept_eq := h.kept_eq
  tables_perm := by
    have := h.tables_perm.filter fun p => p.1 ≠ name
    rw [List.filter_filter] at this
    simp only [Session.without, List.filter_map, List.filter_filter, Function.comp_def] at this ⊢
    simpa only [Bool.and_comm] using this

theorem Alike.withoutKept (h : Alike f own φ s s') (name : String) :
    Alike f own φ (s.withoutKept name) (s'.withoutKept name) where
  renamed := h.renamed
  kept_eq := by
    have := congrArg (List.filter fun p => p.1 ≠ name) h.kept_eq
    simp only [Session.withoutKept, List.filter_map, List.filter_filter, Function.comp_def] at this ⊢
    simpa only [Bool.and_comm] using this
  tables_perm := h.tables_perm

/-- Sessions stay alike while nothing happens but to buffers, and the handles in use have the names they had. -/
theorem Alike.follow (h : Alike f own φ s s') (he : Extends s s₁) (he' : Extends s' s₁')
    (hr : Renamed ψ s₁.store s₁'.store) (hψ : ∀ g ∈ s.handles, ψ g = φ g) : Alike f own ψ s₁ s₁' where
  renamed := hr
  kept_eq := by
    rw [he.kept_eq, he'.kept_eq, h.kept_eq]
    refine List.map_congr_left fun p hp => ?_
    rw [hψ p.2 (List.mem_append_right _ (List.mem_map_of_mem hp))]
  tables_perm := by
    have hsame : (s.tables.map fun p => (p.1, (p.2.map ψ).forget f)) =
        s.tables.map fun p => (p.1, (p.2.map φ).forget f) := by
      refine List.map_congr_left fun p hp => ?_
      rw [Table.map_congr fun g hg => hψ g (List.mem_append_left _ (List.mem_flatMap.mpr ⟨p, hp, hg⟩))]
    rw [he.tables_eq, he'.tables_eq, hsame]
    exact h.tables_perm

/-! ## Names -/

theorem entered_map {α β : Type} (g : α → β) (entries : List (String × α)) (name : String) (a : α) :
    (entered entries name a).map (fun p => (p.1, g p.2)) =
      entered (entries.map fun p => (p.1, g p.2)) name (g a) := by
  simp [entered, List.filter_map, Function.comp_def]

theorem entered_filter {α : Type} (entries : List (String × α)) (a : α) (hn : own name = true) :
    ((entered entries name a).filter fun p => own p.1) = entered (entries.filter fun p => own p.1) name a := by
  simp [entered, hn, List.filter_filter, Bool.and_comm]

/-- What is entered under a name that does not count is not seen among those that do. -/
theorem entered_filter_of_not {α : Type} (entries : List (String × α)) (a : α) (hn : own name = false) :
    ((entered entries name a).filter fun p => own p.1) = entries.filter fun p => own p.1 := by
  have hne (p : String × α) : (own p.1 && decide (p.1 ≠ name)) = own p.1 := by
    by_cases hp : p.1 = name
    · simp [hp, hn]
    · simp [hp]
  rw [entered, List.filter_cons_of_neg (by simp [hn]), List.filter_filter]
  simp only [hne]

theorem Alike.bindTable (h : Alike f own φ s s') (hn : own name = true) (ht : t.Matches f φ t') :
    Alike f own φ (s.bindTable name t) (s'.bindTable name t') where
  renamed := h.renamed
  kept_eq := h.kept_eq
  tables_perm := by
    have hforget : (t.map φ).forget f = t'.forget f := ht
    have hmap : ((entered s.tables name t).map fun p => (p.1, (p.2.map φ).forget f)) =
        entered (s.tables.map fun p => (p.1, (p.2.map φ).forget f)) name ((t.map φ).forget f) :=
      entered_map (fun t : Table Handle => (t.map φ).forget f) s.tables name t
    simp only [Session.bindTable]
    rw [hmap, entered_map (Table.forget f), entered_filter _ _ hn, hforget]
    exact (h.tables_perm.filter _).cons _

theorem Alike.bindColumn (h : Alike f own φ s s') (hn : own name = true) (g : Handle) :
    Alike f own φ (s.bindColumn name g) (s'.bindColumn name (φ g)) where
  renamed := h.renamed
  kept_eq := by
    simp only [Session.bindColumn]
    rw [entered_map, entered_filter _ _ hn, h.kept_eq]
  tables_perm := h.tables_perm

theorem bindColumn_withoutKept (s : Session) (name : String) (g : Handle) :
    (s.withoutKept name).bindColumn name g = s.bindColumn name g := by
  simp [Session.bindColumn, Session.withoutKept, entered]

/-! ## Buffers -/

/-- New buffers are held on both sides, and the handles in use have the names they had. -/
theorem Alike.hold (h : Alike f own φ s s') (hs : Sound s) (c : Column) :
    ∃ ψ, (∀ k : Handle, k.index < s.store.size → ψ k = φ k) ∧ ψ (s.hold c).2 = (s'.hold c).2 ∧
      Alike f own ψ (s.hold c).1 (s'.hold c).1 := by
  have hsame (k : Handle) (hk : k.index < s.store.size) : redirect φ (s.hold c).2 (s'.hold c).2 k = φ k :=
    redirect_of_ne φ (s'.hold c).2 (Store.hold_ne_of_lt c hk)
  refine ⟨redirect φ (s.hold c).2 (s'.hold c).2, hsame, redirect_self φ _ _, ?_⟩
  exact h.follow (hold_grows s c).toExtends (hold_grows s' c).toExtends (h.renamed.hold c) fun g hg =>
    hsame g (hs.lt_of_mem hg)

theorem Alike.holdAll (h : Alike f own φ s s') (hs : Sound s) (columns : List (String × Column)) :
    ∃ ψ, (∀ k : Handle, k.index < s.store.size → ψ k = φ k) ∧
      ((s.holdAll columns).2.map fun p => (p.1, ψ p.2)) = (s'.holdAll columns).2 ∧
      Alike f own ψ (s.holdAll columns).1 (s'.holdAll columns).1 := by
  induction columns generalizing s s' φ with
  | nil => exact ⟨φ, fun _ _ => rfl, rfl, h⟩
  | cons p rest ih =>
    obtain ⟨name, c⟩ := p
    have hgrows := hold_grows s c
    obtain ⟨ψ, hsame, hnew, hheld⟩ := h.hold hs c
    obtain ⟨χ, hsame', hrest, hlast⟩ := ih hheld (hs.grows hgrows)
    refine ⟨χ, fun k hk => (hsame' k (Nat.lt_of_lt_of_le hk hgrows.size_le)).trans (hsame k hk), ?_, hlast⟩
    have hfirst : χ (s.hold c).2 = (s'.hold c).2 := (hsame' _ (lt_hold s c)).trans hnew
    simp only [Session.holdAll, List.map_cons, hfirst, hrest]

theorem Alike.holdTable (h : Alike f own φ s s') (hs : Sound s) {cells cells' : Table Column}
    (hc : cells.forget f = cells'.forget f) :
    ∃ ψ, (s.holdTable cells).2.Matches f ψ (s'.holdTable cells').2 ∧
      Alike f own ψ (s.holdTable cells).1 (s'.holdTable cells').1 := by
  obtain ⟨ψ, -, hcolumns, hlast⟩ := h.holdAll hs cells.columns
  have hsame : cells'.columns = cells.columns := (Table.columns_eq_of_forget hc).symm
  simp only [Session.holdTable, hsame]
  refine ⟨ψ, ?_, hlast⟩
  simp only [Table.forget, Table.mk.injEq] at hc
  simp only [Table.Matches, Table.map, Table.forget, Table.mk.injEq]
  exact ⟨hcolumns, hc.2.1, hc.2.2.1, trivial⟩

/-- The same contents are written on both sides. Only the handle that is written may get another name, and only if it is
not used twice: then it may be in another buffer on the right, because it is used more often there. -/
theorem Alike.write (h : Alike f own φ s s') (target : Option Handle)
    (ht : ∀ g, target = some g → g.index < s.store.size) (c : Column) :
    ∃ ψ, (∀ k : Handle, k.index < s.store.size → (target = some k → 2 ≤ s.handles.count k) → ψ k = φ k) ∧
      ψ (s.write target c).2 = (s'.write (target.map φ) c).2 ∧
      Renamed ψ (s.write target c).1.store (s'.write (target.map φ) c).1.store := by
  have hnew (k : Handle) (hk : k.index < s.store.size) : redirect φ (s.hold c).2 (s'.hold c).2 k = φ k :=
    redirect_of_ne φ (s'.hold c).2 (Store.hold_ne_of_lt c hk)
  cases target with
  | none => exact ⟨_, fun k hk _ => hnew k hk, redirect_self φ _ _, h.renamed.hold c⟩
  | some g =>
    have hg : g.index < s.store.size := ht g rfl
    have hle := h.count_le g
    simp only [Session.write, Option.map_some, Session.overwrite]
    by_cases hcount : s.handles.count g ≤ 1
    · have hother (g' k : Handle) (htwo : some g = some k → 2 ≤ s.handles.count k) : redirect φ g g' k = φ k := by
        refine redirect_of_ne φ g' fun e => ?_
        subst e
        have := htwo rfl
        omega
      rw [if_pos hcount]
      by_cases hcount' : s'.handles.count (φ g) ≤ 1
      · rw [if_pos hcount']
        exact ⟨_, fun k _ htwo => hother (φ g) k htwo, redirect_self φ _ _, h.renamed.overwrite hg c⟩
      · rw [if_neg hcount']
        exact ⟨_, fun k _ htwo => hother (s'.hold c).2 k htwo, redirect_self φ _ _, h.renamed.overwrite_hold hg c⟩
    · rw [if_neg hcount, if_neg (by omega)]
      exact ⟨_, fun k hk _ => hnew k hk, redirect_self φ _ _, h.renamed.hold c⟩

end NamedRows.Session
