import NamedRows.Proofs.Name.Address
import NamedRows.Proofs.Row.Exact
import NamedRows.Proofs.Table.WellFormed
import NamedRows.Externals.Standard

/-!
# Rows by their own names

Every row of a table with a key column can be asked for by its name and the occurrence that it is of that name
(`Table.select_label`), and an address can be asked for by its text as well, as long as the text splits where it was put
together and is no name itself (`Table.select_render`). `Table.select_named` says both, and what follows for the text of
a row's own address.
-/

namespace NamedRows

/-- The address of a row by its own name and occurrence means the row. -/
theorem exactRow_label {d : Directory} {names : List String} (h : d.Lists names) {row k : Nat} {name : String}
    (hl : d.label? row = some (name, k)) (hr : row < names.length) (hn : row ≤ maxRows) {occurrence : Int64}
    (ho : occurrence.toInt = k) : exactRow d ⟨name, some occurrence, 0⟩ names.length = .ok row := by
  have hrow : IsOccurrence names name occurrence.toInt row :=
    h.row_eq_ok.mp (h.row_label hl hr ho)
  exact exactRow_of_occurrence h hrow (Int.add_zero _) hr hn

/-- A text that is no name itself is taken as the address that it is read as, if its name occurs. -/
theorem naming_address {d : Directory} {names : List String} (h : d.Lists names) {text : String} {a : Address}
    (htext : text ∉ names) (hparse : Address.parse text = .ok a) (hm : a.name ∈ names) : naming d text = .row a := by
  have htext' : ¬ d.contains text = true := fun hc => htext (h.contains_iff.mp hc)
  unfold naming
  rw [if_neg htext', hparse]
  simp only
  rw [if_pos (h.contains_iff.mpr hm)]

namespace Table

variable {t : Table Column}

/-- The directory of a table with a key column lists the labels of that column. -/
theorem exists_directory (h : t.WellFormed) {c : Column} (hc : t.column? t.config.key = some c) :
    ∃ d, t.directory = .ok d ∧ d.Lists c.labels.toList := by
  refine ⟨Directory.build c t.version, ?_, Directory.build_lists c t.version⟩
  rw [h.directory_eq, hc]

/-- The key column of a table has a label for each row. -/
theorem WellFormed.length_labels (h : t.WellFormed) {c : Column} (hc : t.column? t.config.key = some c) :
    c.labels.toList.length = t.rowCount := by
  rw [Array.length_toList, Column.size_labels, h.size_column hc]

section Directory

variable [Externals] {d : Directory} {c : Column} {strict : Bool}

/-- What an address means, once there is a directory. -/
theorem select_address (hd : t.directory = .ok d) (a : Address) :
    t.source.select (.address a) strict = (exactRow d a t.rowCount).map Selection.single := by
  show (t.directory >>= fun d => exactRow d a t.rowCount >>= fun row => .ok (Selection.single row)) = _
  rw [hd, ok_bind]
  cases exactRow d a t.rowCount <;> rfl

/-- A row is selected by the address of its label. -/
theorem select_label (hd : t.directory = .ok d) (hlists : d.Lists c.labels.toList)
    (hlen : c.labels.toList.length = t.rowCount) {row k : Nat} {name : String}
    (hl : d.label? row = some (name, k)) (hr : row < t.rowCount) (hn : row ≤ maxRows) {occurrence : Int64}
    (ho : occurrence.toInt = k) :
    t.source.select (.address ⟨name, some occurrence, 0⟩) strict = .ok (.single row) := by
  rw [select_address hd, ← hlen, exactRow_label hlists hl (hlen ▸ hr) hn ho]
  rfl

/-- The text of an address that is read back selects what the address does. -/
theorem select_render (hd : t.directory = .ok d) (hlists : d.Lists c.labels.toList) {a : Address}
    (hm : a.name ∈ c.labels) (hparse : Address.parse a.render = .ok a) (hfresh : a.render ∉ c.labels) :
    t.source.select (.name a.render) strict = t.source.select (.address a) strict := by
  have hfresh' : a.render ∉ c.labels.toList := fun hl => hfresh (Array.mem_def.mpr hl)
  have hnaming := naming_address hlists hfresh' hparse (Array.mem_def.mp hm)
  show resolveName t.source {} strict a.render = _
  unfold resolveName
  show (t.directory >>= _) = (t.directory >>= _)
  rw [hd, ok_bind, ok_bind, hnaming]

end Directory

/-- In a table with a key column every row has a name and an occurrence, and the address that these make selects the
row. (Rows beyond 64 bits are left out; no memory holds them.) The text of an address selects what the address does, be
it a row or an error, if its name occurs and is unmarked, its shift is not the least one, and the text is no name
itself. So under these conditions a row is selected by its name, two colons and the number of its occurrence. -/
theorem select_named [Externals] (h : Reachable t) {c : Column} (hc : t.column? t.config.key = some c) (strict : Bool) :
    (∃ d, t.directory = .ok d ∧ ∀ row < t.rowCount, row ≤ maxRows → ∃ name k, d.label? row = some (name, k) ∧
      t.source.select (.address ⟨name, some (Int64.ofNat k), 0⟩) strict = .ok (.single row) ∧
      (Address.Unmarked name → name ++ "::" ++ toString k ∉ c.labels →
        t.source.select (.name (name ++ "::" ++ toString k)) strict = .ok (.single row))) ∧
    ∀ a : Address, a.name ∈ c.labels → Address.Unmarked a.name → a.shift ≠ Int64.minValue → a.render ∉ c.labels →
      t.source.select (.name a.render) strict = t.source.select (.address a) strict := by
  have hwf := h.wellFormed
  obtain ⟨d, hd, hlists⟩ := exists_directory hwf hc
  have hlen : c.labels.toList.length = t.rowCount := by
    rw [Array.length_toList, Column.size_labels, hwf.size_column hc]
  refine ⟨⟨d, hd, fun row hrow hmemory => ?_⟩, fun a hm hname hmin hfresh => ?_⟩
  · obtain ⟨name, k, hm, hk, hlabel⟩ := hlists.exists_label (hlen ▸ hrow)
    -- no more rows come before this one than 64 bits count
    have hk' : (Int64.ofNat k).toInt = k := by
      have hmax : maxRows < 2 ^ 63 := by decide
      exact Int64.toInt_ofNat_of_lt (by omega)
    have haddress : t.source.select (.address ⟨name, some (Int64.ofNat k), 0⟩) strict = .ok (.single row) :=
      select_label hd hlists hlen hlabel hrow hmemory hk'
    refine ⟨name, k, hlabel, haddress, fun hunmarked hfresh => ?_⟩
    rw [← Address.render_occurrence name hk'] at hfresh ⊢
    have hmin : (0 : Int64) ≠ Int64.minValue := by decide
    have hparse : Address.parse (Address.render ⟨name, some (Int64.ofNat k), 0⟩) = .ok ⟨name, some (Int64.ofNat k), 0⟩ :=
      hunmarked.parse_render hmin
    exact (select_render hd hlists (Array.mem_def.mpr hm) hparse hfresh).trans haddress
  · exact select_render hd hlists hm (hname.parse_render hmin) hfresh

/-- The last row of the name `ip2` is its occurrence 1. Three rows before its last occurrence no row is left, for the
address and for its text. -/
theorem select_named_lattice :
    lattice.column? lattice.config.key = some (.text #["ip1", "ip2", "ip2", "ip3", "tab$end"]) ∧
      lattice.select (.address ⟨"ip2", some 1, 0⟩) = .ok (.single 2) ∧
      lattice.select (.name "ip2::1") = .ok (.single 2) ∧
      lattice.select (.address ⟨"ip2", some (-1), -3⟩) = .error (.outOfRange (-1) (.rows 5)) ∧
      lattice.select (.name "ip2::-1<<3") = .error (.outOfRange (-1) (.rows 5)) := by
  have hc : lattice.column? lattice.config.key = some (.text #["ip1", "ip2", "ip2", "ip3", "tab$end"]) := rfl
  have hname : Address.Unmarked "ip2" := ⟨by decide, by decide, by decide⟩
  obtain ⟨⟨d, hd, hrows⟩, htext⟩ := select_named lattice_reachable hc true
  obtain rfl : Directory.build (.text #["ip1", "ip2", "ip2", "ip3", "tab$end"]) 0 = d := Except.ok.inj hd
  obtain ⟨name, k, hlabel, haddress, hown⟩ := hrows 2 (by decide) (by decide)
  obtain ⟨rfl, rfl⟩ : "ip2" = name ∧ 1 = k := by
    have hlabel' : some ("ip2", 1) = some (name, k) := hlabel
    simpa using hlabel'
  have hown' : "ip2" ++ "::" ++ toString 1 = "ip2::1" := rfl
  rw [hown'] at hown
  have hbefore : lattice.select (.address ⟨"ip2", some (-1), -3⟩) = .error (.outOfRange (-1) (.rows 5)) := rfl
  have hrender : Address.render ⟨"ip2", some (-1), -3⟩ = "ip2::-1<<3" := rfl
  have hsame := htext ⟨"ip2", some (-1), -3⟩ (by simp [Column.labels]) hname (by decide)
  rw [hrender] at hsame
  exact ⟨hc, haddress, hown hname (by simp [Column.labels]), hbefore,
    (hsame (by simp [Column.labels])).trans hbefore⟩

end Table

end NamedRows
