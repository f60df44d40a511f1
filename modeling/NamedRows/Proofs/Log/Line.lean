import Mathlib
import NamedRows.Log.Line
import NamedRows.Proofs.Json.Escaping
import NamedRows.Proofs.Json.Reader

/-!
# Log lines are what they hold

A line is the document of its members (`Line.document`), and no control character stands in it before its end
(`Line.isControl_body`). The order of the fields is the stable one by their keys, so it is that of any other list of the
same fields, as long as no key repeats (`Line.sorted_of_perm`).
-/

namespace NamedRows.Log

/-! ## Escapes -/

theorem escape_of_letterFor? {c letter : Char} (h : letterFor? c = some letter) : Json.Escape letter c := by
  unfold letterFor? at h
  split at h
  · cases h
  · exact Json.escape_of_letterFor? h

theorem faithful_escaping : escaping.Faithful where
  letter h := escape_of_letterFor? h
  coded h := by
    simp only [escaping, isControl, Bool.or_eq_true, Bool.and_eq_true, decide_eq_true_eq] at h
    omega
  plain hletter hcoded := by
    simp only [escaping, isControl, Bool.or_eq_false_iff, decide_eq_false_iff_not] at hcoded
    refine ⟨by omega, ?_, ?_⟩
    · rintro rfl
      cases hletter
    · rintro rfl
      cases hletter

/-! ## Control characters -/

theorem isControl_letter {c letter : Char} (h : Json.Escape letter c) : isControl letter = false := by
  cases h <;> decide

/-- Nothing that is written is a control character. -/
theorem isControl_char (c : Char) : ∀ d ∈ escaping.char c, isControl d = false := by
  unfold Json.Escaping.char
  split
  case h_1 letter hletter =>
    intro d hd
    rcases List.mem_cons.mp hd with rfl | hd
    · decide
    · cases List.mem_singleton.mp hd
      exact isControl_letter (escape_of_letterFor? hletter)
  case h_2 =>
    split
    case isTrue =>
      have hdigit : ∀ k < 16, isControl (Nat.digitChar k) = false := by decide
      intro d hd
      simp only [Json.hex4, List.map_cons, List.map_nil, List.mem_cons, List.not_mem_nil, or_false] at hd
      rcases hd with rfl | rfl | rfl | rfl | rfl | rfl
      · decide
      · decide
      all_goals exact hdigit _ (Nat.mod_lt _ (by decide))
    case isFalse hcoded =>
      intro d hd
      cases List.mem_singleton.mp hd
      exact Bool.eq_false_iff.mpr hcoded

theorem isControl_quoted (s : String) : ∀ d ∈ escaping.quoted s, isControl d = false := by
  intro d hd
  simp only [Json.Escaping.quoted, Json.Escaping.text, List.cons_append, List.mem_cons, List.mem_append,
    List.mem_flatMap, List.not_mem_nil, or_false] at hd
  rcases hd with rfl | ⟨c, -, hd⟩ | rfl
  · decide
  · exact isControl_char c d hd
  · decide

namespace Line

theorem isControl_member (key value : String) : ∀ d ∈ member key value, isControl d = false := by
  intro d hd
  rcases List.mem_append.mp hd with hd | hd
  · exact isControl_quoted key d hd
  · rcases List.mem_cons.mp hd with rfl | hd
    · decide
    · exact isControl_quoted value d hd

/-- The text of some members. -/
def joined (ms : List (String × String)) : List Char := List.intercalate [','] (ms.map fun m => member m.1 m.2)

theorem joined_singleton (m : String × String) : joined [m] = member m.1 m.2 := List.intercalate_singleton

theorem joined_cons_cons (m m' : String × String) (ms : List (String × String)) :
    joined (m :: m' :: ms) = member m.1 m.2 ++ ',' :: joined (m' :: ms) := by
  unfold joined
  rw [List.map_cons, List.map_cons, List.intercalate_cons_cons, List.append_assoc]
  rfl

/-- The text of the object, which is the line without its end. -/
def body (line : Line) : List Char := '\x7b' :: (joined line.members ++ ['\x7d'])

theorem toList_render (line : Line) : line.render.toList = line.body ++ ['\n'] := by
  rw [render, String.toList_ofList]
  simp [body, joined]

theorem isControl_joined : (ms : List (String × String)) → ∀ d ∈ joined ms, isControl d = false
  | [], d, hd => absurd hd List.not_mem_nil
  | [m], d, hd => by
    rw [joined_singleton] at hd
    exact isControl_member _ _ d hd
  | m :: m' :: ms, d, hd => by
    rw [joined_cons_cons] at hd
    rcases List.mem_append.mp hd with hd | hd
    · exact isControl_member _ _ d hd
    · rcases List.mem_cons.mp hd with rfl | hd
      · decide
      · exact isControl_joined (m' :: ms) d hd

theorem isControl_body (line : Line) : ∀ d ∈ line.body, isControl d = false := by
  intro d hd
  rcases List.mem_cons.mp hd with rfl | hd
  · decide
  · rcases List.mem_append.mp hd with hd | hd
    · exact isControl_joined _ d hd
    · cases List.mem_singleton.mp hd
      decide

/-! ## The object of a line -/

/-- The member of an object that has a key and a value. -/
def entry (m : String × String) : Option String × Json := (some m.1, .string (some m.2))

theorem blanks_nil : Json.Blanks [] := fun _ h => absurd h List.not_mem_nil

theorem derives_member (m : String × String) : Json.Derives (.member (entry m)) (member m.1 m.2) := by
  have hvalue := Json.Derives.element blanks_nil (faithful_escaping.derives m.2) blanks_nil
  have hmember := Json.Derives.member blanks_nil (faithful_escaping.spells m.1) blanks_nil hvalue
  simpa [Json.textOf_toNat, member, entry, Json.Escaping.quoted] using hmember

theorem derives_members (m : String × String) : (ms : List (String × String)) →
    Json.Derives (.members ((m :: ms).map entry)) (joined (m :: ms))
  | [] => by
    rw [joined_singleton]
    exact .lastMember (derives_member m)
  | m' :: ms => by
    rw [joined_cons_cons]
    exact .members (derives_member m) (derives_members m' ms)

/-- A line is a document of its members, with a line end after it. -/
theorem document (line : Line) : Json.Document line.render (.object (line.members.map entry)) := by
  have hobject : Json.Derives (.value (.object (line.members.map entry))) line.body :=
    .object (derives_members ("event", line.event) (("severity", line.severity.name) :: sorted line.fields))
  have hend : Json.Blanks ['\n'] := by simp [Json.Blanks]
  unfold Json.Document
  rw [toList_render]
  exact .element blanks_nil hobject hend

/-! ## The order of the fields -/

variable {fields others : List (String × String)}

/-- A list is another one in the order of the keys, with the fields of one key in the order that they had. -/
structure Sorts (fields sorted : List (String × String)) : Prop where
  perm : sorted.Perm fields
  keys : sorted.Pairwise fun a b => a.1 ≤ b.1
  stable (key : String) : sorted.filter (fun m => m.1 = key) = fields.filter fun m => m.1 = key

theorem sorts_sorted (fields : List (String × String)) : Sorts fields (sorted fields) := by
  have htrans (a b c : String × String) (hab : decide (a.1 ≤ b.1) = true) (hbc : decide (b.1 ≤ c.1) = true) :
      decide (a.1 ≤ c.1) = true := by
    rw [decide_eq_true_eq] at hab hbc ⊢
    exact String.le_trans hab hbc
  have htotal (a b : String × String) : (decide (a.1 ≤ b.1) || decide (b.1 ≤ a.1)) = true := by
    rw [Bool.or_eq_true, decide_eq_true_eq, decide_eq_true_eq]
    exact String.le_total a.1 b.1
  have hperm : (sorted fields).Perm fields := List.mergeSort_perm _ _
  refine ⟨hperm, ?_, fun key => ?_⟩
  · exact (List.pairwise_mergeSort htrans htotal fields).imp of_decide_eq_true
  · have hequal : (fields.filter fun m => m.1 = key).Pairwise fun a b => decide (a.1 ≤ b.1) = true := by
      refine List.pairwise_of_forall_mem_list fun a ha b hb => decide_eq_true ?_
      have hakey : a.1 = key := of_decide_eq_true (List.mem_filter.mp ha).2
      have hbkey : b.1 = key := of_decide_eq_true (List.mem_filter.mp hb).2
      exact (hakey.trans hbkey.symm) ▸ String.le_refl a.1
    have hsublist := (List.sublist_mergeSort htrans htotal hequal List.filter_sublist).filter fun m => m.1 = key
    rw [List.filter_filter] at hsublist
    simp only [Bool.and_self] at hsublist
    exact (hsublist.eq_of_length (hperm.filter _).length_eq.symm).symm

/-- The fields in order do not depend on the order that they came in, if no key repeats. -/
theorem sorted_of_perm (h : others.Perm fields) (hkeys : (fields.map Prod.fst).Nodup) :
    sorted others = sorted fields := by
  have ho := sorts_sorted others
  have hf := sorts_sorted fields
  refine List.Perm.eq_of_pairwise ?_ ho.keys hf.keys (ho.perm.trans (h.trans hf.perm.symm))
  intro a b ha hb hab hba
  have hafields : a ∈ fields := h.mem_iff.mp (ho.perm.mem_iff.mp ha)
  exact List.inj_on_of_nodup_map hkeys hafields (hf.perm.mem_iff.mp hb) (String.le_antisymm hab hba)

/-- A line has one line end, which is its last character, whatever the texts in it are. By the grammar it holds the
object of its event, its severity and its fields in the order of their keys, and nothing else; and that is what is read
from it. Fields that come in another order give the same line, if no key repeats. -/
theorem render_faithful (line : Line) :
    (∃ body, line.render.toList = body ++ ['\n'] ∧ '\n' ∉ body) ∧
      (∃ fields, Sorts line.fields fields ∧
        let object := Json.object ((("event", line.event) :: ("severity", line.severity.name) :: fields).map entry)
        Json.Document line.render object ∧ (∀ v, Json.Document line.render v → v = object) ∧
          Json.parse? line.render = some object) ∧
      ∀ others, others.Perm line.fields → (line.fields.map Prod.fst).Nodup →
        ({ line with fields := others }).render = line.render := by
  refine ⟨⟨line.body, line.toList_render, fun hmem => ?_⟩, ⟨sorted line.fields, sorts_sorted _, ?_⟩, ?_⟩
  · exact absurd (line.isControl_body '\n' hmem) (by decide)
  · exact ⟨line.document, fun v hv => hv.unique line.document, line.document.parse?_eq⟩
  · intro others hperm hkeys
    simp only [render, members, sorted_of_perm hperm hkeys]

/-- A line with marks and controls in its texts. -/
theorem render_faithful_escapes :
    let line : Line := ⟨.warn, "a\nb", [("z", "\"\\\t"), ("k", "\x07\x85é")]⟩
    let turned : Line := ⟨.warn, "a\nb", [("k", "\x07\x85é"), ("z", "\"\\\t")]⟩
    line.render =
        "\x7b\"event\":\"a\\nb\",\"severity\":\"WARN\",\"k\":\"\\u0007\\u0085é\",\"z\":\"\\\"\\\\\\t\"\x7d\n" ∧
      turned.render = line.render ∧ ∃ body, line.render.toList = body ++ ['\n'] ∧ '\n' ∉ body := by
  intro line turned
  obtain ⟨hend, -, horder⟩ := render_faithful line
  exact ⟨by cbv, horder turned.fields (List.Perm.swap ..) (by decide), hend⟩

end Line

end NamedRows.Log
