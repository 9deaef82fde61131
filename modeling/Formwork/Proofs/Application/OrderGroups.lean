import Formwork.Proofs.Application.Buckets
import Formwork.Row.Order

/-!
# Order groups and buckets

The key of an order group joins the area of a row, its tab, its sub-tab and its relationship by
colons, and rows of one bucket have one key. The joined text tells the names apart only where they
have equally many colons: rows of one key whose tabs or sub-tabs differ in this stand in different
buckets.
-/
namespace Formwork

/-- How many colons a name has. -/
def colons (name : String) : Nat :=
  name.toList.count ':'

/-- A text is cut at a separator in one way only, if it is known how many of them stand before. -/
theorem append_cons_inj_of_count {α : Type} [BEq α] [LawfulBEq α] {x : α} {a : List α} :
    ∀ {b c d : List α}, a.count x = c.count x → a ++ x :: b = c ++ x :: d → a = c ∧ b = d := by
  induction a with
  | nil =>
    intro b c d hcount h
    cases c with
    | nil => exact ⟨rfl, (List.cons.inj h).2⟩
    | cons y c =>
      obtain ⟨rfl, -⟩ := List.cons.inj h
      simp at hcount
  | cons y a ih =>
    intro b c d hcount h
    cases c with
    | nil =>
      obtain ⟨rfl, -⟩ := List.cons.inj h
      simp at hcount
    | cons z c =>
      obtain ⟨rfl, hrest⟩ := List.cons.inj h
      simp only [List.count_cons, Nat.add_right_cancel_iff] at hcount
      obtain ⟨rfl, rfl⟩ := ih hcount hrest
      exact ⟨rfl, rfl⟩

theorem colon_join_inj {start a b c d : String} (hcolons : colons a = colons c)
    (h : start ++ a ++ ":" ++ b = start ++ c ++ ":" ++ d) : a = c ∧ b = d := by
  have hlist : a.toList ++ ':' :: b.toList = c.toList ++ ':' :: d.toList := by
    simpa using congrArg String.toList h
  obtain ⟨ha, hb⟩ := append_cons_inj_of_count hcolons hlist
  exact ⟨String.toList_inj.mp ha, String.toList_inj.mp hb⟩

namespace Bucket

/-- The key of the order group of the rows of a bucket. -/
def key : Bucket → String
  | .list => "list"
  | .header tab subTab => "header:" ++ tab ++ ":" ++ subTab.getD ""
  | .table tab subTab relationship =>
    "detail:" ++ tab ++ ":" ++ subTab.getD "" ++ ":" ++ relationship

/-- How many colons the names of the tab and of the sub-tab have. -/
def nameColons : Bucket → Nat × Nat
  | .list => (0, 0)
  | .header tab subTab => (colons tab, colons (subTab.getD ""))
  | .table tab subTab _ => (colons tab, colons (subTab.getD ""))

/-- The sub-tab, if there is one, has a name. -/
def Named : Bucket → Prop
  | .list => True
  | .header _ subTab => subTab ≠ some ""
  | .table _ subTab _ => subTab ≠ some ""

theorem getD_inj {a b : Option String} (ha : a ≠ some "") (hb : b ≠ some "")
    (h : a.getD "" = b.getD "") : a = b := by
  cases a <;> cases b <;> simp_all

/-- A key begins with the first letter of the area. -/
theorem head?_key (b : Bucket) :
    b.key.toList.head? = some (match b with
      | .list => 'l'
      | .header _ _ => 'h'
      | .table _ _ _ => 'd') := by
  cases b <;> simp [key]

/-- The key and the colons of its names tell a bucket. -/
theorem key_inj {b b' : Bucket} (hb : b.Named) (hb' : b'.Named) (hkey : b.key = b'.key)
    (hcolons : b.nameColons = b'.nameColons) : b = b' := by
  have hhead := congrArg (fun name : String => name.toList.head?) hkey
  simp only [head?_key] at hhead
  cases b with
  | list =>
    cases b' with
    | list => rfl
    | header | table => simp at hhead
  | header tab subTab =>
    cases b' with
    | header tab' subTab' =>
      obtain ⟨htab, -⟩ := Prod.mk.inj hcolons
      obtain ⟨rfl, hsub⟩ := colon_join_inj htab hkey
      rw [getD_inj hb hb' hsub]
    | list | table => simp at hhead
  | table tab subTab relationship =>
    cases b' with
    | table tab' subTab' relationship' =>
      obtain ⟨htab, hsubTab⟩ := Prod.mk.inj hcolons
      have hcut : "detail:" ++ tab ++ ":" ++ (subTab.getD "" ++ ":" ++ relationship) =
          "detail:" ++ tab' ++ ":" ++ (subTab'.getD "" ++ ":" ++ relationship') := by
        simpa only [key, String.append_assoc] using hkey
      obtain ⟨rfl, -⟩ := colon_join_inj htab hcut
      obtain ⟨hsub, rfl⟩ := colon_join_inj hsubTab hkey
      rw [getD_inj hb hb' hsub]
    | list | header => simp at hhead

end Bucket

namespace Row

/-- How many colons the names of the tab and of the sub-tab have by which a row is grouped. A list
row is grouped by no name. -/
def nameColons (s : Settings) (r : Row) : Nat × Nat :=
  match r.area with
  | .list => (0, 0)
  | _ => (colons (r.tab s), colons r.subTabName.words)

theorem getD_subTab? (s : Settings) (r : Row) :
    (r.subTab? s none).getD "" = r.subTabName.words := by
  by_cases h : r.subTabName.truthy = true <;> simp [subTab?, Value.words, h]

/-- The key of a row is the key of its bucket. -/
theorem groupKey_eq_key {s : Settings} {r : Row} {b : Bucket} (h : r.bucket? s none = some b) :
    r.groupKey s = b.key := by
  unfold bucket? at h
  unfold groupKey
  cases harea : r.area with
  | other word => simp [harea] at h
  | list | header | detail =>
    simp only [harea, Option.some.injEq] at h
    subst h
    simp only [Bucket.key, getD_subTab?, tab, table]

theorem nameColons_eq {s : Settings} {r : Row} {b : Bucket} (h : r.bucket? s none = some b) :
    r.nameColons s = b.nameColons := by
  unfold bucket? at h
  unfold nameColons
  cases harea : r.area with
  | other word => simp [harea] at h
  | list | header | detail =>
    simp only [harea, Option.some.injEq] at h
    subst h
    simp only [Bucket.nameColons, getD_subTab?]

theorem named_of_bucket? {s : Settings} {r : Row} {b : Bucket} (htext : r.NamesSubTab)
    (h : r.bucket? s none = some b) : b.Named := by
  have hsub : r.subTab? s none ≠ some "" := by
    intro hempty
    obtain ⟨ht, hname⟩ := (htext.subTab?_eq_some s "").mp hempty
    simp [hname, Value.truthy] at ht
  unfold bucket? at h
  cases harea : r.area with
  | other word => simp [harea] at h
  | list =>
    simp only [harea, Option.some.injEq] at h
    subst h
    exact True.intro
  | header | detail =>
    simp only [harea, Option.some.injEq] at h
    subst h
    exact hsub

theorem exists_bucket? {r : Row} (h : isKnownArea r.area = true) (s : Settings)
    (c : Option SubTabEntries) : ∃ b, r.bucket? s c = some b := by
  unfold bucket?
  cases harea : r.area with
  | other word => simp [harea, isKnownArea] at h
  | list | header | detail => exact ⟨_, rfl⟩

end Row

namespace Application

variable {s : Settings} {m : Option Metadata} {labels : List (String × String)}
  {c : Option SubTabEntries} {rows : List Row} {src : IdSource}

/-- The field of a row stands in the bucket of the row and in no other. -/
theorem mem_bucket_iff (htext : ∀ r ∈ rows, r.NamesSubTab) {x : Row × Field}
    (hx : x ∈ rows.zip (fieldsOf s m c src rows)) (b : Bucket) :
    x.2 ∈ ((ofRows s m labels c rows).run src).1.bucket b ↔ x.1.bucket? s c = some b := by
  have hfield : x.2.toRow.bucket? s none = x.1.bucket? s c := by
    obtain ⟨i, hi, rfl⟩ := List.mem_iff_getElem.mp hx
    simp only [List.getElem_zip, fieldsOf, List.getElem_mapIdx]
    rw [Row.placed_bucket?, Row.cleared_bucket?]
  rw [run_ofRows, bucket_ofFields fun f hf => namesSubTab_of_mem_fieldsOf htext hf,
    List.mem_filter, beq_iff_eq, hfield]
  exact and_iff_right (List.of_mem_zip hx).2

/-- **Rows of one bucket are rows of one order group.** Of rows with sub-tabs that are texts, two
rows of known areas stand in one bucket of their tree if and only if they have one group key and the
names of their tabs and of their sub-tabs have equally many colons. Where sub-tabs are configured,
the key is that of the row whose sub-tab is cleared. -/
theorem share_bucket_iff_groupKey (s : Settings) (m : Option Metadata)
    (labels : List (String × String)) (c : Option SubTabEntries) (rows : List Row) (src : IdSource)
    (htext : ∀ r ∈ rows, r.NamesSubTab) (x y : Row × Field)
    (hx : x ∈ rows.zip (fieldsOf s m c src rows)) (hy : y ∈ rows.zip (fieldsOf s m c src rows))
    (hknown : Row.isKnownArea x.1.area = true) (hknown' : Row.isKnownArea y.1.area = true) :
    let tree := ((ofRows s m labels c rows).run src).1
    (∃ b, x.2 ∈ tree.bucket b ∧ y.2 ∈ tree.bucket b) ↔
      (x.1.cleared s c).groupKey s = (y.1.cleared s c).groupKey s ∧
        (x.1.cleared s c).nameColons s = (y.1.cleared s c).nameColons s := by
  intro tree
  obtain ⟨b, hb⟩ := Row.exists_bucket? hknown s c
  obtain ⟨b', hb'⟩ := Row.exists_bucket? hknown' s c
  have hsame : (∃ k, x.2 ∈ tree.bucket k ∧ y.2 ∈ tree.bucket k) ↔ b = b' := by
    simp only [tree, mem_bucket_iff htext hx, mem_bucket_iff htext hy, hb, hb', Option.some.injEq]
    exact ⟨fun ⟨k, hk, hk'⟩ => hk.trans hk'.symm, fun h => ⟨b, rfl, h.symm⟩⟩
  rw [← Row.cleared_bucket?] at hb hb'
  have hnamed : b.Named :=
    Row.named_of_bucket? ((htext _ (List.of_mem_zip hx).1).cleared s c) hb
  have hnamed' : b'.Named :=
    Row.named_of_bucket? ((htext _ (List.of_mem_zip hy).1).cleared s c) hb'
  rw [hsame, Row.groupKey_eq_key hb, Row.groupKey_eq_key hb', Row.nameColons_eq hb,
    Row.nameColons_eq hb']
  constructor
  · rintro rfl
    exact ⟨rfl, rfl⟩
  · rintro ⟨hkey, hcolons⟩
    exact Bucket.key_inj hnamed hnamed' hkey hcolons

/-- Two detail rows under names with colons. -/
theorem share_bucket_iff_groupKey_colons :
    let r : Row := { area := .detail, tabName := .text "A:B", subTabName := .text "C:",
                     relationship := .text "LINES" }
    let rows : List Row := [r, { r with label := .text "X" }]
    let pairs := rows.zip (fieldsOf .builtin none none ⟨"1", 0⟩ rows)
    let tree := ((ofRows .builtin none [] none rows).run ⟨"1", 0⟩).1
    (∀ r ∈ rows, r.NamesSubTab) ∧ ∃ x ∈ pairs, ∃ y ∈ pairs,
      Row.isKnownArea x.1.area = true ∧ Row.isKnownArea y.1.area = true ∧ x.2.id ≠ y.2.id ∧
        ∃ b, x.2 ∈ tree.bucket b ∧ y.2 ∈ tree.bucket b := by
  intro r rows pairs tree
  have htext : ∀ r ∈ rows, r.NamesSubTab := by
    simp only [rows, List.forall_mem_cons, List.not_mem_nil, false_imp_iff, implies_true, and_true]
    exact ⟨⟨"C:", rfl⟩, ⟨"C:", rfl⟩⟩
  have hx : pairs[0] ∈ pairs := List.getElem_mem _
  have hy : pairs[1] ∈ pairs := List.getElem_mem _
  have hbucket := share_bucket_iff_groupKey .builtin none [] none rows ⟨"1", 0⟩ htext pairs[0]
    pairs[1] hx hy rfl rfl
  exact ⟨htext, _, hx, _, hy, rfl, rfl, by decide +kernel, hbucket.mpr ⟨rfl, rfl⟩⟩

/-- A tab whose name has a colon, and a tab with a sub-tab, have one key. -/
theorem groupKey_not_injective :
    let rows : List Row :=
      [{ label := .text "X", tabName := .text "A:B" },
       { label := .text "Y", tabName := .text "A", subTabName := .text "B:" }]
    let pairs := rows.zip (fieldsOf .builtin none none ⟨"1000", 0⟩ rows)
    let tree := ((ofRows .builtin none [] none rows).run ⟨"1000", 0⟩).1
    ∃ x ∈ pairs, ∃ y ∈ pairs, x.1.groupKey .builtin = y.1.groupKey .builtin ∧
      ¬ ∃ b, x.2 ∈ tree.bucket b ∧ y.2 ∈ tree.bucket b := by
  intro rows pairs tree
  have htext : ∀ r ∈ rows, r.NamesSubTab := by
    simp only [rows, List.forall_mem_cons, List.not_mem_nil, false_imp_iff, implies_true, and_true]
    exact ⟨⟨"", rfl⟩, ⟨"B:", rfl⟩⟩
  have hx : pairs[0] ∈ pairs := List.getElem_mem _
  have hy : pairs[1] ∈ pairs := List.getElem_mem _
  refine ⟨_, hx, _, hy, by decide +kernel, fun ⟨b, hb, hb'⟩ => ?_⟩
  have hsame := ((mem_bucket_iff htext hx b).mp hb).trans ((mem_bucket_iff htext hy b).mp hb').symm
  revert hsame
  decide +kernel

end Application

end Formwork
