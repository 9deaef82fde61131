import Mathlib.Data.List.Forall2
import Mathlib.Data.List.Pairwise
import Formwork.Form.Reader
import Formwork.Proofs.Classes
import Formwork.Proofs.Form.Legible

/-!
# Blocks and their items

Index tokens of which none begins with another divide the names of items: a name goes to the token
that it begins with, and to the first token where it begins with none of the others. Where every
token has one block that is named with it, an item belongs to the block of its token and to no
other. So the items of a document are shared out among the blocks without loss, and each block sorts
its share by rows and columns.
-/
namespace Formwork.Form

theorem beginsWith_iff {s start : String} :
    Text.beginsWith s start = true ↔ start.toList <+: s.toList :=
  List.isPrefixOf_iff_prefix

theorem beginsWith_trans {s t u : String} (hst : Text.beginsWith s t = true)
    (htu : Text.beginsWith t u = true) : Text.beginsWith s u = true :=
  beginsWith_iff.mpr ((beginsWith_iff.mp htu).trans (beginsWith_iff.mp hst))

theorem beginsWith_self (s : String) : Text.beginsWith s s = true :=
  beginsWith_iff.mpr List.prefix_rfl

/-! ## Tokens -/

/-- Texts of which none begins with another. -/
def Apart (texts : List String) : Prop :=
  texts.Pairwise (fun s t => Text.beginsWith s t = false ∧ Text.beginsWith t s = false)

/-- The token of an item: the one that its name begins with, or else the first. -/
def tokenOf (first : String) (others : List String) (item : String) : String :=
  (others.find? (Text.beginsWith item)).getD first

section Tokens

variable {tokens : List String} {first s t block item : String} {others : List String}

/-- A text begins with one of them at most. -/
theorem Apart.eq (h : Apart tokens) (hs : s ∈ tokens) (ht : t ∈ tokens)
    (his : Text.beginsWith item s = true) (hit : Text.beginsWith item t = true) : s = t := by
  by_contra hne
  have hsymm : Std.Symm (fun s t : String =>
      Text.beginsWith s t = false ∧ Text.beginsWith t s = false) := ⟨fun _ _ h => h.symm⟩
  obtain ⟨hst, hts⟩ := List.Pairwise.forall h hs ht hne
  rcases List.prefix_or_prefix_of_prefix (beginsWith_iff.mp his) (beginsWith_iff.mp hit) with
    hprefix | hprefix
  · rw [beginsWith_iff.mpr hprefix] at hts
    cases hts
  · rw [beginsWith_iff.mpr hprefix] at hst
    cases hst

theorem Apart.nodup (h : Apart tokens) : tokens.Nodup := by
  refine List.Pairwise.imp (fun {s t} hst => ?_) h
  rintro rfl
  rw [beginsWith_self] at hst
  cases hst.1

theorem tokenOf_mem (first : String) (others : List String) (item : String) :
    tokenOf first others item ∈ first :: others := by
  rw [tokenOf]
  cases hfound : others.find? (Text.beginsWith item) with
  | none => exact List.mem_cons_self
  | some t => exact List.mem_cons_of_mem first (List.mem_of_find?_eq_some hfound)

variable (h : Apart (first :: others))
include h

theorem tokenOf_eq_first_iff :
    tokenOf first others item = first ↔ ∀ t ∈ others, Text.beginsWith item t = false := by
  rw [tokenOf]
  cases hfound : others.find? (Text.beginsWith item) with
  | none =>
    rw [List.find?_eq_none] at hfound
    simpa using hfound
  | some t =>
    have ht := List.mem_of_find?_eq_some hfound
    have hfirst : first ≠ t := fun heq => (List.nodup_cons.mp h.nodup).1 (heq ▸ ht)
    simp only [Option.getD_some]
    constructor
    · intro heq
      exact absurd heq.symm hfirst
    · intro hnone
      have hitem := List.find?_some hfound
      rw [hnone t ht] at hitem
      cases hitem

theorem tokenOf_eq_other_iff (ht : t ∈ others) :
    tokenOf first others item = t ↔ Text.beginsWith item t = true := by
  have hne : first ≠ t := fun heq => (List.nodup_cons.mp h.nodup).1 (heq ▸ ht)
  rw [tokenOf]
  cases hfound : others.find? (Text.beginsWith item) with
  | none =>
    have hnone := List.find?_eq_none.mp hfound t ht
    simp only [Option.getD_none]
    exact ⟨fun heq => absurd heq hne, fun hitem => absurd hitem hnone⟩
  | some s =>
    have hs := List.find?_some hfound
    have hmem := List.mem_of_find?_eq_some hfound
    simp only [Option.getD_some]
    constructor
    · rintro rfl
      exact hs
    · intro hitem
      exact h.eq (List.mem_cons_of_mem first hmem) (List.mem_cons_of_mem first ht) hs hitem

/-! ## Blocks -/

/-- A block that is named with a token has the items of that token. -/
theorem belongs_iff_tokenOf (ht : t ∈ first :: others) (hblock : Text.beginsWith block t = true)
    (hne : block ≠ "") (hitem : item ≠ "") :
    belongs (first :: others) block item = true ↔ tokenOf first others item = t := by
  have hnames : (block == "" || item == "") = false := by simp [hne, hitem]
  rw [belongs, hnames, if_neg Bool.false_ne_true]
  rcases List.mem_cons.mp ht with rfl | ht'
  · -- The block takes all that carries none of the other tokens.
    rw [tokenOf_eq_first_iff h]
    by_cases hbegins : Text.beginsWith item block = true
    · rw [if_pos hbegins, eq_self_iff_true, true_iff]
      intro u hu
      by_contra hitem
      rw [Bool.not_eq_false] at hitem
      have heq := h.eq ht (List.mem_cons_of_mem t hu) (beginsWith_trans hbegins hblock) hitem
      exact (List.nodup_cons.mp h.nodup).1 (heq ▸ hu)
    · simp [hbegins, hblock]
  · rw [tokenOf_eq_other_iff h ht']
    have hfirst : ¬ Text.beginsWith block first = true := by
      intro hfirst
      have heq := h.eq List.mem_cons_self ht hfirst hblock
      exact (List.nodup_cons.mp h.nodup).1 (heq ▸ ht')
    by_cases hbegins : Text.beginsWith item block = true
    · simp [hbegins, beginsWith_trans hbegins hblock]
    · rw [if_neg hbegins]
      simp only [if_neg hfirst, List.any_eq_true, Bool.and_eq_true]
      constructor
      · rintro ⟨u, hu, hblock', hitem'⟩
        rwa [h.eq ht (List.mem_cons_of_mem first hu) hblock hblock']
      · exact fun hitem' => ⟨t, ht', hblock, hitem'⟩

end Tokens

/-- Tokens of which none begins with another, and one name for each that begins with it. -/
structure Naming (tokens names : List String) : Prop where
  ne_nil : tokens ≠ []
  apart : Apart tokens
  begins : List.Forall₂ (fun token name => Text.beginsWith name token = true) tokens names

theorem countP_eq_of_forall₂ {α β : Type} {R : α → β → Prop} {p : α → Bool} {q : β → Bool}
    {l : List α} {m : List β} (h : List.Forall₂ R l m)
    (hpq : ∀ a ∈ l, ∀ b ∈ m, R a b → q b = p a) : m.countP q = l.countP p := by
  induction h with
  | nil => rfl
  | cons hhead htail ih =>
    rw [List.countP_cons, List.countP_cons, hpq _ List.mem_cons_self _ List.mem_cons_self hhead,
      ih fun a ha b hb => hpq a (List.mem_cons_of_mem _ ha) b (List.mem_cons_of_mem _ hb)]

/-- An item belongs to one block. -/
theorem Naming.countP_belongs {tokens names : List String} (h : Naming tokens names)
    (hnames : ∀ name ∈ names, name ≠ "") {item : String} (hitem : item ≠ "") :
    names.countP (fun name => belongs tokens name item) = 1 := by
  obtain ⟨hne, hapart, hbegins⟩ := h
  obtain ⟨first, others, rfl⟩ := List.exists_cons_of_ne_nil hne
  have hcount : names.countP (fun name => belongs (first :: others) name item) =
      (first :: others).countP (· == tokenOf first others item) := by
    refine countP_eq_of_forall₂ hbegins fun t ht name hname hbegins => ?_
    rw [Bool.eq_iff_iff, belongs_iff_tokenOf hapart ht hbegins (hnames name hname) hitem,
      beq_iff_eq, eq_comm]
  rw [hcount, ← List.count_eq_countP,
    List.count_eq_one_of_mem hapart.nodup (tokenOf_mem first others item)]

/-! ## Shares -/

/-- Items that become fields and are no push buttons. -/
def fieldItems (items : List (Placed Item)) : List Item :=
  (items.map (·.value)).filter (fun i => i.isField && i.type != .pushButton)

/-- The names of blocks, of those that have one. -/
def blockNames (elements : List (Placed Attributes)) : List String :=
  (elements.map (·.value.text "Name")).filter (· != "")

/-- Items are sorted by rows and columns, and stay in their order where they share both. -/
structure SortedFrom (members sorted : List Item) : Prop where
  perm : sorted.Perm members
  ordered : sorted.Pairwise (fun a b => a.y < b.y ∨ a.y = b.y ∧ a.x ≤ b.x)
  stable : ∀ y x, sorted.filter (fun i => i.y == y && i.x == x) =
    members.filter (fun i => i.y == y && i.x == x)

theorem sortedFrom_mergeSort (members : List Item) :
    SortedFrom members
      (members.mergeSort (fun a b => a.y < b.y || (a.y == b.y && decide (a.x ≤ b.x)))) := by
  have htrans : ∀ a b c : Item, (a.y < b.y || (a.y == b.y && decide (a.x ≤ b.x))) = true →
      (b.y < c.y || (b.y == c.y && decide (b.x ≤ c.x))) = true →
      (a.y < c.y || (a.y == c.y && decide (a.x ≤ c.x))) = true := by
    intro a b c
    simp only [Bool.or_eq_true, Bool.and_eq_true, decide_eq_true_eq, beq_iff_eq]
    omega
  have htotal : ∀ a b : Item, ((a.y < b.y || (a.y == b.y && decide (a.x ≤ b.x))) ||
      (b.y < a.y || (b.y == a.y && decide (b.x ≤ a.x)))) = true := by
    intro a b
    simp only [Bool.or_eq_true, Bool.and_eq_true, decide_eq_true_eq, beq_iff_eq]
    omega
  refine ⟨List.mergeSort_perm _ _, ?_, fun y x => filter_mergeSort htrans htotal ?_⟩
  · refine (List.pairwise_mergeSort htrans htotal members).imp fun {a b} hab => ?_
    simpa using hab
  · refine List.pairwise_of_forall_mem_list fun a ha b hb => ?_
    have hplace : ∀ i ∈ members.filter (fun i => i.y == y && i.x == x), i.y = y ∧ i.x = x := by
      intro i hi
      simpa using (List.mem_filter.mp hi).2
    simp [hplace a ha, hplace b hb]

section Document

variable {tokens names : List String} {skipped : String → Bool} {items : List (Placed Item)}
  {document : List Char} {elements : List (Placed Attributes)} {blocks : List Block}

theorem membersOf_eq (tokens : List String) (block : String) (items : List (Placed Item)) :
    membersOf tokens block items =
      ((fieldItems items).filter (fun i => belongs tokens block i.name)).mergeSort
        (fun a b => a.y < b.y || (a.y == b.y && decide (a.x ≤ b.x))) := by
  rw [membersOf, fieldItems, List.filter_filter]
  simp only [Bool.and_comm (belongs _ _ _)]

theorem mem_fieldItems_of_mem_membersOf {block : String} {i : Item}
    (h : i ∈ membersOf tokens block items) : i ∈ fieldItems items := by
  rw [membersOf_eq, List.mem_mergeSort] at h
  exact List.mem_of_mem_filter h

theorem name_ne_of_mem_fieldItems {i : Item} (h : i ∈ fieldItems items) : i.name ≠ "" := by
  have hfield := (List.mem_filter.mp h).2
  simp only [Item.isField, Bool.and_eq_true, bne_iff_ne] at hfield
  exact hfield.1.1.1.1

theorem mem_items_iff (hblocks : blocksOf tokens skipped items document = .ok blocks) {b : Block}
    {i : Item} (h : b ∈ blocks) (hi : i ∈ fieldItems items) :
    i ∈ b.items ↔ belongs tokens b.name i.name = true := by
  rw [items_of_mem_blocksOf hblocks h, membersOf_eq, List.mem_mergeSort, List.mem_filter]
  exact and_iff_right hi

section Blocks

variable (hblocks : blocksOf tokens skipped items document = .ok blocks)
  (helements : elementsOf "Block" document = .ok elements)
  (hskipped : ∀ name ∈ blockNames elements, skipped name = false)
include hblocks helements hskipped

/-- Where no block is skipped, every block with a name is read. -/
theorem map_name_blocksOf : blocks.map (·.name) = blockNames elements := by
  obtain ⟨triggers, htriggers, -⟩ := bind_eq_ok.mp hblocks
  have hkept : elements.filter
      (fun p => p.value.text "Name" != "" && !skipped (p.value.text "Name")) =
        elements.filter (fun p => p.value.text "Name" != "") := by
    refine List.filter_congr fun p hp => ?_
    by_cases hname : p.value.text "Name" = ""
    · simp [hname]
    · have hmem : p.value.text "Name" ∈ blockNames elements :=
        List.mem_filter.mpr ⟨List.mem_map_of_mem hp, bne_iff_ne.mpr hname⟩
      simp [hskipped _ hmem]
  have hread : blocks.map (·.name) = (elements.filter (fun p =>
      p.value.text "Name" != "" && !skipped (p.value.text "Name"))).map
        (·.value.text "Name") := by
    refine map_blocksOf hblocks htriggers helements fun p _ b hb => ?_
    obtain ⟨count, -, hb⟩ := bind_eq_ok.mp hb
    obtain rfl := Except.ok.inj hb
    rfl
  rw [hread, hkept, blockNames, List.filter_map]
  rfl

/-- Blocks whose names share the items out share them out. -/
theorem partition_blocksOf (hone : ∀ item, item ≠ "" →
    (blockNames elements).countP (fun name => belongs tokens name item) = 1) :
    (∀ i ∈ fieldItems items, ∃! k : Fin blocks.length, i ∈ blocks[k].items) ∧
      (blocks.flatMap (·.items)).Perm (fieldItems items) ∧
      ∀ b ∈ blocks, SortedFrom
        ((fieldItems items).filter (fun i => belongs tokens b.name i.name)) b.items := by
  -- An item belongs to one block, since it belongs to one of the names.
  have hblock : ∀ i ∈ fieldItems items,
      blocks.countP (fun b => belongs tokens b.name i.name) = 1 := by
    intro i hi
    calc blocks.countP (fun b => belongs tokens b.name i.name)
        = (blocks.map (·.name)).countP (fun name => belongs tokens name i.name) := by
          rw [List.countP_map]
          rfl
      _ = (blockNames elements).countP (fun name => belongs tokens name i.name) := by
          rw [map_name_blocksOf hblocks helements hskipped]
      _ = 1 := hone i.name (name_ne_of_mem_fieldItems hi)
  have hsorted : ∀ b ∈ blocks, SortedFrom
      ((fieldItems items).filter (fun i => belongs tokens b.name i.name)) b.items := by
    intro b hb
    rw [items_of_mem_blocksOf hblocks hb, membersOf_eq]
    exact sortedFrom_mergeSort _
  refine ⟨fun i hi => ?_, ?_, hsorted⟩
  · obtain ⟨k, hk, hunique⟩ := existsUnique_of_countP_eq_one (hblock i hi)
    have hmem : ∀ k : Fin blocks.length, i ∈ blocks[k].items ↔
        belongs tokens blocks[k].name i.name = true :=
      fun k => mem_items_iff hblocks (List.getElem_mem k.isLt) hi
    exact ⟨k, (hmem k).mpr hk, fun j hj => hunique j ((hmem j).mp hj)⟩
  · refine (List.Perm.flatMap_left _ fun b hb => (hsorted b hb).perm).trans ?_
    exact flatMap_filter_perm_of_countP hblock

end Blocks

/-- **Token-named blocks share the items out.** Where every token has one block name, not empty and
beginning with it, and none of the tokens begins with another, every name of an item belongs to one
of the names. So where a document has blocks of these names and none is skipped, and its items and
blocks are legible, they are read, and every item that becomes a field and is no push button stands
in the list of one block, the lists together hold these items as often as the document does, and
each list is sorted by rows and columns, items that share both staying in the order of the
document. -/
theorem blocksOf_partition (h : Naming tokens names) (hnames : ∀ name ∈ names, name ≠ "") :
    (∀ item, item ≠ "" → names.countP (fun name => belongs tokens name item) = 1) ∧
    ∀ (skipped : String → Bool) (document : List Char) (elements : List (Placed Attributes)),
      elementsOf "Block" document = .ok elements → (blockNames elements).Perm names →
      (∀ name ∈ names, skipped name = false) →
      LegibleItems document → LegibleBlocks skipped document →
        ∃ items blocks, itemsOf document = .ok items ∧
          blocksOf tokens skipped items document = .ok blocks ∧
          blocks.map (·.name) = blockNames elements ∧
          (∀ i ∈ fieldItems items, ∃! k : Fin blocks.length, i ∈ blocks[k].items) ∧
          (blocks.flatMap (·.items)).Perm (fieldItems items) ∧
          ∀ b ∈ blocks, SortedFrom
            ((fieldItems items).filter (fun i => belongs tokens b.name i.name)) b.items := by
  refine ⟨fun item hitem => h.countP_belongs hnames hitem, ?_⟩
  intro skipped document elements helements hperm hskipped hlegible hlegible'
  obtain ⟨items, hitems⟩ := (okIff_itemsOf document).ok hlegible
  obtain ⟨blocks, hblocks⟩ := (okIff_blocksOf tokens skipped items document).ok hlegible'
  have hkept : ∀ name ∈ blockNames elements, skipped name = false :=
    fun name hname => hskipped name (hperm.mem_iff.mp hname)
  refine ⟨items, blocks, hitems, hblocks, map_name_blocksOf hblocks helements hkept,
    partition_blocksOf hblocks helements hkept fun item hitem => ?_⟩
  rw [hperm.countP_eq, h.countP_belongs hnames hitem]

end Document

/-- Three blocks share the items of a document out, in whatever order the blocks stand. -/
theorem blocksOf_partition_three :
    let tokens := ["B1", "B2", "B3"]
    let names := ["B1H", "B2L", "B3"]
    let document := ("<Block Name=\x22B2L\x22/><Block Name=\x22B1H\x22/><Block Name=\x22B3\x22/>" ++
      "<Item Name=\x22B2Q\x22 ItemType=\x22i\x22/><Item Name=\x22N\x22 ItemType=\x22i\x22/>").toList
    Naming tokens names ∧ (∀ name ∈ names, name ≠ "") ∧ "N" ≠ "" ∧
      names.countP (fun name => belongs tokens name "N") = 1 ∧
      ∃ elements, elementsOf "Block" document = .ok elements ∧
        (blockNames elements).Perm names ∧ (∀ name ∈ names, (fun _ => false) name = false) ∧
        LegibleItems document ∧ LegibleBlocks (fun _ => false) document ∧
        ∃ items blocks, itemsOf document = .ok items ∧
          blocksOf tokens (fun _ => false) items document = .ok blocks ∧
          blocks.map (·.name) = ["B2L", "B1H", "B3"] ∧
          ((blocks.flatMap (·.items)).map (·.name)).Perm ["B2Q", "N"] := by
  intro tokens names document
  have hnaming : Naming tokens names :=
    ⟨by decide, by unfold Apart; decide, by simp [tokens, names, Text.beginsWith]⟩
  have hnames : ∀ name ∈ names, name ≠ "" := by decide
  obtain ⟨given, hgiven, hfields⟩ := map_toOption_eq_some.mp
    (show (itemsOf document).toOption.map (fun items => (fieldItems items).map (·.name)) =
      some ["B2Q", "N"] by decide +kernel)
  obtain ⟨_, hread, hread'⟩ := map_toOption_eq_some.mp
    (show (blocksOf tokens (fun _ => false) [] document).toOption.map (·.map (·.name)) =
      some ["B2L", "B1H", "B3"] by decide +kernel)
  have hitems := (okIff_itemsOf document).of_ok hgiven
  have hblocks := (okIff_blocksOf tokens (fun _ => false) [] document).of_ok hread
  obtain ⟨elements, helements⟩ := (okIff_elementsOf "Block" document).ok hblocks.2.1
  have hlisted : blockNames elements = ["B2L", "B1H", "B3"] :=
    (map_name_blocksOf hread helements fun _ _ => rfl).symm.trans hread'
  have hperm : (blockNames elements).Perm names := by
    rw [hlisted]
    exact List.Perm.swap _ _ _
  obtain ⟨hone, hshare⟩ := blocksOf_partition hnaming hnames
  obtain ⟨items, blocks, heq, hok, hnamed, -, hshared, -⟩ :=
    hshare (fun _ => false) document elements helements hperm (fun _ _ => rfl) hitems hblocks
  obtain rfl : given = items := Except.ok.inj (hgiven.symm.trans heq)
  exact ⟨hnaming, hnames, by decide, hone "N" (by decide), elements, helements, hperm,
    fun _ _ => rfl, hitems, hblocks, given, blocks, heq, hok, hnamed.trans hlisted,
    hfields ▸ hshared.map _⟩

/-- A block without a name has no items, even where its token is empty as well, so that the block
bears the only token there is. -/
theorem not_belongs_nameless :
    Naming [""] [""] ∧ "X" ≠ "" ∧ [""].countP (fun name => belongs [""] name "X") = 0 :=
  ⟨⟨by decide, List.pairwise_singleton _ _, by simp [Text.beginsWith]⟩, by decide, by decide⟩

end Formwork.Form
